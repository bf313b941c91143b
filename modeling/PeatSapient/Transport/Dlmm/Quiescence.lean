import PeatSapient.Lib.Quiescence
import PeatSapient.Transport.Dlmm.Bookkeeping
import PeatSapient.Transport.Dlmm.Health
import PeatSapient.Transport.Dlmm.Stop

/-! Coming to rest in DLMM mode. While no call is made, no payload is offered, nothing is
dialled and nothing comes off the socket, the tasks only carry on: the loops go to their next
await points, the aborted ones end there, and the peer loop writes what the channel holds. -/

namespace PeatSapient

open HashMap Mpsc Execution

variable {F : Type}

def PeerCall.toil : PeerCall → Nat
  | .idle | .returned _ => 0
  | .draining | .announcing _ _ => 1
  | .aborting _ _ => 2

namespace Dlmm

def serves : DlmmAction F → Prop
  | .advance _ | .proceed | .publishDone | .takeOutbound | .sendRawDone _ | .finish
  | .cancelConnect | .cancelPeer => True
  | _ => False

/-- Every call has returned, each loop is where only the socket or the application can take
it on, and no payload waits while the peer loop could write it. -/
structure AtRest (state : Dlmm F) : Prop where
  quiet : Quiet state
  waits : gone state.peerLoop = true ∨
    state.peerLoop = .selecting ∧ state.outbound.closed = false ∧ state.outbound.buffer = []

structure Grounded (state : Dlmm F) : Prop where
  begun : state.connectAborted = true ∨ state.listenerTask = true → state.connectLoop ≠ .idle
  connected : alone state.connectLoop = false → 0 < state.current ∨ state.connectLoop = .ended
  receiver : state.outbound.closed = true → gone state.peerLoop = true ∧
    (state.connectLoop = .ended ∨ state.peerLoop = .cancelled ∧
      alone state.connectLoop = false)

/-- The steps the connect loop can still take by itself, with those of a peer loop that it is
to spawn. -/
def connectToil : ConnectLoop → Nat
  | .idle | .ended => 0
  | .dialling => 1
  | .reporting _ => 2
  | .deregistering _ => 3
  | .checking _ => 4
  | .awaiting _ => 5
  | .announcing _ => 6
  | .registering _ => 7
  | .spawning => 10

def peerToil : PeerLoop F → Nat
  | .idle | .returned | .cancelled => 0
  | .broken => 1
  | .selecting => 2
  | .publishing _ | .sending _ => 3

def loopToil (state : Dlmm F) : Nat :=
  connectToil state.connectLoop + peerToil state.peerLoop + 2 * state.outbound.buffer.length

def work (bound : Nat) (state : Dlmm F) : Nat :=
  total bound (fun call => (state.calls call).toil) + loopToil state

theorem Grounded.keep {state after : Dlmm F} (grounded : Grounded state)
    (connectLoop : after.connectLoop = state.connectLoop)
    (connectAborted : after.connectAborted = true → state.connectAborted = true ∨
      state.listenerTask = true)
    (listenerTask : after.listenerTask = true → state.listenerTask = true)
    (current : state.current ≤ after.current)
    (closed : after.outbound.closed = true → state.outbound.closed = true ∨
      gone after.peerLoop = true ∧ (after.connectLoop = .ended ∨
        after.peerLoop = .cancelled ∧ alone after.connectLoop = false))
    (peerLoop : gone state.peerLoop = true → after.peerLoop = state.peerLoop) :
    Grounded after where
  begun busy := by
    rw [connectLoop]
    apply grounded.begun
    rcases busy with aborted | listens
    · exact connectAborted aborted
    · exact Or.inr (listenerTask listens)
  connected paired := by
    rw [connectLoop] at paired ⊢
    exact (grounded.connected paired).imp_left fun positive => Nat.lt_of_lt_of_le positive current
  receiver dropped := by
    rcases closed dropped with before | now
    · obtain ⟨finished, stage⟩ := grounded.receiver before
      rw [peerLoop finished, connectLoop]
      exact ⟨finished, stage⟩
    · exact now

theorem Grounded.goesOn {state : Dlmm F} (begun : state.connectLoop ≠ .idle)
    (connected : alone state.connectLoop = false → 0 < state.current)
    (kept : state.outbound.closed = false) : Grounded state where
  begun _ := begun
  connected paired := Or.inl (connected paired)
  receiver dropped := by
    rw [kept] at dropped
    cases dropped

/-- The loop ends, and only with the peer loop gone has the receiver been dropped. -/
theorem Grounded.ends {state : Dlmm F} (ended : state.connectLoop = .ended)
    (dropped : state.outbound.closed = true → gone state.peerLoop = true) : Grounded state where
  begun _ := by simp [ended]
  connected _ := Or.inr ended
  receiver closed := ⟨dropped closed, Or.inl ended⟩

theorem call_lt {bound : Nat} {state after : Dlmm F} {call : Nat} {stage : PeerCall}
    (within : ∀ call, bound ≤ call → state.calls call = .idle)
    (begun : state.calls call ≠ .idle)
    (calls : after.calls = Function.update state.calls call stage)
    (less : stage.toil < (state.calls call).toil) (loops : loopToil after = loopToil state) :
    work bound after < work bound state := by
  have inside : call < bound := Nat.lt_of_not_le fun outside => begun (within call outside)
  unfold work
  rw [loops]
  apply total_lt inside
  · intro other apart
    simp [calls, Function.update_of_ne apart]
  · simpa [calls] using less

theorem loop_lt {bound : Nat} {state after : Dlmm F} (calls : after.calls = state.calls)
    (less : loopToil after < loopToil state) : work bound after < work bound state := by
  unfold work
  rw [calls]
  omega

/-- Beside a loop that has no connection, no peer loop runs. -/
theorem Grounded.lone {state : Dlmm F} (grounded : Grounded state) (flags : Flags state)
    (lone : alone state.connectLoop = true) :
    gone state.peerLoop = true ∧ state.outbound.closed = false := by
  have down := flags.alone lone
  constructor
  · revert down
    cases state.peerLoop <;> simp [flagged, gone]
  · by_contra dropped
    obtain ⟨_, ended | ⟨_, busy⟩⟩ := grounded.receiver (by simpa using dropped)
    · rw [ended] at lone
      cases lone
    · rw [lone] at busy
      cases busy

variable [FloatOps F]

theorem grounded_connect (config : DlmmConfig F) {state after : Dlmm F} (flags : Flags state)
    (grounded : Grounded state) (moved : Moves config state .proceed after) :
    Grounded after := by
  cases moved with
  | spawn here =>
      exact Grounded.goesOn (by simp [spawnPeer]) (fun _ => Nat.succ_pos _)
        (grounded.lone flags (by rw [here]; rfl)).2
  | recheck since here
  | deregister since here
  | report since here =>
      exact Grounded.goesOn (by simp) (by simp [alone]) (grounded.lone flags (by rw [here]; rfl)).2
  | takeBack since here live back =>
      refine Grounded.goesOn (by simp) (by simp [alone]) ?_
      by_contra dropped
      obtain ⟨_, ended | ⟨cancelled, _⟩⟩ := grounded.receiver (by simpa using dropped)
      · rw [here] at ended
        cases ended
      · rw [back] at cancelled
        cases cancelled
  | register since here
  | announceOpen since here =>
      constructor
      case begun => simp
      case connected =>
        exact fun _ => Or.inl
          ((grounded.connected (by rw [here]; rfl)).resolve_right (by simp [here]))
      case receiver =>
        intro dropped
        obtain ⟨finished, ended | ⟨cancelled, _⟩⟩ := grounded.receiver dropped
        · rw [here] at ended
          cases ended
        · exact ⟨finished, Or.inr ⟨cancelled, rfl⟩⟩
  | giveUp since here live lost =>
      exact Grounded.ends rfl fun _ => by rw [lost]; rfl
  | leave since here =>
      exact Grounded.ends rfl fun _ => (grounded.lone flags (by rw [here]; rfl)).1

theorem grounded_step (config : DlmmConfig F) {state after : Dlmm F} {action : DlmmAction F}
    (founded : Founded state) (flags : Flags state) (grounded : Grounded state)
    (moved : Moves config state action after) : Grounded after := by
  have whole := moved
  cases moved with
  | spawn | register | announceOpen | takeBack | giveUp | recheck | leave | deregister | report =>
      exact grounded_connect config flags grounded whole
  | elapse | disconnect | abortTask | announce =>
      exact grounded.keep rfl Or.inl (fun listens => listens) (Nat.le_refl _) Or.inl
        (fun _ => rfl)
  | drain =>
      exact grounded.keep rfl Or.inl (fun listens => listens) (Nat.le_refl _) Or.inl
        (fun _ => rfl)
  | stop =>
      exact grounded.keep rfl (by simp [stop, setCall]) (by simp [stop, setCall])
        (Nat.le_refl _) Or.inl (fun _ => rfl)
  | accept raw outbound alive sent
  | refuse raw outbound dead sent =>
      exact grounded.keep rfl Or.inl (fun listens => listens) (Nat.le_refl _)
        (fun dropped => Or.inl (by rw [← Channel.closed_send sent]; exact dropped)) (fun _ => rfl)
  | start =>
      unfold start
      split
      · next untaken =>
          have idle := founded.unstarted untaken
          have alive := (grounded.lone flags (by rw [idle]; rfl)).2
          exact Grounded.goesOn (by simp) (by simp [alone]) alive
      · exact ⟨grounded.begun, grounded.connected, grounded.receiver⟩
  | connected here live =>
      exact Grounded.goesOn (by simp) (by simp [alone]) (grounded.lone flags (by rw [here]; rfl)).2
  | cancelDialling dead here =>
      exact Grounded.ends rfl fun _ => (grounded.lone flags (by rw [here]; rfl)).1
  | cancelTakeBack since dead here back =>
      exact Grounded.ends rfl fun _ => by rw [back]; rfl
  | cancelAwaiting since dead here away =>
      exact Grounded.ends rfl fun dropped => (grounded.receiver dropped).1
  | receive answer here live =>
      unfold receiveInbound
      split <;>
        exact grounded.keep rfl Or.inl (fun listens => listens) (Nat.le_refl _) Or.inl
          (by simp [here, gone])
  | publish publication here live
  | failed raw here live =>
      exact grounded.keep rfl Or.inl (fun listens => listens) (Nat.le_refl _) Or.inl
        (by simp [here, gone])
  | take raw outbound here live taken =>
      exact grounded.keep rfl Or.inl (fun listens => listens) (Nat.le_refl _)
        (fun dropped => Or.inl (by rw [← Channel.closed_recv taken]; exact dropped))
        (by simp [here, gone])
  | sent raw here live =>
      have connected : state.handed ≠ [] := by
        intro unconnected
        rw [founded.unconnected unconnected] at here
        cases here
      exact grounded.keep rfl Or.inl (fun listens => listens)
        (Nat.le_of_eq (length_handOver raw connected).symm) Or.inl (by simp [here, gone])
  | finish here =>
      refine grounded.keep rfl Or.inl (fun listens => listens) (Nat.le_refl _) ?_
        (by simp [here, gone])
      intro dropped
      by_cases ended : state.connectLoop = .ended
      · exact Or.inr ⟨rfl, Or.inl ended⟩
      · left
        simpa [ended] using dropped
  | cancelPeer dead here =>
      refine grounded.keep rfl Or.inl (fun listens => listens) (Nat.le_refl _) ?_ ?_
      · intro _
        refine Or.inr ⟨rfl, Or.inr ⟨rfl, ?_⟩⟩
        by_contra busy
        have down := (grounded.lone flags (by simpa using busy)).1
        revert here down
        cases state.peerLoop <;> simp [awaits, gone]
      · revert here
        cases state.peerLoop <;> simp [awaits, gone]

theorem grounded_run (config : DlmmConfig F) {trace : Trace (Dlmm F) (DlmmAction F)}
    {state : Dlmm F} (run : Run (machine config) trace state) : Grounded state := by
  apply run.invariant fun _ state => Grounded state
  · constructor <;> simp [machine, new, alone, channel]
  · intro trace before action after earlier grounded taken
    exact grounded_step config (founded_run config earlier) (flags_run config earlier) grounded
      (moves_of_step config taken)

theorem calls_step (config : DlmmConfig F) {state after : Dlmm F} {action : DlmmAction F}
    (founded : Founded state) (moved : Moves config state action after) :
    ∃ stepped, ∀ call, call ≠ stepped → after.calls call = state.calls call := by
  have apart := apart_of_aside config founded moved
  cases moved with
  | stop call | disconnect call | drain call | abortTask call | announce call =>
      refine ⟨call, fun other distinct => ?_⟩
      simp [stop, disconnect, setCall, distinct]
  | start =>
      refine ⟨0, fun _ _ => ?_⟩
      rcases start_cases founded with ⟨_, started⟩ | apart
      · rw [started]
      · rw [apart.calls]
  | elapse | accept | refuse | receive | publish | take | sent | failed | finish
  | cancelPeer => exact ⟨0, fun _ _ => by rw [(apart rfl).calls]⟩
  | _ => exact ⟨0, fun _ _ => rfl⟩

theorem idle_kept (config : DlmmConfig F) {state after : Dlmm F} {action : DlmmAction F}
    {call : Nat} (served : serves action) (moved : Moves config state action after)
    (idle : state.calls call = .idle) : after.calls call = .idle := by
  cases moved with
  | elapse | start | stop | disconnect | accept | refuse | connected | receive => cases served
  | drain other here | abortTask other peerId record here | announce other peerId since here =>
      have distinct : call ≠ other := by
        rintro rfl
        rw [idle] at here
        cases here
      simpa [setCall, distinct] using idle
  | _ => exact idle

theorem work_lt (config : DlmmConfig F) {bound : Nat} {state after : Dlmm F}
    {action : DlmmAction F} (within : ∀ call, bound ≤ call → state.calls call = .idle)
    (served : serves action) (moved : Moves config state action after) :
    work bound after < work bound state := by
  cases moved with
  | elapse | start | stop | disconnect | accept | refuse | connected | receive => cases served
  | drain call here | abortTask call peerId record here | announce call peerId since here =>
      exact call_lt within (by simp [here]) rfl (by simp [here, PeerCall.toil]) rfl
  | spawn here =>
      apply loop_lt
      · rfl
      · simp only [loopToil, spawnPeer, connectToil, peerToil, here]
        omega
  | register since here | announceOpen since here | takeBack since here
  | giveUp since here | recheck since here | leave since here | deregister since here
  | report since here | cancelDialling dead here | cancelTakeBack since dead here
  | cancelAwaiting since dead here =>
      apply loop_lt
      · rfl
      · simp [loopToil, connectToil, here, Channel.close]
  | publish publication here | sent raw here | failed raw here =>
      apply loop_lt
      · rfl
      · simp [loopToil, peerToil, here]
  | take raw outbound here live taken =>
      obtain ⟨_, _, held, _⟩ := Channel.recv_cases taken
      apply loop_lt
      · rfl
      · simp only [loopToil, peerToil, here, held, List.length_cons]
        omega
  | finish here =>
      apply loop_lt
      · rfl
      · simp only [loopToil, peerToil, here]
        split <;> simp [Channel.close]
  | cancelPeer dead here =>
      apply loop_lt
      · rfl
      · revert here
        cases loop : state.peerLoop <;> simp [loopToil, peerToil, loop, awaits, Channel.close]

theorem peer_waits (config : DlmmConfig F) {state : Dlmm F} (grounded : Grounded state)
    (resting : Resting (machine config) serves state) :
    gone state.peerLoop = true ∨ state.peerLoop = .selecting ∧ state.peerAborted = false ∧
      state.outbound.closed = false ∧ state.outbound.buffer = [] := by
  have live : awaits state.peerLoop = true → state.peerAborted = false := by
    intro waiting
    have still := resting .cancelPeer trivial
    by_contra aborted
    revert waiting
    cases here : state.peerLoop <;> simp [awaits, machine, step, aborted, here] at still ⊢
  cases here : state.peerLoop with
  | idle | returned | cancelled => exact Or.inl rfl
  | broken =>
      have still := resting .finish trivial
      simp [machine, step, here] at still
  | publishing publication =>
      have still := resting .publishDone trivial
      simp [machine, step, here, live (by rw [here]; rfl)] at still
  | sending raw =>
      have still := resting (.sendRawDone true) trivial
      simp [machine, step, here, live (by rw [here]; rfl)] at still
  | selecting =>
      have goesOn := live (by rw [here]; rfl)
      have kept : state.outbound.closed = false := by
        by_contra dropped
        have finished := (grounded.receiver (by simpa using dropped)).1
        rw [here] at finished
        cases finished
      have still := resting .takeOutbound trivial
      have drained : state.outbound.recv = none := by
        cases taken : state.outbound.recv with
        | none => rfl
        | some given => simp [machine, step, here, goesOn, taken] at still
      exact Or.inr ⟨rfl, goesOn, kept, (Channel.recv_eq_none _).mp drained kept⟩

theorem atRest_of_resting (config : DlmmConfig F) {state : Dlmm F} (grounded : Grounded state)
    (flags : Flags state) (resting : Resting (machine config) serves state) : AtRest state := by
  have waits := peer_waits config grounded resting
  have proceeds := resting .proceed trivial
  have cancels := resting .cancelConnect trivial
  have calls : ∀ call, (state.calls call).busy = false := by
    intro call
    have still := resting (.advance call) trivial
    cases here : state.calls call <;> simp [machine, step, stepCall, here, PeerCall.busy] at still ⊢
  have running : ∀ since, state.connectLoop = .awaiting since → gone state.peerLoop = false := by
    intro since here
    have connected : 0 < state.current := by
      rcases grounded.connected (by rw [here]; rfl) with positive | ended
      · exact positive
      · rw [here] at ended
        cases ended
    have begun := flags.busy connected
    cases aborted : state.connectAborted <;> cases loop : state.peerLoop <;>
      simp_all [machine, step, stepConnect, gone]
  have rests : connectRests state = true := by
    unfold connectRests
    cases here : state.connectLoop with
    | idle | dialling | ended => rfl
    | awaiting since => simp [running since here]
    | checking since =>
        simp only [machine, step, stepConnect, here] at proceeds
        split at proceeds <;> cases proceeds
    | spawning | registering since | announcing since | deregistering since | reporting since =>
        simp [machine, step, stepConnect, here] at proceeds
  constructor
  case waits => exact waits.imp_right fun there => ⟨there.1, there.2.2⟩
  case quiet =>
    refine ⟨calls, rests, ?_, ?_, ?_⟩
    · exact waits.imp_right fun there => by rw [there.1]; rfl
    · -- An aborted connect loop has ended: at its await points it would still be cancelled.
      intro aborted
      have begun := grounded.begun (Or.inl aborted)
      cases here : state.connectLoop with
      | ended => rfl
      | idle => exact absurd here begun
      | dialling => simp [machine, step, aborted, here] at cancels
      | awaiting since =>
          simp only [machine, step, aborted, here, if_true] at cancels
          split at cancels <;> cases cancels
      | _ => simp [connectRests, here] at rests
    · intro aborted
      rcases waits with finished | ⟨_, live, _⟩
      · exact finished
      · rw [aborted] at live
        cases live

omit [FloatOps F] in
theorem still_of_not_busy {state : Dlmm F} {call : Nat}
    (still : (state.calls call).busy = false) : state.stepCall call = none := by
  unfold stepCall
  revert still
  cases state.calls call <;> simp [PeerCall.busy]

theorem resting_of_atRest (config : DlmmConfig F) {state : Dlmm F} (rest : AtRest state) :
    Resting (machine config) serves state := by
  obtain ⟨⟨calls, rests, _, settled⟩, waits⟩ := rest
  have awaited : state.peerLoop = .selecting → state.peerAborted = false := by
    intro selects
    by_contra aborted
    have finished := settled.peer (by simpa using aborted)
    rw [selects] at finished
    cases finished
  intro action served
  cases action with
  | elapse | start | stop | disconnect | sendOutbound | connected | inbound => cases served
  | advance call => exact still_of_not_busy (calls call)
  | proceed =>
      unfold connectRests at rests
      cases here : state.connectLoop with
      | idle | dialling | ended => simp [machine, step, stepConnect, here]
      | awaiting since =>
          rw [here] at rests
          cases loop : state.peerLoop <;> simp_all [machine, step, stepConnect, gone]
      | _ => simp [here] at rests
  | publishDone | sendRawDone ok | finish =>
      cases loop : state.peerLoop <;> simp_all [machine, step, gone]
  | takeOutbound =>
      rcases waits with finished | ⟨selects, kept, drained⟩
      · cases loop : state.peerLoop <;> simp_all [machine, step, gone]
      · have nothing := (Channel.recv_eq_none state.outbound).mpr fun _ => drained
        simp [machine, step, selects, nothing]
  | cancelConnect =>
      cases aborted : state.connectAborted with
      | false => simp [machine, step, aborted]
      | true => simp [machine, step, aborted, settled.connect aborted]
  | cancelPeer =>
      cases aborted : state.peerAborted with
      | false => simp [machine, step, aborted]
      | true =>
          have finished := settled.peer aborted
          cases loop : state.peerLoop <;> simp_all [machine, step, gone]

/-- What holds of every reachable state, with no call from the bound on. -/
theorem serving_descends (config : DlmmConfig F) (bound : Nat) :
    Descends (machine config) serves
      (fun state => Reachable (machine config) state ∧
        ∀ call, bound ≤ call → state.calls call = .idle) (· < ·) (work bound) := by
  rintro before action after ⟨reached, within⟩ served taken
  have moved := moves_of_step config taken
  exact ⟨⟨reached.next taken, fun call outside =>
    idle_kept config served moved (within call outside)⟩, work_lt config within served moved⟩

theorem resting_iff_atRest (config : DlmmConfig F) {state : Dlmm F}
    (reached : Reachable (machine config) state) :
    Resting (machine config) serves state ↔ AtRest state := by
  obtain ⟨trace, run⟩ := reached
  exact ⟨atRest_of_resting config (grounded_run config run) (flags_run config run),
    resting_of_atRest config⟩

theorem comes_to_rest (config : DlmmConfig F) {state : Dlmm F}
    (reached : Reachable (machine config) state) :
    ¬ Endless (machine config) serves state ∧
      (∃ actions after, (∀ action ∈ actions, serves action) ∧
        follow (machine config) state actions = some after ∧ AtRest after) ∧
      (Resting (machine config) serves state ↔ AtRest state) := by
  obtain ⟨bound, within⟩ := reached.untouched_some (fun state : Dlmm F => state.calls)
    (fun _ => rfl) fun before action after ⟨_, run⟩ taken =>
      calls_step config (founded_run config run) (moves_of_step config taken)
  exact (serving_descends config bound).settles Nat.lt_wfRel.wf
    (fun _ held => resting_iff_atRest config held.1) ⟨reached, within⟩

structure Ending (state : Dlmm F) : Prop where
  held : Held state
  shut : Shut state
  stopped : Stopped state

theorem ending_kept (config : DlmmConfig F) {state after : Dlmm F} {action : DlmmAction F}
    (founded : Founded state) (ending : Ending state) (served : serves action)
    (moved : Moves config state action after) : Ending after := by
  have again : action ≠ .start := by
    rintro rfl
    cases served
  exact ⟨held_step config founded ending.held moved,
    shut_step config founded ending.shut again moved,
    stopped_step config founded ending.shut ending.stopped again moved⟩

omit [FloatOps F] in
theorem Ending.rests {state : Dlmm F} (ending : Ending state) (rest : AtRest state) :
    state.peers.records = ∅ ∧ gone state.peerLoop = true ∧
      (state.connectLoop = .idle ∨ state.connectLoop = .ended) := by
  obtain ⟨held, shut, stopped⟩ := ending
  refine ⟨(PeerMap.vacant_iff state.peers).mp stopped.vacant, ?_,
    shut.imp_right rest.quiet.settled.connect⟩
  cases held.covered with
  | finished done => exact done
  | aborted dead => exact rest.quiet.settled.peer dead
  | called call peerId record here own =>
      have returned := rest.quiet.calls call
      rw [here] at returned
      cases returned
  | listed peerId record found own =>
      rw [stopped.vacant peerId] at found
      cases found
  | opening since here =>
      have closed := stopped.closed
      rw [here] at closed
      cases closed

theorem stop_completes (config : DlmmConfig F) {trace : Trace (Dlmm F) (DlmmAction F)}
    {state after : Dlmm F} {call : Nat} (run : Run (machine config) trace state)
    (inTime : Meets (fun _ state action => drainsInTime call state action = true) trace)
    (called : calledStop call trace = true) (returned : state.calls call = .returned (.ok ()))
    {actions : List (DlmmAction F)} (served : ∀ action ∈ actions, serves action)
    (done : follow (machine config) state actions = some after) (rest : AtRest after) :
    after.peers.records = ∅ ∧ gone after.peerLoop = true ∧
      (after.connectLoop = .idle ∨ after.connectLoop = .ended) := by
  obtain ⟨shut, draining | stopped⟩ := stop_run config run inTime called
  · rw [returned] at draining
    cases draining
  have ending : Reachable (machine config) after ∧ Ending after := by
    refine follow_invariant serves
      (fun state => Reachable (machine config) state ∧ Ending state) ?_ served
      ⟨⟨trace, run⟩, held_run config run, shut, stopped⟩ done
    rintro before action next served ⟨⟨trace, run⟩, ending⟩ taken
    exact ⟨⟨_, run.next taken⟩,
      ending_kept config (founded_run config run) ending served (moves_of_step config taken)⟩
  exact ending.2.rests rest

end Dlmm

end PeatSapient
