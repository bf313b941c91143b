import PeatSapient.Transport.Dlmm.Quiescence
import PeatSapient.Transport.Hldmm.Health
import PeatSapient.Transport.Hldmm.Stop

/-! Coming to rest in HLDMM mode, for each of the accept loops and of the receive loops. An
accept loop that has a connection leaves work to the receive loop that it spawns. -/

namespace PeatSapient

open HashMap Execution

variable {F : Type}

namespace Hldmm

def serves : HldmmAction F → Prop
  | .advance _ | .proceed _ | .publishDone _ | .finish _ | .cancelAccept _ | .cancelRecv _ => True
  | _ => False

/-- Every call has returned, and each loop is where only the socket can take it on. -/
structure AtRest (state : Hldmm F) : Prop where
  quiet : Quiet state
  waits : ∀ task, gone (state.recvLoops task).stage = true ∨
    (state.recvLoops task).stage = .receiving

structure Begun (state : Hldmm F) : Prop where
  fresh : ∀ accept, state.acceptCount ≤ accept → (state.acceptLoops accept).stage = .idle
  listener : ∀ accept, state.listenerTask = some accept →
    (state.acceptLoops accept).stage ≠ .idle
  aborted : ∀ accept, (state.acceptLoops accept).aborted = true →
    (state.acceptLoops accept).stage ≠ .idle

def acceptToil : AcceptStage → Nat
  | .idle | .ended => 0
  | .binding | .accepting => 1
  | .announcing _ _ => 2
  | .registering _ _ _ => 3
  | .spawning _ => 6

def recvToil : RecvStage F → Nat
  | .idle | .returned | .cancelled => 0
  | .broken => 1
  | .receiving => 2
  | .publishing _ => 3

def callWork (bound : Nat) (state : Hldmm F) : Nat :=
  total bound fun call => (state.calls call).toil

def acceptWork (state : Hldmm F) : Nat :=
  total state.acceptCount fun accept => acceptToil (state.acceptLoops accept).stage

def recvWork (state : Hldmm F) : Nat :=
  total state.recvCount fun task => recvToil (state.recvLoops task).stage

def work (bound : Nat) (state : Hldmm F) : Nat :=
  callWork bound state + acceptWork state + recvWork state

theorem Begun.keep {state after : Hldmm F} (begun : Begun state)
    (acceptLoops : after.acceptLoops = state.acceptLoops)
    (acceptCount : after.acceptCount = state.acceptCount)
    (listenerTask : after.listenerTask = state.listenerTask) : Begun after := by
  constructor
  · rw [acceptLoops, acceptCount]
    exact begun.fresh
  · rw [acceptLoops, listenerTask]
    exact begun.listener
  · rw [acceptLoops]
    exact begun.aborted

theorem Begun.accept {state after : Hldmm F} (begun : Begun state) {accept : Nat}
    {stage : AcceptStage} (running : (state.acceptLoops accept).stage ≠ .idle)
    (goesOn : stage ≠ .idle)
    (acceptLoops : after.acceptLoops = (state.setAccept accept stage).acceptLoops)
    (acceptCount : after.acceptCount = state.acceptCount)
    (listenerTask : after.listenerTask = state.listenerTask) : Begun after := by
  have still : ∀ other, (state.acceptLoops other).stage ≠ .idle →
      (after.acceptLoops other).stage ≠ .idle := by
    intro other busy
    rw [acceptLoops]
    by_cases own : other = accept
    · subst own
      simpa [setAccept] using goesOn
    · simpa [setAccept, own] using busy
  constructor
  · intro other beyond
    rw [acceptCount] at beyond
    have apart : other ≠ accept := by
      rintro rfl
      exact running (begun.fresh other beyond)
    simpa [acceptLoops, setAccept, apart] using begun.fresh other beyond
  · intro other listens
    rw [listenerTask] at listens
    exact still other (begun.listener other listens)
  · intro other dead
    apply still other
    by_cases own : other = accept
    · rw [own]
      exact running
    · apply begun.aborted
      simpa [acceptLoops, setAccept, own] using dead

theorem Begun.start {state : Hldmm F} (begun : Begun state) : Begun state.start := by
  constructor
  · intro accept beyond
    have beyond : state.acceptCount + 1 ≤ accept := beyond
    have apart : accept ≠ state.acceptCount := by omega
    simpa [Hldmm.start, apart] using begun.fresh accept (by omega)
  · intro accept listens
    simp only [Hldmm.start, Option.some.injEq] at listens
    simp [Hldmm.start, ← listens]
  · intro accept dead
    by_cases latest : accept = state.acceptCount
    · simp [Hldmm.start, latest]
    · have before := begun.aborted accept (by simpa [Hldmm.start, latest] using dead)
      simpa [Hldmm.start, latest] using before

theorem Begun.stop {state : Hldmm F} (begun : Begun state) (call : Nat) :
    Begun (state.stop call) := by
  constructor
  · exact begun.fresh
  · intro accept listens
    cases listens
  · intro accept dead
    simp only [Hldmm.stop, setCall, abortAccept, Bool.or_eq_true, decide_eq_true_eq] at dead
    exact dead.elim (begun.aborted accept) (begun.listener accept)

theorem call_lt {bound : Nat} {state after : Hldmm F} {call : Nat} {stage : PeerCall}
    (within : ∀ call, bound ≤ call → state.calls call = .idle)
    (busy : state.calls call ≠ .idle)
    (calls : after.calls = Function.update state.calls call stage)
    (less : stage.toil < (state.calls call).toil)
    (loops : acceptWork after + recvWork after = acceptWork state + recvWork state) :
    work bound after < work bound state := by
  have inside : call < bound := Nat.lt_of_not_le fun outside => busy (within call outside)
  have fewer : callWork bound after + 0 < callWork bound state + 0 := by
    apply total_lt inside
    · intro other apart
      simp [calls, Function.update_of_ne apart]
    · simpa [calls] using less
  unfold work
  omega

theorem accept_lt {bound : Nat} {state after : Hldmm F} {accept : Nat} {stage : AcceptStage}
    (inside : accept < state.acceptCount) (calls : after.calls = state.calls)
    (acceptLoops : after.acceptLoops = (state.setAccept accept stage).acceptLoops)
    (acceptCount : after.acceptCount = state.acceptCount)
    (less : acceptToil stage + recvWork after <
      acceptToil (state.acceptLoops accept).stage + recvWork state) :
    work bound after < work bound state := by
  have fewer : acceptWork after + recvWork after < acceptWork state + recvWork state := by
    unfold acceptWork
    rw [acceptCount]
    apply total_lt inside
    · intro other apart
      simp [acceptLoops, setAccept, apart]
    · simpa [acceptLoops, setAccept] using less
  have same : callWork bound after = callWork bound state := by rw [callWork, callWork, calls]
  unfold work
  omega

theorem recv_lt {bound : Nat} {state after : Hldmm F} {task : Nat} {loop : RecvLoop F}
    (inside : task < state.recvCount) (calls : after.calls = state.calls)
    (accepts : acceptWork after = acceptWork state)
    (recvLoops : after.recvLoops = Function.update state.recvLoops task loop)
    (recvCount : after.recvCount = state.recvCount)
    (less : recvToil loop.stage < recvToil (state.recvLoops task).stage) :
    work bound after < work bound state := by
  have fewer : recvWork after + 0 < recvWork state + 0 := by
    unfold recvWork
    rw [recvCount]
    apply total_lt inside
    · intro other apart
      simp [recvLoops, apart]
    · simpa [recvLoops] using less
  have same : callWork bound after = callWork bound state := by rw [callWork, callWork, calls]
  unfold work
  omega

/-- The receive loop of a new connection has its work before it. -/
theorem recvWork_spawn (state : Hldmm F) (accept : Nat) (peerId : String) :
    recvWork (state.spawnRecv accept peerId) = recvWork state + 2 := by
  have others : ∀ task ∈ Finset.range state.recvCount,
      recvToil ((state.spawnRecv accept peerId).recvLoops task).stage =
        recvToil (state.recvLoops task).stage := by
    intro task listed
    have apart : task ≠ state.recvCount := Nat.ne_of_lt (Finset.mem_range.mp listed)
    simp [spawnRecv, setAccept, apart]
  unfold recvWork total
  rw [show (state.spawnRecv accept peerId).recvCount = state.recvCount + 1 from rfl,
    Finset.sum_range_succ, Finset.sum_congr rfl others]
  simp [spawnRecv, setAccept, recvToil]

variable [FloatOps F]

theorem begun_step (prost : Codec.Prost (SapientMessage F)) {state after : Hldmm F}
    {action : HldmmAction F} (begun : Begun state) (moved : Moves prost state action after) :
    Begun after := by
  cases moved with
  | start => exact begun.start
  | stop call here => exact begun.stop call
  | bound accept ok here live =>
      exact begun.accept (by simp [here]) (by cases ok <;> simp) rfl rfl rfl
  | accepted accept peerId here live | announceOpen accept peerId since here =>
      exact begun.accept (by simp [here]) (by simp) rfl rfl rfl
  | spawn accept peerId here | register accept peerId since task here =>
      exact begun.accept (by simp [here]) (by simp) rfl rfl rfl
  | cancelAccept accept dead here =>
      refine begun.accept ?_ (by simp) rfl rfl rfl
      intro idle
      rw [idle] at here
      cases here
  | receive task answer here live =>
      unfold receiveInbound
      split <;> exact begun.keep rfl rfl rfl
  | _ => exact begun.keep rfl rfl rfl

theorem begun_run (prost : Codec.Prost (SapientMessage F))
    {trace : Trace (Hldmm F) (HldmmAction F)} {state : Hldmm F}
    (run : Run (machine prost) trace state) : Begun state := by
  apply run.invariant fun _ state => Begun state
  · constructor <;> simp [machine, new]
  · intro trace before action after _ begun taken
    exact begun_step prost begun (moves_of_step prost taken)

theorem calls_step (prost : Codec.Prost (SapientMessage F)) {state after : Hldmm F}
    {action : HldmmAction F} (moved : Moves prost state action after) :
    ∃ stepped, ∀ call, call ≠ stepped → after.calls call = state.calls call := by
  cases moved with
  | stop call | disconnect call | drain call | abortTask call | announce call =>
      refine ⟨call, fun other distinct => ?_⟩
      simp [stop, disconnect, setCall, abortRecvs, abortAccept, distinct]
  | receive task answer here live =>
      unfold receiveInbound
      split <;> exact ⟨0, fun _ _ => rfl⟩
  | _ => exact ⟨0, fun _ _ => rfl⟩

theorem idle_kept (prost : Codec.Prost (SapientMessage F)) {state after : Hldmm F}
    {action : HldmmAction F} {call : Nat} (served : serves action)
    (moved : Moves prost state action after) (idle : state.calls call = .idle) :
    after.calls call = .idle := by
  cases moved with
  | elapse | start | stop | disconnect | bound | accepted | refused | receive => cases served
  | drain other here | abortTask other peerId record here | announce other peerId since here =>
      have distinct : call ≠ other := by
        rintro rfl
        rw [idle] at here
        cases here
      simpa [setCall, abortRecvs, distinct] using idle
  | _ => exact idle

theorem work_lt (prost : Codec.Prost (SapientMessage F)) {bound : Nat} {state after : Hldmm F}
    {action : HldmmAction F} (begun : Begun state) (flags : Flags state)
    (within : ∀ call, bound ≤ call → state.calls call = .idle) (served : serves action)
    (moved : Moves prost state action after) : work bound after < work bound state := by
  have accepts : ∀ accept, (state.acceptLoops accept).stage ≠ .idle →
      accept < state.acceptCount :=
    fun accept busy => Nat.lt_of_not_le fun beyond => busy (begun.fresh accept beyond)
  have recvs : ∀ task, (state.recvLoops task).stage ≠ .idle → task < state.recvCount :=
    fun task busy => Nat.lt_of_not_le fun beyond => busy (flags.fresh task beyond)
  cases moved with
  | elapse | start | stop | disconnect | bound | accepted | refused | receive => cases served
  | drain call here | abortTask call peerId record here | announce call peerId since here =>
      exact call_lt within (by simp [here]) rfl (by simp [here, PeerCall.toil]) rfl
  | spawn accept peerId here =>
      apply accept_lt (accepts accept (by simp [here]))
      · rfl
      · rfl
      · rfl
      · rw [recvWork_spawn, here]
        simp only [acceptToil]
        omega
  | register accept peerId since task here | announceOpen accept peerId since here =>
      apply accept_lt (accepts accept (by simp [here]))
      · rfl
      · rfl
      · rfl
      · simp [here, acceptToil, recvWork, setAccept]
  | cancelAccept accept dead here =>
      have running : (state.acceptLoops accept).stage ≠ .idle := by
        intro idle
        rw [idle] at here
        cases here
      apply accept_lt (accepts accept running)
      · rfl
      · rfl
      · rfl
      · revert here
        cases stage : (state.acceptLoops accept).stage <;>
          simp [acceptAwaits, acceptToil, recvWork, setAccept]
  | publish task publication here | finish task here =>
      exact recv_lt (recvs task (by simp [here])) rfl rfl rfl rfl (by simp [here, recvToil])
  | cancelRecv task dead here =>
      have running : (state.recvLoops task).stage ≠ .idle := by
        intro idle
        rw [idle] at here
        cases here
      refine recv_lt (recvs task running) rfl rfl rfl rfl ?_
      revert here
      cases stage : (state.recvLoops task).stage <;> simp [recvAwaits, recvToil]

theorem recv_waits (prost : Codec.Prost (SapientMessage F)) {state : Hldmm F}
    (resting : Resting (machine prost) serves state) (task : Nat) :
    gone (state.recvLoops task).stage = true ∨
      (state.recvLoops task).stage = .receiving ∧ (state.recvLoops task).aborted = false := by
  have live : recvAwaits (state.recvLoops task).stage = true →
      (state.recvLoops task).aborted = false := by
    intro waiting
    have still := resting (.cancelRecv task) trivial
    by_contra aborted
    revert waiting
    cases here : (state.recvLoops task).stage <;>
      simp [recvAwaits, machine, step, aborted, here] at still ⊢
  cases here : (state.recvLoops task).stage with
  | idle | returned | cancelled => exact Or.inl rfl
  | receiving => exact Or.inr ⟨rfl, live (by rw [here]; rfl)⟩
  | publishing publication =>
      have still := resting (.publishDone task) trivial
      simp [machine, step, here, live (by rw [here]; rfl)] at still
  | broken =>
      have still := resting (.finish task) trivial
      simp [machine, step, here] at still

theorem atRest_of_resting (prost : Codec.Prost (SapientMessage F)) {state : Hldmm F}
    (begun : Begun state) (resting : Resting (machine prost) serves state) : AtRest state := by
  have waits := recv_waits prost resting
  have rests : ∀ accept, acceptRests (state.acceptLoops accept).stage = true := by
    intro accept
    have still := resting (.proceed accept) trivial
    cases here : (state.acceptLoops accept).stage <;>
      simp [machine, step, stepAccept, here, acceptRests] at still ⊢
  constructor
  case waits => exact fun task => (waits task).imp_right And.left
  case quiet =>
    refine ⟨fun call => ?_, rests, fun task => ?_, fun accept dead => ?_, fun task dead => ?_⟩
    · have still := resting (.advance call) trivial
      cases here : state.calls call <;>
        simp [machine, step, stepCall, here, PeerCall.busy] at still ⊢
    · exact (waits task).imp_right fun there => by rw [there.1]; rfl
    · -- At its await points an aborted loop would still be cancelled.
      have still := resting (.cancelAccept accept) trivial
      have running := begun.aborted accept dead
      have stops := rests accept
      cases here : (state.acceptLoops accept).stage <;>
        simp_all [machine, step, acceptRests]
    · rcases waits task with finished | ⟨_, live⟩
      · exact finished
      · rw [dead] at live
        cases live

theorem resting_of_atRest (prost : Codec.Prost (SapientMessage F)) {state : Hldmm F}
    (rest : AtRest state) : Resting (machine prost) serves state := by
  obtain ⟨⟨calls, rests, _, settled⟩, waits⟩ := rest
  intro action served
  cases action with
  | elapse | start | stop | disconnect | bound | accepted | inbound => cases served
  | advance call =>
      have returned := calls call
      cases here : state.calls call <;> simp_all [machine, step, stepCall, PeerCall.busy]
  | proceed accept =>
      have stops := rests accept
      cases here : (state.acceptLoops accept).stage <;>
        simp_all [machine, step, stepAccept, acceptRests]
  | publishDone task | finish task =>
      have stops := waits task
      cases here : (state.recvLoops task).stage <;> simp_all [machine, step, gone]
  | cancelAccept accept =>
      cases dead : (state.acceptLoops accept).aborted with
      | false => simp [machine, step, dead]
      | true => simp [machine, step, dead, settled.accept accept dead]
  | cancelRecv task =>
      cases dead : (state.recvLoops task).aborted with
      | false => simp [machine, step, dead]
      | true =>
          have finished := settled.recv task dead
          cases here : (state.recvLoops task).stage <;> simp_all [machine, step, gone]

theorem serving_descends (prost : Codec.Prost (SapientMessage F)) (bound : Nat) :
    Descends (machine prost) serves
      (fun state => Reachable (machine prost) state ∧
        ∀ call, bound ≤ call → state.calls call = .idle) (· < ·) (work bound) := by
  rintro before action after ⟨reached, within⟩ served taken
  have moved := moves_of_step prost taken
  obtain ⟨trace, run⟩ := reached
  exact ⟨⟨⟨_, run.next taken⟩, fun call outside =>
    idle_kept prost served moved (within call outside)⟩,
    work_lt prost (begun_run prost run) (flags_run prost run) within served moved⟩

theorem resting_iff_atRest (prost : Codec.Prost (SapientMessage F)) {state : Hldmm F}
    (reached : Reachable (machine prost) state) :
    Resting (machine prost) serves state ↔ AtRest state := by
  obtain ⟨trace, run⟩ := reached
  exact ⟨atRest_of_resting prost (begun_run prost run), resting_of_atRest prost⟩

theorem comes_to_rest (prost : Codec.Prost (SapientMessage F)) {state : Hldmm F}
    (reached : Reachable (machine prost) state) :
    ¬ Endless (machine prost) serves state ∧
      (∃ actions after, (∀ action ∈ actions, serves action) ∧
        follow (machine prost) state actions = some after ∧ AtRest after) ∧
      (Resting (machine prost) serves state ↔ AtRest state) := by
  obtain ⟨bound, within⟩ := reached.untouched_some (fun state : Hldmm F => state.calls)
    (fun _ => rfl) fun before action after _ taken => calls_step prost (moves_of_step prost taken)
  exact (serving_descends prost bound).settles Nat.lt_wfRel.wf
    (fun _ held => resting_iff_atRest prost held.1) ⟨reached, within⟩

structure Ending (state : Hldmm F) : Prop where
  held : Held state
  shut : Shut state
  stopped : Stopped state

theorem ending_kept (prost : Codec.Prost (SapientMessage F)) {state after : Hldmm F}
    {action : HldmmAction F} (ending : Ending state) (served : serves action)
    (moved : Moves prost state action after) : Ending after := by
  obtain ⟨held, shut, stopped⟩ := ending
  have again : action ≠ .start := by
    rintro rfl
    cases served
  -- No loop is about to register a connection, so no handle is lost.
  have kept : keepsHandles state action = true := by
    cases action with
    | start => cases served
    | proceed accept =>
        have closed := stopped.closed accept
        cases here : (state.acceptLoops accept).stage <;> simp_all [keepsHandles, opens]
    | _ => rfl
  exact ⟨held_step prost held kept moved, shut_step prost shut again moved,
    stopped_step prost shut stopped again moved⟩

omit [FloatOps F] in
theorem Ending.rests {state : Hldmm F} (ending : Ending state) (rest : AtRest state) :
    state.peers.records = ∅ ∧ (∀ task, gone (state.recvLoops task).stage = true) ∧
      ∀ accept, acceptGone (state.acceptLoops accept).stage = true := by
  obtain ⟨held, shut, stopped⟩ := ending
  refine ⟨(PeerMap.vacant_iff state.peers).mp stopped.vacant, fun task => ?_, fun accept => ?_⟩
  · cases held.covered task with
    | finished done => exact done
    | aborted dead => exact rest.quiet.settled.recv task dead
    | called call peerId record here own =>
        have returned := rest.quiet.calls call
        rw [here] at returned
        cases returned
    | listed peerId record found own =>
        rw [stopped.vacant peerId] at found
        cases found
    | opening accept peerId since here =>
        have closed := stopped.closed accept
        rw [here] at closed
        cases closed
  · rcases shut accept with done | dead
    · exact done
    · rw [rest.quiet.settled.accept accept dead]
      rfl

theorem stop_completes (prost : Codec.Prost (SapientMessage F))
    {trace : Trace (Hldmm F) (HldmmAction F)} {state after : Hldmm F} {call : Nat}
    (run : Run (machine prost) trace state)
    (kept : Meets (fun _ state action => keepsHandles state action = true) trace)
    (inTime : Meets (fun _ state action => drainsInTime call state action = true) trace)
    (called : calledStop call trace = true) (returned : state.calls call = .returned (.ok ()))
    {actions : List (HldmmAction F)} (served : ∀ action ∈ actions, serves action)
    (done : follow (machine prost) state actions = some after) (rest : AtRest after) :
    after.peers.records = ∅ ∧ (∀ task, gone (after.recvLoops task).stage = true) ∧
      ∀ accept, acceptGone (after.acceptLoops accept).stage = true := by
  obtain ⟨shut, draining | stopped⟩ := stop_run prost run kept inTime called
  · rw [returned] at draining
    cases draining
  have ending : Ending after := by
    refine follow_invariant serves Ending ?_ served ⟨held_run prost run kept, shut, stopped⟩ done
    intro before action next served ending taken
    exact ending_kept prost ending served (moves_of_step prost taken)
  exact ending.rests rest

end Hldmm

/-- In either role, and from every state of every run: the tasks and calls do not carry on for
ever by themselves, they can always come to rest, and rest exactly where every call has
returned, every aborted task has ended and every loop waits for its socket, with no payload
left for a peer loop to write. Once `stop()` has returned, in time and with no handle lost,
they rest with an empty map and no loop running. -/
theorem transports_rest [FloatOps F] :
    (∀ (config : DlmmConfig F) (trace : Trace (Dlmm F) (DlmmAction F)) (state : Dlmm F),
      Run (Dlmm.machine config) trace state →
        (¬ Endless (Dlmm.machine config) Dlmm.serves state ∧
          (∃ actions after, (∀ action ∈ actions, Dlmm.serves action) ∧
            follow (Dlmm.machine config) state actions = some after ∧ Dlmm.AtRest after) ∧
          (Resting (Dlmm.machine config) Dlmm.serves state ↔ Dlmm.AtRest state)) ∧
        ∀ call, Meets (fun _ state action => Dlmm.drainsInTime call state action = true) trace →
          Dlmm.calledStop call trace = true → state.calls call = .returned (.ok ()) →
          ∀ actions after, (∀ action ∈ actions, Dlmm.serves action) →
            follow (Dlmm.machine config) state actions = some after → Dlmm.AtRest after →
              after.peers.records = ∅ ∧ Dlmm.gone after.peerLoop = true ∧
                (after.connectLoop = .idle ∨ after.connectLoop = .ended)) ∧
    ∀ (prost : Codec.Prost (SapientMessage F)) (trace : Trace (Hldmm F) (HldmmAction F))
      (state : Hldmm F), Run (Hldmm.machine prost) trace state →
        (¬ Endless (Hldmm.machine prost) Hldmm.serves state ∧
          (∃ actions after, (∀ action ∈ actions, Hldmm.serves action) ∧
            follow (Hldmm.machine prost) state actions = some after ∧ Hldmm.AtRest after) ∧
          (Resting (Hldmm.machine prost) Hldmm.serves state ↔ Hldmm.AtRest state)) ∧
        ∀ call, Meets (fun _ state action => Hldmm.keepsHandles state action = true) trace →
          Meets (fun _ state action => Hldmm.drainsInTime call state action = true) trace →
          Hldmm.calledStop call trace = true → state.calls call = .returned (.ok ()) →
          ∀ actions after, (∀ action ∈ actions, Hldmm.serves action) →
            follow (Hldmm.machine prost) state actions = some after → Hldmm.AtRest after →
              after.peers.records = ∅ ∧
                (∀ task, Hldmm.gone (after.recvLoops task).stage = true) ∧
                ∀ accept, Hldmm.acceptGone (after.acceptLoops accept).stage = true := by
  constructor
  · intro config trace state run
    refine ⟨Dlmm.comes_to_rest config ⟨trace, run⟩, ?_⟩
    intro call inTime called returned actions after served done rest
    exact Dlmm.stop_completes config run inTime called returned served done rest
  · intro prost trace state run
    refine ⟨Hldmm.comes_to_rest prost ⟨trace, run⟩, ?_⟩
    intro call kept inTime called returned actions after served done rest
    exact Hldmm.stop_completes prost run kept inTime called returned served done rest

/-- `stop()` has returned with a connection registered, and its tasks are yet to end. -/
theorem transports_rest_stopped :
    (∃ state : Dlmm Float, state.peers.records = ∅ ∧ Dlmm.gone state.peerLoop = true ∧
      (state.connectLoop = .idle ∨ state.connectLoop = .ended)) ∧
    ∃ state : Hldmm Float, state.peers.records = ∅ ∧
      (∀ task, Hldmm.gone (state.recvLoops task).stage = true) ∧
      ∀ accept, Hldmm.acceptGone (state.acceptLoops accept).stage = true := by
  constructor
  · have run : Run (Dlmm.machine Dlmm.sampleConfig) _ _ :=
      replay_reachable (Dlmm.connecting ++ [.stop 0, .advance 0]) rfl
    refine ⟨_, (transports_rest.1 _ _ _ run).2 0 (by decide) rfl rfl
      [.cancelPeer, .cancelConnect] _ (by simp [Dlmm.serves]) rfl ⟨⟨?_, rfl, Or.inl rfl, ?_⟩,
        Or.inl rfl⟩⟩
    · rintro (_ | _) <;> rfl
    · exact ⟨fun _ => rfl, fun _ => rfl⟩
  · have run : Run (Hldmm.machine Dlmm.sampleConfig.prost) _ _ :=
      replay_reachable (Hldmm.accepting ++ [.stop 0, .advance 0]) rfl
    refine ⟨_, (transports_rest.2 _ _ _ run).2 0 (by decide) (by decide) rfl rfl
      [.cancelRecv 0, .cancelAccept 0] _ (by simp [Hldmm.serves]) rfl
      ⟨⟨?_, ?_, fun task => Or.inl ?_, ⟨?_, ?_⟩⟩, fun task => Or.inl ?_⟩⟩
    · rintro (_ | _) <;> rfl
    · rintro (_ | _) <;> rfl
    · rcases task with _ | _ <;> rfl
    · rintro (_ | _) dead
      · rfl
      · cases dead
    · rintro (_ | _) _ <;> rfl
    · rcases task with _ | _ <;> rfl

end PeatSapient
