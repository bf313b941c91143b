import PeatSapient.Transport.Dlmm.Moves

/-! The peer map in DLMM mode, where each connection and each call is handled to completion
before the next. Two things are told apart: the loop serves the connection that it has made,
or `disconnect()` has taken it out and the loop is leaving. -/

namespace PeatSapient.Dlmm

open HashMap Mpsc Execution

variable {F : Type}

def lifecycle : DlmmAction F → Bool
  | .start | .connected | .disconnect _ _ => true
  | .inbound (.ok none) | .inbound (.error _) | .sendRawDone false => true
  | _ => false

def connectRests (state : Dlmm F) : Bool :=
  match state.connectLoop with
  | .idle | .dialling | .ended => true
  | .awaiting _ => !gone state.peerLoop
  | _ => false

/-- No call and no task is between two of its await points. -/
structure Quiet (state : Dlmm F) : Prop where
  calls : ∀ call, (state.calls call).busy = false
  connect : connectRests state = true
  peer : gone state.peerLoop = true ∨ awaits state.peerLoop = true
  settled : Settled state

/-- A connection or a call is taken up when nothing else is, and `stop()` is not called. -/
def Sequential (state : Dlmm F) (action : DlmmAction F) : Prop :=
  (∀ call, action ≠ .stop call) ∧ (lifecycle action = true → Quiet state)

def runs (config : DlmmConfig F) (state : Dlmm F) (peerId : String) : Prop :=
  peerId = config.peerNodeId ∧ gone state.peerLoop = false

def Recorded (config : DlmmConfig F) (state : Dlmm F) : Prop :=
  ∃ record, state.peers.records.lookup config.peerNodeId = some record ∧
    record.task = state.current

def Absent (config : DlmmConfig F) (state : Dlmm F) : Prop :=
  state.peers.records.lookup config.peerNodeId = none

def Shown (config : DlmmConfig F) (state : Dlmm F) (opened : Bool) : Prop :=
  PeerMap.paired config.peerNodeId state.peers.events = some opened

def Stage (config : DlmmConfig F) (state : Dlmm F) : Prop :=
  match state.connectLoop with
  | .idle | .dialling | .spawning =>
      gone state.peerLoop = true ∧ Absent config state ∧ Shown config state false
  | .registering _ =>
      awaits state.peerLoop = true ∧ Absent config state ∧ Shown config state false
  | .announcing _ =>
      awaits state.peerLoop = true ∧ Recorded config state ∧ Shown config state false
  | .awaiting _ =>
      state.peerLoop ≠ .cancelled ∧ Recorded config state ∧ Shown config state true
  | .checking _ | .deregistering _ =>
      gone state.peerLoop = true ∧ Recorded config state ∧ Shown config state true
  | .reporting _ =>
      gone state.peerLoop = true ∧ Absent config state ∧ Shown config state true
  | .ended => False

def Foreign (config : DlmmConfig F) (peers : PeerMap) : Prop :=
  ∀ other, other ≠ config.peerNodeId →
    peers.records.lookup other = none ∧ PeerMap.paired other peers.events = some false

structure Serving (config : DlmmConfig F) (state : Dlmm F) : Prop where
  calls : ∀ call, (state.calls call).busy = false
  connectLive : state.connectAborted = false
  peerLive : state.peerAborted = false
  foreign : Foreign config state.peers
  stage : Stage config state

inductive Progress (config : DlmmConfig F) (call : Nat) (state : Dlmm F) : Prop where
  | aborting (record : PeerRecord) (here : state.calls call = .aborting config.peerNodeId record)
      (own : record.task = state.current) (live : state.peerAborted = false)
      (running : awaits state.peerLoop = true) (shown : Shown config state true)
  | announcing (since : Nat) (here : state.calls call = .announcing config.peerNodeId since)
      (dead : state.peerAborted = true) (shown : Shown config state true)
  | returned (here : (state.calls call).busy = false) (dead : state.peerAborted = true)
      (shown : Shown config state false)

structure Leaving (config : DlmmConfig F) (call : Nat) (state : Dlmm F) : Prop where
  others : ∀ other, other ≠ call → (state.calls other).busy = false
  connectLive : state.connectAborted = false
  foreign : Foreign config state.peers
  absent : Absent config state
  loop : (∃ since, state.connectLoop = .awaiting since) ∨
    state.connectLoop = .ended ∧ state.peerLoop = .cancelled
  peer : awaits state.peerLoop = true ∨ state.peerLoop = .cancelled
  progress : Progress config call state

def Tidy (config : DlmmConfig F) (state : Dlmm F) : Prop :=
  Serving config state ∨ ∃ call, Leaving config call state

theorem Foreign.emit {config : DlmmConfig F} {peers : PeerMap} (foreign : Foreign config peers)
    {event : PeerEvent}
    (own : ∀ other, other ≠ config.peerNodeId → PeerMap.announces other event = none) :
    Foreign config (peers.emitEvent event) := by
  intro other distinct
  refine ⟨(foreign other distinct).1, ?_⟩
  exact (PeerMap.paired_elsewhere (own other distinct) peers.events).trans
    (foreign other distinct).2

theorem Foreign.remove {config : DlmmConfig F} {peers : PeerMap}
    (foreign : Foreign config peers) (peerId : String) :
    Foreign config (peers.removePeer peerId) := by
  intro other distinct
  refine ⟨(lookup_erase_eq peers.records peerId other).trans ?_, (foreign other distinct).2⟩
  split
  · rfl
  · exact (foreign other distinct).1

/-- The peer loop takes a step. Only while the connect loop awaits its return may it end. -/
theorem Stage.peer {config : DlmmConfig F} {state after : Dlmm F} (stage : Stage config state)
    (running : gone state.peerLoop = false) (stays : after.peerLoop ≠ .cancelled)
    (goesOn : connectRests state = true ∨ awaits after.peerLoop = true ∨
      awaits state.peerLoop = false)
    (connectLoop : after.connectLoop = state.connectLoop) (peers : after.peers = state.peers)
    (current : after.current = state.current) : Stage config after := by
  unfold Stage Recorded Absent Shown at stage ⊢
  rw [connectLoop, peers, current]
  cases here : state.connectLoop with
  | idle | dialling | spawning | checking | deregistering | reporting =>
      rw [here] at stage
      rw [stage.1] at running
      cases running
  | registering since | announcing since =>
      rw [here] at stage
      refine ⟨?_, stage.2⟩
      rcases goesOn with rests | goesOn | broken
      · simp [connectRests, here] at rests
      · exact goesOn
      · rw [stage.1] at broken
        cases broken
  | awaiting since =>
      rw [here] at stage
      exact ⟨stays, stage.2⟩
  | ended =>
      rw [here] at stage
      exact stage

theorem Serving.peer {config : DlmmConfig F} {state after : Dlmm F}
    (serving : Serving config state) (apart : Apart state after)
    (running : gone state.peerLoop = false) (stays : after.peerLoop ≠ .cancelled)
    (goesOn : connectRests state = true ∨ awaits after.peerLoop = true ∨
      awaits state.peerLoop = false) : Serving config after := by
  constructor
  · rw [apart.calls]
    exact serving.calls
  · rw [apart.connectAborted]
    exact serving.connectLive
  · rw [apart.peerAborted]
    exact serving.peerLive
  · rw [apart.peers]
    exact serving.foreign
  · exact serving.stage.peer running stays goesOn apart.connectLoop apart.peers apart.current

theorem Serving.still {config : DlmmConfig F} {state after : Dlmm F}
    (serving : Serving config state) (apart : Apart state after)
    (peerLoop : after.peerLoop = state.peerLoop) : Serving config after := by
  constructor
  · rw [apart.calls]
    exact serving.calls
  · rw [apart.connectAborted]
    exact serving.connectLive
  · rw [apart.peerAborted]
    exact serving.peerLive
  · rw [apart.peers]
    exact serving.foreign
  · have stage := serving.stage
    unfold Stage Recorded Absent Shown at stage ⊢
    rw [apart.connectLoop, apart.peers, apart.current, peerLoop]
    exact stage

/-- `disconnect()` finds the record of a running peer loop, or none. -/
theorem Serving.disconnect {config : DlmmConfig F} {state : Dlmm F}
    (serving : Serving config state) (quiet : Quiet state) (call : Nat) (peerId : String) :
    Tidy config (state.disconnect call peerId) := by
  cases found : state.peers.records.lookup peerId with
  | none =>
      have same : ∀ other, (state.peers.removePeer peerId).records.lookup other =
          state.peers.records.lookup other := by
        intro other
        refine (lookup_erase_eq state.peers.records peerId other).trans ?_
        split
        · next here => rw [here, found]
        · rfl
      refine Or.inl ⟨fun other => ?_, serving.connectLive, serving.peerLive,
        serving.foreign.remove peerId, ?_⟩
      · by_cases moving : other = call
        · simp [Dlmm.disconnect, setCall, moving, PeerCall.ofDisconnect, found, PeerCall.busy]
        · simpa [Dlmm.disconnect, setCall, moving] using serving.calls other
      · have stage := serving.stage
        unfold Stage Recorded Absent Shown at stage ⊢
        simp only [Dlmm.disconnect, setCall, same]
        exact stage
  | some record =>
      obtain rfl : peerId = config.peerNodeId := by
        by_contra distinct
        rw [(serving.foreign peerId distinct).1] at found
        cases found
      right
      have stage := serving.stage
      have rests := quiet.connect
      unfold Stage at stage
      unfold connectRests at rests
      cases here : state.connectLoop with
      | awaiting since =>
          rw [here] at stage rests
          obtain ⟨_, ⟨own, there, latest⟩, shown⟩ := stage
          rw [found] at there
          cases there
          have running : awaits state.peerLoop = true := by
            rcases quiet.peer with finished | running
            · simp [finished] at rests
            · exact running
          refine ⟨call, ?_, serving.connectLive, serving.foreign.remove _,
            AList.lookup_erase _ _, Or.inl ⟨since, here⟩, Or.inl running,
            .aborting record ?_ latest serving.peerLive running shown⟩
          · intro other distinct
            simpa [Dlmm.disconnect, setCall, distinct] using serving.calls other
          · simp [Dlmm.disconnect, setCall, PeerCall.ofDisconnect, found]
      | idle | dialling =>
          rw [here] at stage
          have absent := stage.2.1
          rw [Absent, found] at absent
          cases absent
      | ended =>
          rw [here] at stage
          exact stage.elim
      | spawning | registering | announcing | checking | deregistering | reporting =>
          rw [here] at rests
          cases rests

variable [FloatOps F]

theorem serving_connect (config : DlmmConfig F) {state after : Dlmm F}
    (serving : Serving config state) (moved : Moves config state .proceed after) :
    Serving config after := by
  have stage := serving.stage
  cases moved with
  | spawn here =>
      simp only [Stage, here] at stage
      exact ⟨serving.calls, serving.connectLive, rfl, serving.foreign, rfl, stage.2⟩
  | register since here =>
      simp only [Stage, here] at stage
      refine ⟨serving.calls, serving.connectLive, serving.peerLive, ?_, stage.1,
        ⟨_, AList.lookup_insert _, rfl⟩, stage.2.2⟩
      intro other distinct
      exact ⟨(AList.lookup_insert_ne distinct).trans (serving.foreign other distinct).1,
        (serving.foreign other distinct).2⟩
  | announceOpen since here =>
      simp only [Stage, here] at stage
      obtain ⟨running, recorded, shown⟩ := stage
      refine ⟨serving.calls, serving.connectLive, serving.peerLive,
        serving.foreign.emit ?_, ?_, recorded, PeerMap.paired_connected since shown⟩
      · intro other distinct
        simp [PeerMap.announces, distinct.symm]
      · intro cancelled
        have cancelled : state.peerLoop = .cancelled := cancelled
        rw [cancelled] at running
        cases running
  | takeBack since here live back =>
      simp only [Stage, here] at stage
      exact ⟨serving.calls, serving.connectLive, serving.peerLive, serving.foreign,
        by rw [back]; rfl, stage.2⟩
  | giveUp since here live lost =>
      simp only [Stage, here] at stage
      exact absurd lost stage.1
  | recheck since here present =>
      simp only [Stage, here] at stage
      exact ⟨serving.calls, serving.connectLive, serving.peerLive, serving.foreign,
        stage⟩
  | leave since here absent =>
      simp only [Stage, here, Recorded, absent] at stage
      obtain ⟨_, ⟨_, found, _⟩, _⟩ := stage
      cases found
  | deregister since here =>
      simp only [Stage, here] at stage
      exact ⟨serving.calls, serving.connectLive, serving.peerLive,
        serving.foreign.remove _, stage.1, AList.lookup_erase _ _, stage.2.2⟩
  | report since here =>
      simp only [Stage, here] at stage
      obtain ⟨finished, absent, shown⟩ := stage
      refine ⟨serving.calls, serving.connectLive, serving.peerLive,
        serving.foreign.emit ?_, finished, absent, PeerMap.paired_disconnected _ _ shown⟩
      intro other distinct
      simp [PeerMap.announces, distinct.symm]

theorem serving_step (config : DlmmConfig F) {state after : Dlmm F} {action : DlmmAction F}
    (founded : Founded state) (serving : Serving config state)
    (sequential : Sequential state action) (moved : Moves config state action after) :
    Tidy config after := by
  have apart := apart_of_aside config founded moved
  have stage := serving.stage
  have quiet := sequential.2
  have whole := moved
  cases moved with
  | spawn | register | announceOpen | takeBack | giveUp | recheck | leave | deregister | report =>
      exact Or.inl (serving_connect config serving whole)
  | elapse | accept | refuse =>
      exact Or.inl (serving.still (apart rfl) rfl)
  | start =>
      rcases start_cases founded with ⟨idle, started⟩ | apart
      · simp only [Stage, idle] at stage
        rw [started]
        exact Or.inl ⟨serving.calls, rfl, serving.peerLive, serving.foreign, stage⟩
      · refine Or.inl (serving.still apart ?_)
        unfold start
        split <;> rfl
  | stop call =>
      exact absurd rfl (sequential.1 call)
  | disconnect call peerId here =>
      exact serving.disconnect (quiet rfl) call peerId
  | drain call here
  | abortTask call peerId record here
  | announce call peerId since here =>
      have idle := serving.calls call
      rw [here] at idle
      cases idle
  | receive answer here live =>
      have apart := apart rfl
      have running : gone state.peerLoop = false := by rw [here]; rfl
      left
      revert apart
      unfold receiveInbound
      split
      · refine fun apart => serving.peer apart running ?_ (Or.inr (Or.inl ?_))
        · dsimp only
          split <;> simp
        · dsimp only
          split <;> rfl
      · exact fun apart => serving.peer apart running (by simp) (Or.inl (quiet rfl).connect)
      · exact fun apart => serving.peer apart running (by simp) (Or.inl (quiet rfl).connect)
  | publish publication here
  | take raw outbound here
  | sent raw here =>
      exact Or.inl (serving.peer (apart rfl) (by rw [here]; rfl) (by simp)
        (Or.inr (Or.inl rfl)))
  | failed raw here =>
      exact Or.inl (serving.peer (apart rfl) (by rw [here]; rfl) (by simp)
        (Or.inl (quiet rfl).connect))
  | finish here =>
      exact Or.inl (serving.peer (apart rfl) (by rw [here]; rfl) (by simp)
        (Or.inr (Or.inr (by rw [here]; rfl))))
  | cancelPeer dead =>
      rw [serving.peerLive] at dead
      cases dead
  | cancelDialling dead
  | cancelTakeBack _ dead
  | cancelAwaiting _ dead =>
      rw [serving.connectLive] at dead
      cases dead
  | connected here =>
      simp only [Stage, here] at stage
      exact Or.inl ⟨serving.calls, serving.connectLive, serving.peerLive, serving.foreign,
        stage⟩

omit [FloatOps F] in
theorem Progress.keep {config : DlmmConfig F} {call : Nat} {state after : Dlmm F}
    (progress : Progress config call state) (calls : after.calls call = state.calls call)
    (current : after.current = state.current) (dead : after.peerAborted = state.peerAborted)
    (running : awaits state.peerLoop = true → state.peerAborted = false →
      awaits after.peerLoop = true)
    (events : PeerMap.paired config.peerNodeId after.peers.events =
      PeerMap.paired config.peerNodeId state.peers.events) : Progress config call after := by
  have shown : ∀ opened, Shown config state opened → Shown config after opened := by
    intro opened shown
    exact events.trans shown
  cases progress with
  | aborting record here own live awaiting open_ =>
      exact .aborting record (calls.trans here) (by rw [current]; exact own) (dead.trans live)
        (running awaiting live) (shown _ open_)
  | announcing since here aborted open_ =>
      exact .announcing since (calls.trans here) (dead.trans aborted) (shown _ open_)
  | returned here aborted closed =>
      exact .returned (by rw [calls]; exact here) (dead.trans aborted) (shown _ closed)

omit [FloatOps F] in
theorem Leaving.apart {config : DlmmConfig F} {call : Nat} {state after : Dlmm F}
    (leaving : Leaving config call state) (apart : Apart state after)
    (finished : state.peerLoop = .cancelled → after.peerLoop = .cancelled)
    (running : awaits state.peerLoop = true →
      awaits after.peerLoop = true ∨ state.peerAborted = true ∧ after.peerLoop = .cancelled) :
    Leaving config call after := by
  constructor
  · rw [apart.calls]
    exact leaving.others
  · rw [apart.connectAborted]
    exact leaving.connectLive
  · rw [apart.peers]
    exact leaving.foreign
  · unfold Absent
    rw [apart.peers]
    exact leaving.absent
  · rw [apart.connectLoop]
    exact leaving.loop.imp_right fun ended => ⟨ended.1, finished ended.2⟩
  · rcases leaving.peer with awaiting | cancelled
    · exact (running awaiting).imp_right And.right
    · exact Or.inr (finished cancelled)
  · apply leaving.progress.keep (by rw [apart.calls]) apart.current apart.peerAborted
    · intro awaiting live
      rcases running awaiting with awaiting | ⟨dead, _⟩
      · exact awaiting
      · rw [live] at dead
        cases dead
    · rw [apart.peers]

omit [FloatOps F] in
theorem Leaving.mover {config : DlmmConfig F} {call other : Nat} {state : Dlmm F}
    (leaving : Leaving config call state) (busy : (state.calls other).busy = true) :
    other = call := by
  by_contra distinct
  rw [leaving.others other distinct] at busy
  cases busy

omit [FloatOps F] in
/-- Once the aborted peer loop is all that is left, it does not end by itself. -/
theorem Leaving.not_quiet {config : DlmmConfig F} {call : Nat} {state : Dlmm F}
    (leaving : Leaving config call state) (live : state.peerAborted = false) :
    ¬ Quiet state := by
  intro quiet
  cases leaving.progress with
  | aborting record here =>
      have rests := quiet.calls call
      rw [here] at rests
      cases rests
  | announcing since here dead | returned here dead =>
      rw [live] at dead
      cases dead

omit [FloatOps F] in
theorem Leaving.disconnect {config : DlmmConfig F} {call : Nat} {state : Dlmm F}
    (leaving : Leaving config call state) (quiet : Quiet state) (other : Nat)
    (peerId : String) : Leaving config call (state.disconnect other peerId) := by
  have absent : state.peers.records.lookup peerId = none := by
    by_cases same : peerId = config.peerNodeId
    · rw [same]
      exact leaving.absent
    · exact (leaving.foreign peerId same).1
  have moving : ∀ third, third ≠ call ∨ (state.calls third).busy = false →
      ((state.disconnect other peerId).calls third).busy = false := by
    intro third rests
    by_cases same : third = other
    · simp [Dlmm.disconnect, setCall, same, PeerCall.ofDisconnect, absent, PeerCall.busy]
    · have kept : (state.calls third).busy = false :=
        rests.elim (leaving.others third) fun rests => rests
      simpa [Dlmm.disconnect, setCall, same] using kept
  refine ⟨fun third distinct => moving third (Or.inl distinct), leaving.connectLive,
    leaving.foreign.remove peerId, ?_, leaving.loop, leaving.peer, ?_⟩
  · refine (lookup_erase_eq state.peers.records peerId _).trans ?_
    split
    · rfl
    · exact leaving.absent
  · cases leaving.progress with
    | aborting record there | announcing since there =>
        have rests := quiet.calls call
        rw [there] at rests
        cases rests
    | returned there dead shown => exact .returned (moving call (Or.inr there)) dead shown

omit [FloatOps F] in
theorem Leaving.abortTask {config : DlmmConfig F} {call : Nat} {state : Dlmm F}
    (leaving : Leaving config call state) (other : Nat) (peerId : String)
    (record : PeerRecord) (here : state.calls other = .aborting peerId record) :
    Leaving config call ({ state with
      peerAborted := state.abort [record.task] }.setCall other
        (.announcing peerId (state.clock - record.connectedAt))) := by
  obtain rfl := leaving.mover (by rw [here]; rfl)
  cases leaving.progress with
  | aborting record there own live running shown =>
      rw [here] at there
      cases there
      refine ⟨fun third distinct => ?_, leaving.connectLive, leaving.foreign,
        leaving.absent, leaving.loop, leaving.peer,
        .announcing _ (Function.update_self ..) ?_ shown⟩
      · simpa [setCall, distinct] using leaving.others third distinct
      · simp [setCall, abort, own]
  | announcing since there | returned there =>
      rw [here] at there
      cases there

omit [FloatOps F] in
theorem Leaving.announce {config : DlmmConfig F} {call : Nat} {state : Dlmm F}
    (leaving : Leaving config call state) (other : Nat) (peerId : String) (since : Nat)
    (here : state.calls other = .announcing peerId since) :
    Leaving config call ({ state with
      peers := state.peers.emitEvent (.disconnected peerId .localClosed since) }.setCall other
        (.returned (.ok ()))) := by
  obtain rfl := leaving.mover (by rw [here]; rfl)
  cases leaving.progress with
  | announcing since there dead shown =>
      rw [here] at there
      cases there
      refine ⟨fun third distinct => ?_, leaving.connectLive, leaving.foreign.emit ?_,
        leaving.absent, leaving.loop, leaving.peer,
        .returned ?_ dead (PeerMap.paired_disconnected _ _ shown)⟩
      · simpa [setCall, distinct] using leaving.others third distinct
      · intro third distinct
        simp [PeerMap.announces, distinct.symm]
      · simp [setCall, PeerCall.busy]
  | aborting record there | returned there =>
      rw [here] at there
      cases there

theorem leaving_step (config : DlmmConfig F) {state after : Dlmm F} {action : DlmmAction F}
    {call : Nat} (founded : Founded state) (leaving : Leaving config call state)
    (sequential : Sequential state action) (moved : Moves config state action after) :
    Leaving config call after := by
  have apart := apart_of_aside config founded moved
  have quiet := sequential.2
  have loop := leaving.loop
  cases moved with
  | elapse | accept | refuse =>
      exact leaving.apart (apart rfl) (fun cancelled => cancelled) Or.inl
  | start =>
      rcases start_cases founded with ⟨idle, _⟩ | apart
      · rcases loop with ⟨since, here⟩ | ⟨here, _⟩ <;>
        · rw [idle] at here
          cases here
      · have same : state.start.peerLoop = state.peerLoop := by
          unfold start
          split <;> rfl
        exact leaving.apart apart (by rw [same]; exact id) (by rw [same]; exact Or.inl)
  | stop other => exact absurd rfl (sequential.1 other)
  | disconnect other peerId here =>
      exact leaving.disconnect (quiet rfl) other peerId
  | drain other here =>
      obtain rfl := leaving.mover (by rw [here]; rfl)
      cases leaving.progress with
      | aborting record there | announcing since there | returned there =>
          rw [here] at there
          cases there
  | abortTask other peerId record here =>
      exact leaving.abortTask other peerId record here
  | announce other peerId since here =>
      exact leaving.announce other peerId since here
  | receive answer here live =>
      have apart := apart rfl
      have finished : ∀ after : PeerLoop F, state.peerLoop = .cancelled → after = .cancelled := by
        intro after cancelled
        rw [here] at cancelled
        cases cancelled
      revert apart
      unfold receiveInbound
      split
      · refine fun apart => leaving.apart apart (finished _) fun _ => Or.inl ?_
        dsimp only
        split <;> rfl
      · exact (leaving.not_quiet live (quiet rfl)).elim
      · exact (leaving.not_quiet live (quiet rfl)).elim
  | publish publication here | take raw outbound here | sent raw here =>
      refine leaving.apart (apart rfl) (fun cancelled => ?_) fun _ => Or.inl rfl
      rw [here] at cancelled
      cases cancelled
  | failed raw here live => exact (leaving.not_quiet live (quiet rfl)).elim
  | finish here =>
      rcases leaving.peer with running | cancelled
      · rw [here] at running
        cases running
      · rw [here] at cancelled
        cases cancelled
  | cancelPeer dead here =>
      exact leaving.apart (apart rfl) (fun _ => rfl) fun _ => Or.inr ⟨dead, rfl⟩
  | cancelDialling dead | cancelTakeBack _ dead | cancelAwaiting _ dead =>
      rw [leaving.connectLive] at dead
      cases dead
  | connected here | spawn here | register since here | announceOpen since here
  | recheck since here | leave since here | deregister since here | report since here =>
      rcases loop with ⟨_, there⟩ | ⟨there, _⟩ <;>
      · rw [here] at there
        cases there
  | takeBack since here live back =>
      rcases leaving.peer with running | cancelled
      · rw [back] at running
        cases running
      · rw [back] at cancelled
        cases cancelled
  | giveUp since here live lost =>
      exact ⟨leaving.others, leaving.connectLive, leaving.foreign, leaving.absent,
        Or.inr ⟨rfl, lost⟩, leaving.peer,
        leaving.progress.keep rfl rfl rfl (fun running _ => running) rfl⟩

theorem tidy_run (config : DlmmConfig F) {trace : Trace (Dlmm F) (DlmmAction F)}
    {state : Dlmm F} (run : Run (machine config) trace state)
    (sequential : Meets (fun _ state action => Sequential state action) trace) :
    Tidy config state := by
  refine run.invariant_of_meets (fun _ state action => Sequential state action)
    (fun _ state => Tidy config state) ?_ ?_ sequential
  · exact Or.inl ⟨fun _ => rfl, rfl, rfl, fun _ _ => ⟨rfl, rfl⟩, rfl, rfl, rfl⟩
  · intro trace before action after earlier tidy sequential taken
    have founded := founded_run config earlier
    have moved := moves_of_step config taken
    rcases tidy with serving | ⟨call, leaving⟩
    · exact serving_step config founded serving sequential moved
    · exact Or.inr ⟨call, leaving_step config founded leaving sequential moved⟩

omit [FloatOps F] in
theorem Serving.rest {config : DlmmConfig F} {state : Dlmm F} (serving : Serving config state)
    (quiet : Quiet state) :
    (state.peers.records.lookup config.peerNodeId).isSome = !gone state.peerLoop ∧
      Shown config state (!gone state.peerLoop) := by
  have stage := serving.stage
  have rests := quiet.connect
  unfold Stage at stage
  unfold connectRests at rests
  cases here : state.connectLoop with
  | idle | dialling =>
      rw [here] at stage
      obtain ⟨finished, absent, shown⟩ := stage
      rw [finished, absent]
      exact ⟨rfl, shown⟩
  | awaiting since =>
      rw [here] at stage rests
      obtain ⟨_, ⟨_, found, _⟩, shown⟩ := stage
      have running : (!gone state.peerLoop) = true := rests
      rw [running, found]
      exact ⟨rfl, shown⟩
  | ended =>
      rw [here] at stage
      exact stage.elim
  | spawning | registering | announcing | checking | deregistering | reporting =>
      rw [here] at rests
      cases rests

omit [FloatOps F] in
theorem Leaving.rest {config : DlmmConfig F} {state : Dlmm F} {call : Nat}
    (leaving : Leaving config call state) (quiet : Quiet state) :
    (state.peers.records.lookup config.peerNodeId).isSome = !gone state.peerLoop ∧
      Shown config state (!gone state.peerLoop) := by
  cases leaving.progress with
  | aborting record here | announcing since here =>
      have rests := quiet.calls call
      rw [here] at rests
      cases rests
  | returned here dead shown =>
      rw [quiet.settled.peer dead, leaving.absent]
      exact ⟨rfl, shown⟩

theorem bookkept_of_quiet (config : DlmmConfig F) {trace : Trace (Dlmm F) (DlmmAction F)}
    {state : Dlmm F} (run : Run (machine config) trace state)
    (sequential : Meets (fun _ state action => Sequential state action) trace)
    (quiet : Quiet state) : state.peers.Bookkept (runs config state) := by
  have tidy := tidy_run config run sequential
  have foreign : Foreign config state.peers := by
    rcases tidy with serving | ⟨_, leaving⟩
    · exact serving.foreign
    · exact leaving.foreign
  obtain ⟨listed, shown⟩ : (state.peers.records.lookup config.peerNodeId).isSome =
      !gone state.peerLoop ∧ Shown config state (!gone state.peerLoop) := by
    rcases tidy with serving | ⟨_, leaving⟩
    · exact serving.rest quiet
    · exact leaving.rest quiet
  apply PeerMap.bookkept_of_lookup
  · intro peerId
    by_cases own : peerId = config.peerNodeId
    · rw [own, listed]
      simp [runs]
    · rw [(foreign peerId own).1]
      simp [runs, own]
  · intro peerId
    by_cases own : peerId = config.peerNodeId
    · rw [own, listed]
      exact shown
    · rw [(foreign peerId own).1]
      exact (foreign peerId own).2

end PeatSapient.Dlmm
