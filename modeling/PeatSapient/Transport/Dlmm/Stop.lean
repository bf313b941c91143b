import PeatSapient.Transport.Dlmm.Moves

/-! `stop()` in DLMM mode. A peer loop that runs is held by someone: the map has its
record, a call has taken the record out, or the connect loop is still to register it. Only
the last of these is out of the reach of `stop()`. -/

namespace PeatSapient.Dlmm

open HashMap Execution

variable {F : Type}

/-- `stop()` has been called, and `start()` not since. -/
def calledStop (call : Nat) : Trace (Dlmm F) (DlmmAction F) → Bool
  | [] => false
  | (_, .stop other) :: earlier => other == call || calledStop call earlier
  | (_, .start) :: _ => false
  | _ :: earlier => calledStop call earlier

def opens : ConnectLoop → Bool
  | .spawning | .registering _ => true
  | _ => false

/-- The call does not drain the map while the connect loop is about to register a
connection. -/
def drainsInTime (call : Nat) (state : Dlmm F) : DlmmAction F → Bool
  | .advance other =>
      match state.calls other with
      | .draining => other != call || !opens state.connectLoop
      | _ => true
  | _ => true

def unserved : ConnectLoop → Bool
  | .idle | .dialling | .spawning | .checking _ | .deregistering _ | .reporting _ => true
  | _ => false

inductive Covered (state : Dlmm F) : Prop where
  | finished (done : gone state.peerLoop = true)
  | aborted (dead : state.peerAborted = true)
  | called (call : Nat) (peerId : String) (record : PeerRecord)
      (here : state.calls call = .aborting peerId record) (own : record.task = state.current)
  | listed (peerId : String) (record : PeerRecord)
      (found : state.peers.records.lookup peerId = some record)
      (own : record.task = state.current)
  | opening (since : Nat) (here : state.connectLoop = .registering since)

def Shut (state : Dlmm F) : Prop :=
  state.connectLoop = .idle ∨ state.connectAborted = true

structure Held (state : Dlmm F) : Prop where
  covered : Covered state
  behind : unserved state.connectLoop = true → gone state.peerLoop = true
  listener : Shut state ∨ state.listenerTask = true

structure Stopped (state : Dlmm F) : Prop where
  vacant : state.peers.Vacant
  closed : opens state.connectLoop = false

theorem Covered.apart {state after : Dlmm F} (covered : Covered state)
    (apart : Apart state after) : Covered after := by
  cases covered with
  | finished done => exact .finished (apart.peerGone done)
  | aborted dead => exact .aborted (apart.peerAborted.trans dead)
  | called call peerId record here own =>
      exact .called call peerId record (by rw [apart.calls]; exact here)
        (by rw [apart.current]; exact own)
  | listed peerId record found own =>
      exact .listed peerId record (by rw [apart.peers]; exact found)
        (by rw [apart.current]; exact own)
  | opening since here => exact .opening since (apart.connectLoop.trans here)

theorem Held.apart {state after : Dlmm F} (held : Held state) (apart : Apart state after) :
    Held after := by
  refine ⟨held.covered.apart apart, ?_, ?_⟩
  · rw [apart.connectLoop]
    exact fun now => apart.peerGone (held.behind now)
  · unfold Shut
    rw [apart.connectLoop, apart.connectAborted, apart.listenerTask]
    exact held.listener

theorem Stopped.apart {state after : Dlmm F} (stopped : Stopped state)
    (apart : Apart state after) : Stopped after := by
  constructor
  · rw [apart.peers]
    exact stopped.vacant
  · rw [apart.connectLoop]
    exact stopped.closed

theorem Covered.stop {state : Dlmm F} (covered : Covered state) {call : Nat}
    (idle : state.calls call = .idle) : Covered (state.stop call) := by
  cases covered with
  | finished done => exact .finished done
  | aborted dead => exact .aborted dead
  | called other peerId record here own =>
      exact .called other peerId record (PeerCall.aborting_update idle rfl here) own
  | listed peerId record found own => exact .listed peerId record found own
  | opening since here => exact .opening since here

theorem Covered.disconnect {state : Dlmm F} (covered : Covered state) {call : Nat}
    (idle : state.calls call = .idle) (peerId : String) :
    Covered (state.disconnect call peerId) := by
  cases covered with
  | finished done => exact .finished done
  | aborted dead => exact .aborted dead
  | called other otherId record here own =>
      exact .called other otherId record (PeerCall.aborting_update idle rfl here) own
  | listed otherId record found own =>
      by_cases same : otherId = peerId
      · subst same
        refine .called call otherId record ?_ own
        refine (Function.update_self ..).trans ?_
        rw [PeerCall.ofDisconnect, found]
      · refine .listed otherId record ?_ own
        exact (AList.lookup_erase_ne same).trans found
  | opening since here => exact .opening since here

theorem Covered.drain {state : Dlmm F} (covered : Covered state) {call : Nat}
    (draining : state.calls call = .draining) :
    Covered ({ state with
      peerAborted := state.abort state.peers.tasks
      peers := state.peers.drain
      started := none }.setCall call (.returned (.ok ()))) := by
  cases covered with
  | finished done => exact .finished done
  | aborted dead => exact .aborted (by simp [setCall, abort, dead])
  | called other peerId record here own =>
      exact .called other peerId record (PeerCall.aborting_update draining rfl here) own
  | listed peerId record found own =>
      have member := PeerMap.mem_tasks found
      rw [own] at member
      exact .aborted (by simp [setCall, abort, member])
  | opening since here => exact .opening since here

theorem Covered.abortTask {state : Dlmm F} (covered : Covered state) {call : Nat}
    {peerId : String} {record : PeerRecord}
    (aborting : state.calls call = .aborting peerId record) :
    Covered ({ state with peerAborted := state.abort [record.task] }.setCall call
      (.announcing peerId (state.clock - record.connectedAt))) := by
  cases covered with
  | finished done => exact .finished done
  | aborted dead => exact .aborted (by simp [setCall, abort, dead])
  | called other otherId otherRecord here own =>
      by_cases same : other = call
      · subst same
        rw [aborting] at here
        cases here
        exact .aborted (by simp [setCall, abort, own])
      · exact .called other otherId otherRecord ((Function.update_of_ne same ..).trans here) own
  | listed otherId otherRecord found own => exact .listed otherId otherRecord found own
  | opening since here => exact .opening since here

theorem Covered.announce {state : Dlmm F} (covered : Covered state) {call : Nat}
    {peerId : String} {since : Nat} (announcing : state.calls call = .announcing peerId since)
    (event : PeerEvent) :
    Covered ({ state with peers := state.peers.emitEvent event }.setCall call
      (.returned (.ok ()))) := by
  cases covered with
  | finished done => exact .finished done
  | aborted dead => exact .aborted dead
  | called other otherId record here own =>
      exact .called other otherId record (PeerCall.aborting_update announcing rfl here) own
  | listed otherId record found own => exact .listed otherId record found own
  | opening since here => exact .opening since here

theorem Covered.loop {state after : Dlmm F} (covered : Covered state)
    (opened : ∀ since, state.connectLoop ≠ .registering since)
    (peerLoop : after.peerLoop = state.peerLoop) (aborted : after.peerAborted = state.peerAborted)
    (calls : after.calls = state.calls) (current : after.current = state.current)
    (records : after.peers.records = state.peers.records) : Covered after := by
  cases covered with
  | finished done => exact .finished (by rw [peerLoop]; exact done)
  | aborted dead => exact .aborted (aborted.trans dead)
  | called call peerId record here own =>
      exact .called call peerId record (by rw [calls]; exact here) (by rw [current]; exact own)
  | listed peerId record found own =>
      exact .listed peerId record (by rw [records]; exact found) (by rw [current]; exact own)
  | opening since here => exact absurd here (opened since)

variable [FloatOps F]

/-- Whatever runs beside `stop()`, the running peer loop stays covered. -/
theorem held_step (config : DlmmConfig F) {state after : Dlmm F} {action : DlmmAction F}
    (founded : Founded state) (held : Held state) (moved : Moves config state action after) :
    Held after := by
  have apart := apart_of_aside config founded moved
  have listener := held.listener
  have running : ∀ stage, state.connectLoop = stage → stage ≠ .idle →
      state.connectAborted = true ∨ state.listenerTask = true := by
    intro stage here busy
    rcases held.listener with (idle | dead) | listening
    · rw [idle] at here
      exact absurd here.symm busy
    · exact Or.inl dead
    · exact Or.inr listening
  cases moved with
  | elapse | accept | refuse | receive | publish | take | sent | failed | finish
  | cancelPeer => exact held.apart (apart rfl)
  | start =>
      rcases start_cases founded with ⟨idle, started⟩ | apart
      · have rest := held.behind (by rw [idle]; rfl)
        rw [started]
        exact ⟨.finished rest, fun _ => rest, Or.inr rfl⟩
      · exact held.apart apart
  | stop call here =>
      refine ⟨held.covered.stop here, held.behind, ?_⟩
      rcases listener with (idle | dead) | listening
      · exact Or.inl (Or.inl idle)
      · exact Or.inl (Or.inr (by simp [stop, setCall, dead]))
      · exact Or.inl (Or.inr (by simp [stop, setCall, listening]))
  | disconnect call peerId here =>
      exact ⟨held.covered.disconnect here peerId, held.behind, held.listener⟩
  | drain call here => exact ⟨held.covered.drain here, held.behind, held.listener⟩
  | abortTask call peerId record here =>
      exact ⟨held.covered.abortTask here, held.behind, held.listener⟩
  | announce call peerId since here =>
      exact ⟨held.covered.announce here _, held.behind, held.listener⟩
  | connected here =>
      have rest := held.behind (by rw [here]; rfl)
      have listening := running _ here (by simp)
      exact ⟨.finished rest, fun _ => rest, listening.imp_left Or.inr⟩
  | spawn here =>
      have listening := running _ here (by simp)
      exact ⟨.opening _ rfl, fun now => absurd now (by simp [spawnPeer, unserved]),
        listening.imp_left Or.inr⟩
  | register since here =>
      have listening := running _ here (by simp)
      refine ⟨.listed config.peerNodeId ⟨since, state.current⟩ ?_ rfl, fun now => ?_,
        listening.imp_left Or.inr⟩
      · exact AList.lookup_insert _
      · cases now
  | announceOpen since here =>
      have listening := running _ here (by simp)
      refine ⟨held.covered.loop ?_ rfl rfl rfl rfl rfl, fun now => ?_, listening.imp_left Or.inr⟩
      · simp [here]
      · cases now
  | takeBack since here live back =>
      have listening := running _ here (by simp)
      have rest : gone state.peerLoop = true := by rw [back]; rfl
      exact ⟨.finished rest, fun _ => rest, listening.imp_left Or.inr⟩
  | giveUp since here live lost =>
      have listening := running _ here (by simp)
      have rest : gone state.peerLoop = true := by rw [lost]; rfl
      exact ⟨.finished rest, fun _ => rest, listening.imp_left Or.inr⟩
  | recheck since here | leave since here | deregister since here | report since here
  | cancelDialling dead here =>
      have listening := running _ here (by simp)
      have rest := held.behind (by rw [here]; rfl)
      exact ⟨.finished rest, fun _ => rest, listening.imp_left Or.inr⟩
  | cancelTakeBack since dead here back =>
      have rest : gone state.peerLoop = true := by rw [back]; rfl
      exact ⟨.finished rest, fun _ => rest, Or.inl (Or.inr dead)⟩
  | cancelAwaiting since dead here =>
      refine ⟨held.covered.loop ?_ rfl rfl rfl rfl rfl, fun now => ?_, Or.inl (Or.inr dead)⟩
      · simp [here]
      · cases now

theorem held_run (config : DlmmConfig F) {trace : Trace (Dlmm F) (DlmmAction F)}
    {state : Dlmm F} (run : Run (machine config) trace state) : Held state :=
  run.invariant (fun _ state => Held state) ⟨.finished rfl, fun _ => rfl, Or.inl (Or.inl rfl)⟩
    fun _ _ _ _ earlier held taken =>
      held_step config (founded_run config earlier) held (moves_of_step config taken)

theorem shut_step (config : DlmmConfig F) {state after : Dlmm F} {action : DlmmAction F}
    (founded : Founded state) (shut : Shut state) (again : action ≠ .start)
    (moved : Moves config state action after) : Shut after := by
  have apart := apart_of_aside config founded moved
  have dead : ∀ stage, state.connectLoop = stage → stage ≠ .idle →
      state.connectAborted = true := by
    intro stage here busy
    rcases shut with idle | dead
    · rw [idle] at here
      exact absurd here.symm busy
    · exact dead
  cases moved with
  | elapse | accept | refuse | receive | publish | take | sent | failed | finish
  | cancelPeer =>
      unfold Shut
      rw [(apart rfl).connectLoop, (apart rfl).connectAborted]
      exact shut
  | start => exact absurd rfl again
  | stop call here =>
      rcases shut with idle | dead
      · exact Or.inl idle
      · exact Or.inr (by simp [stop, setCall, dead])
  | disconnect | drain | abortTask | announce => exact shut
  | connected here | spawn here | register since here | announceOpen since here
  | takeBack since here | giveUp since here | recheck since here | leave since here
  | deregister since here | report since here =>
      exact Or.inr (dead _ here (by simp))
  | cancelDialling dead | cancelTakeBack _ dead | cancelAwaiting _ dead => exact Or.inr dead

theorem stopped_step (config : DlmmConfig F) {state after : Dlmm F} {action : DlmmAction F}
    (founded : Founded state) (shut : Shut state) (stopped : Stopped state)
    (again : action ≠ .start) (moved : Moves config state action after) : Stopped after := by
  have apart := apart_of_aside config founded moved
  have vacant := stopped.vacant
  have closed := stopped.closed
  cases moved with
  | elapse | accept | refuse | receive | publish | take | sent | failed | finish
  | cancelPeer => exact stopped.apart (apart rfl)
  | start => exact absurd rfl again
  | stop | abortTask | announce => exact ⟨vacant, closed⟩
  | disconnect call peerId here => exact ⟨vacant.remove peerId, closed⟩
  | drain => exact ⟨PeerMap.vacant_drain state.peers, closed⟩
  | connected here live =>
      rcases shut with idle | dead
      · rw [idle] at here
        cases here
      · rw [live] at dead
        cases dead
  | spawn here | register since here =>
      rw [here] at closed
      cases closed
  | deregister since here => exact ⟨vacant.remove config.peerNodeId, rfl⟩
  | announceOpen | takeBack | giveUp | recheck | leave | report | cancelDialling
  | cancelTakeBack | cancelAwaiting => exact ⟨vacant, rfl⟩

omit [FloatOps F] in
theorem calledStop_cons {call : Nat} {before : Dlmm F} {action : DlmmAction F}
    {trace : Trace (Dlmm F) (DlmmAction F)}
    (called : calledStop call ((before, action) :: trace) = true) :
    action = .stop call ∨ action ≠ .start ∧ calledStop call trace = true := by
  cases action with
  | stop other =>
      simp only [calledStop, Bool.or_eq_true, beq_iff_eq] at called
      rcases called with same | past
      · exact Or.inl (by rw [same])
      · exact Or.inr ⟨by simp, past⟩
  | start => cases called
  | _ => exact Or.inr ⟨by simp, called⟩

/-- From its call on, `stop()` keeps the loop from dialling; from the drain on, everything. -/
theorem stop_run (config : DlmmConfig F) {trace : Trace (Dlmm F) (DlmmAction F)}
    {state : Dlmm F} {call : Nat} (run : Run (machine config) trace state)
    (inTime : Meets (fun _ state action => drainsInTime call state action = true) trace) :
    calledStop call trace = true →
      Shut state ∧ (state.calls call = .draining ∨ Stopped state) := by
  refine run.invariant_of_meets (fun _ state action => drainsInTime call state action = true)
    (fun trace state => calledStop call trace = true →
      Shut state ∧ (state.calls call = .draining ∨ Stopped state)) ?_ ?_ inTime
  · intro none_
    cases none_
  · intro trace before action after earlier held timely taken called
    have moved := moves_of_step config taken
    have founded := founded_run config earlier
    rcases calledStop_cons called with rfl | ⟨again, past⟩
    · cases moved with
      | stop _ here =>
          refine ⟨?_, Or.inl (Function.update_self ..)⟩
          rcases (held_run config earlier).listener with (idle | dead) | listening
          · exact Or.inl idle
          · exact Or.inr (by simp [stop, setCall, dead])
          · exact Or.inr (by simp [stop, setCall, listening])
    · obtain ⟨shut, progress⟩ := held past
      refine ⟨shut_step config founded shut again moved, ?_⟩
      rcases progress with draining | stopped
      · rcases calls_kept config founded moved call with kept | idle | ⟨rfl, _⟩
        · exact Or.inl (kept.trans draining)
        · rw [draining] at idle
          cases idle
        · right
          cases moved with
          | drain _ here =>
              have closed : opens before.connectLoop = false := by
                simpa [drainsInTime, here] using timely
              exact ⟨PeerMap.vacant_drain before.peers, closed⟩
          | abortTask _ _ _ here | announce _ _ _ here =>
              rw [draining] at here
              cases here
      · exact Or.inr (stopped_step config founded shut stopped again moved)

theorem stop_final (config : DlmmConfig F) {trace : Trace (Dlmm F) (DlmmAction F)}
    {state : Dlmm F} {call : Nat} (run : Run (machine config) trace state)
    (inTime : Meets (fun _ state action => drainsInTime call state action = true) trace)
    (called : calledStop call trace = true) (returned : state.calls call = .returned (.ok ()))
    (quiet : ∀ other, (state.calls other).holdsTask = false) (settled : Settled state) :
    state.peers.records = ∅ ∧ gone state.peerLoop = true := by
  obtain ⟨_, draining | stopped⟩ := stop_run config run inTime called
  · rw [returned] at draining
    cases draining
  refine ⟨(PeerMap.vacant_iff state.peers).mp stopped.vacant, ?_⟩
  cases (held_run config run).covered with
  | finished done => exact done
  | aborted dead => exact settled.peer dead
  | called other peerId record here own =>
      have free := quiet other
      rw [here] at free
      cases free
  | listed peerId record found own =>
      rw [stopped.vacant peerId] at found
      cases found
  | opening since here =>
      have closed := stopped.closed
      rw [here] at closed
      cases closed

end PeatSapient.Dlmm
