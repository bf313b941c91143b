import PeatSapient.Transport.Dlmm.Stop
import PeatSapient.Transport.Hldmm.Moves

/-! `stop()` in HLDMM mode. A handle is lost where `start()` is called again while an
accept loop runs, and where a connection is registered over the record of one that still
runs. Apart from that it is as in DLMM mode, for each of the receive loops. -/

namespace PeatSapient

open HashMap Execution

variable {F : Type}

namespace Hldmm

def calledStop (call : Nat) : Trace (Hldmm F) (HldmmAction F) → Bool
  | [] => false
  | (_, .stop other) :: earlier => other == call || calledStop call earlier
  | (_, .start) :: _ => false
  | _ :: earlier => calledStop call earlier

def opens : AcceptStage → Bool
  | .spawning _ | .registering _ _ _ => true
  | _ => false

def drainsInTime (call : Nat) (state : Hldmm F) : HldmmAction F → Bool
  | .advance other =>
      match state.calls other with
      | .draining => other != call ||
          decide (∀ accept < state.acceptCount,
            opens (state.acceptLoops accept).stage = false)
      | _ => true
  | _ => true

/-- The step does not lose the handle of a running task. -/
def keepsHandles (state : Hldmm F) : HldmmAction F → Bool
  | .start =>
      match state.listenerTask with
      | none => true
      | some accept => (state.acceptLoops accept).stage == .ended
  | .proceed accept =>
      match (state.acceptLoops accept).stage with
      | .registering peerId _ _ =>
          match state.peers.records.lookup peerId with
          | none => true
          | some record =>
              (state.recvLoops record.task).aborted || gone (state.recvLoops record.task).stage
      | _ => true
  | _ => true

def acceptGone : AcceptStage → Bool
  | .idle | .ended => true
  | _ => false

inductive Covered (state : Hldmm F) (task : Nat) : Prop where
  | finished (done : gone (state.recvLoops task).stage = true)
  | aborted (dead : (state.recvLoops task).aborted = true)
  | called (call : Nat) (peerId : String) (record : PeerRecord)
      (here : state.calls call = .aborting peerId record) (own : record.task = task)
  | listed (peerId : String) (record : PeerRecord)
      (found : state.peers.records.lookup peerId = some record) (own : record.task = task)
  | opening (accept : Nat) (peerId : String) (since : Nat)
      (here : (state.acceptLoops accept).stage = .registering peerId since task)

def Shut (state : Hldmm F) : Prop :=
  ∀ accept, acceptGone (state.acceptLoops accept).stage = true ∨
    (state.acceptLoops accept).aborted = true

structure Held (state : Hldmm F) : Prop where
  covered : ∀ task, Covered state task
  unbegun : ∀ accept, state.acceptCount ≤ accept → (state.acceptLoops accept).stage = .idle
  listener : ∀ accept, acceptGone (state.acceptLoops accept).stage = true ∨
    (state.acceptLoops accept).aborted = true ∨ state.listenerTask = some accept

structure Stopped (state : Hldmm F) : Prop where
  vacant : state.peers.Vacant
  closed : ∀ accept, opens (state.acceptLoops accept).stage = false

theorem Covered.keep {state after : Hldmm F} {task : Nat} (covered : Covered state task)
    (done : gone (state.recvLoops task).stage = true → gone (after.recvLoops task).stage = true)
    (dead : (state.recvLoops task).aborted = true → (after.recvLoops task).aborted = true)
    (calls : ∀ call peerId record, state.calls call = .aborting peerId record →
      after.calls call = .aborting peerId record)
    (records : after.peers.records = state.peers.records)
    (accepts : ∀ accept peerId since,
      (state.acceptLoops accept).stage = .registering peerId since task →
        (after.acceptLoops accept).stage = .registering peerId since task) :
    Covered after task := by
  cases covered with
  | finished gone => exact .finished (done gone)
  | aborted now => exact .aborted (dead now)
  | called call peerId record here own =>
      exact .called call peerId record (calls call peerId record here) own
  | listed peerId record found own =>
      exact .listed peerId record (by rw [records]; exact found) own
  | opening accept peerId since here =>
      exact .opening accept peerId since (accepts accept peerId since here)

theorem Covered.recv {state after : Hldmm F} {task moving : Nat} {loop : RecvLoop F}
    (covered : Covered state task) (running : gone (state.recvLoops moving).stage = false)
    (recvLoops : after.recvLoops = Function.update state.recvLoops moving loop)
    (aborted : loop.aborted = (state.recvLoops moving).aborted)
    (calls : after.calls = state.calls) (peers : after.peers = state.peers)
    (accepts : after.acceptLoops = state.acceptLoops) : Covered after task := by
  apply covered.keep
  · rw [recvLoops]
    by_cases same : task = moving
    · subst same
      rw [running]
      intro none_
      cases none_
    · rw [Function.update_of_ne same]
      exact fun now => now
  · rw [recvLoops]
    by_cases same : task = moving
    · subst same
      rw [Function.update_self, aborted]
      exact fun now => now
    · rw [Function.update_of_ne same]
      exact fun now => now
  · rw [calls]
    exact fun _ _ _ here => here
  · rw [peers]
  · rw [accepts]
    exact fun _ _ _ here => here

theorem Covered.accept {state after : Hldmm F} {task moving : Nat} {loop : AcceptLoop}
    (covered : Covered state task)
    (opened : ∀ peerId since, (state.acceptLoops moving).stage ≠ .registering peerId since task)
    (acceptLoops : after.acceptLoops = Function.update state.acceptLoops moving loop)
    (calls : after.calls = state.calls) (records : after.peers.records = state.peers.records)
    (recvLoops : after.recvLoops = state.recvLoops) : Covered after task := by
  apply covered.keep
  · rw [recvLoops]
    exact fun now => now
  · rw [recvLoops]
    exact fun now => now
  · rw [calls]
    exact fun _ _ _ here => here
  · exact records
  · intro accept peerId since here
    have distinct : accept ≠ moving := by
      rintro rfl
      exact opened peerId since here
    rw [acceptLoops, Function.update_of_ne distinct]
    exact here

theorem Covered.disconnect {state : Hldmm F} {task : Nat} (covered : Covered state task)
    {call : Nat} (idle : state.calls call = .idle) (peerId : String) :
    Covered (state.disconnect call peerId) task := by
  cases covered with
  | finished done => exact .finished done
  | aborted dead => exact .aborted dead
  | called other otherId record here own =>
      exact .called other otherId record (PeerCall.aborting_update idle rfl here) own
  | listed otherId record found own =>
      by_cases same : otherId = peerId
      · subst same
        refine .called call otherId record ?_ own
        refine (Function.update_self ..).trans ?_
        rw [PeerCall.ofDisconnect, found]
      · refine .listed otherId record ?_ own
        exact (AList.lookup_erase_ne same).trans found
  | opening accept otherId since here => exact .opening accept otherId since here

theorem Covered.drain {state : Hldmm F} {task : Nat} (covered : Covered state task)
    {call : Nat} (draining : state.calls call = .draining) :
    Covered ({ state.abortRecvs state.peers.tasks with
      peers := state.peers.drain
      started := none }.setCall call (.returned (.ok ()))) task := by
  cases covered with
  | finished done => exact .finished done
  | aborted dead => exact .aborted (by simp [setCall, abortRecvs, dead])
  | called other peerId record here own =>
      exact .called other peerId record (PeerCall.aborting_update draining rfl here) own
  | listed peerId record found own =>
      have member := PeerMap.mem_tasks found
      rw [own] at member
      exact .aborted (by simp [setCall, abortRecvs, member])
  | opening accept peerId since here => exact .opening accept peerId since here

theorem Covered.abortTask {state : Hldmm F} {task : Nat} (covered : Covered state task)
    {call : Nat} {peerId : String} {record : PeerRecord}
    (aborting : state.calls call = .aborting peerId record) :
    Covered ((state.abortRecvs [record.task]).setCall call
      (.announcing peerId (state.clock - record.connectedAt))) task := by
  cases covered with
  | finished done => exact .finished done
  | aborted dead => exact .aborted (by simp [setCall, abortRecvs, dead])
  | called other otherId otherRecord here own =>
      by_cases same : other = call
      · subst same
        rw [aborting] at here
        cases here
        exact .aborted (by simp [setCall, abortRecvs, own])
      · exact .called other otherId otherRecord ((Function.update_of_ne same ..).trans here) own
  | listed otherId otherRecord found own => exact .listed otherId otherRecord found own
  | opening accept otherId since here => exact .opening accept otherId since here

/-- The record of a loop that still runs is not overwritten. -/
theorem Covered.register {state : Hldmm F} {task : Nat} (covered : Covered state task)
    {accept : Nat} {peerId : String} {since opened : Nat}
    (here : (state.acceptLoops accept).stage = .registering peerId since opened)
    (kept : keepsHandles state (.proceed accept) = true) :
    Covered ({ state with peers := state.peers.registerPeer peerId since opened }.setAccept accept
      (.announcing peerId since)) task := by
  have found : ∀ record, state.peers.records.lookup peerId = some record →
      (state.recvLoops record.task).aborted = true ∨
        gone (state.recvLoops record.task).stage = true := by
    intro record found
    simpa [keepsHandles, here, found] using kept
  cases covered with
  | finished done => exact .finished done
  | aborted dead => exact .aborted dead
  | called call otherId record here own => exact .called call otherId record here own
  | listed otherId record there own =>
      by_cases same : otherId = peerId
      · subst same
        rcases found record there with dead | done
        · exact .aborted (by rw [own] at dead; exact dead)
        · exact .finished (by rw [own] at done; exact done)
      · exact .listed otherId record ((AList.lookup_insert_ne same).trans there) own
  | opening other otherId begun there =>
      by_cases same : other = accept
      · subst same
        rw [here] at there
        cases there
        exact .listed peerId _ (AList.lookup_insert _) rfl
      · refine .opening other otherId begun ?_
        simpa [setAccept, same] using there

theorem Covered.spawn {state : Hldmm F} {task : Nat} (covered : Covered state task)
    {accept : Nat} {peerId : String}
    (here : (state.acceptLoops accept).stage = .spawning peerId) :
    Covered (state.spawnRecv accept peerId) task := by
  by_cases latest : task = state.recvCount
  · subst latest
    refine .opening accept peerId state.clock ?_
    simp [spawnRecv, setAccept]
  · apply covered.keep
    · simp [spawnRecv, setAccept, latest]
    · simp [spawnRecv, setAccept, latest]
    · exact fun _ _ _ here => here
    · rfl
    · intro other otherId since there
      have distinct : other ≠ accept := by
        rintro rfl
        rw [here] at there
        cases there
      simpa [spawnRecv, setAccept, distinct] using there

variable [FloatOps F]

theorem covered_step (prost : Codec.Prost (SapientMessage F)) {state after : Hldmm F}
    {action : HldmmAction F} (held : Held state) (kept : keepsHandles state action = true)
    (moved : Moves prost state action after) (task : Nat) : Covered after task := by
  have covered := held.covered task
  cases moved with
  | elapse | refused =>
      exact covered.keep (fun now => now) (fun now => now) (fun _ _ _ here => here) rfl
        fun _ _ _ here => here
  | start =>
      refine covered.accept ?_ rfl rfl rfl rfl
      intro peerId since
      rw [held.unbegun state.acceptCount le_rfl]
      simp
  | stop call here =>
      exact covered.keep (fun now => now) (fun now => now)
        (fun _ _ _ => PeerCall.aborting_update here rfl) rfl fun _ _ _ here => here
  | disconnect call peerId here => exact covered.disconnect here peerId
  | drain call here => exact covered.drain here
  | abortTask call peerId record here => exact covered.abortTask here
  | announce call peerId since here =>
      exact covered.keep (fun now => now) (fun now => now)
        (fun _ _ _ => PeerCall.aborting_update here rfl) rfl fun _ _ _ here => here
  | bound accept ok here | accepted accept peerId here | announceOpen accept peerId since here =>
      refine covered.accept ?_ rfl rfl rfl rfl
      simp [here]
  | cancelAccept accept dead here =>
      refine covered.accept ?_ rfl rfl rfl rfl
      intro peerId since there
      rw [there] at here
      cases here
  | spawn accept peerId here => exact covered.spawn here
  | register accept peerId since opened here => exact covered.register here kept
  | receive moving answer here live =>
      unfold receiveInbound
      split <;> exact covered.recv (by rw [here]; rfl) rfl rfl rfl rfl rfl
  | publish moving publication here | finish moving here =>
      exact covered.recv (by rw [here]; rfl) rfl rfl rfl rfl rfl
  | cancelRecv moving dead here =>
      refine covered.recv ?_ rfl rfl rfl rfl rfl
      cases there : (state.recvLoops moving).stage with
      | receiving | publishing => rfl
      | _ =>
          rw [there] at here
          cases here

omit [FloatOps F] in
theorem Held.accept {state after : Hldmm F} (held : Held state) {moving : Nat}
    {loop : AcceptLoop} (covered : ∀ task, Covered after task)
    (running : acceptGone (state.acceptLoops moving).stage = false)
    (acceptLoops : after.acceptLoops = Function.update state.acceptLoops moving loop)
    (aborted : loop.aborted = (state.acceptLoops moving).aborted)
    (acceptCount : after.acceptCount = state.acceptCount)
    (listenerTask : after.listenerTask = state.listenerTask) : Held after := by
  refine ⟨covered, ?_, ?_⟩
  · rw [acceptCount, acceptLoops]
    intro accept beyond
    have distinct : accept ≠ moving := by
      rintro rfl
      rw [held.unbegun accept beyond] at running
      cases running
    rw [Function.update_of_ne distinct]
    exact held.unbegun accept beyond
  · rw [listenerTask, acceptLoops]
    intro accept
    by_cases same : accept = moving
    · subst same
      right
      rw [Function.update_self, aborted]
      have listener := held.listener accept
      rw [running] at listener
      simpa using listener
    · rw [Function.update_of_ne same]
      exact held.listener accept

theorem held_step (prost : Codec.Prost (SapientMessage F)) {state after : Hldmm F}
    {action : HldmmAction F} (held : Held state) (kept : keepsHandles state action = true)
    (moved : Moves prost state action after) : Held after := by
  have covered := covered_step prost held kept moved
  cases moved with
  | elapse | refused | disconnect | drain | abortTask | announce | publish | finish
  | cancelRecv => exact ⟨covered, held.unbegun, held.listener⟩
  | receive task answer here live =>
      revert covered
      unfold receiveInbound
      split <;> exact fun covered => ⟨covered, held.unbegun, held.listener⟩
  | start =>
      refine ⟨covered, ?_, ?_⟩
      · intro accept beyond
        have beyond : state.acceptCount + 1 ≤ accept := beyond
        have distinct : accept ≠ state.acceptCount := by omega
        exact (congrArg AcceptLoop.stage (Function.update_of_ne distinct ..)).trans
          (held.unbegun accept (by omega))
      · intro accept
        by_cases same : accept = state.acceptCount
        · subst same
          exact Or.inr (Or.inr rfl)
        · have unchanged : state.start.acceptLoops accept = state.acceptLoops accept :=
            Function.update_of_ne same ..
          rw [unchanged]
          -- The handle that is overwritten is that of a loop that has ended.
          rcases held.listener accept with done | dead | handle
          · exact Or.inl done
          · exact Or.inr (Or.inl dead)
          · have ended : (state.acceptLoops accept).stage = .ended := by
              simpa [keepsHandles, handle] using kept
            exact Or.inl (by rw [ended]; rfl)
  | stop call here =>
      refine ⟨covered, held.unbegun, fun accept => ?_⟩
      rcases held.listener accept with done | dead | handle
      · exact Or.inl done
      · exact Or.inr (Or.inl (by simp [stop, setCall, abortAccept, dead]))
      · exact Or.inr (Or.inl (by simp [stop, setCall, abortAccept, handle]))
  | bound accept ok here | accepted accept peerId here | announceOpen accept peerId since here
  | spawn accept peerId here | register accept peerId since opened here =>
      exact held.accept covered (by rw [here]; rfl) rfl rfl rfl rfl
  | cancelAccept accept dead here =>
      have running : acceptGone (state.acceptLoops accept).stage = false := by
        cases there : (state.acceptLoops accept).stage with
        | idle | ended =>
            rw [there] at here
            cases here
        | _ => rfl
      exact held.accept covered running rfl rfl rfl rfl

theorem held_run (prost : Codec.Prost (SapientMessage F))
    {trace : Trace (Hldmm F) (HldmmAction F)} {state : Hldmm F}
    (run : Run (machine prost) trace state)
    (kept : Meets (fun _ state action => keepsHandles state action = true) trace) :
    Held state := by
  refine run.invariant_of_meets (fun _ state action => keepsHandles state action = true)
    (fun _ state => Held state) ?_ ?_ kept
  · exact ⟨fun _ => .finished rfl, fun _ _ => rfl, fun _ => Or.inl rfl⟩
  · intro trace before action after earlier held kept taken
    exact held_step prost held kept (moves_of_step prost taken)

omit [FloatOps F] in
theorem Shut.accept {state after : Hldmm F} (shut : Shut state) {moving : Nat}
    {loop : AcceptLoop} (running : acceptGone (state.acceptLoops moving).stage = false)
    (acceptLoops : after.acceptLoops = Function.update state.acceptLoops moving loop)
    (aborted : loop.aborted = (state.acceptLoops moving).aborted) : Shut after := by
  intro accept
  rw [acceptLoops]
  by_cases same : accept = moving
  · subst same
    right
    rw [Function.update_self, aborted]
    exact (shut accept).resolve_left (by simp [running])
  · rw [Function.update_of_ne same]
    exact shut accept

theorem shut_step (prost : Codec.Prost (SapientMessage F)) {state after : Hldmm F}
    {action : HldmmAction F} (shut : Shut state) (again : action ≠ .start)
    (moved : Moves prost state action after) : Shut after := by
  cases moved with
  | elapse | refused | disconnect | drain | abortTask | announce | publish | finish
  | cancelRecv => exact shut
  | receive task answer here live =>
      unfold receiveInbound
      split <;> exact shut
  | start => exact absurd rfl again
  | stop call here =>
      intro accept
      rcases shut accept with done | dead
      · exact Or.inl done
      · exact Or.inr (by simp [stop, setCall, abortAccept, dead])
  | bound accept ok here | accepted accept peerId here | announceOpen accept peerId since here
  | spawn accept peerId here | register accept peerId since opened here =>
      exact shut.accept (by rw [here]; rfl) rfl rfl
  | cancelAccept accept dead here =>
      intro other
      by_cases same : other = accept
      · subst same
        exact Or.inr (by simp [setAccept, dead])
      · rcases shut other with done | dead
        · exact Or.inl (by simpa [setAccept, same] using done)
        · exact Or.inr (by simpa [setAccept, same] using dead)

omit [FloatOps F] in
theorem Stopped.accept {state after : Hldmm F} (stopped : Stopped state) {moving : Nat}
    {loop : AcceptLoop}
    (acceptLoops : after.acceptLoops = Function.update state.acceptLoops moving loop)
    (closed : opens loop.stage = false) (records : after.peers.records = state.peers.records) :
    Stopped after := by
  constructor
  · intro peerId
    rw [records]
    exact stopped.vacant peerId
  · rw [acceptLoops]
    intro accept
    by_cases same : accept = moving
    · subst same
      rw [Function.update_self]
      exact closed
    · rw [Function.update_of_ne same]
      exact stopped.closed accept

/-- Once the map is drained, no connection is accepted or registered any more. -/
theorem stopped_step (prost : Codec.Prost (SapientMessage F)) {state after : Hldmm F}
    {action : HldmmAction F} (shut : Shut state) (stopped : Stopped state)
    (again : action ≠ .start) (moved : Moves prost state action after) : Stopped after := by
  have vacant := stopped.vacant
  have closed := stopped.closed
  cases moved with
  | elapse | refused | stop | abortTask | announce | publish | finish | cancelRecv =>
      exact ⟨vacant, closed⟩
  | receive task answer here live =>
      unfold receiveInbound
      split <;> exact ⟨vacant, closed⟩
  | start => exact absurd rfl again
  | disconnect call peerId here => exact ⟨vacant.remove peerId, closed⟩
  | drain => exact ⟨PeerMap.vacant_drain state.peers, closed⟩
  | accepted accept peerId here live =>
      rcases shut accept with done | dead
      · rw [here] at done
        cases done
      · rw [live] at dead
        cases dead
  | spawn accept peerId here | register accept peerId since opened here =>
      have closed := closed accept
      rw [here] at closed
      cases closed
  | bound accept ok here =>
      refine stopped.accept rfl ?_ rfl
      cases ok <;> rfl
  | announceOpen accept peerId since here => exact stopped.accept rfl rfl rfl
  | cancelAccept accept dead here => exact stopped.accept rfl rfl rfl

omit [FloatOps F] in
theorem calledStop_cons {call : Nat} {before : Hldmm F} {action : HldmmAction F}
    {trace : Trace (Hldmm F) (HldmmAction F)}
    (called : calledStop call ((before, action) :: trace) = true) :
    action = .stop call ∨ action ≠ .start ∧ calledStop call trace = true := by
  cases action with
  | stop other =>
      simp only [calledStop, Bool.or_eq_true, beq_iff_eq] at called
      rcases called with same | past
      · exact Or.inl (by rw [same])
      · exact Or.inr ⟨by simp, past⟩
  | start => cases called
  | _ => exact Or.inr ⟨by simp, called⟩

theorem stop_run (prost : Codec.Prost (SapientMessage F))
    {trace : Trace (Hldmm F) (HldmmAction F)} {state : Hldmm F} {call : Nat}
    (run : Run (machine prost) trace state)
    (kept : Meets (fun _ state action => keepsHandles state action = true) trace)
    (inTime : Meets (fun _ state action => drainsInTime call state action = true) trace) :
    calledStop call trace = true →
      Shut state ∧ (state.calls call = .draining ∨ Stopped state) := by
  revert kept
  refine run.invariant_of_meets (fun _ state action => drainsInTime call state action = true)
    (fun trace state => Meets (fun _ state action => keepsHandles state action = true) trace →
      calledStop call trace = true →
        Shut state ∧ (state.calls call = .draining ∨ Stopped state)) ?_ ?_ inTime
  · intro _ none_
    cases none_
  · intro trace before action after earlier ih timely taken kept called
    have moved := moves_of_step prost taken
    have held := held_run prost earlier kept.2
    rcases calledStop_cons called with rfl | ⟨again, past⟩
    · cases moved with
      | stop _ here =>
          refine ⟨fun accept => ?_, Or.inl (Function.update_self ..)⟩
          rcases held.listener accept with done | dead | handle
          · exact Or.inl done
          · exact Or.inr (by simp [stop, setCall, abortAccept, dead])
          · exact Or.inr (by simp [stop, setCall, abortAccept, handle])
    · obtain ⟨shut, progress⟩ := ih kept.2 past
      refine ⟨shut_step prost shut again moved, ?_⟩
      rcases progress with draining | stopped
      · rcases calls_kept prost moved call with same | idle | ⟨rfl, _⟩
        · exact Or.inl (same.trans draining)
        · rw [draining] at idle
          cases idle
        · right
          cases moved with
          | drain _ here =>
              refine ⟨PeerMap.vacant_drain before.peers, fun accept => ?_⟩
              by_cases begun : accept < before.acceptCount
              · have closed : ∀ accept < before.acceptCount,
                    opens (before.acceptLoops accept).stage = false := by
                  simpa [drainsInTime, here] using timely
                exact closed accept begun
              · have idle := held.unbegun accept (Nat.not_lt.mp begun)
                exact (congrArg opens idle).trans rfl
          | abortTask _ _ _ here | announce _ _ _ here =>
              rw [draining] at here
              cases here
      · exact Or.inr (stopped_step prost shut stopped again moved)

theorem stop_final (prost : Codec.Prost (SapientMessage F))
    {trace : Trace (Hldmm F) (HldmmAction F)} {state : Hldmm F} {call : Nat}
    (run : Run (machine prost) trace state)
    (kept : Meets (fun _ state action => keepsHandles state action = true) trace)
    (inTime : Meets (fun _ state action => drainsInTime call state action = true) trace)
    (called : calledStop call trace = true) (returned : state.calls call = .returned (.ok ()))
    (quiet : ∀ other, (state.calls other).holdsTask = false) (settled : Settled state) :
    state.peers.records = ∅ ∧ ∀ task, gone (state.recvLoops task).stage = true := by
  obtain ⟨_, draining | stopped⟩ := stop_run prost run kept inTime called
  · rw [returned] at draining
    cases draining
  refine ⟨(PeerMap.vacant_iff state.peers).mp stopped.vacant, fun task => ?_⟩
  cases (held_run prost run kept).covered task with
  | finished done => exact done
  | aborted dead => exact settled.recv task dead
  | called other peerId record here own =>
      have free := quiet other
      rw [here] at free
      cases free
  | listed peerId record found own =>
      rw [stopped.vacant peerId] at found
      cases found
  | opening accept peerId since here =>
      have closed := stopped.closed accept
      rw [here] at closed
      cases closed

end Hldmm

/-- Where no map is drained while a loop is about to register a connection, and no handle of
a running task is lost, `stop()` leaves nothing running in either role: an empty map, and
no receive loop that could still publish. -/
theorem stop_leaves_nothing [FloatOps F] :
    (∀ (config : DlmmConfig F) (trace : Trace (Dlmm F) (DlmmAction F)) (state : Dlmm F)
      (call : Nat), Run (Dlmm.machine config) trace state →
      Meets (fun _ state action => Dlmm.drainsInTime call state action = true) trace →
      Dlmm.calledStop call trace = true → state.calls call = .returned (.ok ()) →
      (∀ other, (state.calls other).holdsTask = false) → Dlmm.Settled state →
      state.peers.records = ∅ ∧ Dlmm.gone state.peerLoop = true) ∧
    ∀ (prost : Codec.Prost (SapientMessage F)) (trace : Trace (Hldmm F) (HldmmAction F))
      (state : Hldmm F) (call : Nat), Run (Hldmm.machine prost) trace state →
      Meets (fun _ state action => Hldmm.keepsHandles state action = true) trace →
      Meets (fun _ state action => Hldmm.drainsInTime call state action = true) trace →
      Hldmm.calledStop call trace = true → state.calls call = .returned (.ok ()) →
      (∀ other, (state.calls other).holdsTask = false) → Hldmm.Settled state →
      state.peers.records = ∅ ∧ ∀ task, Hldmm.gone (state.recvLoops task).stage = true := by
  constructor
  · intro config trace state call run inTime called returned quiet settled
    exact Dlmm.stop_final config run inTime called returned quiet settled
  · intro prost trace state call run kept inTime called returned quiet settled
    exact Hldmm.stop_final prost run kept inTime called returned quiet settled

/-- `stop()` with a connection registered, from its first step to the last of the tasks. -/
theorem stop_leaves_nothing_connected :
    (∃ state : Dlmm Float, state.peers.records = ∅ ∧ Dlmm.gone state.peerLoop = true) ∧
    ∃ state : Hldmm Float, state.peers.records = ∅ ∧
      ∀ task, Hldmm.gone (state.recvLoops task).stage = true :=
  ⟨⟨_, stop_leaves_nothing.1 Dlmm.sampleConfig _ _ 0
    (replay_reachable [.start, .connected, .proceed, .proceed, .proceed, .stop 0, .advance 0,
      .cancelPeer, .cancelConnect] rfl) (by decide) rfl rfl
    (fun other => match other with
      | 0 => rfl
      | _ + 1 => rfl) ⟨fun _ => rfl, fun _ => rfl⟩⟩,
  ⟨_, stop_leaves_nothing.2 Dlmm.sampleConfig.prost _ _ 0
    (replay_reachable [.start, .bound 0 true, .accepted 0 (.ok "10.0.0.7:40112"), .proceed 0,
      .proceed 0, .proceed 0, .stop 0, .advance 0, .cancelRecv 0, .cancelAccept 0] rfl)
    (by decide) (by decide) rfl rfl
    (fun other => match other with
      | 0 => rfl
      | _ + 1 => rfl)
    ⟨fun accept => match accept with
      | 0 => fun _ => rfl
      | _ + 1 => fun dead => (by cases dead),
    fun task => match task with
      | 0 => fun _ => rfl
      | _ + 1 => fun _ => rfl⟩⟩⟩

/-- A loop that has its connection when `stop()` drains the map goes on to register it, and
the receive loop stays. -/
theorem stop_overtaken :
    ¬ (∀ (trace : Trace (Dlmm Float) (DlmmAction Float)) (state : Dlmm Float) (call : Nat),
      Run (Dlmm.machine Dlmm.sampleConfig) trace state → Dlmm.calledStop call trace = true →
      state.calls call = .returned (.ok ()) → Dlmm.Settled state →
      state.peers.records = ∅ ∧ Dlmm.gone state.peerLoop = true) ∧
    ¬ ∀ (trace : Trace (Hldmm Float) (HldmmAction Float)) (state : Hldmm Float) (call : Nat),
      Run (Hldmm.machine Dlmm.sampleConfig.prost) trace state →
      Hldmm.calledStop call trace = true → state.calls call = .returned (.ok ()) →
      Hldmm.Settled state →
      state.peers.records = ∅ ∧ ∀ task, Hldmm.gone (state.recvLoops task).stage = true := by
  constructor
  · intro stopped
    have left := stopped _ _ 0 (replay_reachable [.start, .connected, .stop 0, .advance 0,
      .proceed, .proceed, .proceed, .cancelConnect] rfl) rfl rfl
      ⟨fun _ => rfl, fun dead => (by cases dead)⟩
    exact absurd left.2 (by decide)
  · intro stopped
    have left := stopped _ _ 0 (replay_reachable [.start, .bound 0 true,
      .accepted 0 (.ok "10.0.0.7:40112"), .stop 0, .advance 0, .proceed 0, .proceed 0,
      .proceed 0, .cancelAccept 0] rfl) rfl rfl
      ⟨fun accept => match accept with
        | 0 => fun _ => rfl
        | _ + 1 => fun dead => (by cases dead),
      fun task => match task with
        | 0 => fun dead => (by cases dead)
        | _ + 1 => fun _ => rfl⟩
    exact absurd (left.2 0) (by decide)

end PeatSapient
