import PeatSapient.Transport.Dlmm.Health
import PeatSapient.Transport.Hldmm.Latest

/-! Whose connections are alive in HLDMM mode. The handle of a receive loop is in one place
at a time: with the accept loop that spawned it, in the map, or with the `disconnect()` that
took it out. A loop whose handle is in the map has not been aborted, so that its flag tells
whether it still runs. -/

namespace PeatSapient

open HashMap Execution

variable {F : Type}

namespace Hldmm

/-- Who can have the handle of a receive loop. -/
inductive Holder where
  | accept (accept : Nat)
  | record (peerId : String)
  | call (call : Nat)
  deriving DecidableEq

def holds (state : Hldmm F) (task : Nat) : Holder → Prop
  | .accept accept => ∃ peerId since,
      (state.acceptLoops accept).stage = .registering peerId since task
  | .record peerId => ∃ since, state.peers.records.lookup peerId = some ⟨since, task⟩
  | .call call => ∃ peerId since, state.calls call = .aborting peerId ⟨since, task⟩

structure Custody (state : Hldmm F) : Prop where
  unique : ∀ task holder other, holds state task holder → holds state task other →
    holder = other
  live : ∀ task holder, holds state task holder →
    (state.recvLoops task).aborted = false ∧ task < state.recvCount

def flagged : RecvStage F → Bool
  | .idle | .returned => false
  | _ => true

structure Flags (state : Hldmm F) : Prop where
  alive : ∀ task, (state.recvLoops task).alive = flagged (state.recvLoops task).stage
  spawned : ∀ task, task < state.recvCount → (state.recvLoops task).stage ≠ .idle
  fresh : ∀ task, state.recvCount ≤ task → (state.recvLoops task).stage = .idle
  cancelled : ∀ task, (state.recvLoops task).stage = .cancelled →
    (state.recvLoops task).aborted = true

theorem Custody.shrink {state after : Hldmm F} (custody : Custody state)
    (held : ∀ task holder, holds after task holder → holds state task holder ∧
      ((state.recvLoops task).aborted = false → (after.recvLoops task).aborted = false))
    (count : after.recvCount = state.recvCount) : Custody after where
  unique task holder other left right :=
    custody.unique task holder other (held task holder left).1 (held task other right).1
  live task holder here := by
    obtain ⟨before, kept⟩ := held task holder here
    obtain ⟨live, known⟩ := custody.live task holder before
    exact ⟨kept live, count ▸ known⟩

/-- One holder passes a handle on to another. -/
theorem Custody.pass {state after : Hldmm F} (custody : Custody state) (giver taker : Holder)
    (held : ∀ task holder, holds after task holder →
      (holder = taker ∧ holds state task giver) ∨
        (holder ≠ giver ∧ holder ≠ taker ∧ holds state task holder))
    (loops : after.recvLoops = state.recvLoops) (count : after.recvCount = state.recvCount) :
    Custody after where
  unique task holder other left right := by
    rcases held task holder left with ⟨rfl, given⟩ | ⟨away, elsewhere, before⟩
    · rcases held task other right with ⟨rfl, _⟩ | ⟨away, _, before⟩
      · rfl
      · exact absurd (custody.unique task _ _ before given) away
    · rcases held task other right with ⟨rfl, given⟩ | ⟨_, _, also⟩
      · exact absurd (custody.unique task _ _ before given) away
      · exact custody.unique task _ _ before also
  live task holder here := by
    rw [loops, count]
    rcases held task holder here with ⟨_, before⟩ | ⟨_, _, before⟩
    · exact custody.live task _ before
    · exact custody.live task _ before

/-- The map has no handle that another holder has. -/
theorem Custody.spared {state : Hldmm F} (custody : Custody state) {task : Nat}
    {holder : Holder} (held : holds state task holder)
    (away : ∀ peerId, holder ≠ .record peerId) : task ∉ state.peers.tasks := by
  intro member
  obtain ⟨⟨peerId, record⟩, listed, rfl⟩ := List.mem_map.mp member
  have found := (entry_iff_lookup _ _ _).mp listed
  exact away peerId (custody.unique _ holder _ held ⟨record.connectedAt, found⟩)

theorem holds_setCall {state : Hldmm F} {call task : Nat} {stage : PeerCall} {holder : Holder}
    (free : ∀ peerId record, stage ≠ .aborting peerId record)
    (here : holds (state.setCall call stage) task holder) :
    holds state task holder ∧ holder ≠ .call call := by
  cases holder with
  | accept accept => exact ⟨here, by simp⟩
  | record peerId => exact ⟨here, by simp⟩
  | call other =>
      obtain ⟨peerId, since, there⟩ := here
      by_cases own : other = call
      · subst own
        simp only [setCall, Function.update_self] at there
        exact absurd there (free peerId _)
      · simp only [setCall, Function.update_of_ne own] at there
        exact ⟨⟨peerId, since, there⟩, by simpa using own⟩

theorem holds_setAccept {state : Hldmm F} {accept task : Nat} {stage : AcceptStage}
    {holder : Holder} (free : ∀ peerId since opened, stage ≠ .registering peerId since opened)
    (here : holds (state.setAccept accept stage) task holder) :
    holds state task holder ∧ holder ≠ .accept accept := by
  cases holder with
  | record peerId => exact ⟨here, by simp⟩
  | call call => exact ⟨here, by simp⟩
  | accept other =>
      obtain ⟨peerId, since, there⟩ := here
      by_cases own : other = accept
      · subst own
        simp only [setAccept, Function.update_self] at there
        exact absurd there (free peerId since task)
      · simp only [setAccept, Function.update_of_ne own] at there
        exact ⟨⟨peerId, since, there⟩, by simpa using own⟩

theorem aborted_update {loops : Nat → RecvLoop F} {moving : Nat} {loop : RecvLoop F}
    (same : loop.aborted = (loops moving).aborted) (task : Nat) :
    (Function.update loops moving loop task).aborted = (loops task).aborted := by
  by_cases own : task = moving
  · subst own
    rw [Function.update_self, same]
  · rw [Function.update_of_ne own]

theorem Custody.recv {state after : Hldmm F} (custody : Custody state) {moving : Nat}
    {loop : RecvLoop F} (loops : after.recvLoops = Function.update state.recvLoops moving loop)
    (same : loop.aborted = (state.recvLoops moving).aborted)
    (held : ∀ task holder, holds after task holder → holds state task holder)
    (count : after.recvCount = state.recvCount) : Custody after := by
  refine custody.shrink (fun task holder here => ⟨held task holder here, fun live => ?_⟩) count
  rw [loops, aborted_update same]
  exact live

theorem Custody.spawn {state : Hldmm F} (custody : Custody state) {accept : Nat}
    {peerId : String} (here : (state.acceptLoops accept).stage = .spawning peerId) :
    Custody (state.spawnRecv accept peerId) := by
  have held : ∀ task holder, holds (state.spawnRecv accept peerId) task holder →
      (holder = .accept accept ∧ task = state.recvCount) ∨
        (holder ≠ .accept accept ∧ holds state task holder) := by
    intro task holder there
    cases holder with
    | record other => exact Or.inr ⟨by simp, there⟩
    | call call => exact Or.inr ⟨by simp, there⟩
    | accept other =>
        obtain ⟨otherId, since, there⟩ := there
        by_cases own : other = accept
        · subst own
          simp only [spawnRecv, setAccept, Function.update_self, AcceptStage.registering.injEq]
            at there
          exact Or.inl ⟨rfl, there.2.2.symm⟩
        · simp only [spawnRecv, setAccept, Function.update_of_ne own] at there
          exact Or.inr ⟨by simpa using own, ⟨otherId, since, there⟩⟩
  constructor
  case unique =>
    intro task holder other left right
    rcases held task holder left with ⟨rfl, rfl⟩ | ⟨away, before⟩
    · rcases held _ other right with ⟨rfl, _⟩ | ⟨_, also⟩
      · rfl
      · exact absurd (custody.live _ _ also).2 (Nat.lt_irrefl _)
    · rcases held task other right with ⟨rfl, rfl⟩ | ⟨_, also⟩
      · exact absurd (custody.live _ _ before).2 (Nat.lt_irrefl _)
      · exact custody.unique task _ _ before also
  case live =>
    intro task holder there
    rcases held task holder there with ⟨rfl, rfl⟩ | ⟨away, before⟩
    · exact ⟨by simp [spawnRecv, setAccept], Nat.lt_succ_self _⟩
    · obtain ⟨live, known⟩ := custody.live task holder before
      have other : task ≠ state.recvCount := Nat.ne_of_lt known
      exact ⟨by simpa [spawnRecv, setAccept, other] using live, Nat.lt_succ_of_lt known⟩

theorem Flags.recv {state after : Hldmm F} (flags : Flags state) {moving : Nat}
    {loop : RecvLoop F} (running : (state.recvLoops moving).stage ≠ .idle)
    (loops : after.recvLoops = Function.update state.recvLoops moving loop)
    (alive : loop.alive = flagged loop.stage) (busy : loop.stage ≠ .idle)
    (cancelled : loop.stage = .cancelled → loop.aborted = true)
    (count : after.recvCount = state.recvCount) : Flags after := by
  have known : moving < state.recvCount := by
    by_contra beyond
    exact running (flags.fresh moving (Nat.le_of_not_lt beyond))
  constructor
  all_goals
    rw [loops]
    intro task
    by_cases own : task = moving
    · subst own
      rw [Function.update_self]
      first
        | exact alive
        | exact fun _ => busy
        | exact cancelled
        | exact fun beyond => absurd known (Nat.not_lt.mpr (count ▸ beyond))
    · rw [Function.update_of_ne own]
      first
        | exact flags.alive task
        | exact flags.cancelled task
        | exact count ▸ flags.spawned task
        | exact count ▸ flags.fresh task

theorem Flags.abort {state after : Hldmm F} (flags : Flags state)
    (stages : ∀ task, (after.recvLoops task).stage = (state.recvLoops task).stage)
    (alive : ∀ task, (after.recvLoops task).alive = (state.recvLoops task).alive)
    (aborted : ∀ task, (state.recvLoops task).aborted = true →
      (after.recvLoops task).aborted = true)
    (count : after.recvCount = state.recvCount) : Flags after where
  alive task := by rw [alive, stages, flags.alive]
  spawned task known := by
    rw [stages]
    exact flags.spawned task (count ▸ known)
  fresh task beyond := by
    rw [stages]
    exact flags.fresh task (count ▸ beyond)
  cancelled task here := by
    rw [stages] at here
    exact aborted task (flags.cancelled task here)

theorem Flags.spawn {state : Hldmm F} (flags : Flags state) (accept : Nat) (peerId : String) :
    Flags (state.spawnRecv accept peerId) := by
  have others : ∀ task, task ≠ state.recvCount →
      (state.spawnRecv accept peerId).recvLoops task = state.recvLoops task := by
    intro task away
    simp [spawnRecv, setAccept, away]
  have latest : (state.spawnRecv accept peerId).recvLoops state.recvCount =
      ⟨peerId, .receiving, false, true⟩ := by simp [spawnRecv, setAccept]
  have count : (state.spawnRecv accept peerId).recvCount = state.recvCount + 1 := rfl
  constructor
  case alive =>
    intro task
    by_cases own : task = state.recvCount
    · subst own
      rw [latest]
      rfl
    · rw [others task own]
      exact flags.alive task
  case spawned =>
    intro task known
    by_cases own : task = state.recvCount
    · subst own
      rw [latest]
      simp
    · rw [others task own]
      exact flags.spawned task (by omega)
  case fresh =>
    intro task beyond
    rw [others task (by omega)]
    exact flags.fresh task (by omega)
  case cancelled =>
    intro task here
    by_cases own : task = state.recvCount
    · subst own
      rw [latest] at here
      cases here
    · rw [others task own] at here ⊢
      exact flags.cancelled task here

def alive (state : Hldmm F) (task : Nat) : Bool := (state.recvLoops task).alive

variable [FloatOps F]

theorem flags_step (prost : Codec.Prost (SapientMessage F)) {state after : Hldmm F}
    {action : HldmmAction F} (flags : Flags state) (moved : Moves prost state action after) :
    Flags after := by
  cases moved with
  | spawn accept peerId here => exact flags.spawn accept peerId
  | drain call here | abortTask call peerId record here =>
      refine flags.abort (fun task => rfl) (fun task => rfl) (fun task dead => ?_) rfl
      simp [setCall, abortRecvs, dead]
  | receive task answer here live =>
      have set := flags.alive task
      rw [here] at set
      unfold receiveInbound
      split
      · refine flags.recv (by simp [here]) rfl ?_ ?_ ?_ rfl
        all_goals
          dsimp only
          split
        all_goals simp [set, flagged]
      · exact flags.recv (by simp [here]) rfl set (by simp) (by simp) rfl
      · exact flags.recv (by simp [here]) rfl set (by simp) (by simp) rfl
  | publish task publication here live =>
      have set := flags.alive task
      rw [here] at set
      exact flags.recv (by simp [here]) rfl set (by simp) (by simp) rfl
  | finish task here => exact flags.recv (by simp [here]) rfl rfl (by simp) (by simp) rfl
  | cancelRecv task dead here =>
      have set := flags.alive task
      have running : (state.recvLoops task).stage ≠ .idle := by
        intro idle
        rw [idle] at here
        cases here
      refine flags.recv running rfl ?_ (by simp) (fun _ => dead) rfl
      rw [set]
      cases stage : (state.recvLoops task).stage with
      | receiving | publishing | broken | cancelled => rfl
      | idle | returned =>
          rw [stage] at here
          cases here
  | _ => exact flags.abort (fun _ => rfl) (fun _ => rfl) (fun _ dead => dead) rfl

omit [FloatOps F] in
theorem Custody.disconnect {state : Hldmm F} (custody : Custody state) (call : Nat)
    (peerId : String) : Custody (state.disconnect call peerId) := by
  refine custody.pass (.record peerId) (.call call) ?_ rfl rfl
  intro task holder there
  cases holder with
  | accept accept => exact Or.inr ⟨by simp, by simp, there⟩
  | record other =>
      obtain ⟨since, found⟩ := there
      have left := found
      change (state.peers.records.erase peerId).lookup other = _ at left
      rw [lookup_erase_eq] at left
      split at left
      · cases left
      · next away => exact Or.inr ⟨by simpa using away, by simp, since, left⟩
  | call other =>
      obtain ⟨otherId, since, there⟩ := there
      by_cases own : other = call
      · subst own
        simp only [Hldmm.disconnect, setCall, Function.update_self, PeerCall.ofDisconnect] at there
        split at there
        · cases there
        · next record found =>
            cases there
            exact Or.inl ⟨rfl, since, found⟩
      · simp only [Hldmm.disconnect, setCall, Function.update_of_ne own] at there
        exact Or.inr ⟨by simp, by simpa using own, otherId, since, there⟩

omit [FloatOps F] in
theorem Custody.drain {state : Hldmm F} (custody : Custody state) (call : Nat) :
    Custody ({ state.abortRecvs state.peers.tasks with
      peers := state.peers.drain
      started := none }.setCall call (.returned (.ok ()))) := by
  refine custody.shrink (fun task holder there => ?_) rfl
  obtain ⟨before, away⟩ := holds_setCall (by simp) there
  cases holder with
  | record peerId =>
      obtain ⟨since, found⟩ := before
      cases found
  | accept accept =>
      have held : holds state task (.accept accept) := before
      refine ⟨held, fun live => ?_⟩
      simp [setCall, abortRecvs, live, custody.spared held (by simp)]
  | call other =>
      have held : holds state task (.call other) := before
      refine ⟨held, fun live => ?_⟩
      simp [setCall, abortRecvs, live, custody.spared held (by simp)]

omit [FloatOps F] in
theorem Custody.register {state : Hldmm F} (custody : Custody state) (accept : Nat)
    (peerId : String) (since opened : Nat)
    (here : (state.acceptLoops accept).stage = .registering peerId since opened) :
    Custody ({ state with
      peers := state.peers.registerPeer peerId since opened }.setAccept accept
        (.announcing peerId since)) := by
  refine custody.pass (.accept accept) (.record peerId) ?_ rfl rfl
  intro task holder there
  obtain ⟨there, away⟩ := holds_setAccept (by simp) there
  cases holder with
  | accept other => exact Or.inr ⟨away, by simp, there⟩
  | call call => exact Or.inr ⟨by simp, by simp, there⟩
  | record other =>
      obtain ⟨begun, found⟩ := there
      change (state.peers.records.insert peerId _).lookup other = _ at found
      rw [lookup_insert_eq] at found
      split at found
      · next own =>
          cases found
          exact Or.inl ⟨by rw [own], peerId, since, here⟩
      · next other => exact Or.inr ⟨by simp, by simpa using other, begun, found⟩

theorem custody_step (prost : Codec.Prost (SapientMessage F)) {state after : Hldmm F}
    {action : HldmmAction F} (custody : Custody state)
    (moved : Moves prost state action after) : Custody after := by
  cases moved with
  | elapse | refused =>
      exact custody.shrink (fun task holder here => ⟨here, fun live => live⟩) rfl
  | start =>
      refine custody.shrink (fun task holder here => ⟨?_, fun live => live⟩) rfl
      cases holder with
      | record | call => exact here
      | accept accept =>
          obtain ⟨peerId, since, there⟩ := here
          by_cases latest : accept = state.acceptCount
          · subst latest
            simp [start] at there
          · exact ⟨peerId, since, by simpa [start, latest] using there⟩
  | stop call here =>
      refine custody.shrink (fun task holder there => ⟨?_, fun live => live⟩) rfl
      exact (holds_setCall (by simp) there).1
  | disconnect call peerId here =>
      exact custody.disconnect call peerId
  | drain call here =>
      exact custody.drain call
  | abortTask call peerId record here =>
      refine custody.shrink (fun task holder there => ?_) rfl
      obtain ⟨before, away⟩ := holds_setCall (by simp) there
      refine ⟨before, fun live => ?_⟩
      have spared : task ≠ record.task := by
        rintro rfl
        exact away (custody.unique _ holder (.call call) before ⟨peerId, record.connectedAt, here⟩)
      simp [setCall, abortRecvs, live, spared]
  | announce call peerId since here =>
      exact custody.shrink
        (fun task holder there => ⟨(holds_setCall (by simp) there).1, fun live => live⟩) rfl
  | bound accept ok here live =>
      refine custody.shrink (fun task holder there => ⟨?_, fun live => live⟩) rfl
      exact (holds_setAccept (by cases ok <;> simp) there).1
  | accepted accept peerId here live | announceOpen accept peerId since here
  | cancelAccept accept dead here =>
      exact custody.shrink
        (fun task holder there => ⟨(holds_setAccept (by simp) there).1, fun live => live⟩) rfl
  | spawn accept peerId here => exact custody.spawn here
  | register accept peerId since opened here =>
      exact custody.register accept peerId since opened here
  | receive task answer here live =>
      unfold receiveInbound
      split <;>
        exact custody.recv rfl rfl (fun task holder there => there) rfl
  | publish task publication here live | finish task here | cancelRecv task dead here =>
      exact custody.recv rfl rfl (fun task holder there => there) rfl

theorem custody_run (prost : Codec.Prost (SapientMessage F))
    {trace : Trace (Hldmm F) (HldmmAction F)} {state : Hldmm F}
    (run : Run (machine prost) trace state) : Custody state := by
  refine run.invariant (fun _ state => Custody state) ⟨?_, ?_⟩ ?_
  · rintro task (accept | peerId | call) other ⟨left, here⟩
    · obtain ⟨since, there⟩ := here
      cases there
    · cases here
    · obtain ⟨since, there⟩ := here
      cases there
  · rintro task (accept | peerId | call) ⟨left, here⟩
    · obtain ⟨since, there⟩ := here
      cases there
    · cases here
    · obtain ⟨since, there⟩ := here
      cases there
  · intro trace before action after _ custody taken
    exact custody_step prost custody (moves_of_step prost taken)

theorem flags_run (prost : Codec.Prost (SapientMessage F))
    {trace : Trace (Hldmm F) (HldmmAction F)} {state : Hldmm F}
    (run : Run (machine prost) trace state) : Flags state := by
  refine run.invariant (fun _ state => Flags state) ?_ ?_
  · exact ⟨fun _ => rfl, fun _ known => absurd known (Nat.not_lt_zero _), fun _ _ => rfl, nofun⟩
  · intro trace before action after _ flags taken
    exact flags_step prost flags (moves_of_step prost taken)

theorem visited_spawned (prost : Codec.Prost (SapientMessage F))
    {trace : Trace (Hldmm F) (HldmmAction F)} {state : Hldmm F}
    (run : Run (machine prost) trace state) {earlier : Hldmm F}
    (member : earlier ∈ visited trace state) {peerId : String} {record : PeerRecord}
    (found : earlier.peers.records.lookup peerId = some record) :
    record.task < state.recvCount := by
  induction run with
  | start =>
      rw [List.mem_singleton.mp member] at found
      cases found
  | @next trace before after action run taken ih =>
      rcases List.mem_cons.mp member with rfl | member
      · have custody := custody_run prost (run.next taken)
        exact (custody.live record.task (.record peerId) ⟨record.connectedAt, found⟩).2
      · refine Nat.lt_of_lt_of_le (ih member) ?_
        cases moves_of_step prost taken with
        | spawn => exact Nat.le_succ _
        | receive task answer here live =>
            unfold receiveInbound
            split <;> exact Nat.le_refl _
        | _ => exact Nat.le_refl _

omit [FloatOps F] in
theorem down_iff {state : Hldmm F} (flags : Flags state) {task : Nat}
    (known : task < state.recvCount) :
    state.alive task = false ↔ (state.recvLoops task).stage = .returned := by
  have busy := flags.spawned task known
  rw [alive, flags.alive]
  cases stage : (state.recvLoops task).stage <;> simp_all [flagged]

theorem health_iff (prost : Codec.Prost (SapientMessage F))
    {trace : Trace (Hldmm F) (HldmmAction F)} {state : Hldmm F}
    (run : Run (machine prost) trace state) (peerId : String) :
    (state.peers.getPeerHealth state.alive peerId = some .dead ↔
        ∃ record, state.peers.records.lookup peerId = some record ∧
          (state.recvLoops record.task).stage = .returned) ∧
      (state.peers.getPeerHealth state.alive peerId = some .healthy ↔
        ∃ record, state.peers.records.lookup peerId = some record ∧
          gone (state.recvLoops record.task).stage = false) := by
  have custody := custody_run prost run
  have flags := flags_run prost run
  rw [PeerMap.health_eq, PeerMap.health_eq]
  constructor
  · apply exists_congr
    intro record
    apply and_congr_right
    intro found
    obtain ⟨_, known⟩ := custody.live record.task (.record peerId) ⟨record.connectedAt, found⟩
    rw [← down_iff flags known]
    cases state.alive record.task <;> simp
  · apply exists_congr
    intro record
    apply and_congr_right
    intro found
    obtain ⟨live, known⟩ := custody.live record.task (.record peerId) ⟨record.connectedAt, found⟩
    have busy := flags.spawned record.task known
    have stopped := flags.cancelled record.task
    rw [alive, flags.alive]
    cases stage : (state.recvLoops record.task).stage <;> simp_all [flagged, gone]

/-- In a quiescent state the health of a peer is that of its latest connection. -/
theorem health_quiet (prost : Codec.Prost (SapientMessage F))
    {trace : Trace (Hldmm F) (HldmmAction F)} {state : Hldmm F}
    (run : Run (machine prost) trace state)
    (sequential : Meets (fun _ state action => Sequential state action) trace)
    (quiet : Quiet state) (peerId : String) :
    (state.peers.getPeerHealth state.alive peerId = some .dead ↔
        ∃ task, latestLoop peerId trace = some task ∧
          (state.recvLoops task).stage = .returned) ∧
      (state.peers.getPeerHealth state.alive peerId = some .healthy ↔
        ∃ task, latestLoop peerId trace = some task ∧
          gone (state.recvLoops task).stage = false) ∧
      (state.peers.getPeerHealth state.alive peerId = none ↔ latestLoop peerId trace = none) := by
  obtain ⟨dead, healthy⟩ := health_iff prost run peerId
  rw [dead, healthy, ← (agrees_of_quiet prost run sequential quiet peerId).record]
  refine ⟨?_, ?_, ?_⟩
  · simp [Option.map_eq_some_iff]
  · simp [Option.map_eq_some_iff]
  · simp [PeerMap.getPeerHealth, PeerMap.getConnection]

end Hldmm

/-- What the transport tells of its connections, in every run. `get_peer_health` reports the
record of a peer dead when its loop has returned by itself, and healthy while it runs. A
handle that `connect()` ever gave out goes down exactly when its loop returns by itself; one
that was aborted stays up. In HLDMM mode, where connections and calls are handled one after
the other, a quiescent state tells of each peer's latest connection. -/
theorem connection_health [FloatOps F] :
    (∀ (config : DlmmConfig F) (trace : Trace (Dlmm F) (DlmmAction F)) (state : Dlmm F),
      Run (Dlmm.machine config) trace state → ∀ peerId,
        (state.peers.getPeerHealth state.alive peerId = some .dead ↔
          peerId ∈ state.peers.connectedPeers ∧ state.peerLoop = .returned) ∧
        (state.peers.getPeerHealth state.alive peerId = some .healthy ↔
          peerId ∈ state.peers.connectedPeers ∧ Dlmm.gone state.peerLoop = false) ∧
        ∀ earlier ∈ visited trace state, ∀ handle,
          earlier.peers.connect peerId = .ok handle →
            (handle.isAlive state.alive = false ↔
              handle.task < state.current ∨ state.peerLoop = .returned)) ∧
    ∀ (prost : Codec.Prost (SapientMessage F)) (trace : Trace (Hldmm F) (HldmmAction F))
      (state : Hldmm F), Run (Hldmm.machine prost) trace state → ∀ peerId,
        (state.peers.getPeerHealth state.alive peerId = some .dead ↔
          ∃ record, state.peers.records.lookup peerId = some record ∧
            (state.recvLoops record.task).stage = .returned) ∧
        (state.peers.getPeerHealth state.alive peerId = some .healthy ↔
          ∃ record, state.peers.records.lookup peerId = some record ∧
            Hldmm.gone (state.recvLoops record.task).stage = false) ∧
        (∀ earlier ∈ visited trace state, ∀ handle,
          earlier.peers.connect peerId = .ok handle →
            (handle.isAlive state.alive = false ↔
              (state.recvLoops handle.task).stage = .returned)) ∧
        (Meets (fun _ state action => Hldmm.Sequential state action) trace →
          Hldmm.Quiet state →
          (state.peers.getPeerHealth state.alive peerId = some .dead ↔
            ∃ task, Hldmm.latestLoop peerId trace = some task ∧
              (state.recvLoops task).stage = .returned) ∧
          (state.peers.getPeerHealth state.alive peerId = some .healthy ↔
            ∃ task, Hldmm.latestLoop peerId trace = some task ∧
              Hldmm.gone (state.recvLoops task).stage = false) ∧
          (state.peers.getPeerHealth state.alive peerId = none ↔
            Hldmm.latestLoop peerId trace = none)) := by
  constructor
  · intro config trace state run peerId
    obtain ⟨dead, healthy⟩ := Dlmm.health_iff config run peerId
    rw [PeerMap.mem_connectedPeers]
    refine ⟨dead, healthy, fun earlier member handle connected => ?_⟩
    obtain ⟨made, known⟩ := Dlmm.visited_made config run member (PeerMap.connect_ok connected)
    exact Dlmm.down_iff (Dlmm.flags_run config run) made known
  · intro prost trace state run peerId
    obtain ⟨dead, healthy⟩ := Hldmm.health_iff prost run peerId
    refine ⟨dead, healthy, fun earlier member handle connected => ?_, ?_⟩
    · have spawned := Hldmm.visited_spawned prost run member (PeerMap.connect_ok connected)
      exact Hldmm.down_iff (Hldmm.flags_run prost run) spawned
    · intro sequential quiet
      exact Hldmm.health_quiet prost run sequential quiet peerId

/-- A connection that is dialled; and one that was accepted and has ended since, before and
after its address has connected again. -/
theorem connection_health_closed :
    (∃ state : Dlmm Float, state.peers.getPeerHealth state.alive "hldmm" = some .healthy) ∧
      Hldmm.lost.2.peers.getPeerHealth Hldmm.lost.2.alive "10.0.0.7:40112" = some .dead ∧
      Hldmm.regained.2.peers.getPeerHealth Hldmm.regained.2.alive "10.0.0.7:40112" =
        some .healthy := by
  refine ⟨?_, ?_, ?_⟩
  · have run : Run (Dlmm.machine Dlmm.sampleConfig) _ _ := replay_reachable Dlmm.connecting rfl
    refine ⟨_, (connection_health.1 _ _ _ run "hldmm").2.1.mpr ⟨?_, rfl⟩⟩
    decide
  · have quiescent := (connection_health.2 _ _ _ Hldmm.run_lost "10.0.0.7:40112").2.2.2
      Hldmm.sequential_regained.1 Hldmm.quiet_lost
    exact quiescent.1.mpr ⟨0, rfl, rfl⟩
  · have quiescent := (connection_health.2 _ _ _ Hldmm.run_regained "10.0.0.7:40112").2.2.2
      Hldmm.sequential_regained.2 Hldmm.quiet_regained
    exact quiescent.2.1.mpr ⟨1, rfl, rfl⟩

end PeatSapient
