import PeatSapient.Transport.Dlmm.Disconnect
import PeatSapient.Transport.Health

/-! Whose connections are alive in DLMM mode. The map has the latest connection or none, and
that one has not been aborted; the peer loops of the earlier ones have all returned. -/

namespace PeatSapient.Dlmm

open HashMap Mpsc Execution

variable {F : Type}

def flagged : PeerLoop F → Bool
  | .idle | .returned => false
  | _ => true

def alone : ConnectLoop → Bool
  | .idle | .dialling | .spawning | .checking _ | .deregistering _ | .reporting _ => true
  | _ => false

structure Custody (config : DlmmConfig F) (state : Dlmm F) : Prop where
  foreign : ∀ peerId, peerId ≠ config.peerNodeId → state.peers.records.lookup peerId = none
  recorded : ∀ record, state.peers.records.lookup config.peerNodeId = some record →
    record.task = state.current ∧ 0 < state.current ∧ state.peerAborted = false ∧
      unlisted state.connectLoop = false
  called : ∀ call peerId record, state.calls call = .aborting peerId record →
    record.task ≤ state.current ∧ (record.task = state.current →
      state.peers.records.lookup config.peerNodeId = none ∧
        ∀ since, state.connectLoop ≠ .registering since)
  registering : ∀ since, state.connectLoop = .registering since →
    0 < state.current ∧ state.peerAborted = false

structure Flags (state : Dlmm F) : Prop where
  latest : state.alive state.current = flagged state.peerLoop
  past : ∀ task, task < state.current → state.alive task = false
  busy : 0 < state.current → state.peerLoop ≠ .idle
  alone : alone state.connectLoop = true → flagged state.peerLoop = false
  cancelled : state.peerLoop = .cancelled → state.peerAborted = true

theorem Custody.keep {config : DlmmConfig F} {state after : Dlmm F}
    (custody : Custody config state) (peers : after.peers.records = state.peers.records)
    (calls : after.calls = state.calls) (current : after.current = state.current)
    (aborted : after.peerAborted = state.peerAborted)
    (listed : unlisted state.connectLoop = false → unlisted after.connectLoop = false)
    (opening : ∀ since, after.connectLoop = .registering since →
      state.connectLoop = .registering since) : Custody config after where
  foreign peerId away := by
    rw [peers]
    exact custody.foreign peerId away
  recorded record found := by
    rw [peers] at found
    obtain ⟨own, connected, live, among⟩ := custody.recorded record found
    exact ⟨current ▸ own, current ▸ connected, aborted ▸ live, listed among⟩
  called call peerId record here := by
    rw [calls] at here
    rw [peers, current]
    obtain ⟨known, latest⟩ := custody.called call peerId record here
    refine ⟨known, fun own => ⟨(latest own).1, fun since there => ?_⟩⟩
    exact (latest own).2 since (opening since there)
  registering since here := by
    rw [current, aborted]
    exact custody.registering since (opening since here)

theorem Custody.call {config : DlmmConfig F} {state : Dlmm F} (custody : Custody config state)
    (call : Nat) (stage : PeerCall) (free : ∀ peerId record, stage ≠ .aborting peerId record) :
    Custody config (state.setCall call stage) where
  foreign := custody.foreign
  recorded := custody.recorded
  called other peerId record here := by
    by_cases own : other = call
    · subst own
      simp only [setCall, Function.update_self] at here
      exact absurd here (free peerId record)
    · simp only [setCall, Function.update_of_ne own] at here
      exact custody.called other peerId record here
  registering := custody.registering

theorem Custody.lose {config : DlmmConfig F} {state : Dlmm F} (custody : Custody config state)
    {records : Table String PeerRecord} {events : List PeerEvent}
    (fewer : ∀ peerId, records.lookup peerId = none ∨
      records.lookup peerId = state.peers.records.lookup peerId) :
    Custody config { state with peers := ⟨records, events⟩ } where
  foreign peerId away := by
    rcases fewer peerId with none_ | same
    · exact none_
    · exact same.trans (custody.foreign peerId away)
  recorded record found := by
    rcases fewer config.peerNodeId with none_ | same
    · rw [none_] at found
      cases found
    · exact custody.recorded record (same ▸ found)
  called call peerId record here := by
    obtain ⟨known, latest⟩ := custody.called call peerId record here
    refine ⟨known, fun own => ⟨?_, (latest own).2⟩⟩
    rcases fewer config.peerNodeId with none_ | same
    · exact none_
    · exact same.trans (latest own).1
  registering := custody.registering

theorem Custody.absent {config : DlmmConfig F} {state : Dlmm F} (custody : Custody config state)
    (away : unlisted state.connectLoop = true) :
    state.peers.records.lookup config.peerNodeId = none := by
  cases found : state.peers.records.lookup config.peerNodeId with
  | none => rfl
  | some record =>
      rw [(custody.recorded record found).2.2.2] at away
      cases away

theorem Custody.unrecorded {config : DlmmConfig F} {state : Dlmm F}
    (custody : Custody config state) (away : unlisted state.connectLoop = true) :
    state.current ∉ state.peers.tasks := by
  intro member
  obtain ⟨⟨peerId, record⟩, listed, _⟩ := List.mem_map.mp member
  have found := (entry_iff_lookup _ _ _).mp listed
  by_cases own : peerId = config.peerNodeId
  · subst own
    rw [custody.absent away] at found
    cases found
  · rw [custody.foreign peerId own] at found
    cases found

theorem Custody.disconnect {config : DlmmConfig F} {state : Dlmm F}
    (custody : Custody config state) (call : Nat) (peerId : String) :
    Custody config (state.disconnect call peerId) := by
  have removed : ∀ other, (state.peers.records.erase peerId).lookup other = none ∨
      (state.peers.records.erase peerId).lookup other = state.peers.records.lookup other := by
    intro other
    rw [lookup_erase_eq]
    split
    · exact Or.inl rfl
    · exact Or.inr rfl
  have lost : Custody config { state with peers := state.peers.removePeer peerId } :=
    custody.lose removed
  cases found : state.peers.records.lookup peerId with
  | none =>
      have answer : PeerCall.ofDisconnect state.peers peerId =
          .returned (.error (.peerNotFound peerId)) := by simp [PeerCall.ofDisconnect, found]
      unfold Dlmm.disconnect
      rw [answer]
      exact lost.call call _ (by simp)
  | some record =>
      have answer : PeerCall.ofDisconnect state.peers peerId = .aborting peerId record := by
        simp [PeerCall.ofDisconnect, found]
      have same : peerId = config.peerNodeId := by
        by_contra away
        rw [custody.foreign peerId away] at found
        cases found
      subst same
      obtain ⟨own, connected, live, among⟩ := custody.recorded record found
      have gone : (state.peers.records.erase config.peerNodeId).lookup config.peerNodeId =
          none := by rw [lookup_erase_eq, if_pos rfl]
      unfold Dlmm.disconnect
      rw [answer]
      constructor
      case foreign => exact lost.foreign
      case recorded => exact lost.recorded
      case registering => exact lost.registering
      case called =>
        intro other otherId held here
        by_cases mine : other = call
        · subst mine
          simp only [setCall, Function.update_self] at here
          cases here
          refine ⟨Nat.le_of_eq own, fun _ => ⟨gone, fun since there => ?_⟩⟩
          rw [show state.connectLoop = .registering since from there] at among
          cases among
        · simp only [setCall, Function.update_of_ne mine] at here
          exact lost.called other otherId held here

theorem Flags.peer {state after : Dlmm F} (flags : Flags state)
    (running : flagged state.peerLoop = true) (runs : flagged after.peerLoop = true)
    (current : after.current = state.current) (alive : after.alive = state.alive)
    (connectLoop : after.connectLoop = state.connectLoop)
    (cancelled : after.peerLoop = .cancelled → after.peerAborted = true) : Flags after where
  latest := by rw [alive, current, runs, flags.latest, running]
  past task earlier := by
    rw [alive]
    exact flags.past task (current ▸ earlier)
  busy _ idle := by
    rw [idle] at runs
    cases runs
  alone rests := by
    rw [connectLoop] at rests
    rw [flags.alone rests] at running
    cases running
  cancelled := cancelled

variable [FloatOps F]

theorem flags_connect (config : DlmmConfig F) {state after : Dlmm F}
    (flags : Flags state) (moved : Moves config state .proceed after) : Flags after := by
  obtain ⟨latest, past, busy, rests, cancelled⟩ := flags
  cases moved with
  | report since here =>
      exact ⟨latest, past, busy, fun _ => rests (by rw [here]; rfl), cancelled⟩
  | deregister since here =>
      exact ⟨latest, past, busy, fun _ => rests (by rw [here]; rfl), cancelled⟩
  | recheck since here =>
      exact ⟨latest, past, busy, fun _ => rests (by rw [here]; rfl), cancelled⟩
  | takeBack since here live back =>
      exact ⟨latest, past, busy, fun _ => by rw [back]; rfl, cancelled⟩
  | register since here
  | announceOpen since here
  | giveUp since here
  | leave since here =>
      exact ⟨latest, past, busy, by simp [alone], cancelled⟩
  | spawn here =>
      have quiet := rests (by rw [here]; rfl)
      constructor
      case latest => simp [spawnPeer, current, flagged]
      case past =>
        intro task earlier
        have known : task ≤ state.current := Nat.le_of_lt_succ earlier
        have older : task ≠ state.current + 1 := by omega
        simp only [spawnPeer, Bool.or_eq_false_iff, beq_eq_false_iff_ne, ne_eq, older,
          not_false_eq_true, true_and]
        rcases Nat.lt_or_eq_of_le known with lower | rfl
        · exact past task lower
        · rw [latest, quiet]
      case busy => exact fun _ => by simp [spawnPeer]
      case alone =>
        intro rests
        cases rests
      case cancelled =>
        intro stopped
        cases stopped

theorem flags_step (config : DlmmConfig F) {state after : Dlmm F} {action : DlmmAction F}
    (founded : Founded state) (flags : Flags state) (moved : Moves config state action after) :
    Flags after := by
  have whole := moved
  have ⟨latest, past, busy, rests, cancelled⟩ := flags
  cases moved with
  | spawn | register | announceOpen | takeBack | giveUp | recheck | leave | deregister | report =>
      exact flags_connect config flags whole
  | elapse | stop | disconnect | announce | accept | refuse =>
      exact ⟨latest, past, busy, rests, cancelled⟩
  | drain call here
  | abortTask call peerId record here =>
      exact ⟨latest, past, busy, rests, fun here => by simp [setCall, abort, cancelled here]⟩
  | start =>
      unfold start
      split
      · next untaken =>
          have idle := founded.unstarted untaken
          exact ⟨latest, past, busy, fun _ => rests (by rw [idle]; rfl), cancelled⟩
      · exact ⟨latest, past, busy, rests, cancelled⟩
  | connected here live =>
      exact ⟨latest, past, busy, fun _ => rests (by rw [here]; rfl), cancelled⟩
  | cancelDialling dead here
  | cancelTakeBack since dead here
  | cancelAwaiting since dead here =>
      exact ⟨latest, past, busy, by simp [alone], cancelled⟩
  | receive answer here live =>
      unfold receiveInbound
      split
      · refine Flags.peer ⟨latest, past, busy, rests, cancelled⟩ (by rw [here]; rfl) ?_ rfl rfl
          rfl ?_
        · dsimp only
          split <;> rfl
        · dsimp only
          split <;>
          · intro stopped
            cases stopped
      · exact Flags.peer ⟨latest, past, busy, rests, cancelled⟩ (by rw [here]; rfl) rfl rfl rfl
          rfl (by simp)
      · exact Flags.peer ⟨latest, past, busy, rests, cancelled⟩ (by rw [here]; rfl) rfl rfl rfl
          rfl (by simp)
  | publish publication here
  | take raw outbound here
  | failed raw here =>
      exact Flags.peer ⟨latest, past, busy, rests, cancelled⟩ (by rw [here]; rfl) rfl rfl rfl
        rfl (by simp)
  | sent raw here live =>
      have connected : state.handed ≠ [] := by
        intro none_
        rw [founded.unconnected none_] at here
        cases here
      exact Flags.peer ⟨latest, past, busy, rests, cancelled⟩ (by rw [here]; rfl) rfl
        (length_handOver raw connected) rfl rfl (by simp)
  | cancelPeer dead here =>
      refine Flags.peer ⟨latest, past, busy, rests, cancelled⟩ ?_ rfl rfl rfl rfl fun _ => dead
      cases stage : state.peerLoop with
      | idle | returned =>
          rw [stage] at here
          cases here
      | _ => rfl
  | finish here =>
      constructor
      case latest => simp [current, flagged]
      case past =>
        intro task earlier
        simp [past task earlier]
      case busy => simp
      case alone => exact fun _ => rfl
      case cancelled => simp

theorem flags_run (config : DlmmConfig F) {trace : Trace (Dlmm F) (DlmmAction F)}
    {state : Dlmm F} (run : Run (machine config) trace state) : Flags state := by
  refine run.invariant (fun _ state => Flags state) ?_ ?_
  · exact ⟨rfl, fun _ known => absurd known (Nat.not_lt_zero _),
      fun connected => absurd connected (Nat.lt_irrefl 0), fun _ => rfl, nofun⟩
  · intro trace before action after earlier flags taken
    exact flags_step config (founded_run config earlier) flags (moves_of_step config taken)

theorem custody_call (config : DlmmConfig F) {state after : Dlmm F} {call : Nat}
    (custody : Custody config state) (moved : Moves config state (.advance call) after) :
    Custody config after := by
  cases moved with
  | drain call here =>
      have kept := custody.call call (.returned (.ok ())) (by simp)
      constructor
      case foreign => exact fun _ _ => rfl
      case recorded =>
        intro record found
        cases found
      case called =>
        intro other peerId record held
        obtain ⟨known, latest⟩ := kept.called other peerId record held
        exact ⟨known, fun own => ⟨rfl, (latest own).2⟩⟩
      case registering =>
        intro since opening
        obtain ⟨connected, live⟩ := custody.registering since opening
        refine ⟨connected, ?_⟩
        have spared := custody.unrecorded (show unlisted state.connectLoop = true by
          rw [show state.connectLoop = .registering since from opening]; rfl)
        simp [setCall, abort, live, spared]
  | abortTask call peerId record here =>
      have kept := custody.call call
        (.announcing peerId (state.clock - record.connectedAt)) (by simp)
      obtain ⟨_, latest⟩ := custody.called call peerId record here
      constructor
      case foreign => exact kept.foreign
      case called => exact kept.called
      case recorded =>
        intro other found
        obtain ⟨own, connected, live, among⟩ := custody.recorded other found
        refine ⟨own, connected, ?_, among⟩
        have spared : state.current ≠ record.task := by
          intro same
          rw [show state.peers.records.lookup config.peerNodeId = some other from found] at latest
          cases (latest same.symm).1
        simp [setCall, abort, live, spared]
      case registering =>
        intro since opening
        obtain ⟨connected, live⟩ := custody.registering since opening
        refine ⟨connected, ?_⟩
        have spared : state.current ≠ record.task := fun same =>
          (latest same.symm).2 since opening
        simp [setCall, abort, live, spared]
  | announce call peerId since here =>
      have kept := custody.call call (.returned (.ok ())) (by simp)
      exact kept.keep rfl rfl rfl rfl (fun listed => listed) (fun _ here => here)

theorem custody_connect (config : DlmmConfig F) {state after : Dlmm F}
    (custody : Custody config state) (moved : Moves config state .proceed after) :
    Custody config after := by
  cases moved with
  | report since here =>
      exact custody.keep rfl rfl rfl rfl (fun listed => by rw [here] at listed; cases listed)
        (by simp)
  | spawn here =>
      have absent := custody.absent (by rw [here]; rfl)
      constructor
      case foreign => exact custody.foreign
      case recorded =>
        intro record found
        rw [show state.peers.records.lookup config.peerNodeId = some record from found] at absent
        cases absent
      case called =>
        intro call peerId record held
        have known := (custody.called call peerId record held).1
        have older := Nat.ne_of_lt (Nat.lt_succ_of_le known)
        exact ⟨Nat.le_succ_of_le known, fun own => absurd own older⟩
      case registering => exact fun _ _ => ⟨Nat.succ_pos _, rfl⟩
  | register since here =>
      obtain ⟨connected, live⟩ := custody.registering since here
      constructor
      case foreign =>
        intro peerId away
        exact (AList.lookup_insert_ne away).trans (custody.foreign peerId away)
      case recorded =>
        intro record found
        change (state.peers.records.insert config.peerNodeId _).lookup
          config.peerNodeId = _ at found
        rw [AList.lookup_insert] at found
        cases found
        exact ⟨rfl, connected, live, rfl⟩
      case called =>
        intro call peerId record held
        obtain ⟨known, latest⟩ := custody.called call peerId record held
        exact ⟨known, fun own => absurd here ((latest own).2 since)⟩
      case registering => simp
  | deregister since here =>
      have gone : (state.peers.records.erase config.peerNodeId).lookup config.peerNodeId =
          none := by rw [lookup_erase_eq, if_pos rfl]
      constructor
      case foreign =>
        intro peerId away
        change (state.peers.records.erase config.peerNodeId).lookup peerId = none
        rw [lookup_erase_eq, if_neg away]
        exact custody.foreign peerId away
      case recorded =>
        intro record found
        cases gone.symm.trans found
      case called =>
        intro call peerId record held
        exact ⟨(custody.called call peerId record held).1, fun _ => ⟨gone, by simp⟩⟩
      case registering => simp
  | announceOpen since here
  | takeBack since here
  | giveUp since here
  | recheck since here
  | leave since here =>
      exact custody.keep rfl rfl rfl rfl (fun _ => rfl) (by simp)

theorem custody_step (config : DlmmConfig F) {state after : Dlmm F} {action : DlmmAction F}
    (founded : Founded state) (custody : Custody config state)
    (moved : Moves config state action after) : Custody config after := by
  have whole := moved
  cases moved with
  | drain | abortTask | announce =>
      exact custody_call config custody whole
  | spawn | register | announceOpen | takeBack | giveUp | recheck | leave | deregister | report =>
      exact custody_connect config custody whole
  | elapse | accept | refuse | publish | take | failed | finish | cancelPeer =>
      exact custody.keep rfl rfl rfl rfl (fun listed => listed) (fun _ here => here)
  | start =>
      unfold start
      split
      · next untaken =>
          have idle := founded.unstarted untaken
          exact custody.keep rfl rfl rfl rfl (fun listed => by rw [idle] at listed; cases listed)
            (by simp)
      · exact custody.keep rfl rfl rfl rfl (fun listed => listed) (fun _ here => here)
  | stop call here =>
      have kept := custody.call call .draining (by simp)
      exact kept.keep rfl rfl rfl rfl (fun listed => listed) (fun _ here => here)
  | disconnect call peerId here =>
      exact custody.disconnect call peerId
  | connected here live =>
      exact custody.keep rfl rfl rfl rfl (fun listed => by rw [here] at listed; cases listed)
        (by simp)
  | cancelTakeBack since dead here
  | cancelAwaiting since dead here =>
      exact custody.keep rfl rfl rfl rfl (fun _ => rfl) (by simp)
  | cancelDialling dead here =>
      exact custody.keep rfl rfl rfl rfl (fun _ => rfl) (by simp)
  | receive answer here live =>
      unfold receiveInbound
      split <;> exact custody.keep rfl rfl rfl rfl (fun listed => listed) (fun _ here => here)
  | sent raw here live =>
      have connected : state.handed ≠ [] := by
        intro none_
        rw [founded.unconnected none_] at here
        cases here
      exact custody.keep rfl rfl (length_handOver raw connected) rfl (fun listed => listed)
        (fun _ here => here)

theorem custody_run (config : DlmmConfig F) {trace : Trace (Dlmm F) (DlmmAction F)}
    {state : Dlmm F} (run : Run (machine config) trace state) : Custody config state := by
  refine run.invariant (fun _ state => Custody config state) ?_ ?_
  · exact ⟨fun _ _ => rfl, nofun, nofun, nofun⟩
  · intro trace before action after earlier custody taken
    exact custody_step config (founded_run config earlier) custody (moves_of_step config taken)

theorem visited_made (config : DlmmConfig F) {trace : Trace (Dlmm F) (DlmmAction F)}
    {state : Dlmm F} (run : Run (machine config) trace state) {earlier : Dlmm F}
    (member : earlier ∈ visited trace state) {peerId : String} {record : PeerRecord}
    (found : earlier.peers.records.lookup peerId = some record) :
    0 < state.current ∧ record.task ≤ state.current := by
  induction run with
  | start =>
      rw [List.mem_singleton.mp member] at found
      cases found
  | @next trace before after action run taken ih =>
      rcases List.mem_cons.mp member with rfl | member
      · have custody := custody_run config (run.next taken)
        have same : peerId = config.peerNodeId := by
          by_contra away
          rw [custody.foreign peerId away] at found
          cases found
        subst same
        obtain ⟨own, connected, _⟩ := custody.recorded record found
        exact ⟨connected, Nat.le_of_eq own⟩
      · obtain ⟨connected, made⟩ := ih member
        have grown : before.current ≤ after.current := by
          cases moves_of_step config taken with
          | spawn => exact Nat.le_succ _
          | sent raw here live =>
              refine Nat.le_of_eq (length_handOver raw ?_).symm
              intro none_
              rw [current, none_] at connected
              cases connected
          | start =>
              unfold start
              split <;> exact Nat.le_refl _
          | receive answer here live =>
              unfold receiveInbound
              split <;> exact Nat.le_refl _
          | _ => exact Nat.le_refl _
        exact ⟨Nat.lt_of_lt_of_le connected grown, Nat.le_trans made grown⟩

omit [FloatOps F] in
/-- The flag of a connection is down exactly when its peer loop has returned by itself. -/
theorem down_iff {state : Dlmm F} (flags : Flags state) (connected : 0 < state.current)
    {task : Nat} (known : task ≤ state.current) :
    state.alive task = false ↔ task < state.current ∨ state.peerLoop = .returned := by
  rcases Nat.lt_or_eq_of_le known with earlier | rfl
  · simp [flags.past task earlier, earlier]
  · have busy := flags.busy connected
    rw [flags.latest]
    cases stage : state.peerLoop <;> simp_all [flagged]

/-- The record's connection is dead when its loop has returned, and healthy while it runs. -/
theorem health_iff (config : DlmmConfig F) {trace : Trace (Dlmm F) (DlmmAction F)}
    {state : Dlmm F} (run : Run (machine config) trace state) (peerId : String) :
    (state.peers.getPeerHealth state.alive peerId = some .dead ↔
        (state.peers.records.lookup peerId).isSome ∧ state.peerLoop = .returned) ∧
      (state.peers.getPeerHealth state.alive peerId = some .healthy ↔
        (state.peers.records.lookup peerId).isSome ∧ gone state.peerLoop = false) := by
  have custody := custody_run config run
  have flags := flags_run config run
  rw [PeerMap.health_eq, PeerMap.health_eq]
  cases found : state.peers.records.lookup peerId with
  | none => simp
  | some record =>
      have same : peerId = config.peerNodeId := by
        by_contra away
        rw [custody.foreign peerId away] at found
        cases found
      subst same
      obtain ⟨own, connected, live, _⟩ := custody.recorded record found
      have busy := flags.busy connected
      have stopped := flags.cancelled
      simp only [Option.some.injEq, exists_eq_left', own, flags.latest]
      cases stage : state.peerLoop <;> simp_all [flagged, gone]

end PeatSapient.Dlmm
