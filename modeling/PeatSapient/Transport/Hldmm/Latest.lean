import PeatSapient.Transport.Hldmm.Bookkeeping

/-! The connection that a peer's record stands for in HLDMM mode, where each connection and
each call is handled to completion before the next: the one accepted last. An address may be
accepted again while the record of an ended connection is still in the map, and the new
record takes the place of the old one. -/

namespace PeatSapient.Hldmm

open HashMap Execution

variable {F : Type}

/-- The receive loop that was spawned last for a peer, if `disconnect()` has not been called
for the peer since. -/
def latestLoop (peerId : String) : Trace (Hldmm F) (HldmmAction F) → Option Nat
  | [] => none
  | (state, .proceed accept) :: earlier =>
      match (state.acceptLoops accept).stage with
      | .spawning other =>
          if other = peerId then some state.recvCount else latestLoop peerId earlier
      | _ => latestLoop peerId earlier
  | (_, .disconnect _ other) :: earlier =>
      if other = peerId then none else latestLoop peerId earlier
  | _ :: earlier => latestLoop peerId earlier

structure Agrees (trace : Trace (Hldmm F) (HldmmAction F)) (state : Hldmm F)
    (peerId : String) : Prop where
  record : (state.peers.records.lookup peerId).map PeerRecord.task = latestLoop peerId trace
  heard : PeerMap.lastHeard peerId false state.peers.events = listed state peerId

structure Alone (state : Hldmm F) (accepting calling : Option Nat) : Prop where
  accepts : ∀ accept, accepting ≠ some accept →
    acceptRests (state.acceptLoops accept).stage = true
  calls : ∀ call, calling ≠ some call → (state.calls call).busy = false

/-- What is being handled, if anything is; the other peers are not touched by it. -/
inductive Turn (trace : Trace (Hldmm F) (HldmmAction F)) (state : Hldmm F) : Prop where
  | rest (alone : Alone state none none) (agrees : ∀ other, Agrees trace state other)
  | spawning (accept : Nat) (peerId : String)
      (here : (state.acceptLoops accept).stage = .spawning peerId)
      (alone : Alone state (some accept) none) (agrees : ∀ other, Agrees trace state other)
  | registering (accept : Nat) (peerId : String) (since task : Nat)
      (here : (state.acceptLoops accept).stage = .registering peerId since task)
      (own : latestLoop peerId trace = some task) (alone : Alone state (some accept) none)
      (agrees : ∀ other, other ≠ peerId → Agrees trace state other)
  | announcing (accept : Nat) (peerId : String) (since task : Nat)
      (here : (state.acceptLoops accept).stage = .announcing peerId since)
      (own : latestLoop peerId trace = some task)
      (found : state.peers.records.lookup peerId = some ⟨since, task⟩)
      (alone : Alone state (some accept) none)
      (agrees : ∀ other, other ≠ peerId → Agrees trace state other)
  | closing (call : Nat) (peerId : String)
      (here : (∃ record, state.calls call = .aborting peerId record) ∨
        ∃ since, state.calls call = .announcing peerId since)
      (past : latestLoop peerId trace = none)
      (absent : state.peers.records.lookup peerId = none)
      (alone : Alone state none (some call))
      (agrees : ∀ other, other ≠ peerId → Agrees trace state other)

theorem Agrees.congr {trace later : Trace (Hldmm F) (HldmmAction F)} {state after : Hldmm F}
    {peerId : String} (agrees : Agrees trace state peerId)
    (same : latestLoop peerId later = latestLoop peerId trace)
    (found : after.peers.records.lookup peerId = state.peers.records.lookup peerId)
    (heard : PeerMap.lastHeard peerId false after.peers.events =
      PeerMap.lastHeard peerId false state.peers.events) : Agrees later after peerId where
  record := by rw [same, found, agrees.record]
  heard := by rw [heard, agrees.heard, listed, listed, found]

theorem Alone.acceptor {state : Hldmm F} {accepting calling : Option Nat}
    (alone : Alone state accepting calling) {accept : Nat}
    (moving : acceptRests (state.acceptLoops accept).stage = false) :
    accepting = some accept := by
  by_contra distinct
  rw [alone.accepts accept distinct] at moving
  cases moving

theorem Alone.caller {state : Hldmm F} {accepting calling : Option Nat}
    (alone : Alone state accepting calling) {call : Nat}
    (busy : (state.calls call).busy = true) : calling = some call := by
  by_contra distinct
  rw [alone.calls call distinct] at busy
  cases busy

theorem Alone.accept {state after : Hldmm F} {accepting next : Option Nat} {moving : Nat}
    {loop : AcceptLoop} (alone : Alone state accepting none)
    (held : accepting = none ∨ accepting = some moving)
    (acceptLoops : after.acceptLoops = Function.update state.acceptLoops moving loop)
    (self : next = some moving ∨ acceptRests loop.stage = true)
    (calls : after.calls = state.calls) : Alone after next none where
  accepts accept away := by
    rw [acceptLoops]
    by_cases same : accept = moving
    · subst same
      rw [Function.update_self]
      exact self.resolve_left away
    · rw [Function.update_of_ne same]
      apply alone.accepts accept
      rcases held with rfl | rfl
      · simp
      · simpa using Ne.symm same
  calls call away := by
    rw [calls]
    exact alone.calls call away

theorem Alone.call {state after : Hldmm F} {calling next : Option Nat} {moving : Nat}
    {stage : PeerCall} (alone : Alone state none calling)
    (held : calling = none ∨ calling = some moving)
    (calls : after.calls = Function.update state.calls moving stage)
    (self : next = some moving ∨ stage.busy = false)
    (acceptLoops : after.acceptLoops = state.acceptLoops) : Alone after none next where
  accepts accept away := by
    rw [acceptLoops]
    exact alone.accepts accept away
  calls call away := by
    rw [calls]
    by_cases same : call = moving
    · subst same
      rw [Function.update_self]
      exact self.resolve_left away
    · rw [Function.update_of_ne same]
      apply alone.calls call
      rcases held with rfl | rfl
      · simp
      · simpa using Ne.symm same

theorem Turn.quiet {trace : Trace (Hldmm F) (HldmmAction F)} {state : Hldmm F}
    (turn : Turn trace state) (quiet : Quiet state) :
    Alone state none none ∧ ∀ other, Agrees trace state other := by
  cases turn with
  | rest alone agrees => exact ⟨alone, agrees⟩
  | spawning accept peerId here | registering accept peerId since task here
  | announcing accept peerId since task here =>
      have rests := quiet.accepts accept
      rw [here] at rests
      cases rests
  | closing call peerId here =>
      have rests := quiet.calls call
      rcases here with ⟨record, here⟩ | ⟨since, here⟩
      · rw [here] at rests
        cases rests
      · rw [here] at rests
        cases rests

theorem Turn.caller {trace : Trace (Hldmm F) (HldmmAction F)} {state : Hldmm F}
    (turn : Turn trace state) {call : Nat} (busy : (state.calls call).busy = true) :
    ∃ peerId, ((∃ record, state.calls call = .aborting peerId record) ∨
        ∃ since, state.calls call = .announcing peerId since) ∧
      latestLoop peerId trace = none ∧ state.peers.records.lookup peerId = none ∧
      Alone state none (some call) ∧ ∀ other, other ≠ peerId → Agrees trace state other := by
  cases turn with
  | rest alone | spawning _ _ _ alone | registering _ _ _ _ _ _ alone
  | announcing _ _ _ _ _ _ _ alone => cases alone.caller busy
  | closing other peerId here past absent alone agrees =>
      cases alone.caller busy
      exact ⟨peerId, here, past, absent, alone, agrees⟩

theorem Turn.keep {trace later : Trace (Hldmm F) (HldmmAction F)} {state after : Hldmm F}
    (turn : Turn trace state) (same : ∀ peerId, latestLoop peerId later = latestLoop peerId trace)
    (accepts : ∀ accept,
      (after.acceptLoops accept).stage = (state.acceptLoops accept).stage ∨
        acceptRests (state.acceptLoops accept).stage = true ∧
          acceptRests (after.acceptLoops accept).stage = true)
    (calls : after.calls = state.calls) (peers : after.peers = state.peers) :
    Turn later after := by
  have agreed : ∀ {other}, Agrees trace state other → Agrees later after other :=
    fun agrees => agrees.congr (same _) (by rw [peers]) (by rw [peers])
  have alone : ∀ {accepting calling}, Alone state accepting calling →
      Alone after accepting calling := by
    intro accepting calling alone
    constructor
    · intro accept away
      rcases accepts accept with equal | ⟨_, rests⟩
      · rw [equal]
        exact alone.accepts accept away
      · exact rests
    · rw [calls]
      exact alone.calls
  have moving : ∀ {accept stage}, (state.acceptLoops accept).stage = stage →
      acceptRests stage = false → (after.acceptLoops accept).stage = stage := by
    intro accept stage here busy
    rcases accepts accept with equal | ⟨rests, _⟩
    · exact equal.trans here
    · rw [here, busy] at rests
      cases rests
  cases turn with
  | rest held agrees => exact .rest (alone held) fun other => agreed (agrees other)
  | spawning accept peerId here held agrees =>
      exact .spawning accept peerId (moving here rfl) (alone held)
        fun other => agreed (agrees other)
  | registering accept peerId since task here own held agrees =>
      exact .registering accept peerId since task (moving here rfl) ((same peerId).trans own)
        (alone held) fun other apart => agreed (agrees other apart)
  | announcing accept peerId since task here own found held agrees =>
      exact .announcing accept peerId since task (moving here rfl) ((same peerId).trans own)
        (by rw [peers, found]) (alone held) fun other apart => agreed (agrees other apart)
  | closing call peerId here past absent held agrees =>
      exact .closing call peerId (by rw [calls]; exact here) ((same peerId).trans past)
        (by rw [peers, absent]) (alone held) fun other apart => agreed (agrees other apart)

theorem Agrees.emit {trace later : Trace (Hldmm F) (HldmmAction F)} {state after : Hldmm F}
    {event : PeerEvent} {peerId : String} (opens : Bool)
    (agrees : ∀ other, other ≠ peerId → Agrees trace state other)
    (same : ∀ other, latestLoop other later = latestLoop other trace)
    (peers : after.peers = state.peers.emitEvent event)
    (announced : ∀ other, PeerMap.announces other event =
      if other = peerId then some opens else none)
    (record : (state.peers.records.lookup peerId).map PeerRecord.task = latestLoop peerId trace)
    (shown : listed state peerId = opens) (other : String) : Agrees later after other := by
  by_cases own : other = peerId
  · subst own
    constructor
    · rw [peers, same, ← record]
      rfl
    · rw [peers, PeerMap.emitEvent, PeerMap.lastHeard_snoc, announced, if_pos rfl, listed,
        peers, ← shown]
      rfl
  · apply (agrees other own).congr (same other)
    · rw [peers]
      rfl
    · rw [peers, PeerMap.emitEvent, PeerMap.lastHeard_snoc, announced, if_neg own]
      rfl

theorem Turn.disconnect {trace : Trace (Hldmm F) (HldmmAction F)} {state : Hldmm F}
    (turn : Turn trace state) (quiet : Quiet state) (call : Nat) (peerId : String) :
    Turn ((state, .disconnect call peerId) :: trace) (state.disconnect call peerId) := by
  obtain ⟨alone, agrees⟩ := turn.quiet quiet
  have erased := lookup_erase_eq state.peers.records peerId
  have others : ∀ other, other ≠ peerId →
      Agrees ((state, .disconnect call peerId) :: trace) (state.disconnect call peerId) other := by
    intro other apart
    exact (agrees other).congr (if_neg (Ne.symm apart)) ((erased other).trans (if_neg apart)) rfl
  have absent : (state.disconnect call peerId).peers.records.lookup peerId = none :=
    (erased peerId).trans (if_pos rfl)
  cases found : state.peers.records.lookup peerId with
  | none =>
      refine .rest (alone.call (Or.inl rfl) rfl (Or.inr ?_) rfl) fun other => ?_
      · rw [PeerCall.ofDisconnect, found]
        rfl
      · by_cases own : other = peerId
        · subst own
          constructor
          · rw [absent, latestLoop, if_pos rfl]
            rfl
          · rw [listed, absent]
            exact (agrees other).heard.trans (congrArg Option.isSome found)
        · exact others other own
  | some record =>
      refine .closing call peerId (Or.inl ⟨record, ?_⟩) (if_pos rfl) absent
        (alone.call (Or.inl rfl) rfl (Or.inl rfl) rfl) others
      simp [Hldmm.disconnect, setCall, PeerCall.ofDisconnect, found]

theorem Turn.acceptor {trace : Trace (Hldmm F) (HldmmAction F)} {state : Hldmm F}
    (turn : Turn trace state) {accept : Nat}
    (moving : acceptRests (state.acceptLoops accept).stage = false) :
    Alone state (some accept) none ∧
      ((∃ peerId, (state.acceptLoops accept).stage = .spawning peerId ∧
          ∀ other, Agrees trace state other) ∨
        (∃ peerId since task,
          (state.acceptLoops accept).stage = .registering peerId since task ∧
          latestLoop peerId trace = some task ∧
          ∀ other, other ≠ peerId → Agrees trace state other) ∨
        ∃ peerId since task, (state.acceptLoops accept).stage = .announcing peerId since ∧
          latestLoop peerId trace = some task ∧
          state.peers.records.lookup peerId = some ⟨since, task⟩ ∧
          ∀ other, other ≠ peerId → Agrees trace state other) := by
  cases turn with
  | rest alone | closing _ _ _ _ _ alone => cases alone.acceptor moving
  | spawning other peerId here alone agrees =>
      cases alone.acceptor moving
      exact ⟨alone, Or.inl ⟨peerId, here, agrees⟩⟩
  | registering other peerId since task here own alone agrees =>
      cases alone.acceptor moving
      exact ⟨alone, Or.inr (Or.inl ⟨peerId, since, task, here, own, agrees⟩)⟩
  | announcing other peerId since task here own found alone agrees =>
      cases alone.acceptor moving
      exact ⟨alone, Or.inr (Or.inr ⟨peerId, since, task, here, own, found, agrees⟩)⟩

theorem latestLoop_proceed {peerId : String} {trace : Trace (Hldmm F) (HldmmAction F)}
    {state : Hldmm F} {accept : Nat}
    (here : ∀ other, (state.acceptLoops accept).stage ≠ .spawning other) :
    latestLoop peerId ((state, .proceed accept) :: trace) = latestLoop peerId trace := by
  rw [latestLoop]
  split
  · next other there => exact absurd there (here other)
  · rfl

theorem Turn.spawn {trace : Trace (Hldmm F) (HldmmAction F)} {state : Hldmm F}
    (turn : Turn trace state) {accept : Nat} {peerId : String}
    (here : (state.acceptLoops accept).stage = .spawning peerId) :
    Turn ((state, .proceed accept) :: trace) (state.spawnRecv accept peerId) := by
  obtain ⟨alone, ⟨_, there, agrees⟩ | ⟨_, _, _, there, _⟩ | ⟨_, _, _, there, _⟩⟩ :=
    turn.acceptor (by rw [here]; rfl)
  · rw [here] at there
    cases there
    refine .registering accept peerId state.clock state.recvCount ?_ ?_
      (alone.accept (Or.inr rfl) rfl (Or.inl rfl) rfl) fun other apart => ?_
    · simp [spawnRecv, setAccept]
    · simp [latestLoop, here]
    · have same : latestLoop other ((state, .proceed accept) :: trace) =
          latestLoop other trace := by simp [latestLoop, here, Ne.symm apart]
      exact (agrees other).congr same rfl rfl
  · rw [here] at there
    cases there
  · rw [here] at there
    cases there

/-- The new record takes the place of one that is still there. -/
theorem Turn.register {trace : Trace (Hldmm F) (HldmmAction F)} {state : Hldmm F}
    (turn : Turn trace state) {accept since task : Nat} {peerId : String}
    (here : (state.acceptLoops accept).stage = .registering peerId since task) :
    Turn ((state, .proceed accept) :: trace)
      ({ state with peers := state.peers.registerPeer peerId since task }.setAccept accept
        (.announcing peerId since)) := by
  obtain ⟨alone, ⟨_, there, _⟩ | ⟨_, _, _, there, own, agrees⟩ | ⟨_, _, _, there, _⟩⟩ :=
    turn.acceptor (by rw [here]; rfl)
  · rw [here] at there
    cases there
  · rw [here] at there
    cases there
    have same : ∀ other, latestLoop other ((state, .proceed accept) :: trace) =
        latestLoop other trace := fun other => latestLoop_proceed (by simp [here])
    have lookup := lookup_insert_eq state.peers.records peerId
    refine .announcing accept peerId since task ?_ ((same peerId).trans own)
      ((lookup peerId _).trans (if_pos rfl)) (alone.accept (Or.inr rfl) rfl (Or.inl rfl) rfl)
      fun other apart => ?_
    · simp [setAccept]
    · exact (agrees other apart).congr (same other) ((lookup other _).trans (if_neg apart)) rfl
  · rw [here] at there
    cases there

theorem Turn.announceOpen {trace : Trace (Hldmm F) (HldmmAction F)} {state : Hldmm F}
    (turn : Turn trace state) {accept since : Nat} {peerId : String}
    (here : (state.acceptLoops accept).stage = .announcing peerId since) :
    Turn ((state, .proceed accept) :: trace)
      ({ state with peers := state.peers.emitEvent (.connected peerId since) }.setAccept accept
        .accepting) := by
  obtain ⟨alone, ⟨_, there, _⟩ | ⟨_, _, _, there, _⟩ | ⟨_, _, _, there, own, found, agrees⟩⟩ :=
    turn.acceptor (by rw [here]; rfl)
  · rw [here] at there
    cases there
  · rw [here] at there
    cases there
  · rw [here] at there
    cases there
    refine .rest (alone.accept (Or.inr rfl) rfl (Or.inr rfl) rfl) (Agrees.emit true agrees
      (fun other => latestLoop_proceed (by simp [here])) rfl (fun other => ?_) ?_ ?_)
    · simp [PeerMap.announces, eq_comm]
    · rw [found, own]
      rfl
    · rw [listed, found]
      rfl

theorem Turn.announce {trace : Trace (Hldmm F) (HldmmAction F)} {state : Hldmm F}
    (turn : Turn trace state) {call duration : Nat} {peerId : String}
    (here : state.calls call = .announcing peerId duration) :
    Turn ((state, .advance call) :: trace)
      ({ state with
        peers := state.peers.emitEvent
          (.disconnected peerId .localClosed duration) }.setCall call (.returned (.ok ()))) := by
  obtain ⟨_, ⟨record, there⟩ | ⟨_, there⟩, past, absent, alone, agrees⟩ :=
    turn.caller (by rw [here]; rfl)
  · rw [here] at there
    cases there
  · rw [here] at there
    cases there
    refine .rest (alone.call (Or.inr rfl) rfl (Or.inr rfl) rfl) (Agrees.emit false agrees
      (fun other => rfl) rfl (fun other => ?_) ?_ ?_)
    · simp [PeerMap.announces, eq_comm]
    · rw [absent, past]
      rfl
    · rw [listed, absent]
      rfl

theorem Turn.abort {trace : Trace (Hldmm F) (HldmmAction F)} {state : Hldmm F}
    (turn : Turn trace state) {call duration : Nat} {peerId : String} {record : PeerRecord}
    (here : state.calls call = .aborting peerId record) :
    Turn ((state, .advance call) :: trace)
      ((state.abortRecvs [record.task]).setCall call (.announcing peerId duration)) := by
  obtain ⟨_, ⟨record, there⟩ | ⟨_, there⟩, past, absent, alone, agrees⟩ :=
    turn.caller (by rw [here]; rfl)
  · rw [here] at there
    cases there
    refine .closing call peerId (Or.inr ⟨duration, ?_⟩) past absent
      (alone.call (Or.inr rfl) rfl (Or.inl rfl) rfl) fun other apart =>
        (agrees other apart).congr rfl rfl rfl
    simp [setCall]
  · rw [here] at there
    cases there

variable [FloatOps F]

theorem turn_step (prost : Codec.Prost (SapientMessage F))
    {trace : Trace (Hldmm F) (HldmmAction F)} {state after : Hldmm F} {action : HldmmAction F}
    (turn : Turn trace state) (sequential : Sequential state action)
    (moved : Moves prost state action after) : Turn ((state, action) :: trace) after := by
  have quiet := sequential.2
  cases moved with
  | elapse | refused | publish | finish | cancelRecv =>
      exact turn.keep (fun _ => rfl) (fun _ => Or.inl rfl) rfl rfl
  | receive task answer here live =>
      unfold receiveInbound
      split <;> exact turn.keep (fun _ => rfl) (fun _ => Or.inl rfl) rfl rfl
  | start =>
      obtain ⟨alone, agrees⟩ := turn.quiet (quiet rfl)
      exact .rest (alone.accept (Or.inl rfl) rfl (Or.inr rfl) rfl)
        fun other => (agrees other).congr rfl rfl rfl
  | stop call => exact absurd rfl (sequential.1 call)
  | disconnect call peerId here => exact turn.disconnect (quiet rfl) call peerId
  | drain call here =>
      obtain ⟨_, ⟨record, there⟩ | ⟨_, there⟩, _⟩ := turn.caller (by rw [here]; rfl)
      · rw [here] at there
        cases there
      · rw [here] at there
        cases there
  | abortTask call peerId record here => exact turn.abort here
  | announce call peerId duration here => exact turn.announce here
  | bound accept ok here =>
      refine turn.keep (fun _ => rfl) (fun other => ?_) rfl rfl
      by_cases same : other = accept
      · subst same
        refine Or.inr ⟨by rw [here]; rfl, ?_⟩
        cases ok <;> simp [setAccept, acceptRests]
      · exact Or.inl (by simp [setAccept, same])
  | cancelAccept accept dead here =>
      refine turn.keep (fun _ => rfl) (fun other => ?_) rfl rfl
      by_cases same : other = accept
      · subst same
        refine Or.inr ⟨?_, by simp [setAccept, acceptRests]⟩
        cases there : (state.acceptLoops other).stage <;> simp_all [acceptRests, acceptAwaits]
      · exact Or.inl (by simp [setAccept, same])
  | accepted accept peerId here =>
      obtain ⟨alone, agrees⟩ := turn.quiet (quiet rfl)
      refine .spawning accept peerId ?_ (alone.accept (Or.inl rfl) rfl (Or.inl rfl) rfl)
        fun other => (agrees other).congr rfl rfl rfl
      simp [setAccept]
  | spawn accept peerId here => exact turn.spawn here
  | register accept peerId since task here => exact turn.register here
  | announceOpen accept peerId since here => exact turn.announceOpen here

/-- In a quiescent state every peer's record is that of its latest connection, and the last
event about the peer says whether it has one. -/
theorem agrees_of_quiet (prost : Codec.Prost (SapientMessage F))
    {trace : Trace (Hldmm F) (HldmmAction F)} {state : Hldmm F}
    (run : Run (machine prost) trace state)
    (sequential : Meets (fun _ state action => Sequential state action) trace)
    (quiet : Quiet state) (peerId : String) : Agrees trace state peerId := by
  have turn : Turn trace state := by
    apply run.invariant_of_meets (fun _ state action => Sequential state action) Turn _ _
      sequential
    · exact .rest ⟨fun _ _ => rfl, fun _ _ => rfl⟩ fun other => ⟨rfl, rfl⟩
    · intro trace before action after _ turn allowed taken
      exact turn_step prost turn allowed (moves_of_step prost taken)
  exact (turn.quiet quiet).2 peerId

omit [FloatOps F] in
theorem quiet_of_live {state : Hldmm F} (calls : ∀ call, (state.calls call).busy = false)
    (accepts : ∀ accept, acceptRests (state.acceptLoops accept).stage = true ∧
      (state.acceptLoops accept).aborted = false)
    (recvs : ∀ task, (gone (state.recvLoops task).stage = true ∨
      recvAwaits (state.recvLoops task).stage = true) ∧
        (state.recvLoops task).aborted = false) : Quiet state where
  calls := calls
  accepts accept := (accepts accept).1
  recvs task := (recvs task).1
  settled := by
    constructor
    · intro accept dead
      rw [(accepts accept).2] at dead
      cases dead
    · intro task dead
      rw [(recvs task).2] at dead
      cases dead

def lost : Trace (Hldmm Float) (HldmmAction Float) × Hldmm Float :=
  (replay (machine Dlmm.sampleConfig.prost) accepted [.inbound 0 (.ok none), .finish 0]).get rfl

def regained : Trace (Hldmm Float) (HldmmAction Float) × Hldmm Float :=
  (replay (machine Dlmm.sampleConfig.prost) lost
    [.accepted 0 (.ok "10.0.0.7:40112"), .proceed 0, .proceed 0, .proceed 0]).get rfl

theorem quiet_lost : Quiet lost.2 := by
  apply quiet_of_live
  · exact fun _ => rfl
  · rintro (_ | accept)
    · exact ⟨rfl, rfl⟩
    · exact ⟨rfl, rfl⟩
  · rintro (_ | task)
    · exact ⟨Or.inl rfl, rfl⟩
    · exact ⟨Or.inl rfl, rfl⟩

theorem quiet_regained : Quiet regained.2 := by
  apply quiet_of_live
  · exact fun _ => rfl
  · rintro (_ | accept)
    · exact ⟨rfl, rfl⟩
    · exact ⟨rfl, rfl⟩
  · rintro (_ | _ | task)
    · exact ⟨Or.inl rfl, rfl⟩
    · exact ⟨Or.inr rfl, rfl⟩
    · exact ⟨Or.inl rfl, rfl⟩

theorem sequential_regained :
    Meets (fun _ state action => Sequential state action) lost.1 ∧
      Meets (fun _ state action => Sequential state action) regained.1 := by
  obtain ⟨first, second, third, fourth, fifth, sixth, _⟩ := sequential_accepted
  have earlier : Meets (fun _ state action => Sequential state action) lost.1 :=
    ⟨⟨nofun, nofun⟩, ⟨nofun, fun _ => quiet_accepted⟩, first.1, second.1, third.1, fourth.1,
      fifth.1, sixth.1, trivial⟩
  exact ⟨earlier, ⟨nofun, nofun⟩, ⟨nofun, nofun⟩, ⟨nofun, nofun⟩, ⟨nofun, fun _ => quiet_lost⟩,
    earlier⟩

theorem run_lost : Run (machine Dlmm.sampleConfig.prost) lost.1 lost.2 :=
  replay_run _ (replay_reachable accepting rfl) (Option.some_get _).symm

theorem run_regained : Run (machine Dlmm.sampleConfig.prost) regained.1 regained.2 :=
  replay_run _ run_lost (Option.some_get _).symm

end PeatSapient.Hldmm
