import PeatSapient.Transport.Dlmm.Moves

/-! `disconnect()` in DLMM mode. The connect loop decides to dial again by looking for the
peer's record, and takes it out in a later step; a call that takes the record out in
between ends one connection and does not keep the loop from making the next. -/

namespace PeatSapient.Dlmm

open HashMap Mpsc Execution

variable {F : Type}

def holdsRecord : PeerCall → Bool
  | .aborting _ _ | .announcing _ _ => true
  | _ => false

def takes : Dlmm F × DlmmAction F → Option (Nat × Dlmm F)
  | (state, .disconnect call peerId) =>
      if (state.peers.records.lookup peerId).isSome then some (call, state) else none
  | _ => none

def taken (trace : Trace (Dlmm F) (DlmmAction F)) : Option (Nat × Dlmm F) :=
  trace.findSome? takes

/-- No record is taken out while the connect loop, having found it, is about to take it out
itself and to dial again. -/
def takesInTime (state : Dlmm F) (action : DlmmAction F) : Bool :=
  match takes (state, action), state.connectLoop with
  | some _, .deregistering _ => false
  | _, _ => true

def between : ConnectLoop → Bool
  | .idle | .dialling | .spawning => true
  | _ => false

/-- The connection that the loop has, if any, is not in the map. -/
def unlisted : ConnectLoop → Bool
  | .idle | .dialling | .spawning | .registering _ | .reporting _ => true
  | _ => false

def keeps : ConnectLoop → Bool
  | .announcing _ | .awaiting _ | .checking _ | .ended => true
  | _ => false

def closures (config : DlmmConfig F) (state : Dlmm F) : Nat :=
  (PeerMap.disconnects config.peerNodeId state.peers.events).length

structure Connected (config : DlmmConfig F) (state : Dlmm F) : Prop where
  free : ∀ call, holdsRecord (state.calls call) = false
  own : ∀ peerId, (state.peers.records.lookup peerId).isSome = true →
    peerId = config.peerNodeId
  vacant : unlisted state.connectLoop = true → state.peers.Vacant
  rest : between state.connectLoop = true → closures config state = state.current
  during : between state.connectLoop = false → state.connectLoop ≠ .ended →
    closures config state + 1 = state.current
  listed : (state.peers.records.lookup config.peerNodeId).isSome = true →
    closures config state + 1 = state.current

structure Closing (config : DlmmConfig F) (call : Nat) (before state : Dlmm F) : Prop where
  holds : (∃ record, state.calls call = .aborting config.peerNodeId record) ∨
    ∃ since, state.calls call = .announcing config.peerNodeId since
  others : ∀ other, other ≠ call → holdsRecord (state.calls other) = false
  disconnects : PeerMap.disconnects config.peerNodeId state.peers.events =
    PeerMap.disconnects config.peerNodeId before.peers.events

structure Closed (config : DlmmConfig F) (call : Nat) (before state : Dlmm F) : Prop where
  answered : state.calls call = .returned (.ok ())
  free : ∀ other, holdsRecord (state.calls other) = false
  disconnects : ∃ since, PeerMap.disconnects config.peerNodeId state.peers.events =
    PeerMap.disconnects config.peerNodeId before.peers.events ++
      [.disconnected config.peerNodeId .localClosed since]

/-- The record was taken out in the state before: no other connection was made since. -/
structure Disconnected (config : DlmmConfig F) (call : Nat) (before state : Dlmm F) :
    Prop where
  own : ∀ peerId, (before.peers.records.lookup peerId).isSome = true →
    peerId = config.peerNodeId
  owed : closures config before + 1 = before.current
  kept : keeps state.connectLoop = true
  vacant : state.peers.Vacant
  current : state.current = before.current
  progress : Closing config call before state ∨ Closed config call before state

def Booked (config : DlmmConfig F) (trace : Trace (Dlmm F) (DlmmAction F))
    (state : Dlmm F) : Prop :=
  match taken trace with
  | none => Connected config state
  | some (call, before) => Disconnected config call before state

theorem holdsRecord_update {calls : Nat → PeerCall} {call : Nat} {stage : PeerCall}
    (free : ∀ other, other ≠ call → holdsRecord (calls other) = false)
    (quiet : holdsRecord stage = false) (other : Nat) :
    holdsRecord (Function.update calls call stage other) = false := by
  by_cases same : other = call
  · subst same
    rw [Function.update_self]
    exact quiet
  · rw [Function.update_of_ne same]
    exact free other same

theorem Connected.loop {config : DlmmConfig F} {state after : Dlmm F}
    (held : Connected config state) (calls : after.calls = state.calls)
    (peers : after.peers = state.peers) (current : after.current = state.current)
    (unlisting : unlisted after.connectLoop = true → unlisted state.connectLoop = true)
    (resting : between after.connectLoop = true → between state.connectLoop = true)
    (staying : between after.connectLoop = false → after.connectLoop ≠ .ended →
      between state.connectLoop = false ∧ state.connectLoop ≠ .ended) :
    Connected config after := by
  have closed : closures config after = closures config state := by rw [closures, peers]; rfl
  constructor
  · rw [calls]
    exact held.free
  · rw [peers]
    exact held.own
  · rw [peers]
    exact fun now => held.vacant (unlisting now)
  · rw [closed, current]
    exact fun now => held.rest (resting now)
  · intro busy running
    rw [closed, current]
    exact held.during (staying busy running).1 (staying busy running).2
  · rw [peers, closed, current]
    exact held.listed

theorem Connected.call {config : DlmmConfig F} {state after : Dlmm F}
    (held : Connected config state) (call : Nat) (stage : PeerCall)
    (quiet : holdsRecord stage = false)
    (calls : after.calls = Function.update state.calls call stage)
    (loop : after.connectLoop = state.connectLoop)
    (current : after.current = state.current)
    (events : after.peers.events = state.peers.events)
    (fewer : ∀ peerId record, after.peers.records.lookup peerId = some record →
      state.peers.records.lookup peerId = some record) : Connected config after := by
  have closed : closures config after = closures config state := by rw [closures, events]; rfl
  have present : ∀ peerId, (after.peers.records.lookup peerId).isSome = true →
      (state.peers.records.lookup peerId).isSome = true := by
    intro peerId here
    obtain ⟨record, found⟩ := Option.isSome_iff_exists.mp here
    rw [fewer peerId record found]
    rfl
  constructor
  · rw [calls]
    exact holdsRecord_update (fun other _ => held.free other) quiet
  · exact fun peerId here => held.own peerId (present peerId here)
  · intro now peerId
    rw [loop] at now
    by_contra here
    exact (held.vacant now).absent (present peerId (Option.isSome_iff_ne_none.mpr here))
  · rw [loop, closed, current]
    exact held.rest
  · rw [loop, closed, current]
    exact held.during
  · rw [closed, current]
    exact fun here => held.listed (present _ here)

theorem Connected.remove {config : DlmmConfig F} {state : Dlmm F}
    (held : Connected config state) : (state.peers.removePeer config.peerNodeId).Vacant := by
  intro peerId
  refine (lookup_erase_eq state.peers.records config.peerNodeId peerId).trans ?_
  split
  · rfl
  · next other =>
      by_contra here
      exact other (held.own peerId (Option.isSome_iff_ne_none.mpr here))

theorem Connected.apart {config : DlmmConfig F} {state after : Dlmm F}
    (held : Connected config state) (apart : Apart state after) : Connected config after := by
  apply held.loop apart.calls apart.peers apart.current
  · rw [apart.connectLoop]
    exact fun now => now
  · rw [apart.connectLoop]
    exact fun now => now
  · rw [apart.connectLoop]
    exact fun busy running => ⟨busy, running⟩

theorem takes_none {state : Dlmm F} {call : Nat} {peerId : String}
    (none_ : takes (state, .disconnect call peerId) = none) :
    state.peers.records.lookup peerId = none := by
  simp only [takes] at none_
  split at none_
  · cases none_
  · next absent => simpa using absent

theorem takes_some {state before : Dlmm F} {action : DlmmAction F} {call : Nat}
    (taking : takes (state, action) = some (call, before)) :
    before = state ∧ ∃ peerId record, action = .disconnect call peerId ∧
      state.peers.records.lookup peerId = some record := by
  unfold takes at taking
  split at taking
  · next own other peerId same =>
      cases same
      split at taking
      · next present =>
          cases taking
          obtain ⟨record, found⟩ := Option.isSome_iff_exists.mp present
          exact ⟨rfl, peerId, record, rfl, found⟩
      · cases taking
  · cases taking

/-- The only call with a record in its hands is the one that took it out. -/
theorem Disconnected.holder {config : DlmmConfig F} {call other : Nat} {before state : Dlmm F}
    (held : Disconnected config call before state)
    (holds : holdsRecord (state.calls other) = true) :
    other = call ∧ Closing config call before state := by
  rcases held.progress with closing | closed
  · refine ⟨?_, closing⟩
    by_contra distinct
    rw [closing.others other distinct] at holds
    cases holds
  · rw [closed.free other] at holds
    cases holds

theorem Disconnected.loop {config : DlmmConfig F} {call : Nat} {before state after : Dlmm F}
    (held : Disconnected config call before state) (calls : after.calls = state.calls)
    (records : after.peers.records = state.peers.records)
    (disconnects : PeerMap.disconnects config.peerNodeId after.peers.events =
      PeerMap.disconnects config.peerNodeId state.peers.events)
    (current : after.current = state.current) (kept : keeps after.connectLoop = true) :
    Disconnected config call before after := by
  refine ⟨held.own, held.owed, kept, ?_, current.trans held.current, ?_⟩
  · intro peerId
    rw [records]
    exact held.vacant peerId
  · rcases held.progress with closing | closed
    · left
      constructor
      · rw [calls]
        exact closing.holds
      · rw [calls]
        exact closing.others
      · rw [disconnects]
        exact closing.disconnects
    · right
      constructor
      · rw [calls]
        exact closed.answered
      · rw [calls]
        exact closed.free
      · rw [disconnects]
        exact closed.disconnects

theorem Disconnected.apart {config : DlmmConfig F} {call : Nat} {before state after : Dlmm F}
    (held : Disconnected config call before state) (apart : Apart state after) :
    Disconnected config call before after := by
  apply held.loop apart.calls
  · rw [apart.peers]
  · rw [apart.peers]
  · exact apart.current
  · rw [apart.connectLoop]
    exact held.kept

theorem Disconnected.call {config : DlmmConfig F} {call : Nat} {before state after : Dlmm F}
    (held : Disconnected config call before state) {other : Nat} {stage : PeerCall}
    (free : holdsRecord (state.calls other) = false)
    (running : state.calls other ≠ .returned (.ok ()))
    (quiet : holdsRecord stage = false)
    (calls : after.calls = Function.update state.calls other stage)
    (loop : after.connectLoop = state.connectLoop) (vacant : after.peers.Vacant)
    (events : after.peers.events = state.peers.events)
    (current : after.current = state.current) : Disconnected config call before after := by
  refine ⟨held.own, held.owed, ?_, vacant, current.trans held.current, ?_⟩
  · rw [loop]
    exact held.kept
  · rcases held.progress with closing | closed
    · have another : other ≠ call := by
        rintro rfl
        rcases closing.holds with ⟨record, here⟩ | ⟨since, here⟩ <;>
        · rw [here] at free
          cases free
      left
      constructor
      · rw [calls, Function.update_of_ne another.symm]
        exact closing.holds
      · rw [calls]
        intro third distinct
        by_cases same : third = other
        · subst same
          rw [Function.update_self]
          exact quiet
        · rw [Function.update_of_ne same]
          exact closing.others third distinct
      · rw [events]
        exact closing.disconnects
    · have another : other ≠ call := by
        rintro rfl
        exact running closed.answered
      right
      constructor
      · rw [calls, Function.update_of_ne another.symm]
        exact closed.answered
      · rw [calls]
        exact holdsRecord_update (fun third _ => closed.free third) quiet
      · rw [events]
        exact closed.disconnects

variable [FloatOps F]

theorem connected_connect (config : DlmmConfig F) {state after : Dlmm F}
    (held : Connected config state) (moved : Moves config state .proceed after) :
    Connected config after := by
  cases moved with
  | takeBack since here
  | giveUp since here
  | recheck since here
  | leave since here =>
      refine held.loop rfl rfl rfl ?_ ?_ ?_ <;> simp [here, unlisted, between]
  | spawn here =>
      have rest := held.rest (by rw [here]; rfl)
      have vacant := held.vacant (by rw [here]; rfl)
      refine ⟨held.free, held.own, fun _ => vacant, ?_, ?_, ?_⟩
      · intro now
        cases now
      · intro _ _
        exact congrArg (· + 1) rest
      · intro present
        exact (vacant.absent present).elim
  | register since here =>
      have during := held.during (by rw [here]; rfl) (by rw [here]; simp)
      have vacant := held.vacant (by rw [here]; rfl)
      refine ⟨held.free, ?_, ?_, ?_, fun _ _ => during, fun _ => during⟩
      · intro peerId present
        by_contra other
        simp [PeerMap.registerPeer, other, vacant peerId] at present
      · intro now
        cases now
      · intro now
        cases now
  | announceOpen since here =>
      have during := held.during (by rw [here]; rfl) (by rw [here]; simp)
      have same : closures config { state with
          peers := state.peers.emitEvent (.connected config.peerNodeId since)
          connectLoop := .awaiting since } = closures config state :=
        congrArg List.length (PeerMap.disconnects_connected _ _ since)
      refine ⟨held.free, held.own, ?_, ?_, ?_, ?_⟩
      · intro now
        cases now
      · intro now
        cases now
      · intro _ _
        rw [same]
        exact during
      · intro _
        rw [same]
        exact during
  | deregister since here =>
      have during := held.during (by rw [here]; rfl) (by rw [here]; simp)
      have vacant := held.remove
      refine ⟨held.free, ?_, fun _ => vacant, ?_, fun _ _ => during, fun _ => during⟩
      · intro peerId present
        exact (vacant.absent present).elim
      · intro now
        cases now
  | report since here =>
      have during := held.during (by rw [here]; rfl) (by rw [here]; simp)
      have vacant := held.vacant (by rw [here]; rfl)
      refine ⟨held.free, held.own, fun _ => vacant, ?_, ?_, ?_⟩
      · intro _
        simp only [closures, PeerMap.emitEvent, PeerMap.disconnects_disconnected,
          List.length_append, List.length_singleton]
        exact during
      · intro now
        cases now
      · intro present
        exact (vacant.absent present).elim

theorem connected_step (config : DlmmConfig F) {state after : Dlmm F} {action : DlmmAction F}
    (founded : Founded state) (held : Connected config state)
    (none_ : takes (state, action) = none) (moved : Moves config state action after) :
    Connected config after := by
  have apart := apart_of_aside config founded moved
  have whole := moved
  cases moved with
  | spawn | register | announceOpen | takeBack | giveUp | recheck | leave | deregister | report =>
      exact connected_connect config held whole
  | elapse | accept | refuse | receive | publish | take | sent | failed | finish | cancelPeer =>
      exact held.apart (apart rfl)
  | start =>
      rcases start_cases founded with ⟨idle, started⟩ | apart
      · rw [started]
        refine held.loop rfl rfl rfl ?_ ?_ ?_ <;> simp [idle, unlisted, between]
      · exact held.apart apart
  | stop call here =>
      exact held.call call .draining rfl rfl rfl rfl rfl fun _ _ found => found
  | disconnect call peerId here =>
      have absent := takes_none none_
      refine held.call call (.ofDisconnect state.peers peerId) ?_ rfl rfl rfl rfl ?_
      · rw [PeerCall.ofDisconnect, absent]
        rfl
      · intro other record found
        have kept := (lookup_erase_eq state.peers.records peerId other).symm.trans found
        split at kept
        · cases kept
        · exact kept
  | drain call here =>
      refine held.call call (.returned (.ok ())) rfl rfl rfl rfl rfl ?_
      intro peerId record found
      cases found
  | abortTask call peerId record here
  | announce call peerId since here =>
      have free := held.free call
      rw [here] at free
      cases free
  | connected here
  | cancelDialling dead here
  | cancelTakeBack since dead here
  | cancelAwaiting since dead here =>
      refine held.loop rfl rfl rfl ?_ ?_ ?_ <;> simp [here, unlisted, between]

theorem disconnected_start (config : DlmmConfig F) {state before after : Dlmm F}
    {action : DlmmAction F} {call : Nat} (held : Connected config state)
    (taking : takes (state, action) = some (call, before))
    (timely : takesInTime state action = true) (moved : Moves config state action after) :
    Disconnected config call before after := by
  obtain ⟨rfl, peerId, record, rfl, found⟩ := takes_some taking
  have present : (before.peers.records.lookup peerId).isSome = true := by
    rw [found]
    rfl
  obtain rfl := held.own peerId present
  have kept : keeps before.connectLoop = true := by
    cases here : before.connectLoop with
    | idle | dialling | spawning | registering since | reporting since =>
        exact ((held.vacant (by rw [here]; rfl)).absent present).elim
    | deregistering since => simp [takesInTime, taking, here] at timely
    | announcing | awaiting | checking | ended => rfl
  cases moved with
  | disconnect _ _ here =>
      refine ⟨held.own, held.listed present, kept, held.remove, rfl,
        Or.inl ⟨Or.inl ⟨record, ?_⟩, ?_, rfl⟩⟩
      · simp [disconnect, setCall, PeerCall.ofDisconnect, found]
      · intro other distinct
        simpa [disconnect, setCall, distinct] using held.free other

/-- Once the record is out, the call goes on to announce it, and the loop ends. -/
theorem disconnected_step (config : DlmmConfig F) {before state after : Dlmm F}
    {action : DlmmAction F} {call : Nat} (founded : Founded state)
    (held : Disconnected config call before state) (moved : Moves config state action after) :
    Disconnected config call before after := by
  have apart := apart_of_aside config founded moved
  have kept := held.kept
  cases moved with
  | elapse | accept | refuse | receive | publish | take | sent | failed | finish
  | cancelPeer =>
      exact held.apart (apart rfl)
  | start =>
      rcases start_cases founded with ⟨idle, _⟩ | apart
      · rw [idle] at kept
        cases kept
      · exact held.apart apart
  | stop other here =>
      exact held.call (by rw [here]; rfl) (by simp [here]) rfl rfl rfl held.vacant rfl rfl
  | disconnect other peerId here =>
      refine held.call (by rw [here]; rfl) (by simp [here]) ?_ rfl rfl
        (held.vacant.remove peerId) rfl rfl
      rw [PeerCall.ofDisconnect, held.vacant peerId]
      rfl
  | drain other here =>
      exact held.call (by rw [here]; rfl) (by simp [here]) rfl rfl rfl
        (PeerMap.vacant_drain state.peers) rfl rfl
  | abortTask other peerId record here =>
      obtain ⟨rfl, closing⟩ := held.holder (by rw [here]; rfl)
      obtain rfl : peerId = config.peerNodeId := by
        rcases closing.holds with ⟨_, holds⟩ | ⟨_, holds⟩ <;> rw [here] at holds <;> cases holds
        rfl
      refine ⟨held.own, held.owed, kept, held.vacant, held.current,
        Or.inl ⟨Or.inr ⟨?_, ?_⟩, ?_, ?_⟩⟩
      · exact state.clock - record.connectedAt
      · exact Function.update_self ..
      · intro third distinct
        simpa [setCall, distinct] using closing.others third distinct
      · exact closing.disconnects
  | announce other peerId since here =>
      obtain ⟨rfl, closing⟩ := held.holder (by rw [here]; rfl)
      obtain rfl : peerId = config.peerNodeId := by
        rcases closing.holds with ⟨_, holds⟩ | ⟨_, holds⟩ <;> rw [here] at holds <;> cases holds
        rfl
      refine ⟨held.own, held.owed, kept, held.vacant, held.current,
        Or.inr ⟨?_, ?_, since, ?_⟩⟩
      · exact Function.update_self ..
      · exact holdsRecord_update closing.others rfl
      · refine (PeerMap.disconnects_disconnected ..).trans ?_
        rw [closing.disconnects]
  | connected here | spawn here | register since here | deregister since here
  | report since here =>
      rw [here] at kept
      cases kept
  | announceOpen since here =>
      exact held.loop rfl rfl (PeerMap.disconnects_connected ..) rfl rfl
  | recheck since here present => exact (held.vacant.absent present).elim
  | takeBack | giveUp | leave | cancelDialling | cancelTakeBack | cancelAwaiting =>
      exact held.loop rfl rfl rfl rfl rfl

theorem notFound_run (config : DlmmConfig F) {trace : Trace (Dlmm F) (DlmmAction F)}
    {state before : Dlmm F} {call : Nat} {peerId : String} (run : Run (machine config) trace state)
    (called : (before, .disconnect call peerId) ∈ trace)
    (absent : before.peers.records.lookup peerId = none) :
    state.calls call = .returned (.error (.peerNotFound peerId)) := by
  revert called
  refine run.invariant (fun trace state => (before, .disconnect call peerId) ∈ trace →
    state.calls call = .returned (.error (.peerNotFound peerId))) ?_ ?_
  · intro none_
    cases none_
  · intro trace earlier action after past held taken called
    have moved := moves_of_step config taken
    rcases List.mem_cons.mp called with now | older
    · cases now
      cases moved with
      | disconnect _ _ here => simp [disconnect, setCall, PeerCall.ofDisconnect, absent]
    · exact returned_step config (founded_run config past) moved (held older)

/-- A record is taken out at most once, and from then on the loop keeps to the connection. -/
theorem booked_run (config : DlmmConfig F) {trace : Trace (Dlmm F) (DlmmAction F)}
    {state : Dlmm F} (run : Run (machine config) trace state)
    (timely : Meets (fun _ state action => takesInTime state action = true) trace) :
    Booked config trace state ∧
      ∀ entry ∈ trace, ∀ found, takes entry = some found → taken trace = some found := by
  refine run.invariant_of_meets (fun _ state action => takesInTime state action = true)
    (fun trace state => Booked config trace state ∧
      ∀ entry ∈ trace, ∀ found, takes entry = some found → taken trace = some found)
    ?_ ?_ timely
  · refine ⟨⟨fun _ => rfl, ?_, fun _ _ => rfl, fun _ => rfl, ?_, ?_⟩, ?_⟩
    · intro peerId present
      cases present
    · intro busy
      cases busy
    · intro present
      cases present
    · intro entry none_
      cases none_
  · intro trace before action after earlier held inTime stepped
    obtain ⟨booked, unique⟩ := held
    have moved := moves_of_step config stepped
    have founded := founded_run config earlier
    cases past : taken trace with
    | none =>
        simp only [Booked, past] at booked
        cases now : takes (before, action) with
        | none =>
            have none_ : taken ((before, action) :: trace) = none := by
              simpa [taken, now] using past
            refine ⟨?_, ?_⟩
            · simp only [Booked, none_]
              exact connected_step config founded booked now moved
            · intro entry member found taking
              rcases List.mem_cons.mp member with rfl | older
              · rw [now] at taking
                cases taking
              · rw [unique entry older found taking] at past
                cases past
        | some found =>
            have some_ : taken ((before, action) :: trace) = some found := by
              simp [taken, now]
            refine ⟨?_, ?_⟩
            · simp only [Booked, some_]
              exact disconnected_start config booked now inTime moved
            · intro entry member other taking
              rcases List.mem_cons.mp member with rfl | older
              · rw [some_, ← taking, now]
              · rw [unique entry older other taking] at past
                cases past
    | some found =>
        simp only [Booked, past] at booked
        have now : takes (before, action) = none := by
          cases taking : takes (before, action) with
          | none => rfl
          | some other =>
              obtain ⟨_, peerId, record, _, present⟩ := takes_some taking
              rw [booked.vacant peerId] at present
              cases present
        have some_ : taken ((before, action) :: trace) = some found := by
          simpa [taken, now] using past
        refine ⟨?_, ?_⟩
        · simp only [Booked, some_]
          exact disconnected_step config founded booked moved
        · intro entry member other taking
          rcases List.mem_cons.mp member with rfl | older
          · rw [now] at taking
            cases taking
          · rw [some_, ← past]
            exact unique entry older other taking

/-- Where no record is taken out while the connect loop is about to take it out itself, a
call of `disconnect()` that has returned `Ok` is final. The loop makes no other connection,
and announcing the end of this one is all that was announced of the peer's ends. -/
theorem disconnect_final (config : DlmmConfig F) {trace : Trace (Dlmm F) (DlmmAction F)}
    {state before : Dlmm F} {call : Nat} {peerId : String}
    (run : Run (machine config) trace state)
    (timely : Meets (fun _ state action => takesInTime state action = true) trace)
    (called : (before, .disconnect call peerId) ∈ trace)
    (returned : state.calls call = .returned (.ok ())) :
    state.current = before.current ∧ keeps state.connectLoop = true ∧
      (∃ since, PeerMap.disconnects peerId state.peers.events =
        PeerMap.disconnects peerId before.peers.events ++
          [.disconnected peerId .localClosed since]) ∧
      (PeerMap.disconnects peerId state.peers.events).length = state.current := by
  cases found : before.peers.records.lookup peerId with
  | none =>
      rw [notFound_run config run called found] at returned
      cases returned
  | some record =>
      obtain ⟨booked, unique⟩ := booked_run config run timely
      have once := unique _ called (call, before) (by simp [takes, found])
      simp only [Booked, once] at booked
      obtain rfl := booked.own peerId (by rw [found]; rfl)
      rcases booked.progress with closing | closed
      · rcases closing.holds with ⟨_, here⟩ | ⟨_, here⟩ <;> rw [here] at returned <;>
          cases returned
      · obtain ⟨since, disconnects⟩ := closed.disconnects
        refine ⟨booked.current, booked.kept, ⟨since, disconnects⟩, ?_⟩
        rw [disconnects, List.length_append, booked.current]
        exact booked.owed

def connecting : List (DlmmAction Float) :=
  [.start, .connected, .proceed, .proceed, .proceed]

def disconnecting : List (DlmmAction Float) :=
  [.disconnect 0 "hldmm", .advance 0, .advance 0]

theorem disconnect_final_connected :
    ∃ state before : Dlmm Float, state.current = before.current ∧
      keeps state.connectLoop = true ∧
      (∃ since, PeerMap.disconnects "hldmm" state.peers.events =
        PeerMap.disconnects "hldmm" before.peers.events ++
          [.disconnected "hldmm" .localClosed since]) ∧
      (PeerMap.disconnects "hldmm" state.peers.events).length = state.current :=
  ⟨_, _, disconnect_final sampleConfig
    (replay_reachable (connecting ++ disconnecting ++ [.cancelPeer, .proceed]) rfl) (by decide)
    (.tail _ (.tail _ (.tail _ (.tail _ (.head _))))) rfl⟩

/-- The remote side closes, and the loop finds the record just before `disconnect()` takes
it out: the end is announced twice, and the loop dials again. -/
theorem disconnect_overtaken :
    ¬ ∀ (trace : Trace (Dlmm Float) (DlmmAction Float)) (state before : Dlmm Float)
      (call : Nat) (peerId : String), Run (machine sampleConfig) trace state →
      (before, .disconnect call peerId) ∈ trace →
      state.calls call = .returned (.ok ()) →
      state.current = before.current ∧ ∃ since,
        PeerMap.disconnects peerId state.peers.events =
          PeerMap.disconnects peerId before.peers.events ++
            [.disconnected peerId .localClosed since] := by
  intro final
  have again := final _ _ _ 0 "hldmm" (replay_reachable (connecting ++
    [.inbound (.ok none), .finish, .proceed, .proceed] ++ disconnecting ++
    [.proceed, .proceed, .connected, .proceed, .proceed]) rfl)
    (.tail _ (.tail _ (.tail _ (.tail _ (.tail _ (.tail _ (.tail _ (.head _)))))))) rfl
  exact absurd again.1 (by decide)

end PeatSapient.Dlmm
