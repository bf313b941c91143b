import PeatSapient.Lib.Fanout
import PeatSapient.Transport.Hldmm.Latest

/-! The subscribers of the peer events. `register_peer`, `deregister_peer` and `emit_event` go
through the senders under the read lock, which `subscribe_peer_events` takes for writing; the
sender of a receiver that was dropped stays. The capacity of the queues is the mesh's. -/

namespace PeatSapient

open HashMap Mpsc Execution Fanout

namespace PeerMap

def Announced (peers : PeerMap) : Prop :=
  ∀ peerId, lastHeard peerId false peers.events = decide (peerId ∈ peers.connectedPeers)

theorem announced_of_lookup {peers : PeerMap}
    (announced : ∀ peerId, lastHeard peerId false peers.events =
      (peers.records.lookup peerId).isSome) : peers.Announced := by
  intro peerId
  rw [announced peerId]
  by_cases present : peerId ∈ peers.connectedPeers
  · rw [mem_connectedPeers.mp present, decide_eq_true present]
  · rw [eq_false_of_ne_true (mt mem_connectedPeers.mpr present), decide_eq_false present]

theorem Bookkept.announced {peers : PeerMap} {runs : String → Prop}
    (bookkept : Bookkept peers runs) : peers.Announced := by
  intro peerId
  apply lastHeard_of_paired
  by_cases present : peerId ∈ peers.connectedPeers
  · rw [bookkept.connected peerId ((bookkept.listed peerId).mp present),
      decide_eq_true present]
  · rw [bookkept.disconnected peerId (mt (bookkept.listed peerId).mpr present),
      decide_eq_false present]

end PeerMap

section Told
variable {State Action : Type} {log : State → List PeerEvent} {capacity : Nat}
  {trace : Trace (Fanned State PeerEvent) (FanAction Action)} {state : Fanned State PeerEvent}
  {index : Nat} {subscriber : Subscriber State PeerEvent}

/-- The subscriber has taken all there is and has missed nothing, and nothing is on its way. -/
structure UpToDate (state : Fanned State PeerEvent)
    (subscriber : Subscriber State PeerEvent) : Prop where
  rounds : state.rounds = []
  complete : subscriber.missed = []
  alive : subscriber.queue.closed = false
  taken : subscriber.queue.buffer = []

theorem UpToDate.received (upToDate : UpToDate state subscriber)
    (kept : Kept capacity subscriber) : subscriber.queue.received = subscriber.offered := by
  have sent := kept.complete upToDate.complete
  rw [Channel.attempts, Channel.pushed, upToDate.taken,
    subscriber.queue.refusedClosed upToDate.alive] at sent
  simpa using sent

/-- What was known when the subscriber came, and what it has heard since, is what holds. -/
theorem UpToDate.heard {peers : State → PeerMap} (upToDate : UpToDate state subscriber)
    (kept : Kept capacity subscriber)
    (told : (peers state.inner).events = (peers subscriber.joined).events ++
      (subscriber.offered ++ pendingFor index state.rounds))
    (known : (peers subscriber.joined).Announced) (now : (peers state.inner).Announced)
    (peerId : String) :
    PeerMap.lastHeard peerId (decide (peerId ∈ (peers subscriber.joined).connectedPeers))
        subscriber.queue.received =
      decide (peerId ∈ (peers state.inner).connectedPeers) := by
  have nothing : pendingFor index state.rounds = [] := by rw [upToDate.rounds]; rfl
  rw [← known peerId, ← PeerMap.lastHeard_append, ← now peerId, told, nothing, List.append_nil,
    upToDate.received kept]

end Told

variable {F : Type} [FloatOps F]

namespace Dlmm

def told (state : Dlmm F) : List PeerEvent := state.peers.events

theorem told_grows (config : DlmmConfig F) : Grows (machine config) told := by
  intro before action after taken
  cases moves_of_step config taken with
  | announce call peerId duration here => exact ⟨[_], rfl⟩
  | announceOpen connectedAt here => exact ⟨[_], rfl⟩
  | report connectedAt here => exact ⟨[_], rfl⟩
  | start =>
      refine ⟨[], ?_⟩
      unfold start
      split <;> exact (List.append_nil _).symm
  | receive answer here live =>
      refine ⟨[], ?_⟩
      unfold receiveInbound
      split <;> exact (List.append_nil _).symm
  | _ => exact ⟨[], (List.append_nil _).symm⟩

theorem announced_of_quiet (config : DlmmConfig F) {trace : Trace (Dlmm F) (DlmmAction F)}
    {state : Dlmm F} (run : Run (machine config) trace state)
    (sequential : Meets (fun _ state action => Sequential state action) trace)
    {earlier : Dlmm F} (member : earlier ∈ visited trace state) (quiet : Quiet earlier) :
    earlier.peers.Announced := by
  obtain ⟨part, reached, meets⟩ := run.of_visited _ sequential member
  exact (bookkept_of_quiet config reached meets quiet).announced

end Dlmm

namespace Hldmm

def told (state : Hldmm F) : List PeerEvent := state.peers.events

theorem told_grows (prost : Codec.Prost (SapientMessage F)) : Grows (machine prost) told := by
  intro before action after taken
  cases moves_of_step prost taken with
  | announce call peerId duration here => exact ⟨[_], rfl⟩
  | announceOpen accept peerId connectedAt here => exact ⟨[_], rfl⟩
  | receive task answer here live =>
      refine ⟨[], ?_⟩
      unfold receiveInbound
      split <;> exact (List.append_nil _).symm
  | _ => exact ⟨[], (List.append_nil _).symm⟩

theorem announced_of_quiet (prost : Codec.Prost (SapientMessage F))
    {trace : Trace (Hldmm F) (HldmmAction F)} {state : Hldmm F}
    (run : Run (machine prost) trace state)
    (sequential : Meets (fun _ state action => Sequential state action) trace)
    {earlier : Hldmm F} (member : earlier ∈ visited trace state) (quiet : Quiet earlier) :
    earlier.peers.Announced := by
  obtain ⟨part, reached, meets⟩ := run.of_visited _ sequential member
  exact PeerMap.announced_of_lookup
    fun peerId => (agrees_of_quiet prost reached meets quiet peerId).heard

end Hldmm

/-- However the rounds of the events interleave, each event since a subscriber came is offered
to it once, and it gets what finds room in its queue, in the order of the offers. Where
connections and calls are handled one after the other, `stop()` is not called, and no two
events are on their rounds at once, a subscriber that came and has caught up in quiescent
states and has missed nothing knows which peers are listed: the last event it received about a
peer says so, and where it received none, what was listed when it came. -/
theorem peer_events :
    (∀ (config : DlmmConfig F) (capacity : Nat)
      (trace : Trace (Fanned (Dlmm F) PeerEvent) (FanAction (DlmmAction F)))
      (state : Fanned (Dlmm F) PeerEvent) (index : Nat)
      (subscriber : Subscriber (Dlmm F) PeerEvent),
      Run (fanned (Dlmm.machine config) Dlmm.told capacity) trace state →
      state.subscribers[index]? = some subscriber →
      Served Dlmm.told capacity trace state index subscriber ∧
        (Meets (fun _ state action => Dlmm.Sequential state action) (innerTrace trace) →
          (∀ earlier ∈ visited trace state, earlier.rounds.length ≤ 1) →
          Dlmm.Quiet subscriber.joined → Dlmm.Quiet state.inner →
          UpToDate state subscriber → ∀ peerId,
            PeerMap.lastHeard peerId
                (decide (peerId ∈ subscriber.joined.peers.connectedPeers))
                subscriber.queue.received =
              decide (peerId ∈ state.inner.peers.connectedPeers))) ∧
    ∀ (prost : Codec.Prost (SapientMessage F)) (capacity : Nat)
      (trace : Trace (Fanned (Hldmm F) PeerEvent) (FanAction (HldmmAction F)))
      (state : Fanned (Hldmm F) PeerEvent) (index : Nat)
      (subscriber : Subscriber (Hldmm F) PeerEvent),
      Run (fanned (Hldmm.machine prost) Hldmm.told capacity) trace state →
      state.subscribers[index]? = some subscriber →
      Served Hldmm.told capacity trace state index subscriber ∧
        (Meets (fun _ state action => Hldmm.Sequential state action) (innerTrace trace) →
          (∀ earlier ∈ visited trace state, earlier.rounds.length ≤ 1) →
          Hldmm.Quiet subscriber.joined → Hldmm.Quiet state.inner →
          UpToDate state subscriber → ∀ peerId,
            PeerMap.lastHeard peerId
                (decide (peerId ∈ subscriber.joined.peers.connectedPeers))
                subscriber.queue.received =
              decide (peerId ∈ state.inner.peers.connectedPeers)) := by
  constructor
  · intro config capacity trace state index subscriber run found
    have served := served_run (Dlmm.told_grows config) run found
    refine ⟨served, fun sequential alone came rests upToDate => ?_⟩
    have inOrder := inOrder_run (Dlmm.told_grows config) run alone found
    have reached := inner_run run
    exact upToDate.heard served.kept inOrder
      (Dlmm.announced_of_quiet config reached sequential served.joined came)
      (Dlmm.announced_of_quiet config reached sequential List.mem_cons_self rests)
  · intro prost capacity trace state index subscriber run found
    have served := served_run (Hldmm.told_grows prost) run found
    refine ⟨served, fun sequential alone came rests upToDate => ?_⟩
    have inOrder := inOrder_run (Hldmm.told_grows prost) run alone found
    have reached := inner_run run
    exact upToDate.heard served.kept inOrder
      (Hldmm.announced_of_quiet prost reached sequential served.joined came)
      (Hldmm.announced_of_quiet prost reached sequential List.mem_cons_self rests)

def overheard {Action : Type} (connecting : List (List Action)) : List (FanAction Action) :=
  .subscribe :: connecting.flatMap fun actions =>
    actions.map .inner ++ [.offer 0, .offer 0, .take 0]

/-- A connection that is dialled; and one that is accepted, ends, and is accepted again. -/
theorem peer_events_overheard :
    (∃ (state : Fanned (Dlmm Float) PeerEvent) (subscriber : Subscriber (Dlmm Float) PeerEvent),
      subscriber.queue.received = [.connected "hldmm" 0] ∧
      PeerMap.lastHeard "hldmm" (decide ("hldmm" ∈ subscriber.joined.peers.connectedPeers))
          subscriber.queue.received =
        decide ("hldmm" ∈ state.inner.peers.connectedPeers)) ∧
    ∃ (state : Fanned (Hldmm Float) PeerEvent)
        (subscriber : Subscriber (Hldmm Float) PeerEvent),
      subscriber.queue.received =
        [.connected "10.0.0.7:40112" 0, .connected "10.0.0.7:40112" 0] ∧
      PeerMap.lastHeard "10.0.0.7:40112"
          (decide ("10.0.0.7:40112" ∈ subscriber.joined.peers.connectedPeers))
          subscriber.queue.received =
        decide ("10.0.0.7:40112" ∈ state.inner.peers.connectedPeers) := by
  constructor
  · have run := @replay_reachable _ _ (fanned (Dlmm.machine Dlmm.sampleConfig) Dlmm.told 64)
      (overheard [[.start, .connected, .proceed, .proceed, .proceed]]) rfl
    refine ⟨_, _, ?_, (peer_events.1 _ _ _ _ 0 _ run rfl).2 ?_ ?_ ?_ ?_ ?_ "hldmm"⟩
    · rfl
    · exact And.intro ⟨nofun, nofun⟩ (And.intro ⟨nofun, nofun⟩ (And.intro ⟨nofun, nofun⟩
        (And.intro ⟨nofun, fun _ => ⟨fun _ => rfl, rfl, Or.inl rfl, nofun, nofun⟩⟩
        (And.intro ⟨nofun, fun _ => ⟨fun _ => rfl, rfl, Or.inl rfl, nofun, nofun⟩⟩ trivial))))
    · decide
    · exact ⟨fun _ => rfl, rfl, Or.inl rfl, nofun, nofun⟩
    · exact ⟨fun _ => rfl, rfl, Or.inr rfl, nofun, nofun⟩
    · exact ⟨rfl, rfl, rfl, rfl⟩
  · have run := @replay_reachable _ _
      (fanned (Hldmm.machine Dlmm.sampleConfig.prost) Hldmm.told 64)
      (overheard [Hldmm.accepting, [.inbound 0 (.ok none), .finish 0,
        .accepted 0 (.ok "10.0.0.7:40112"), .proceed 0, .proceed 0, .proceed 0]]) rfl
    refine ⟨_, _, ?_, (peer_events.2 _ _ _ _ 0 _ run rfl).2 Hldmm.sequential_regained.2 ?_ ?_
      Hldmm.quiet_regained ?_ "10.0.0.7:40112"⟩
    · rfl
    · decide
    · exact ⟨fun _ => rfl, fun _ => rfl, fun _ => Or.inl rfl, nofun, nofun⟩
    · exact ⟨rfl, rfl, rfl, rfl⟩

end PeatSapient
