import PeatSapient.Transport.Dlmm.Outbound
import PeatSapient.Transport.Link

/-! The sending side of a link. The payloads taken from the outbound channel are those that
the connections were given to write, one connection after the other, and what a connection
has sent is the beginning of their frames. -/

namespace PeatSapient.Link

open HashMap Mpsc Execution Codec

variable {F : Type}

/-- The peer loop of the latest connection writes what it took, and then goes on. -/
def Aligned (peerLoop : PeerLoop F) (wire : Wire) : Prop :=
  match peerLoop with
  | .selecting | .publishing _ => wire.offered = wire.whole
  | .sending raw => wire.offered = wire.whole ++ [raw]
  | _ => True

structure WireSound (wire : Wire) : Prop where
  sent : wire.sent <+: streamOf wire.offered
  whole : wire.whole <+: wire.offered
  written : streamOf wire.whole <+: wire.sent

structure Sending (state : Link F) : Prop where
  founded : Dlmm.Founded state.sender
  accepted : state.sender.outbound.pushed = state.sender.accepted
  taken : state.sender.outbound.received =
    (List.range state.sender.current).flatMap fun conn => (state.wires (conn + 1)).offered
  handed : state.sender.handed.reverse =
    (List.range state.sender.current).map fun conn => (state.wires (conn + 1)).whole
  unnumbered : (state.wires 0).offered = []
  fresh : ∀ conn, state.sender.current < conn →
    (state.wires conn).offered = [] ∧ (state.wires conn).whole = [] ∧
      (state.wires conn).sent = []
  sound : ∀ conn, WireSound (state.wires conn)
  aligned : Aligned state.sender.peerLoop state.latest

theorem flatMap_range_congr {α : Type} {bound : Nat} {before after : Nat → List α}
    (same : ∀ index, index < bound → after index = before index) :
    (List.range bound).flatMap after = (List.range bound).flatMap before := by
  induction bound with
  | zero => rfl
  | succ bound ih =>
      rw [List.range_succ, List.flatMap_append, List.flatMap_append,
        ih fun index less => same index (Nat.lt_succ_of_lt less)]
      simp [same bound (Nat.lt_succ_self bound)]

theorem streamOf_append (left right : List Bytes) :
    streamOf (left ++ right) = streamOf left ++ streamOf right := List.flatMap_append

inductive Flows (state : Dlmm F) (action : DlmmAction F) (after : Dlmm F) : Prop where
  | takes (raw : Bytes) (is : action = .takeOutbound) (connected : state.handed ≠ [])
      (here : state.peerLoop = .selecting) (now : after.peerLoop = .sending raw)
      (received : after.outbound.received = state.outbound.received ++ [raw])
      (handed : after.handed = state.handed)
  | finishes (raw : Bytes) (is : action = .sendRawDone true) (connected : state.handed ≠ [])
      (here : state.peerLoop = .sending raw) (now : after.peerLoop = .selecting)
      (received : after.outbound.received = state.outbound.received)
      (handed : after.handed = Dlmm.handOver raw state.handed)
  | opens (other : action ≠ .takeOutbound ∧ action ≠ .sendRawDone true)
      (now : after.peerLoop = .selecting)
      (received : after.outbound.received = state.outbound.received)
      (handed : after.handed = [] :: state.handed)
  | stays (other : action ≠ .takeOutbound ∧ action ≠ .sendRawDone true)
      (aligned : ∀ wire, Aligned state.peerLoop wire → Aligned after.peerLoop wire)
      (received : after.outbound.received = state.outbound.received)
      (handed : after.handed = state.handed)

theorem current_succ {state : Link F} (connected : state.sender.handed ≠ []) :
    ∃ earlier, state.sender.current = earlier + 1 :=
  Nat.exists_eq_succ_of_ne_zero fun none_ => connected (List.length_eq_zero_iff.mp none_)

theorem setWire_of_ne (state : Link F) {conn other : Nat} (wire : Wire) (apart : other ≠ conn) :
    (state.setWire conn wire).wires other = state.wires other := by
  simp [setWire, apart]

/-- The latest connection is given a payload to write. -/
theorem Sending.takes {state : Link F} {sender : Dlmm F} {raw : Bytes}
    (sending : Sending state) (founded : Dlmm.Founded sender)
    (accepted : sender.outbound.pushed = sender.accepted)
    (connected : state.sender.handed ≠ []) (here : state.sender.peerLoop = .selecting)
    (now : sender.peerLoop = .sending raw)
    (received : sender.outbound.received = state.sender.outbound.received ++ [raw])
    (handed : sender.handed = state.sender.handed) :
    Sending ({ state with sender := sender }.setWire state.sender.current
      { state.latest with offered := state.latest.offered ++ [raw] }) := by
  have current : sender.current = state.sender.current := by simp [Dlmm.current, handed]
  have sound := sending.sound state.sender.current
  have aligned := sending.aligned
  rw [here] at aligned
  constructor
  · exact founded
  · exact accepted
  · obtain ⟨earlier, last⟩ := current_succ connected
    have taken := sending.taken
    simp only [setWire, current, received, last, List.range_succ, List.flatMap_append,
      List.flatMap_singleton, Function.update_self, latest] at taken ⊢
    rw [taken, flatMap_range_congr fun index less => ?_, List.append_assoc]
    rw [Function.update_of_ne (by omega)]
  · have kept := sending.handed
    simp only [setWire, current, handed]
    rw [kept]
    apply List.map_congr_left
    intro conn _
    by_cases same : conn + 1 = state.sender.current
    · simp [same, latest]
    · simp [same]
  · obtain ⟨earlier, last⟩ := current_succ connected
    rw [setWire_of_ne _ _ (by omega)]
    exact sending.unnumbered
  · intro conn beyond
    have apart : conn ≠ state.sender.current := by
      have later : state.sender.current < conn := by simpa [setWire, current] using beyond
      omega
    rw [setWire_of_ne _ _ apart]
    exact sending.fresh conn (by simpa [setWire, current] using beyond)
  · intro conn
    by_cases same : conn = state.sender.current
    · subst same
      simp only [setWire, Function.update_self]
      refine ⟨?_, sound.whole.trans (List.prefix_append _ _), sound.written⟩
      rw [streamOf_append]
      exact sound.sent.trans (List.prefix_append _ _)
    · rw [setWire_of_ne _ _ same]
      exact sending.sound conn
  · have same : state.latest.offered = state.latest.whole := aligned
    simpa [Aligned, now, latest, setWire, current] using same

/-- A write of the latest connection has succeeded, so all of it was sent. -/
theorem Sending.finishes {state : Link F} {sender : Dlmm F} {raw : Bytes}
    (sending : Sending state) (founded : Dlmm.Founded sender)
    (accepted : sender.outbound.pushed = sender.accepted)
    (connected : state.sender.handed ≠ []) (here : state.sender.peerLoop = .sending raw)
    (now : sender.peerLoop = .selecting)
    (received : sender.outbound.received = state.sender.outbound.received)
    (handed : sender.handed = Dlmm.handOver raw state.sender.handed)
    (sent : state.latest.sent = streamOf state.latest.offered) :
    Sending ({ state with sender := sender }.setWire state.sender.current
      { state.latest with whole := state.latest.offered }) := by
  have current : sender.current = state.sender.current := by
    simp [Dlmm.current, handed, Dlmm.length_handOver raw connected]
  have sound := sending.sound state.sender.current
  have aligned := sending.aligned
  rw [here] at aligned
  have grown : state.latest.offered = state.latest.whole ++ [raw] := aligned
  constructor
  · exact founded
  · exact accepted
  · have taken := sending.taken
    simp only [setWire, current, received]
    rw [taken]
    apply flatMap_range_congr
    intro conn _
    by_cases same : conn + 1 = state.sender.current
    · simp [same, latest]
    · simp [same]
  · obtain ⟨earlier, last⟩ := current_succ connected
    obtain ⟨latest_, others, shape⟩ := List.exists_cons_of_ne_nil connected
    have kept := sending.handed
    simp only [setWire, current, handed, shape, Dlmm.handOver, last, List.range_succ,
      List.map_append, List.map_singleton, List.reverse_cons, Function.update_self] at kept ⊢
    obtain ⟨before, mine⟩ := List.append_inj' kept rfl
    rw [before]
    congr 1
    · apply List.map_congr_left
      intro conn member
      have less := List.mem_range.mp member
      rw [Function.update_of_ne (by omega)]
    · have own : latest_ = state.latest.whole := by
        simpa [latest, last] using mine
      rw [own, grown]
  · obtain ⟨earlier, last⟩ := current_succ connected
    rw [setWire_of_ne _ _ (by omega)]
    exact sending.unnumbered
  · intro conn beyond
    have apart : conn ≠ state.sender.current := by
      have later : state.sender.current < conn := by simpa [setWire, current] using beyond
      omega
    rw [setWire_of_ne _ _ apart]
    exact sending.fresh conn (by simpa [setWire, current] using beyond)
  · intro conn
    by_cases same : conn = state.sender.current
    · subst same
      simp only [setWire, Function.update_self]
      have all : streamOf state.latest.offered <+: state.latest.sent :=
        ⟨[], by rw [List.append_nil, sent]⟩
      exact ⟨sound.sent, List.prefix_refl _, all⟩
    · rw [setWire_of_ne _ _ same]
      exact sending.sound conn
  · simp [Aligned, now, latest, setWire, current]

theorem Sending.keeps {state : Link F} {sender : Dlmm F} (sending : Sending state)
    (founded : Dlmm.Founded sender) (accepted : sender.outbound.pushed = sender.accepted)
    (received : sender.outbound.received = state.sender.outbound.received)
    (handed : (sender.handed = [] :: state.sender.handed ∧ sender.peerLoop = .selecting) ∨
      (sender.handed = state.sender.handed ∧
        ∀ wire, Aligned state.sender.peerLoop wire → Aligned sender.peerLoop wire)) :
    Sending { state with sender := sender } := by
  rcases handed with ⟨opened, now⟩ | ⟨same, aligned⟩
  · have current : sender.current = state.sender.current + 1 := by
      simp [Dlmm.current, opened]
    obtain ⟨noneOffered, noneWhole, noneSent⟩ :=
      sending.fresh (state.sender.current + 1) (Nat.lt_succ_self _)
    constructor
    · exact founded
    · exact accepted
    · simp [current, received, List.range_succ, sending.taken, noneOffered]
    · simp [current, opened, List.range_succ, sending.handed, noneWhole]
    · exact sending.unnumbered
    · intro conn beyond
      exact sending.fresh conn (by simp only [current] at beyond; omega)
    · exact sending.sound
    · simp [Aligned, now, latest, current, noneOffered, noneWhole]
  · have current : sender.current = state.sender.current := by simp [Dlmm.current, same]
    constructor
    · exact founded
    · exact accepted
    · simpa only [current, received] using sending.taken
    · simpa only [current, same] using sending.handed
    · exact sending.unnumbered
    · simpa only [current] using sending.fresh
    · exact sending.sound
    · have held := aligned _ sending.aligned
      simpa only [latest, current] using held

structure Grows (before after : Link F) : Prop where
  accepted : before.sender.accepted <+: after.sender.accepted
  offered : ∀ conn, (before.wires conn).offered <+: (after.wires conn).offered
  sent : ∀ conn, (before.wires conn).sent <+: (after.wires conn).sent

theorem Grows.setWire {state : Link F} {sender : Dlmm F} {conn : Nat} {wire : Wire}
    (accepted : state.sender.accepted <+: sender.accepted)
    (offered : (state.wires conn).offered <+: wire.offered)
    (sent : (state.wires conn).sent <+: wire.sent) :
    Grows state ({ state with sender := sender }.setWire conn wire) := by
  constructor
  · exact accepted
  · intro other
    by_cases same : other = conn
    · subst same
      simpa [Link.setWire] using offered
    · simp [setWire_of_ne _ _ same]
  · intro other
    by_cases same : other = conn
    · subst same
      simpa [Link.setWire] using sent
    · simp [setWire_of_ne _ _ same]

theorem Sending.congr {before after : Link F} (sending : Sending before)
    (sender : after.sender = before.sender)
    (wires : ∀ conn, (after.wires conn).offered = (before.wires conn).offered ∧
      (after.wires conn).whole = (before.wires conn).whole)
    (sent : ∀ conn, (before.wires conn).sent <+: (after.wires conn).sent)
    (within : ∀ conn, (after.wires conn).sent <+: streamOf (before.wires conn).offered) :
    Sending after where
  founded := by
    rw [sender]
    exact sending.founded
  accepted := by
    rw [sender]
    exact sending.accepted
  taken := by
    rw [sender, sending.taken]
    exact flatMap_range_congr fun conn _ => (wires (conn + 1)).1.symm
  handed := by
    rw [sender, sending.handed]
    exact List.map_congr_left fun conn _ => (wires (conn + 1)).2.symm
  unnumbered := (wires 0).1.trans sending.unnumbered
  fresh := by
    intro conn beyond
    rw [sender] at beyond
    obtain ⟨noneOffered, noneWhole, _⟩ := sending.fresh conn beyond
    have nothing := within conn
    rw [noneOffered] at nothing
    exact ⟨(wires conn).1.trans noneOffered, (wires conn).2.trans noneWhole,
      List.prefix_nil.mp nothing⟩
  sound := by
    intro conn
    have sound := sending.sound conn
    constructor
    · rw [(wires conn).1]
      exact within conn
    · rw [(wires conn).1, (wires conn).2]
      exact sound.whole
    · rw [(wires conn).2]
      exact sound.written.trans (sent conn)
  aligned := by
    have aligned := sending.aligned
    unfold Aligned latest at aligned ⊢
    rw [sender]
    simp only [(wires _).1, (wires _).2]
    exact aligned

theorem sending_write {state : Link F} (sending : Sending state) (count : Nat) :
    let written := state.setWire state.sender.current
      { state.latest with
        sent := state.latest.sent ++
          ((streamOf state.latest.offered).drop state.latest.sent.length).take count }
    Sending written ∧ Grows state written := by
  intro written
  obtain ⟨ahead, whole⟩ := (sending.sound state.sender.current).sent
  have rest : (streamOf state.latest.offered).drop state.latest.sent.length = ahead := by
    unfold latest
    rw [← whole, List.drop_left]
  constructor
  · apply Sending.congr sending
    · rfl
    all_goals
      intro conn
      by_cases same : conn = state.sender.current
    · subst same
      simp [written, setWire, latest]
    · simp [written, setWire, same]
    · subst same
      simp [written, setWire, latest]
    · simp [written, setWire, same]
    · subst same
      have within : (state.latest.sent ++ ahead.take count) <+:
          streamOf state.latest.offered := by
        unfold latest
        rw [← whole]
        exact (List.prefix_append_right_inj _).mpr (List.take_prefix _ _)
      simp only [written, setWire, Function.update_self, rest]
      exact within
    · simp only [written, setWire, Function.update_of_ne same]
      exact (sending.sound conn).sent
  · exact Grows.setWire (List.prefix_refl _) (List.prefix_refl _) (List.prefix_append _ _)

variable [FloatOps F]

theorem flows (config : DlmmConfig F) {state after : Dlmm F} {action : DlmmAction F}
    (founded : Dlmm.Founded state) (moved : Dlmm.Moves config state action after) :
    Flows state action after := by
  have connected : ∀ stage, state.peerLoop = stage → stage ≠ .idle → state.handed ≠ [] := by
    intro stage here busy none_
    rw [founded.unconnected none_] at here
    exact busy here.symm
  cases moved with
  | take raw outbound here live taken =>
      obtain ⟨_, _, _, _, received, _⟩ := Channel.recv_cases taken
      exact .takes raw rfl (connected _ here (by simp)) here rfl received rfl
  | sent raw here live =>
      exact .finishes raw rfl (connected _ here (by simp)) here rfl rfl rfl
  | spawn here => exact .opens (by simp) rfl rfl rfl
  | accept raw outbound alive sent | refuse raw outbound gone sent =>
      exact .stays (by simp) (fun _ aligned => aligned) (Dlmm.received_send sent) rfl
  | start =>
      apply Flows.stays
      · simp
      all_goals
        unfold Dlmm.start
        split
      · exact fun _ aligned => aligned
      · exact fun _ aligned => aligned
      all_goals rfl
  | receive answer here live =>
      apply Flows.stays
      · simp
      all_goals
        unfold Dlmm.receiveInbound
        split
      · intro wire aligned
        rw [here] at aligned
        dsimp only
        split <;> exact aligned
      · exact fun _ _ => trivial
      · exact fun _ _ => trivial
      all_goals rfl
  | publish publication here live =>
      refine .stays (by simp) (fun wire aligned => ?_) rfl rfl
      rw [here] at aligned
      exact aligned
  | failed raw here live | cancelPeer dead here =>
      exact .stays (by simp) (fun _ _ => trivial) rfl rfl
  | finish here =>
      refine .stays (by simp) (fun _ _ => trivial) ?_ rfl
      dsimp only
      split <;> rfl
  | _ => exact .stays (by simp) (fun _ aligned => aligned) rfl rfl

theorem accepted_step (config : DlmmConfig F) {state after : Dlmm F} {action : DlmmAction F}
    (same : state.outbound.pushed = state.accepted)
    (moved : Dlmm.Moves config state action after) :
    after.outbound.pushed = after.accepted ∧ state.accepted <+: after.accepted := by
  cases moved with
  | accept raw outbound alive sent =>
      rcases Channel.send_cases sent with ⟨gone, _⟩ | ⟨_, _, _, pushed, _⟩
      · rw [alive] at gone
        cases gone
      · exact ⟨by rw [pushed, same], List.prefix_append _ _⟩
  | refuse raw outbound gone sent =>
      rcases Channel.send_cases sent with ⟨_, _, pushed, _⟩ | ⟨alive, _⟩
      · exact ⟨pushed.trans same, List.prefix_refl _⟩
      · rw [gone] at alive
        cases alive
  | take raw outbound here live taken =>
      obtain ⟨_, _, _, pushed, _⟩ := Channel.recv_cases taken
      exact ⟨pushed.trans same, List.prefix_refl _⟩
  | start =>
      unfold Dlmm.start
      split <;> exact ⟨same, List.prefix_refl _⟩
  | receive answer here live =>
      unfold Dlmm.receiveInbound
      split <;> exact ⟨same, List.prefix_refl _⟩
  | finish here =>
      refine ⟨?_, List.prefix_refl _⟩
      dsimp only
      split <;> exact same
  | _ => exact ⟨same, List.prefix_refl _⟩

theorem sending_sender (config : DlmmConfig F) {state after : Link F} {action : DlmmAction F}
    (sending : Sending state) (stepped : state.stepSender config action = some after) :
    Sending after ∧ Grows state after := by
  unfold stepSender at stepped
  split at stepped
  · cases stepped
  · next sender taken =>
      have moved := Dlmm.moves_of_step config taken
      have founded := Dlmm.founded_step config sending.founded moved
      obtain ⟨accepted, grown⟩ := accepted_step config sending.accepted moved
      have same : Grows state { state with sender := sender } :=
        ⟨grown, fun _ => List.prefix_refl _, fun _ => List.prefix_refl _⟩
      cases flows config sending.founded moved with
      | takes raw is connected here now received handed =>
          subst is
          simp only [now] at stepped
          cases stepped
          exact ⟨sending.takes founded accepted connected here now received handed,
            Grows.setWire grown (List.prefix_append _ _) (List.prefix_refl _)⟩
      | finishes raw is connected here now received handed =>
          subst is
          dsimp only at stepped
          split at stepped
          · next complete =>
              cases stepped
              exact ⟨sending.finishes founded accepted connected here now received handed
                complete, Grows.setWire grown (List.prefix_refl _) (List.prefix_refl _)⟩
          · cases stepped
      | opens other now received handed =>
          split at stepped
          · exact absurd rfl other.1
          · exact absurd rfl other.2
          · cases stepped
            exact ⟨sending.keeps founded accepted received (Or.inl ⟨handed, now⟩), same⟩
      | stays other aligned received handed =>
          split at stepped
          · exact absurd rfl other.1
          · exact absurd rfl other.2
          · cases stepped
            exact ⟨sending.keeps founded accepted received (Or.inr ⟨handed, aligned⟩), same⟩

theorem sending_step (config : DlmmConfig F) (prost : Prost (SapientMessage F))
    {state after : Link F} {action : LinkAction F} (sending : Sending state)
    (taken : step config prost state action = some after) : Sending after ∧ Grows state after := by
  have aside : ∀ later : Link F, later.sender = state.sender →
      (∀ conn, (later.wires conn).offered = (state.wires conn).offered ∧
        (later.wires conn).whole = (state.wires conn).whole ∧
          (later.wires conn).sent = (state.wires conn).sent) →
        Sending later ∧ Grows state later := by
    intro later sender wires
    constructor
    · apply Sending.congr sending sender
      · exact fun conn => ⟨(wires conn).1, (wires conn).2.1⟩
      · exact fun conn => by simp [wires conn]
      · intro conn
        rw [(wires conn).2.2]
        exact (sending.sound conn).sent
    · exact ⟨by simp [sender], fun conn => by simp [wires conn], fun conn => by simp [wires conn]⟩
  cases action with
  | sender action => exact sending_sender config sending taken
  | receiver action =>
      simp only [step, stepReceiver] at taken
      split at taken
      · cases taken
      · split at taken
        · split at taken <;> cases taken <;> exact aside _ rfl fun _ => ⟨rfl, rfl, rfl⟩
        · split at taken <;> cases taken
          exact aside _ rfl fun _ => ⟨rfl, rfl, rfl⟩
        · cases taken
          exact aside _ rfl fun _ => ⟨rfl, rfl, rfl⟩
  | write count =>
      simp only [step] at taken
      split at taken <;> cases taken
      exact sending_write sending count
  | accept accept conn peerId =>
      simp only [step] at taken
      split at taken
      · cases taken
      · obtain ⟨receiver, _, rfl⟩ := Option.map_eq_some_iff.mp taken
        refine aside _ rfl fun other => ?_
        by_cases same : other = conn
        · subst same
          simp [setWire]
        · simp [setWire, same]
  | read task count =>
      simp only [step] at taken
      split at taken <;> cases taken
      exact aside _ rfl fun _ => ⟨rfl, rfl, rfl⟩
  | receive task =>
      simp only [step] at taken
      split at taken
      · cases taken
      · simp only [decodeNext] at taken
        split at taken
        · cases taken
        all_goals
          obtain ⟨receiver, _, rfl⟩ := Option.map_eq_some_iff.mp taken
          exact aside _ rfl fun _ => ⟨rfl, rfl, rfl⟩

theorem sending_run (config : DlmmConfig F) (prost : Prost (SapientMessage F))
    {state : Link F} (reached : Reachable (machine config prost) state) : Sending state := by
  apply reached.invariant
  · exact ⟨⟨fun _ => rfl, fun _ => rfl⟩, rfl, rfl, rfl, rfl, fun _ _ => ⟨rfl, rfl, rfl⟩,
      fun _ => ⟨List.nil_prefix, List.nil_prefix, List.nil_prefix⟩, trivial⟩
  · intro before action after _ sending taken
    exact (sending_step config prost sending taken).1

end PeatSapient.Link
