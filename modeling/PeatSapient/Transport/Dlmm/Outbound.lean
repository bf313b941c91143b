import PeatSapient.Transport.Dlmm.Moves

/-! What becomes of outbound payloads. The receiver is handed on from connection to
connection, and a payload is out of the channel only while it is being written. A write
that fails ends the connection, and the payload goes with it. -/

namespace PeatSapient.Dlmm

open HashMap Mpsc Execution

variable {F : Type}

/-- The payload that has left the channel and is not yet written. -/
def inHand : PeerLoop F → List Codec.Bytes
  | .sending raw => [raw]
  | _ => []

def betweenIterations : PeerLoop F → Bool
  | .publishing _ | .sending _ => false
  | _ => true

def sendFails : DlmmAction F → Bool
  | .sendRawDone false => true
  | _ => false

def shutsDown : DlmmAction F → Bool
  | .stop _ | .disconnect _ _ => true
  | _ => false

def failures (trace : Trace (Dlmm F) (DlmmAction F)) : Nat :=
  trace.countP fun entry => sendFails entry.2

theorem flatten_handOver (raw : Codec.Bytes) (handed : List (List Codec.Bytes)) :
    (handOver raw handed).reverse.flatten = handed.reverse.flatten ++ [raw] := by
  cases handed <;> simp [handOver]

theorem inHand_between {peerLoop : PeerLoop F}
    (between : betweenIterations peerLoop = true) : inHand peerLoop = [] := by
  cases peerLoop with
  | sending raw => cases between
  | _ => rfl

structure Conserved (trace : Trace (Dlmm F) (DlmmAction F)) (state : Dlmm F) : Prop where
  pushed : state.outbound.pushed = state.accepted
  counted : state.outbound.received.length =
    state.delivered.length + (inHand state.peerLoop).length + failures trace
  ordered : failures trace = 0 →
    state.outbound.received = state.delivered ++ inHand state.peerLoop

theorem failures_cons (entry : Dlmm F × DlmmAction F)
    (trace : Trace (Dlmm F) (DlmmAction F)) :
    failures (entry :: trace) = failures trace + if sendFails entry.2 then 1 else 0 :=
  List.countP_cons

theorem Conserved.next {trace : Trace (Dlmm F) (DlmmAction F)} {state after : Dlmm F}
    {action : DlmmAction F} (conserved : Conserved trace state)
    (fine : sendFails action = false) (pushed : after.outbound.pushed = after.accepted)
    (received : after.outbound.received = state.outbound.received)
    (delivered : after.delivered = state.delivered)
    (same : inHand after.peerLoop = inHand state.peerLoop) :
    Conserved ((state, action) :: trace) after := by
  have unfailed : failures ((state, action) :: trace) = failures trace := by
    simp [failures_cons, fine]
  constructor
  · exact pushed
  · rw [received, delivered, same, unfailed]
    exact conserved.counted
  · rw [received, delivered, same, unfailed]
    exact conserved.ordered

theorem Conserved.take {trace : Trace (Dlmm F) (DlmmAction F)} {state : Dlmm F}
    (conserved : Conserved trace state) {raw : Codec.Bytes} {outbound : Channel Codec.Bytes}
    (here : state.peerLoop = .selecting) (taken : state.outbound.recv = some (raw, outbound)) :
    Conserved ((state, .takeOutbound) :: trace)
      { state with outbound := outbound, peerLoop := .sending raw } := by
  obtain ⟨_, _, _, pushed, received, _⟩ := Channel.recv_cases taken
  have unfailed : failures ((state, .takeOutbound) :: trace) = failures trace := by
    simp [failures_cons, sendFails]
  have counted := conserved.counted
  have ordered := conserved.ordered
  rw [here] at counted ordered
  constructor
  · exact pushed.trans conserved.pushed
  · rw [unfailed]
    simp only [received, List.length_append, List.length_singleton, inHand, delivered,
      List.length_nil] at counted ⊢
    omega
  · intro none_
    rw [unfailed] at none_
    simp only [received, ordered none_, inHand, delivered, List.append_nil]

theorem Conserved.sent {trace : Trace (Dlmm F) (DlmmAction F)} {state : Dlmm F}
    (conserved : Conserved trace state) {raw : Codec.Bytes}
    (here : state.peerLoop = .sending raw) :
    Conserved ((state, .sendRawDone true) :: trace)
      { state with handed := handOver raw state.handed, peerLoop := .selecting } := by
  have unfailed : failures ((state, .sendRawDone true) :: trace) = failures trace := by
    simp [failures_cons, sendFails]
  have delivers : delivered { state with
      handed := handOver raw state.handed, peerLoop := .selecting } =
        state.delivered ++ [raw] := flatten_handOver raw state.handed
  have counted := conserved.counted
  have ordered := conserved.ordered
  rw [here] at counted ordered
  constructor
  · exact conserved.pushed
  · rw [unfailed, delivers]
    simp only [inHand, List.length_append, List.length_singleton, List.length_nil] at counted ⊢
    omega
  · intro none_
    rw [unfailed] at none_
    rw [delivers]
    simp only [ordered none_, inHand, List.append_nil]

theorem Conserved.failed {trace : Trace (Dlmm F) (DlmmAction F)} {state : Dlmm F}
    (conserved : Conserved trace state) {raw : Codec.Bytes}
    (here : state.peerLoop = .sending raw) :
    Conserved ((state, .sendRawDone false) :: trace) { state with peerLoop := .broken } := by
  have more : failures ((state, .sendRawDone false) :: trace) = failures trace + 1 := by
    simp [failures_cons, sendFails]
  have counted := conserved.counted
  rw [here] at counted
  constructor
  · exact conserved.pushed
  · rw [more]
    simp only [inHand, List.length_singleton, List.length_nil, delivered] at counted ⊢
    omega
  · intro none_
    omega

theorem received_send {before after : Channel Codec.Bytes} {raw : Codec.Bytes}
    (sent : before.send raw = some after) : after.received = before.received := by
  unfold Channel.send at sent
  split at sent
  · cases sent
    rfl
  · split at sent
    · cases sent
      rfl
    · cases sent

def recorded (config : DlmmConfig F) (state : Dlmm F) : Prop :=
  (state.peers.records.lookup config.peerNodeId).isSome = true

/-- Where the receiver is, and what goes with that, while nothing is shut down. -/
def Placed (config : DlmmConfig F) (state : Dlmm F) : Prop :=
  match state.connectLoop with
  | .idle => state.outboundRx = true ∧ state.peerLoop = .idle
  | .dialling => state.outboundRx = false ∧
      (state.peerLoop = .idle ∨ state.peerLoop = .returned)
  | .spawning => state.outboundRx = false ∧
      (state.peerLoop = .idle ∨ state.peerLoop = .returned)
  | .registering _ => state.outboundRx = false ∧ state.peerLoop ≠ .cancelled
  | .announcing _ => state.outboundRx = false ∧ state.peerLoop ≠ .cancelled ∧
      recorded config state
  | .awaiting _ => state.outboundRx = false ∧ state.peerLoop ≠ .cancelled ∧
      recorded config state
  | .checking _ => state.outboundRx = false ∧ state.peerLoop = .returned ∧
      recorded config state
  | .deregistering _ => state.outboundRx = false ∧ state.peerLoop = .returned
  | .reporting _ => state.outboundRx = false ∧ state.peerLoop = .returned
  | .ended => False

structure Running (config : DlmmConfig F) (state : Dlmm F) : Prop where
  placed : Placed config state
  alive : state.outbound.closed = false
  connectLive : state.connectAborted = false
  peerLive : state.peerAborted = false

theorem Placed.peer {config : DlmmConfig F} {state after : Dlmm F}
    (placed : Placed config state) (running : awaits state.peerLoop = true ∨
      state.peerLoop = .broken) (stays : after.peerLoop ≠ .cancelled)
    (connectLoop : after.connectLoop = state.connectLoop)
    (outboundRx : after.outboundRx = state.outboundRx) (peers : after.peers = state.peers) :
    Placed config after := by
  unfold Placed recorded at placed ⊢
  rw [connectLoop, outboundRx, peers]
  have busy : state.peerLoop ≠ .idle ∧ state.peerLoop ≠ .returned := by
    constructor <;> intro rest <;> simp [rest, awaits] at running
  -- A peer loop that can still step rules out every stage in which it has returned.
  cases here : state.connectLoop with
  | idle =>
      rw [here] at placed
      exact absurd placed.2 busy.1
  | dialling | spawning =>
      rw [here] at placed
      exact absurd placed.2 (not_or.mpr busy)
  | registering since =>
      rw [here] at placed
      exact ⟨placed.1, stays⟩
  | announcing since | awaiting since =>
      rw [here] at placed
      exact ⟨placed.1, stays, placed.2.2⟩
  | checking since =>
      rw [here] at placed
      exact absurd placed.2.1 busy.2
  | deregistering since | reporting since =>
      rw [here] at placed
      exact absurd placed.2 busy.2
  | ended =>
      rw [here] at placed
      exact placed

variable [FloatOps F]

theorem receiveInbound_rest (config : DlmmConfig F) (state : Dlmm F)
    (answer : Except SapientError (Option (SapientMessage F))) :
    ∃ translator peerLoop, inHand peerLoop = [] ∧ peerLoop ≠ .cancelled ∧
      state.receiveInbound config answer =
        { state with translator := translator, peerLoop := peerLoop } := by
  unfold receiveInbound
  split
  · refine ⟨_, _, ?_, ?_, rfl⟩ <;> split <;> simp [inHand]
  · exact ⟨state.translator, .broken, rfl, by simp, rfl⟩
  · exact ⟨state.translator, .broken, rfl, by simp, rfl⟩

/-- Unless the application shuts the transport down, no call is ever running. -/
theorem uncalled_run (config : DlmmConfig F) {trace : Trace (Dlmm F) (DlmmAction F)}
    {state : Dlmm F} (run : Run (machine config) trace state)
    (kept : ∀ entry ∈ trace, shutsDown entry.2 = false) (call : Nat) :
    state.calls call = .idle := by
  revert kept
  refine run.invariant (fun trace state =>
    (∀ entry ∈ trace, shutsDown entry.2 = false) → state.calls call = .idle) ?_ ?_
  · exact fun _ => rfl
  · intro trace before action after _ held taken kept
    have idle := held fun entry member => kept entry (List.mem_cons_of_mem _ member)
    have quiet := kept _ List.mem_cons_self
    cases moves_of_step config taken with
    | stop | disconnect => cases quiet
    | drain other here | abortTask other peerId record here | announce other peerId since here =>
        by_cases same : call = other
        · subst same
          rw [idle] at here
          cases here
        · simpa [setCall, same] using idle
    | start =>
        unfold start
        split <;> exact idle
    | receive answer here live =>
        obtain ⟨translator, peerLoop, _, _, shape⟩ := receiveInbound_rest config before answer
        rw [shape]
        exact idle
    | _ => exact idle

theorem running_connect (config : DlmmConfig F) {state after : Dlmm F}
    (running : Running config state) (moved : Moves config state .proceed after) :
    Running config after := by
  have placed := running.placed
  cases moved with
  | spawn here =>
      simp only [Placed, here] at placed
      exact ⟨⟨placed.1, by simp [spawnPeer]⟩, running.alive, running.connectLive, rfl⟩
  | register since here =>
      simp only [Placed, here] at placed
      exact ⟨⟨placed.1, placed.2, by simp [recorded, PeerMap.registerPeer]⟩, running.alive,
        running.connectLive, running.peerLive⟩
  | announceOpen since here =>
      simp only [Placed, here] at placed
      exact ⟨⟨placed.1, placed.2.1, placed.2.2⟩, running.alive, running.connectLive,
        running.peerLive⟩
  | takeBack since here live back =>
      simp only [Placed, here] at placed
      exact ⟨⟨placed.1, back, placed.2.2⟩, running.alive, running.connectLive,
        running.peerLive⟩
  | giveUp since here live lost =>
      simp only [Placed, here] at placed
      exact absurd lost placed.2.1
  | recheck since here present =>
      simp only [Placed, here] at placed
      exact ⟨⟨placed.1, placed.2.1⟩, running.alive, running.connectLive, running.peerLive⟩
  | leave since here absent =>
      simp only [Placed, here, recorded, absent] at placed
      simp at placed
  | deregister since here =>
      simp only [Placed, here] at placed
      exact ⟨⟨placed.1, placed.2⟩, running.alive, running.connectLive, running.peerLive⟩
  | report since here =>
      simp only [Placed, here] at placed
      exact ⟨⟨placed.1, Or.inr placed.2⟩, running.alive, running.connectLive,
        running.peerLive⟩

theorem running_step (config : DlmmConfig F) {state after : Dlmm F} {action : DlmmAction F}
    (running : Running config state) (uncalled : ∀ call, state.calls call = .idle)
    (kept : shutsDown action = false) (moved : Moves config state action after) :
    Running config after := by
  have placed := running.placed
  have whole := moved
  cases moved with
  | spawn | register | announceOpen | takeBack | giveUp | recheck | leave | deregister | report =>
      exact running_connect config running whole
  | elapse =>
      exact ⟨placed, running.alive, running.connectLive, running.peerLive⟩
  | stop | disconnect =>
      cases kept
  | drain call here
  | abortTask call peerId record here
  | announce call peerId since here =>
      rw [uncalled call] at here
      cases here
  | refuse raw outbound gone sent =>
      rw [running.alive] at gone
      cases gone
  | start =>
      unfold start
      split
      · next held =>
          refine ⟨⟨rfl, ?_⟩, running.alive, rfl, running.peerLive⟩
          unfold Placed at placed
          split at placed <;> simp_all
      · exact ⟨placed, running.alive, running.connectLive, running.peerLive⟩
  | accept raw outbound alive sent =>
      exact ⟨placed, (Channel.closed_send sent).trans alive, running.connectLive,
        running.peerLive⟩
  | connected here live =>
      simp only [Placed, here] at placed
      exact ⟨placed, running.alive, running.connectLive, running.peerLive⟩
  | receive answer here live =>
      obtain ⟨translator, peerLoop, _, stays, shape⟩ :=
        receiveInbound_rest config state answer
      rw [shape]
      exact ⟨placed.peer (Or.inl (by rw [here]; rfl)) stays rfl rfl rfl, running.alive,
        running.connectLive, running.peerLive⟩
  | publish publication here live =>
      exact ⟨placed.peer (Or.inl (by rw [here]; rfl)) (by simp) rfl rfl rfl, running.alive,
        running.connectLive, running.peerLive⟩
  | take raw outbound here live taken =>
      exact ⟨placed.peer (Or.inl (by rw [here]; rfl)) (by simp) rfl rfl rfl,
        (Channel.closed_recv taken).trans running.alive, running.connectLive,
        running.peerLive⟩
  | sent raw here live =>
      exact ⟨placed.peer (Or.inl (by rw [here]; rfl)) (by simp) rfl rfl rfl, running.alive,
        running.connectLive, running.peerLive⟩
  | failed raw here live =>
      exact ⟨placed.peer (Or.inl (by rw [here]; rfl)) (by simp) rfl rfl rfl, running.alive,
        running.connectLive, running.peerLive⟩
  | finish here =>
      -- The connect loop is there to take the receiver back.
      have stays : state.connectLoop ≠ .ended := by
        intro ended
        simp [Placed, ended] at placed
      simp only [if_neg stays]
      exact ⟨placed.peer (Or.inr here) (by simp) rfl rfl rfl, running.alive,
        running.connectLive, running.peerLive⟩
  | cancelDialling dead
  | cancelTakeBack _ dead
  | cancelAwaiting _ dead =>
      rw [running.connectLive] at dead
      cases dead
  | cancelPeer dead here =>
      rw [running.peerLive] at dead
      cases dead

theorem running_run (config : DlmmConfig F) {trace : Trace (Dlmm F) (DlmmAction F)}
    {state : Dlmm F} (run : Run (machine config) trace state)
    (kept : ∀ entry ∈ trace, shutsDown entry.2 = false) : Running config state := by
  revert kept
  refine run.invariant (fun trace state =>
    (∀ entry ∈ trace, shutsDown entry.2 = false) → Running config state) ?_ ?_
  · exact fun _ => ⟨⟨rfl, rfl⟩, rfl, rfl, rfl⟩
  · intro trace before action after earlier held taken kept
    have before_ := fun entry member => kept entry (List.mem_cons_of_mem _ member)
    exact running_step config (held before_) (uncalled_run config earlier before_)
      (kept _ List.mem_cons_self) (moves_of_step config taken)

theorem conserved_step (config : DlmmConfig F) {trace : Trace (Dlmm F) (DlmmAction F)}
    {state after : Dlmm F} {action : DlmmAction F} (running : Running config state)
    (uncalled : ∀ call, state.calls call = .idle) (kept : shutsDown action = false)
    (conserved : Conserved trace state)
    (moved : Moves config state action after) : Conserved ((state, action) :: trace) after := by
  -- Only `take` and what follows it move payloads between hand, wire and channel.
  cases moved with
  | accept raw outbound alive sent =>
      rcases Channel.send_cases sent with ⟨gone, _⟩ | ⟨_, _, _, pushed, _⟩
      · rw [alive] at gone
        cases gone
      · exact conserved.next rfl (by rw [pushed, conserved.pushed]) (received_send sent) rfl rfl
  | refuse raw outbound gone sent =>
      rcases Channel.send_cases sent with ⟨_, _, pushed, _⟩ | ⟨alive, _⟩
      · exact conserved.next rfl (by rw [pushed, conserved.pushed]) (received_send sent) rfl rfl
      · rw [gone] at alive
        cases alive
  | take raw outbound here live taken => exact conserved.take here taken
  | sent raw here live => exact conserved.sent here
  | failed raw here live => exact conserved.failed here
  | spawn here =>
      -- Spawning means that the last peer loop has returned, with nothing in hand.
      have rest : inHand state.peerLoop = [] := by
        have placed := running.placed
        simp only [Placed, here] at placed
        rcases placed.2 with idle | returned
        · rw [idle]
          rfl
        · rw [returned]
          rfl
      refine conserved.next rfl conserved.pushed rfl ?_ ?_
      · simp [delivered, spawnPeer]
      · rw [rest]
        rfl
  | receive answer here live =>
      obtain ⟨translator, peerLoop, empty, _, shape⟩ := receiveInbound_rest config state answer
      rw [shape]
      exact conserved.next rfl conserved.pushed rfl rfl (by rw [here]; exact empty)
  | start =>
      unfold start
      split <;> exact conserved.next rfl conserved.pushed rfl rfl rfl
  | stop | disconnect => cases kept
  | drain call here | abortTask call peerId record here | announce call peerId since here =>
      rw [uncalled call] at here
      cases here
  | finish here =>
      refine conserved.next rfl ?_ ?_ rfl (by rw [here]; rfl)
      · dsimp only
        split <;> exact conserved.pushed
      · dsimp only
        split <;> rfl
  | cancelPeer dead here =>
      rw [running.peerLive] at dead
      cases dead
  | elapse | connected | register | announceOpen | takeBack | giveUp | recheck | leave
  | deregister | report | cancelDialling | cancelTakeBack | cancelAwaiting =>
      exact conserved.next rfl conserved.pushed rfl rfl rfl
  | publish publication here live =>
      exact conserved.next rfl conserved.pushed rfl rfl (by rw [here]; rfl)

theorem conserved_run (config : DlmmConfig F) {trace : Trace (Dlmm F) (DlmmAction F)}
    {state : Dlmm F} (run : Run (machine config) trace state)
    (kept : ∀ entry ∈ trace, shutsDown entry.2 = false) : Conserved trace state := by
  revert kept
  refine run.invariant (fun trace state =>
    (∀ entry ∈ trace, shutsDown entry.2 = false) → Conserved trace state) ?_ ?_
  · exact fun _ => ⟨rfl, rfl, fun _ => rfl⟩
  · intro trace before action after earlier held taken kept
    have before_ := fun entry member => kept entry (List.mem_cons_of_mem _ member)
    exact conserved_step config (running_run config earlier before_)
      (uncalled_run config earlier before_) (kept _ List.mem_cons_self) (held before_)
      (moves_of_step config taken)

/-- Between two iterations of the loops, the payloads handed to the connections so far
and those still in the channel are the accepted ones, in order and once each, exactly
when no call of `send_raw` has failed. -/
theorem outbound_kept_iff (config : DlmmConfig F) {trace : Trace (Dlmm F) (DlmmAction F)}
    {state : Dlmm F} (run : Run (machine config) trace state)
    (kept : ∀ entry ∈ trace, shutsDown entry.2 = false)
    (between : betweenIterations state.peerLoop = true) :
    state.delivered ++ state.outbound.buffer = state.accepted ↔
      ∀ entry ∈ trace, sendFails entry.2 = false := by
  have conserved := conserved_run config run kept
  have counted := conserved.counted
  have ordered := conserved.ordered
  rw [inHand_between between] at counted ordered
  have written : (∀ entry ∈ trace, sendFails entry.2 = false) ↔ failures trace = 0 := by
    simp [failures, List.countP_eq_zero]
  rw [written, ← conserved.pushed, Channel.pushed]
  -- The three shares add up to the payloads taken, less one for each failed write.
  constructor
  · intro same
    have lengths := congrArg List.length same
    simp only [List.length_append, List.length_nil] at lengths counted
    omega
  · intro none_
    rw [ordered none_, List.append_nil]

def handingOver (raw : Codec.Bytes) : List (DlmmAction Float) :=
  [.start, .connected, .proceed, .proceed, .proceed, .sendOutbound raw, .takeOutbound]

def reconnecting : List (DlmmAction Float) :=
  [.finish, .proceed, .proceed, .proceed, .proceed, .connected, .proceed, .proceed, .proceed]

theorem outbound_kept_iff_reconnect :
    ∃ state : Dlmm Float, state.delivered = [[1]] ∧ state.outbound.buffer = [[2]] ∧
      state.delivered ++ state.outbound.buffer = state.accepted :=
  ⟨_, rfl, rfl, (outbound_kept_iff sampleConfig
    (replay_reachable (handingOver [1] ++
      [.sendRawDone true, .inbound (.ok none), .sendOutbound [2]] ++ reconnecting) rfl)
    (by decide) (by decide)).mpr (by decide)⟩

/-- A payload whose write fails is neither handed over nor in the channel. -/
theorem outbound_lost :
    ¬ ∀ (trace : Trace (Dlmm Float) (DlmmAction Float)) (state : Dlmm Float),
      Run (machine sampleConfig) trace state →
      (∀ entry ∈ trace, shutsDown entry.2 = false) →
      betweenIterations state.peerLoop = true →
      state.delivered ++ state.outbound.buffer = state.accepted := by
  intro kept
  have same := kept _ _ (replay_reachable
    (handingOver [1] ++ [.sendRawDone false] ++ reconnecting) rfl) (by decide) (by decide)
  revert same
  decide

end PeatSapient.Dlmm
