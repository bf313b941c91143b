import PeatSapient.Transport.Hldmm.Moves
import PeatSapient.Transport.Link.Sending

/-! The receiving side of a link, and what arrives. Each connection of the DLMM is read by one
receive loop at most; the messages it decodes are those of the payloads written, from the
first on and without a gap, whatever the chunks and wherever the connection breaks. -/

namespace PeatSapient.Link

open HashMap Mpsc Execution Codec Incremental

variable {F : Type}

inductive Holder where
  | accept (accept : Nat)
  | task (task : Nat)

def holds (state : Link F) : Holder → Option Nat
  | .accept accept => state.incoming accept
  | .task task => (state.readers task).source

/-- A connection is accepted once, and given to one receive loop. -/
structure Owned (state : Link F) : Prop where
  alone : ∀ left right conn, state.holds left = some conn → state.holds right = some conn →
    left = right
  claimed : ∀ holder conn, state.holds holder = some conn → (state.wires conn).claimed = true

def running (state : Link F) (task : Nat) : Prop :=
  Hldmm.recvAwaits (state.receiver.recvLoops task).stage = true

/-- The messages of a reader are the contents of payloads that its connection was given, from
the first on. -/
def Faithful (prost : Prost (SapientMessage F)) (offered : List Bytes)
    (got : List (SapientMessage F)) : Prop :=
  ∃ done, done <+: offered ∧ done.map (contents prost) = got.map .ok

structure Receives (prost : Prost (SapientMessage F)) (state : Link F) (task conn : Nat) :
    Prop where
  faithful : Faithful prost (state.wires conn).offered (state.readers task).got
  within : (state.readers task).taken ≤ (state.wires conn).sent.length
  reading : state.running task → Reading wrappedFrame (contents prost)
    (state.wires conn).offered ((state.wires conn).sent.take (state.readers task).taken)
    (state.readers task).buffer (state.readers task).got

def Receiving (prost : Prost (SapientMessage F)) (state : Link F) : Prop :=
  ∀ task conn, (state.readers task).source = some conn → Receives prost state task conn

/-- The reader has taken all that was sent, and its decoder asks for more. -/
structure CaughtUp (prost : Prost (SapientMessage F)) (state : Link F) (task conn : Nat) :
    Prop where
  source : (state.readers task).source = some conn
  running : state.running task
  taken : (state.readers task).taken = (state.wires conn).sent.length
  waiting : outcome prost (state.readers task).buffer = .more (state.readers task).buffer

theorem Owned.congr {before after : Link F} (owned : Owned before)
    (holds : ∀ holder, after.holds holder = before.holds holder)
    (wires : ∀ conn, (after.wires conn).claimed = (before.wires conn).claimed) :
    Owned after where
  alone := by
    intro left right conn
    rw [holds, holds]
    exact owned.alone left right conn
  claimed := by
    intro holder conn
    rw [holds, wires]
    exact owned.claimed holder conn

theorem Owned.accept {state : Link F} (owned : Owned state) {accept conn : Nat}
    (receiver : Hldmm F) (unclaimed : (state.wires conn).claimed = false) :
    Owned ({ state with
      receiver := receiver
      incoming := Function.update state.incoming accept (some conn) }.setWire conn
        { state.wires conn with claimed := true }) := by
  have nobody : ∀ holder, state.holds holder ≠ some conn := by
    intro holder held
    rw [owned.claimed holder conn held] at unclaimed
    cases unclaimed
  -- A holder is the accept loop with this connection, or one that it was before.
  have holders : ∀ holder other, Link.holds ({ state with
      receiver := receiver
      incoming := Function.update state.incoming accept (some conn) }.setWire conn
        { state.wires conn with claimed := true }) holder = some other →
      (holder = .accept accept ∧ other = conn) ∨
        (state.holds holder = some other ∧ other ≠ conn) := by
    intro holder other held
    cases holder with
    | accept number =>
        by_cases same : number = accept
        · subst same
          left
          simpa [holds, setWire, eq_comm] using held
        · right
          have kept : state.holds (.accept number) = some other := by
            simpa [holds, setWire, same] using held
          exact ⟨kept, fun is => nobody _ (is ▸ kept)⟩
    | task task =>
        right
        have kept : state.holds (.task task) = some other := held
        exact ⟨kept, fun is => nobody _ (is ▸ kept)⟩
  constructor
  · intro left right other leftHolds rightHolds
    rcases holders left other leftHolds with ⟨rfl, rfl⟩ | ⟨leftKept, leftOther⟩
    · rcases holders right other rightHolds with ⟨rfl, _⟩ | ⟨_, elsewhere⟩
      · rfl
      · exact absurd rfl elsewhere
    · rcases holders right other rightHolds with ⟨_, rfl⟩ | ⟨rightKept, _⟩
      · exact absurd rfl leftOther
      · exact owned.alone left right other leftKept rightKept
  · intro holder other held
    by_cases same : other = conn
    · subst same
      simp [setWire]
    · rcases holders holder other held with ⟨_, is⟩ | ⟨kept, _⟩
      · exact absurd is same
      · simpa [setWire, same] using owned.claimed holder other kept

theorem Owned.spawn {state : Link F} (owned : Owned state) (accept task : Nat)
    (receiver : Hldmm F) :
    Owned ({ state with
      receiver := receiver
      incoming := Function.update state.incoming accept none }.setReader task
        ⟨state.incoming accept, 0, [], []⟩) := by
  have holders : ∀ holder other, Link.holds ({ state with
      receiver := receiver
      incoming := Function.update state.incoming accept none }.setReader task
        ⟨state.incoming accept, 0, [], []⟩) holder = some other →
      (holder = .task task ∧ state.holds (.accept accept) = some other) ∨
        (holder ≠ .accept accept ∧ state.holds holder = some other) := by
    intro holder other held
    cases holder with
    | accept number =>
        right
        by_cases same : number = accept
        · subst same
          simp [holds, setReader] at held
        · exact ⟨by simpa using same, by simpa [holds, setReader, same] using held⟩
    | task number =>
        by_cases same : number = task
        · subst same
          left
          exact ⟨rfl, by simpa [holds, setReader] using held⟩
        · right
          exact ⟨by simp, by simpa [holds, setReader, same] using held⟩
  constructor
  · intro left right other leftHolds rightHolds
    rcases holders left other leftHolds with ⟨rfl, given⟩ | ⟨leftOther, leftKept⟩
    · rcases holders right other rightHolds with ⟨rfl, _⟩ | ⟨elsewhere, kept⟩
      · rfl
      · exact absurd (owned.alone _ _ other kept given) elsewhere
    · rcases holders right other rightHolds with ⟨rfl, given⟩ | ⟨_, rightKept⟩
      · exact absurd (owned.alone _ _ other leftKept given) leftOther
      · exact owned.alone left right other leftKept rightKept
  · intro holder other held
    rcases holders holder other held with ⟨_, given⟩ | ⟨_, kept⟩
    · exact owned.claimed _ other given
    · exact owned.claimed holder other kept

theorem Receives.keep {prost : Prost (SapientMessage F)} {before after : Link F}
    {task conn : Nat} (receives : Receives prost before task conn)
    (reader : after.readers task = before.readers task)
    (offered : (before.wires conn).offered <+: (after.wires conn).offered)
    (sent : (before.wires conn).sent <+: (after.wires conn).sent)
    (runs : after.running task → before.running task) : Receives prost after task conn := by
  obtain ⟨done, among, read⟩ := receives.faithful
  constructor
  · rw [reader]
    exact ⟨done, among.trans offered, read⟩
  · rw [reader]
    exact receives.within.trans sent.length_le
  · intro goesOn
    obtain ⟨more, offers⟩ := offered
    obtain ⟨bytes, sends⟩ := sent
    rw [reader, ← offers, ← sends, List.take_append_of_le_length receives.within]
    exact (receives.reading (runs goesOn)).offer more

theorem Reading.faithful {prost : Prost (SapientMessage F)} {offered : List Bytes}
    {taken buffer : Bytes} {got : List (SapientMessage F)}
    (reading : Reading wrappedFrame (contents prost) offered taken buffer got) :
    Faithful prost offered got := by
  obtain ⟨done, rest, split, read, _⟩ := reading.read
  exact ⟨done, ⟨rest, split.symm⟩, read⟩

theorem faithful_nil (prost : Prost (SapientMessage F)) (offered : List Bytes) :
    Faithful prost offered [] :=
  ⟨[], List.nil_prefix, rfl⟩

theorem holds_setReader (state : Link F) (task : Nat) (reader : Reader F)
    (source : reader.source = (state.readers task).source) (holder : Holder) :
    (state.setReader task reader).holds holder = state.holds holder := by
  cases holder with
  | accept number => rfl
  | task number =>
      by_cases same : number = task
      · subst same
        simp [holds, setReader, source]
      · simp [holds, setReader, same]

theorem receiving_read {prost : Prost (SapientMessage F)} {state : Link F}
    (sending : Sending state) (receiving : Receiving prost state) {task conn : Nat}
    (source : (state.readers task).source = some conn) (count : Nat) :
    let bytes := ((state.wires conn).sent.drop (state.readers task).taken).take count
    Receiving prost (state.setReader task
      { state.readers task with
        taken := (state.readers task).taken + bytes.length
        buffer := (state.readers task).buffer ++ bytes }) := by
  intro bytes other target named
  by_cases same : other = task
  · subst same
    have own : target = conn := by
      have is : (state.readers other).source = some target := by
        simpa [setReader] using named
      rw [source] at is
      exact (Option.some.inj is).symm
    subst own
    have held := receiving other target source
    have goesTo : (state.wires target).sent.take ((state.readers other).taken + bytes.length) =
        (state.wires target).sent.take (state.readers other).taken ++ bytes := by
      have all := List.prefix_iff_eq_take.mp
        (List.take_prefix count ((state.wires target).sent.drop (state.readers other).taken))
      rw [List.take_add, ← all]
    have fits : (state.readers other).taken + bytes.length ≤ (state.wires target).sent.length := by
      have within := held.within
      simp only [bytes, List.length_take, List.length_drop]
      omega
    constructor
    · simpa [setReader] using held.faithful
    · simpa [setReader] using fits
    · intro goesOn
      have within : (state.wires target).sent.take (state.readers other).taken ++ bytes <+:
          streamOf (state.wires target).offered := by
        rw [← goesTo]
        exact (List.take_prefix _ _).trans (sending.sound target).sent
      have arrived := (held.reading goesOn).arrive within
      simpa [setReader, goesTo] using arrived
  · have before : (state.readers other).source = some target := by
      simpa [setReader, same] using named
    apply (receiving other target before).keep
    · simp [setReader, same]
    · exact List.prefix_refl _
    · exact List.prefix_refl _
    · exact fun goesOn => goesOn

theorem accepted_of_offered {state : Link F} (sending : Sending state) {conn : Nat}
    {raw : Bytes} (offered : raw ∈ (state.wires conn).offered) :
    raw ∈ state.sender.accepted := by
  have within : conn ≤ state.sender.current := by
    by_contra beyond
    rw [(sending.fresh conn (Nat.lt_of_not_le beyond)).1] at offered
    cases offered
  rw [← sending.accepted, Channel.pushed, sending.taken]
  apply List.mem_append_left
  cases conn with
  | zero =>
      rw [sending.unnumbered] at offered
      cases offered
  | succ earlier =>
      exact List.mem_flatMap.mpr ⟨earlier, List.mem_range.mpr within, offered⟩

variable [FloatOps F]

theorem running_step (prost : Prost (SapientMessage F)) {state after : Hldmm F}
    {action : HldmmAction F} (moved : Hldmm.Moves prost state action after) {task : Nat}
    (goesOn : Hldmm.recvAwaits (after.recvLoops task).stage = true) :
    Hldmm.recvAwaits (state.recvLoops task).stage = true ∨
      ∃ accept peerId, action = .proceed accept ∧
        (state.acceptLoops accept).stage = .spawning peerId ∧ task = state.recvCount := by
  cases moved with
  | spawn accept peerId here =>
      by_cases same : task = state.recvCount
      · exact Or.inr ⟨accept, peerId, rfl, here, same⟩
      · left
        simpa [Hldmm.spawnRecv, Hldmm.setAccept, same] using goesOn
  | receive other answer here live =>
      left
      by_cases same : task = other
      · subst same
        rw [here]
        rfl
      · unfold Hldmm.receiveInbound at goesOn
        split at goesOn <;> simpa [Hldmm.setRecv, same] using goesOn
  | publish other publication here live =>
      left
      by_cases same : task = other
      · subst same
        rw [here]
        rfl
      · simpa [Hldmm.setRecv, same] using goesOn
  | finish other here | cancelRecv other dead here =>
      left
      by_cases same : task = other
      · subst same
        simp [Hldmm.setRecv, Hldmm.recvAwaits] at goesOn
      · simpa [Hldmm.setRecv, same] using goesOn
  | _ => exact Or.inl goesOn

theorem inbound_receiving (prost : Prost (SapientMessage F)) {state after : Hldmm F}
    {task : Nat} {answer : Except SapientError (Option (SapientMessage F))}
    (taken : Hldmm.step prost state (.inbound task answer) = some after) :
    Hldmm.recvAwaits (state.recvLoops task).stage = true := by
  cases Hldmm.moves_of_step prost taken with
  | receive _ _ here live =>
      rw [here]
      rfl

/-- A receive loop that has failed to decode runs no longer. -/
theorem failed_stops (prost : Prost (SapientMessage F)) {state after : Hldmm F}
    {task : Nat} {failure : SapientError}
    (taken : Hldmm.step prost state (.inbound task (.error failure)) = some after) :
    Hldmm.recvAwaits (after.recvLoops task).stage = false := by
  cases Hldmm.moves_of_step prost taken with
  | receive _ _ here live =>
      simp [Hldmm.receiveInbound, Hldmm.setRecv, Hldmm.recvAwaits]

theorem receiving_receiver (prost : Prost (SapientMessage F)) {state after : Link F}
    {action : HldmmAction F} (owned : Owned state) (receiving : Receiving prost state)
    (stepped : state.stepReceiver prost action = some after) :
    Owned after ∧ Receiving prost after := by
  unfold stepReceiver at stepped
  split at stepped
  · cases stepped
  · next receiver taken =>
      have moved := Hldmm.moves_of_step prost taken
      -- Where no loop is spawned, those that run have run before.
      have keeps : (∀ accept peerId, action = .proceed accept →
          (state.receiver.acceptLoops accept).stage ≠ .spawning peerId) →
          Owned { state with receiver := receiver } ∧
            Receiving prost { state with receiver := receiver } := by
        intro unspawned
        refine ⟨owned.congr (fun holder => by cases holder <;> rfl) fun _ => rfl, ?_⟩
        intro task conn source
        apply Receives.keep (receiving task conn source)
        · rfl
        · exact List.prefix_refl _
        · exact List.prefix_refl _
        intro goesOn
        rcases running_step prost moved goesOn with before | ⟨accept, peerId, is, here, _⟩
        · exact before
        · exact absurd here (unspawned accept peerId is)
      split at stepped
      · next accept =>
          split at stepped
          · next peerId here =>
              cases stepped
              refine ⟨owned.spawn accept state.receiver.recvCount receiver, ?_⟩
              intro task conn source
              by_cases same : task = state.receiver.recvCount
              · subst same
                constructor
                · simpa [setReader] using faithful_nil prost _
                · simp [setReader]
                · intro _
                  simpa [setReader] using Reading.start _
              · have before : (state.readers task).source = some conn := by
                  simpa [setReader, same] using source
                apply (receiving task conn before).keep
                · simp [setReader, same]
                · exact List.prefix_refl _
                · exact List.prefix_refl _
                · intro goesOn
                  rcases running_step prost moved goesOn with runs | ⟨_, _, _, _, fresh⟩
                  · exact runs
                  · exact absurd fresh same
          · next unspawned =>
              cases stepped
              exact keeps fun other peerId is here => by
                cases is
                exact unspawned peerId here
      · split at stepped <;> cases stepped
        exact keeps (by simp)
      · next unproceeded _ =>
          cases stepped
          exact keeps fun accept peerId is => absurd is (unproceeded accept)

theorem receiving_decode (prost : Prost (SapientMessage F)) {state after : Link F}
    {task : Nat} (owned : Owned state) (receiving : Receiving prost state)
    (small : ∀ conn, ∀ raw ∈ (state.wires conn).offered, raw.length < 2 ^ 32)
    (stepped : state.decodeNext prost task = some after) :
    Owned after ∧ Receiving prost after := by
  have others : ∀ (receiver : Hldmm F) (answer : Except SapientError
        (Option (SapientMessage F))) (reader : Reader F),
      Hldmm.step prost state.receiver (.inbound task answer) = some receiver →
      ∀ other conn, other ≠ task → (state.readers other).source = some conn →
        Receives prost ({ state with receiver := receiver }.setReader task reader) other conn := by
    intro receiver answer reader taken other conn apart source
    apply (receiving other conn source).keep
    · simp [setReader, apart]
    · exact List.prefix_refl _
    · exact List.prefix_refl _
    · intro goesOn
      rcases running_step prost (Hldmm.moves_of_step prost taken) goesOn with
        runs | ⟨_, _, is, _⟩
      · exact runs
      · cases is
  simp only [decodeNext] at stepped
  split at stepped
  · cases stepped
  · next msg rest decoded =>
      obtain ⟨receiver, taken, rfl⟩ := Option.map_eq_some_iff.mp stepped
      have runs := inbound_receiving prost taken
      constructor
      · exact owned.congr (holds_setReader { state with receiver := receiver } task _ rfl)
          fun _ => rfl
      · intro other conn named
        by_cases same : other = task
        · subst same
          have source : (state.readers other).source = some conn := by
            simpa [setReader] using named
          have held := receiving other conn source
          have empty : (sapientCodec prost).decode [] = .more [] := outcome_nil prost
          have read := (held.reading runs).item empty
            (fun payload member => carries_wrappedFrame prost (small conn payload member))
            decoded
          constructor
          · simpa [setReader] using Reading.faithful read
          · simpa [setReader] using held.within
          · intro _
            simpa [setReader] using read
        · exact others receiver _ _ taken other conn same
            (by simpa [setReader, same] using named)
  · next failure rest decoded =>
      obtain ⟨receiver, taken, rfl⟩ := Option.map_eq_some_iff.mp stepped
      constructor
      · exact owned.congr (holds_setReader { state with receiver := receiver } task _ rfl)
          fun _ => rfl
      · intro other conn named
        by_cases same : other = task
        · subst same
          have source : (state.readers other).source = some conn := by
            simpa [setReader] using named
          have held := receiving other conn source
          constructor
          · simpa [setReader] using held.faithful
          · simpa [setReader] using held.within
          · intro goesOn
            have stopped := failed_stops prost taken
            simp only [running, setReader] at goesOn
            rw [stopped] at goesOn
            cases goesOn
        · exact others receiver _ _ taken other conn same
            (by simpa [setReader, same] using named)

theorem receiving_step (config : DlmmConfig F) (prost : Prost (SapientMessage F))
    {state after : Link F} {action : LinkAction F} (sending : Sending state)
    (small : ∀ raw ∈ state.sender.accepted, raw.length < 2 ^ 32) (owned : Owned state)
    (receiving : Receiving prost state)
    (taken : step config prost state action = some after) :
    Owned after ∧ Receiving prost after := by
  have grows := (sending_step config prost sending taken).2
  -- The sender and the network leave the readers alone.
  have apart : after.readers = state.readers → after.receiver = state.receiver →
      Receiving prost after := by
    intro readers receiver task conn source
    rw [readers] at source
    apply (receiving task conn source).keep
    · rw [readers]
    · exact grows.offered conn
    · exact grows.sent conn
    · unfold running
      rw [receiver]
      exact fun goesOn => goesOn
  cases action with
  | sender action =>
      have kept : after.readers = state.readers ∧ after.receiver = state.receiver ∧
          after.incoming = state.incoming ∧
            ∀ conn, (after.wires conn).claimed = (state.wires conn).claimed := by
        have stepped : state.stepSender config action = some after := taken
        unfold stepSender at stepped
        split at stepped
        · cases stepped
        · split at stepped
          · cases stepped
            refine ⟨rfl, rfl, rfl, fun conn => ?_⟩
            by_cases same : conn = state.sender.current <;> simp [setWire, latest, same]
          · split at stepped <;> cases stepped
            refine ⟨rfl, rfl, rfl, fun conn => ?_⟩
            by_cases same : conn = state.sender.current <;> simp [setWire, latest, same]
          · cases stepped
            exact ⟨rfl, rfl, rfl, fun _ => rfl⟩
      obtain ⟨readers, receiver, incoming, claimed⟩ := kept
      refine ⟨owned.congr (fun holder => ?_) claimed, apart readers receiver⟩
      cases holder <;> simp [holds, readers, incoming]
  | receiver action => exact receiving_receiver prost owned receiving taken
  | write count =>
      simp only [step] at taken
      split at taken <;> cases taken
      refine ⟨owned.congr (fun holder => by cases holder <;> rfl) fun conn => ?_, apart rfl rfl⟩
      by_cases same : conn = state.sender.current <;> simp [setWire, latest, same]
  | accept accept conn peerId =>
      simp only [step] at taken
      split at taken
      · cases taken
      · next unclaimed =>
          obtain ⟨receiver, stepped, rfl⟩ := Option.map_eq_some_iff.mp taken
          refine ⟨owned.accept receiver (by simpa using unclaimed), ?_⟩
          intro task target source
          apply (receiving task target source).keep
          · rfl
          · exact grows.offered target
          · exact grows.sent target
          · intro goesOn
            rcases running_step prost (Hldmm.moves_of_step prost stepped) goesOn with
              runs | ⟨_, _, is, _⟩
            · exact runs
            · cases is
  | read task count =>
      simp only [step] at taken
      split at taken
      · cases taken
      · next conn source =>
          cases taken
          exact ⟨owned.congr (holds_setReader state task _ rfl) fun _ => rfl,
            receiving_read sending receiving source count⟩
  | receive task =>
      simp only [step] at taken
      split at taken
      · cases taken
      · exact receiving_decode prost owned receiving
          (fun conn raw member => small raw (accepted_of_offered sending member)) taken

theorem receiving_run (config : DlmmConfig F) (prost : Prost (SapientMessage F))
    {state : Link F} (reached : Reachable (machine config prost) state)
    (small : ∀ raw ∈ state.sender.accepted, raw.length < 2 ^ 32) :
    Owned state ∧ Receiving prost state := by
  have invariant : (∀ raw ∈ state.sender.accepted, raw.length < 2 ^ 32) →
      Owned state ∧ Receiving prost state := by
    apply reached.invariant fun state => (∀ raw ∈ state.sender.accepted, raw.length < 2 ^ 32) →
      Owned state ∧ Receiving prost state
    · intro _
      refine ⟨⟨fun left _ _ held _ => ?_, fun holder _ held => ?_⟩, fun _ _ source => ?_⟩
      · cases left <;> cases held
      · cases holder <;> cases held
      · cases source
    · intro before action after earlier held taken later
      have sends := sending_run config prost earlier
      have grows := (sending_step config prost sends taken).2
      have small := fun raw member => later raw (grows.accepted.subset member)
      obtain ⟨owned, receiving⟩ := held small
      exact receiving_step config prost sends small owned receiving taken
  exact invariant small

omit [FloatOps F] in
/-- A loop that has taken all that was sent has read every payload that was sent whole. -/
theorem CaughtUp.whole_read {prost : Prost (SapientMessage F)} {state : Link F}
    {task conn : Nat} (caught : CaughtUp prost state task conn) (sending : Sending state)
    (receiving : Receiving prost state)
    (small : ∀ raw ∈ state.sender.accepted, raw.length < 2 ^ 32) :
    (state.wires conn).whole.length ≤ (state.readers task).got.length := by
  have held := receiving task conn caught.source
  have sound := sending.sound conn
  have reading := held.reading caught.running
  rw [caught.taken, List.take_length] at reading
  obtain ⟨rest, split⟩ := sound.whole
  have waiting : (sapientCodec prost).decode (state.readers task).buffer = .more _ :=
    caught.waiting
  apply reading.caught_up _ waiting split.symm sound.written
  intro payload member
  exact carries_wrappedFrame prost (small payload (accepted_of_offered sending member))

/-- From the acceptance of a payload by the DLMM to its message in a receive loop of the
HLDMM. The connections are given, one after the other, the payloads at the front of those
accepted, each once; each connection is read by one receive loop at most, whose messages are
the contents of the payloads given to it, from the first on and without a gap; and once a loop
that runs has taken all that was sent, and waits for more, it has read every payload whose
`send_raw` succeeded. -/
theorem relays_in_order (config : DlmmConfig F) (prost : Prost (SapientMessage F))
    {state : Link F} (reached : Reachable (machine config prost) state)
    (small : ∀ raw ∈ state.sender.accepted, raw.length < 2 ^ 32) :
    ((List.range state.sender.current).flatMap fun conn => (state.wires (conn + 1)).offered) <+:
        state.sender.accepted ∧
      (state.sender.handed.reverse =
        (List.range state.sender.current).map fun conn => (state.wires (conn + 1)).whole) ∧
      (∀ left right conn, (state.readers left).source = some conn →
        (state.readers right).source = some conn → left = right) ∧
      (∀ task conn, (state.readers task).source = some conn →
        Faithful prost (state.wires conn).offered (state.readers task).got) ∧
      ∀ task conn, CaughtUp prost state task conn →
        (state.wires conn).whole.length ≤ (state.readers task).got.length := by
  have sending := sending_run config prost reached
  obtain ⟨owned, receiving⟩ := receiving_run config prost reached small
  refine ⟨?_, sending.handed, ?_, ?_, ?_⟩
  · rw [← sending.taken, ← sending.accepted]
    exact List.prefix_append _ _
  · intro left right conn leftSource rightSource
    have same := owned.alone (.task left) (.task right) conn leftSource rightSource
    cases same
    rfl
  · exact fun task conn source => (receiving task conn source).faithful
  · intro task conn caught
    exact caught.whole_read sending receiving small

/-- protobuf on a message with a `node_id` alone, which is field 2. -/
def namedProst : Prost (SapientMessage Float) where
  encodeToVec _ := [18, 1, 110]
  decode bytes :=
    if bytes = [18, 1, 110] then .ok { nodeId := some "n" }
    else .error ⟨"failed to decode Protobuf message"⟩

def relayOne : List (LinkAction Float) :=
  [.receiver .start, .receiver (.bound 0 true), .sender .start, .sender .connected,
    .sender .proceed, .accept 0 1 "dlmm", .receiver (.proceed 0),
    .sender (.sendOutbound [18, 1, 110]), .sender .takeOutbound, .write 5, .read 0 1, .read 0 4, .write 2, .sender (.sendRawDone true),
    .read 0 4, .receive 0]

theorem relays_in_order_relayOne :
    ∃ state : Link Float, (state.readers 0).got.length = 1 ∧
      ((List.range state.sender.current).flatMap fun conn =>
          (state.wires (conn + 1)).offered) <+: state.sender.accepted ∧
        (state.sender.handed.reverse =
          (List.range state.sender.current).map fun conn => (state.wires (conn + 1)).whole) ∧
        (∀ left right conn, (state.readers left).source = some conn →
          (state.readers right).source = some conn → left = right) ∧
        (∀ task conn, (state.readers task).source = some conn →
          Faithful namedProst (state.wires conn).offered (state.readers task).got) ∧
        ∀ task conn, CaughtUp namedProst state task conn →
          (state.wires conn).whole.length ≤ (state.readers task).got.length := by
  refine ⟨_, ?_, relays_in_order Dlmm.sampleConfig namedProst
    ⟨_, replay_reachable relayOne rfl⟩ fun raw member => ?_⟩
  · rfl
  · rw [List.mem_singleton.mp (show raw ∈ [[18, 1, 110]] from member)]
    decide

end PeatSapient.Link
