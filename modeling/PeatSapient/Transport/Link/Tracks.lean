import Mathlib.Data.List.Forall2
import PeatSapient.Translator.Chain
import PeatSapient.Transport.Hldmm.Published
import PeatSapient.Transport.Link.Delivery

/-! From a mesh to the next: the tracks documents that a bridge in DLMM mode encodes, and
what the receive loops of the HLDMM publish of them. -/

namespace PeatSapient.Link

open HashMap Mpsc Execution Codec

variable {F : Type} [FloatOps F]

def seen (prost : Prost (SapientMessage F)) (state : Link F) :
    LinkAction F → Option (HldmmAction F)
  | .sender _ | .write _ | .read _ _ => none
  | .receiver action => some action
  | .accept accept _ peerId => some (.accepted accept (.ok peerId))
  | .receive task =>
      match outcome prost (state.readers task).buffer with
      | .more _ => none
      | .item msg _ => some (.inbound task (.ok (some msg)))
      | .fail failure _ => some (.inbound task (.error failure))

def receiverTrace (prost : Prost (SapientMessage F)) (trace : Trace (Link F) (LinkAction F)) :
    Trace (Hldmm F) (HldmmAction F) := projected Link.receiver (seen prost) trace

theorem receiver_of_stepSender (config : DlmmConfig F) {state after : Link F}
    {action : DlmmAction F} (stepped : state.stepSender config action = some after) :
    after.receiver = state.receiver ∧ after.readers = state.readers := by
  unfold stepSender at stepped
  split at stepped
  · cases stepped
  · split at stepped
    · cases stepped
      exact ⟨rfl, rfl⟩
    · split at stepped <;> cases stepped
      exact ⟨rfl, rfl⟩
    · cases stepped
      exact ⟨rfl, rfl⟩

theorem receiver_of_stepReceiver (prost : Prost (SapientMessage F)) {state after : Link F}
    {action : HldmmAction F} (stepped : state.stepReceiver prost action = some after) :
    Hldmm.step prost state.receiver action = some after.receiver := by
  unfold stepReceiver at stepped
  split at stepped
  · cases stepped
  · next receiver taken =>
      rw [taken]
      split at stepped
      · split at stepped <;> cases stepped <;> rfl
      · split at stepped <;> cases stepped
        rfl
      · cases stepped
        rfl

theorem receiver_of_decodeNext (prost : Prost (SapientMessage F)) {state after : Link F}
    {task : Nat} (stepped : state.decodeNext prost task = some after) :
    Shows (Hldmm.machine prost) receiver state after (state.seen prost (.receive task)) := by
  simp only [decodeNext] at stepped
  simp only [seen]
  cases decoded : outcome prost (state.readers task).buffer with
  | more rest => simp [decoded] at stepped
  | item msg rest =>
      simp only [decoded] at stepped
      obtain ⟨receiver, taken, rfl⟩ := Option.map_eq_some_iff.mp stepped
      exact taken
  | fail failure rest =>
      simp only [decoded] at stepped
      obtain ⟨receiver, taken, rfl⟩ := Option.map_eq_some_iff.mp stepped
      exact taken

theorem receiver_run (config : DlmmConfig F) (prost : Prost (SapientMessage F))
    {trace : Trace (Link F) (LinkAction F)} {state : Link F}
    (run : Run (machine config prost) trace state) :
    Run (Hldmm.machine prost) (receiverTrace prost trace) state.receiver := by
  apply run.project
  · rfl
  · intro before action after taken
    cases action with
    | sender action => exact (receiver_of_stepSender config taken).1
    | receiver action => exact receiver_of_stepReceiver prost taken
    | write count =>
        simp only [machine, step] at taken
        split at taken <;> cases taken
        rfl
    | accept accept conn peerId =>
        simp only [machine, step] at taken
        split at taken
        · cases taken
        · obtain ⟨receiver, accepted, rfl⟩ := Option.map_eq_some_iff.mp taken
          exact accepted
    | read task count =>
        simp only [machine, step] at taken
        split at taken <;> cases taken
        rfl
    | receive task =>
        simp only [machine, step] at taken
        split at taken
        · cases taken
        · exact receiver_of_decodeNext prost taken

def Got (prost : Prost (SapientMessage F)) (trace : Trace (Link F) (LinkAction F))
    (state : Link F) : Prop :=
  ∀ task conn, (state.readers task).source = some conn →
    (state.readers task).got = Hldmm.inbound task (receiverTrace prost trace)

omit [FloatOps F] in
theorem receiverTrace_cons (prost : Prost (SapientMessage F))
    (trace : Trace (Link F) (LinkAction F)) (state : Link F) (action : LinkAction F) :
    receiverTrace prost ((state, action) :: trace) =
      ((state.seen prost action).map fun shown => (state.receiver, shown)).toList ++
        receiverTrace prost trace := by
  cases given : state.seen prost action <;> simp [receiverTrace, projected, given]

omit [FloatOps F] in
theorem Got.keep {prost : Prost (SapientMessage F)} {trace : Trace (Link F) (LinkAction F)}
    {before after : Link F} {action : LinkAction F} (got : Got prost trace before) {task conn : Nat}
    (reader : (after.readers task).source = (before.readers task).source ∧
      (after.readers task).got = (before.readers task).got)
    (source : (after.readers task).source = some conn)
    (silent : ∀ shown, before.seen prost action = some shown →
      ∀ message ∈ Hldmm.heardOf (before.receiver, shown), message.1 ≠ task) :
    (after.readers task).got =
      Hldmm.inbound task (receiverTrace prost ((before, action) :: trace)) := by
  rw [reader.2, got task conn (reader.1 ▸ source), receiverTrace_cons]
  cases given : before.seen prost action with
  | none => rfl
  | some shown =>
      have unheard := Hldmm.ofTask_eq_nil (silent shown given)
      simp only [Option.map_some, Option.toList_some, List.singleton_append,
        Hldmm.inbound_cons, unheard, List.append_nil]

theorem got_receiver (config : DlmmConfig F) (prost : Prost (SapientMessage F))
    {trace : Trace (Link F) (LinkAction F)} {before after : Link F} {action : HldmmAction F}
    (run : Run (machine config prost) trace before) (got : Got prost trace before)
    (stepped : before.stepReceiver prost action = some after) :
    Got prost ((before, .receiver action) :: trace) after := by
  intro task conn source
  unfold stepReceiver at stepped
  split at stepped
  · cases stepped
  · next receiver taken =>
      split at stepped
      · next accept =>
          split at stepped
          · next peerId here =>
              cases stepped
              by_cases same : task = before.receiver.recvCount
              · -- A new loop has been handed nothing.
                subst same
                have held := Hldmm.published_run prost (receiver_run config prost run)
                have idle := held.fresh before.receiver.recvCount (Nat.le_refl _)
                have unheard := held.unheard before.receiver.recvCount idle
                simp only [receiverTrace_cons, seen, Option.map_some, Option.toList_some,
                  List.singleton_append, Hldmm.inbound_cons, unheard, List.nil_append]
                simp [setReader, Hldmm.heardOf, Hldmm.ofTask]
              · apply got.keep _ source
                · rintro shown given
                  cases given
                  simp [Hldmm.heardOf]
                · simp [setReader, same]
          · cases stepped
            apply got.keep ⟨rfl, rfl⟩ source
            rintro shown given
            cases given
            simp [Hldmm.heardOf]
      · next other msg =>
          split at stepped
          · cases stepped
          · next foreign =>
              cases stepped
              apply got.keep ⟨rfl, rfl⟩ source
              rintro shown given
              cases given
              intro message member
              rw [List.mem_singleton.mp member]
              rintro rfl
              exact foreign (by simp only at source; rw [source]; rfl)
      · cases stepped
        apply got.keep ⟨rfl, rfl⟩ source
        rintro shown given
        cases given
        intro message member
        simp only [Hldmm.heardOf] at member
        cases member

theorem got_decode {prost : Prost (SapientMessage F)} {trace : Trace (Link F) (LinkAction F)}
    {before after : Link F} {reading : Nat} (got : Got prost trace before)
    (stepped : before.decodeNext prost reading = some after) :
    Got prost ((before, .receive reading) :: trace) after := by
  intro task conn source
  simp only [decodeNext] at stepped
  split at stepped
  · cases stepped
  · next msg rest decoded =>
      obtain ⟨receiver, taken, rfl⟩ := Option.map_eq_some_iff.mp stepped
      by_cases same : task = reading
      · subst same
        have before_ := got task conn (by simpa [setReader] using source)
        simp only [receiverTrace_cons, seen, decoded, Option.map_some, Option.toList_some,
          List.singleton_append, Hldmm.inbound_cons, ← before_]
        simp [setReader, Hldmm.heardOf, Hldmm.ofTask]
      · apply got.keep _ source
        · intro shown given
          simp only [seen, decoded, Option.some_inj] at given
          subst given
          intro message member
          rw [List.mem_singleton.mp member]
          exact Ne.symm same
        · simp [setReader, same]
  · next failure rest decoded =>
      obtain ⟨receiver, taken, rfl⟩ := Option.map_eq_some_iff.mp stepped
      apply got.keep _ source
      · intro shown given
        simp only [seen, decoded, Option.some_inj] at given
        subst given
        simp [Hldmm.heardOf]
      · by_cases same : task = reading
        · subst same
          simp [setReader]
        · simp [setReader, same]

theorem got_run (config : DlmmConfig F) (prost : Prost (SapientMessage F))
    {trace : Trace (Link F) (LinkAction F)} {state : Link F}
    (run : Run (machine config prost) trace state) : Got prost trace state := by
  induction run with
  | start =>
      intro task conn source
      cases source
  | @next trace before after action earlier taken got =>
      cases action with
      | receiver action => exact got_receiver config prost earlier got taken
      | sender action =>
          intro task conn source
          have same := (receiver_of_stepSender config taken).2
          exact got.keep ⟨by rw [same], by rw [same]⟩ source (by simp [seen])
      | write count =>
          intro task conn source
          simp only [machine, step] at taken
          split at taken <;> cases taken
          exact got.keep ⟨rfl, rfl⟩ source (by simp [seen])
      | accept accept conn peerId =>
          intro task other source
          simp only [machine, step] at taken
          split at taken
          · cases taken
          · obtain ⟨receiver, accepted, rfl⟩ := Option.map_eq_some_iff.mp taken
            apply got.keep ⟨rfl, rfl⟩ source
            rintro shown given
            cases given
            simp [Hldmm.heardOf]
      | read reading count =>
          intro task conn source
          simp only [machine, step] at taken
          split at taken
          · cases taken
          · cases taken
            apply got.keep _ source (by simp [seen])
            by_cases same : task = reading
            · subst same
              simp [setReader]
            · simp [setReader, same]
      | receive reading =>
          simp only [machine, step] at taken
          split at taken
          · cases taken
          · exact got_decode got taken

/-- A payload that is the encoding of a tracks document. -/
def IsTrack (prost : Prost (SapientMessage F)) (raw : Bytes) : Prop :=
  ∃ doc ctx, encodeOutbound prost doc ctx = some raw ∧ ExactFor prost doc ctx

/-- The publication of the document that a payload was encoded from. -/
def Republishes (prost : Prost (SapientMessage F)) (raw : Bytes)
    (publication : Publication F) : Prop :=
  ∃ (doc : SharedDocument F) (ctx : TranslationContext) (objectId : String) (lat lon : F),
    encodeOutbound prost doc ctx = some raw ∧ doc.id = some objectId ∧
      doc.number "lat" = some lat ∧ doc.number "lon" = some lon ∧
        publication = ⟨SapientTranslator.tracksCollection,
          trackDocument (relayedTrack (ctx.localWireId.getD "") doc objectId lat lon),
          sapientOrigin⟩

/-- The message of a track is published whatever the translator has seen before. -/
theorem receives_track {prost : Prost (SapientMessage F)} {raw : Bytes}
    {msg : SapientMessage F} (track : IsTrack prost raw) (carried : contents prost raw = .ok msg)
    (translator : SapientTranslator F) :
    ∃ publication, (receiveMessage prost translator msg).1 = [publication] ∧
      Republishes prost raw publication := by
  obtain ⟨doc, ctx, encoded, lossless⟩ := track
  obtain ⟨sent, accepted, is⟩ := Option.map_eq_some_iff.mp encoded
  have decoded := lossless sent accepted
  have same : msg = sent := by
    rw [is] at decoded
    unfold contents at carried
    split at carried
    · cases carried
    · rw [decoded] at carried
      cases carried
      rfl
  subst same
  obtain ⟨_, objectId, lat, lon, named, north, east, rfl⟩ := outboundMessage_some accepted
  refine ⟨_, ?_, doc, ctx, objectId, lat, lon, encoded, named, north, east, rfl⟩
  simp only [receiveMessage, collectionFor, decodeInbound_of_decode decoded]
  rfl

theorem forall₂_flatMap {α β : Type} {related : α → β → Prop} {of : α → List β} {items : List α}
    (each : ∀ item ∈ items, ∃ made, of item = [made] ∧ related item made) :
    List.Forall₂ related items (items.flatMap of) := by
  induction items with
  | nil => exact .nil
  | cons item rest ih =>
      obtain ⟨made, is, fits⟩ := each item List.mem_cons_self
      rw [List.flatMap_cons, is, List.singleton_append]
      exact .cons fits (ih fun other member => each other (List.mem_cons_of_mem _ member))

theorem forall₂_produced {prost : Prost (SapientMessage F)}
    {related : SapientMessage F → Publication F → Prop} {task : Nat}
    {trace : Trace (Hldmm F) (HldmmAction F)}
    (each : ∀ msg ∈ Hldmm.inbound task trace, ∀ translator, ∃ publication,
      (receiveMessage prost translator msg).1 = [publication] ∧ related msg publication) :
    List.Forall₂ related (Hldmm.inbound task trace) (Hldmm.produced prost task trace) := by
  induction trace with
  | nil => exact .nil
  | cons entry trace ih =>
      rw [Hldmm.inbound_cons] at each ⊢
      rw [Hldmm.produced, history_cons]
      apply List.rel_append
      · exact ih fun msg member => each msg (List.mem_append_left _ member)
      · exact forall₂_flatMap fun msg member =>
          each msg (List.mem_append_right _ member) entry.1.translator

theorem forall₂_through {α β γ : Type} {near : α → β → Prop} {far : β → γ → Prop}
    {firsts : List α} {seconds : List β} {thirds : List γ}
    (left : List.Forall₂ near firsts seconds) (right : List.Forall₂ far seconds thirds) :
    List.Forall₂ (fun first third => ∃ second, near first second ∧ far second third) firsts
      thirds := by
  induction left generalizing thirds with
  | nil =>
      cases right
      exact .nil
  | cons fits _ ih =>
      cases right with
      | cons follows later => exact .cons ⟨_, fits, follows⟩ (ih later)

theorem forall₂_contents {prost : Prost (SapientMessage F)} {done : List Bytes}
    {got : List (SapientMessage F)} (read : done.map (contents prost) = got.map .ok)
    (tracks : ∀ raw ∈ done, IsTrack prost raw) :
    List.Forall₂ (fun raw msg => IsTrack prost raw ∧ contents prost raw = .ok msg) done got := by
  induction done generalizing got with
  | nil =>
      cases got with
      | nil => exact .nil
      | cons msg rest => cases read
  | cons raw done ih =>
      cases got with
      | nil => cases read
      | cons msg rest =>
          simp only [List.map_cons, List.cons.injEq] at read
          exact .cons ⟨tracks raw List.mem_cons_self, read.1⟩
            (ih read.2 fun other member => tracks other (List.mem_cons_of_mem _ member))

def Answers (prost : Prost (SapientMessage F)) (msg : SapientMessage F)
    (publication : Publication F) : Prop :=
  ∀ raw, IsTrack prost raw → contents prost raw = .ok msg → Republishes prost raw publication

/-- The payloads that a loop has read, and what it makes of each. -/
theorem Faithful.republishes {prost : Prost (SapientMessage F)} {offered : List Bytes}
    {task : Nat} {trace : Trace (Hldmm F) (HldmmAction F)}
    (faithful : Faithful prost offered (Hldmm.inbound task trace))
    (tracks : ∀ raw ∈ offered, IsTrack prost raw) :
    ∃ done, done <+: offered ∧ done.length = (Hldmm.inbound task trace).length ∧
      List.Forall₂ (Republishes prost) done (Hldmm.produced prost task trace) := by
  obtain ⟨done, front, read⟩ := faithful
  have carried := forall₂_contents read fun raw member => tracks raw (front.subset member)
  have made : List.Forall₂ (Answers prost) (Hldmm.inbound task trace)
      (Hldmm.produced prost task trace) := by
    apply forall₂_produced
    intro msg member translator
    obtain ⟨raw, among, is⟩ : ∃ raw ∈ done, contents prost raw = .ok msg := by
      have listed : Except.ok msg ∈ done.map (contents prost) := by
        rw [read]
        exact List.mem_map_of_mem member
      exact List.mem_map.mp listed
    obtain ⟨publication, one, _⟩ :=
      receives_track (tracks raw (front.subset among)) is translator
    refine ⟨publication, one, ?_⟩
    intro other track same
    obtain ⟨again, alike, republishes⟩ := receives_track track same translator
    rw [one] at alike
    cases alike
    exact republishes
  refine ⟨done, front, carried.length_eq, ?_⟩
  apply (forall₂_through carried made).imp
  rintro raw publication ⟨msg, ⟨track, is⟩, answers⟩
  exact answers raw track is

/-- From one mesh to the next. Where the DLMM's node sends tracks documents, each loop of the
HLDMM that reads one of its connections makes of the payloads given to the connection, from
the first on, in order and without a gap, the publications of those documents; it has
published them all but for one at most, which it holds or lost when it was cancelled; and a
running loop that has read all that was sent has made a publication of every document whose
`send_raw` succeeded. -/
theorem tracks_reach_the_mesh (config : DlmmConfig F) (prost : Prost (SapientMessage F))
    {trace : Trace (Link F) (LinkAction F)} {state : Link F}
    (run : Run (machine config prost) trace state)
    (tracks : ∀ raw ∈ state.sender.accepted, IsTrack prost raw ∧ raw.length < 2 ^ 32)
    {task conn : Nat} (source : (state.readers task).source = some conn) :
    ∃ done owed, done <+: (state.wires conn).offered ∧
      List.Forall₂ (Republishes prost) done
        (Hldmm.publishedBy task (receiverTrace prost trace) ++ owed) ∧ owed.length ≤ 1 ∧
      (Hldmm.isCancelled (state.receiver.recvLoops task).stage = false →
        owed = Hldmm.inFlight (state.receiver.recvLoops task).stage) ∧
      (CaughtUp prost state task conn → (state.wires conn).whole.length ≤ done.length) := by
  have reached : Reachable (machine config prost) state := ⟨trace, run⟩
  have small : ∀ raw ∈ state.sender.accepted, raw.length < 2 ^ 32 :=
    fun raw member => (tracks raw member).2
  have sending := sending_run config prost reached
  obtain ⟨_, receiving⟩ := receiving_run config prost reached small
  have faithful := (receiving task conn source).faithful
  have got := got_run config prost run task conn source
  rw [got] at faithful
  obtain ⟨done, front, read, made⟩ := faithful.republishes fun raw member =>
    (tracks raw (accepted_of_offered sending member)).1
  obtain ⟨owed, balance, one, flying⟩ :=
    (Hldmm.published_run prost (receiver_run config prost run)).owes task
  rw [balance] at made
  refine ⟨done, owed, front, made, one, flying, ?_⟩
  intro caught
  rw [read, ← got]
  exact caught.whole_read sending receiving small

def sightingConfig : DlmmConfig (Exact identities) := ⟨"hldmm-0", sightingProst true⟩

def relaySighting : List (LinkAction (Exact identities)) :=
  [.receiver .start, .receiver (.bound 0 true), .sender .start, .sender .connected,
    .sender .proceed, .accept 0 1 "10.0.0.7:40112", .receiver (.proceed 0),
    .sender (.sendOutbound (relayBytes true)), .sender .takeOutbound, .write 100,
    .sender (.sendRawDone true), .read 0 30, .read 0 100, .receive 0, .receiver (.publishDone 0)]

theorem tracks_reach_the_mesh_sighting :
    ∃ (trace : Trace (Link (Exact identities)) (LinkAction (Exact identities)))
      (state : Link (Exact identities)), state.receiver.published.length = 1 ∧
        ∃ done owed, done <+: (state.wires 1).offered ∧
          List.Forall₂ (Republishes (sightingProst true)) done
            (Hldmm.publishedBy 0 (receiverTrace (sightingProst true) trace) ++ owed) ∧
          owed.length ≤ 1 := by
  have run : Run (machine sightingConfig (sightingProst true)) _ _ :=
    replay_reachable relaySighting rfl
  have sent : ∀ raw ∈ [relayBytes true], IsTrack (sightingProst true) raw ∧
      raw.length < 2 ^ 32 := by
    intro raw member
    rw [List.mem_singleton.mp member]
    exact ⟨⟨(sightingDocument true).toShared, relayContext, rfl, sighting_exact true⟩,
      by decide⟩
  obtain ⟨done, owed, front, made, one, _⟩ :=
    tracks_reach_the_mesh sightingConfig (sightingProst true) run sent
      (show (readers _ 0).source = some 1 from rfl)
  exact ⟨_, _, rfl, done, owed, front, made, one⟩

end PeatSapient.Link
