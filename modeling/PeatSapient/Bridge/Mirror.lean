import PeatSapient.Bridge.Conversation
import PeatSapient.Bridge.Quiescence
import PeatSapient.MergedDocument
import PeatSapient.Publication

/-! What the mesh shows of the nodes of a bridge. Their reports come in on many connections,
go through one channel to the subscriber, and end up in one document per node. However the
connections are interleaved, a node's document is merged from what its own connections have
reported, in their order and with nothing in between left out; and once the bridge is at ease
it is merged from all of it. -/

namespace PeatSapient.Bridge

open HashMap Mpsc Execution FieldMerge MergedDocument

variable {F : Type}

def platformMessage (nodeId : String) (msg : SapientMessage F) : Option (PlatformMessage F) :=
  if msg.sender = nodeId then
    match msg.content with
    | some (.registration reg) => some (.registration reg)
    | some (.statusReport sr) => some (.statusReport sr)
    | _ => none
  else none

def platformMessages (nodeId : String) (messages : List (SapientMessage F)) :
    List (PlatformMessage F) :=
  messages.filterMap (platformMessage nodeId)

theorem platformMessages_append (nodeId : String) (earlier later : List (SapientMessage F)) :
    platformMessages nodeId (earlier ++ later) =
      platformMessages nodeId earlier ++ platformMessages nodeId later :=
  List.filterMap_append

def platformFields (nodeId : String) (publication : Publication F) : Option (Fields F) :=
  if publication.collection = SapientTranslator.platformsCollection ∧
      publication.doc.id = nodeId then some publication.doc.fields
  else none

/-- The document of a node is merged from what its connections have reported. Where all
reports came on one connection, it is what these reports come to, one after the other. -/
structure Mirrors [FloatOps F] (mesh : MeshMerge F) (nodeId : String)
    (reported : ConnId → List (PlatformMessage F)) (document : Fields F) : Prop where
  fields : FieldwiseFrom document fun conn => merged mesh nodeId (reported conn)
  single : ∀ conn, (∀ other, other ≠ conn → reported other = []) →
    document = merged mesh nodeId (reported conn)

theorem filterMap_toList {Source Target : Type} (write : Source → Option Target)
    (given : Option Source) : given.toList.filterMap write = (given.bind write).toList := by
  cases given with
  | none => rfl
  | some source => cases written : write source <;> simp [written]

variable [FloatOps F]

def platformWrite (nodeId : String) (update : SapientUpdate F) : Option (Fields F) :=
  (publishUpdate update).bind (platformFields nodeId)

def shownDocument (mesh : MeshMerge F) (nodeId : String) (updates : List (SapientUpdate F)) :
    Fields F :=
  mergeAll mesh ((runBridgeSubscriber updates).filterMap (platformFields nodeId))

def platformWrites (nodeId : String) (updates : List (Emitted F)) :
    List (ConnId × Fields F) :=
  updates.filterMap fun emitted =>
    (platformWrite nodeId emitted.update).map fun fields => (emitted.source, fields)

theorem platformWrite_withoutCommand (nodeId : String) (update : SapientUpdate F) :
    platformWrite nodeId (withoutCommand update) = platformWrite nodeId update := by
  cases update <;> rfl

theorem platformFields_document (nodeId sender : String) (report : PlatformMessage F) :
    platformFields nodeId ⟨SapientTranslator.platformsCollection,
        platformDocument sender report, sapientOrigin⟩ =
      if sender = nodeId then some (platformDocument nodeId report).fields else none := by
  simp only [platformFields, platformDocument_id, true_and]
  by_cases own : sender = nodeId
  · rw [if_pos own, if_pos own, own]
  · rw [if_neg own, if_neg own]

/-- What a report of a node is routed to writes the node's document, and nothing else does. -/
theorem platformWrite_answers {config : BridgeConfig F} {msg : SapientMessage F}
    {answer : Option (SapientUpdate F)} (answers : Answers config msg answer)
    (nodeId : String) :
    answer.bind (platformWrite nodeId) =
      (platformMessage nodeId msg).map fun report =>
        (platformDocument nodeId report).fields := by
  cases answers with
  | limited detection limits =>
      simp [platformWrite, publishUpdate, platformMessage, detection]
  | unmapped failed =>
      cases content : msg.content with
      | none => simp [routeMessage, content] at failed
      | some body =>
          cases body with
          | detectionReport report => simp [platformMessage, content]
          | _ => simp [routeMessage, content] at failed
  | routed made =>
      cases content : msg.content with
      | none =>
          simp only [routeMessage, content] at made
          cases made
          simp [platformWrite, publishUpdate, platformMessage, content]
      | some body =>
          cases body with
          | registration reg =>
              simp only [routeMessage, content] at made
              cases made
              refine (platformFields_document nodeId msg.sender (.registration reg)).trans ?_
              by_cases own : msg.sender = nodeId <;> simp [platformMessage, content, own]
          | statusReport sr =>
              simp only [routeMessage, content] at made
              cases made
              refine (platformFields_document nodeId msg.sender (.statusReport sr)).trans ?_
              by_cases own : msg.sender = nodeId <;> simp [platformMessage, content, own]
          | detectionReport report =>
              simp only [routeMessage, content, admits, if_true] at made
              split at made
              · cases made
                simp [platformWrite, publishUpdate, platformMessage, content, platformFields,
                  SapientTranslator.tracksCollection, SapientTranslator.platformsCollection]
              · cases made
          | _ =>
              simp only [routeMessage, content] at made
              cases made
              simp [platformWrite, publishUpdate, platformMessage, content]

theorem platformWrite_conversed {config : BridgeConfig F} {heard : List (SapientMessage F)}
    {said : List (SapientUpdate F)} (conversed : Conversed config heard said)
    (nodeId : String) :
    said.filterMap (platformWrite nodeId) = (platformMessages nodeId heard).map fun report =>
      (platformDocument nodeId report).fields := by
  induction conversed with
  | start => rfl
  | @next heard said msg answer earlier answers ih =>
      have heardOne : platformMessages nodeId [msg] = (platformMessage nodeId msg).toList := by
        cases found : platformMessage nodeId msg <;> simp [platformMessages, found]
      rw [List.filterMap_append, ih, filterMap_toList, platformWrite_answers answers,
        Option.toList_map, platformMessages_append, heardOne, List.map_append]

theorem platformWrite_farewell (nodeId : String) (conn : Connection F) :
    (farewell conn).bind (platformWrite nodeId) = none := by
  unfold farewell
  split
  · cases conn.registered <;> rfl
  · rfl

theorem writesOf_platformWrites (nodeId : String) (conn : ConnId)
    (updates : List (Emitted F)) :
    writesOf conn (platformWrites nodeId updates) =
      (spokenIn conn updates).filterMap (platformWrite nodeId) := by
  induction updates with
  | nil => rfl
  | cons emitted rest ih =>
      simp only [spokenIn, platformWrites, writesOf] at ih ⊢
      by_cases own : emitted.source = conn
      · cases written : platformWrite nodeId emitted.update with
        | none => simpa [own, written, platformWrite_withoutCommand] using ih
        | some fields => simpa [own, written, platformWrite_withoutCommand] using ih
      · cases written : platformWrite nodeId emitted.update with
        | none => simpa [own, written] using ih
        | some fields => simpa [own, written] using ih

theorem map_platformWrites (nodeId : String) (updates : List (Emitted F)) :
    (platformWrites nodeId updates).map Prod.snd =
      (runBridgeSubscriber (updates.map Emitted.update)).filterMap (platformFields nodeId) := by
  induction updates with
  | nil => rfl
  | cons emitted rest ih =>
      simp only [platformWrites, runBridgeSubscriber] at ih ⊢
      cases published : publishUpdate emitted.update with
      | none => simpa [published, platformWrite] using ih
      | some publication =>
          cases written : platformFields nodeId publication <;>
            simpa [published, written, platformWrite] using ih

/-- What has been written for a connection is what some of its reports come to, the first
ones; once the bridge is at ease it is what all of them come to. -/
theorem reported_run (config : BridgeConfig F) {trace : Trace (Bridge F) (Action F)}
    {state : Bridge F} (run : Run (machine config) trace state) (nodeId : String)
    (conn : ConnId) :
    ∃ reports, reports <+: platformMessages nodeId (receivedOn conn trace) ∧
      writesOf conn (platformWrites nodeId state.updates.received) =
        reports.map (fun report => (platformDocument nodeId report).fields) ∧
      (AtEase state → state.updates.closed = false →
        reports = platformMessages nodeId (receivedOn conn trace)) := by
  obtain ⟨heard, said, hearing, conversed, saying⟩ := told_run config run conn
  have answered := platformWrite_conversed conversed nodeId
  have spoken := congrArg (List.filterMap (platformWrite nodeId)) saying
  have nothing := platformWrite_farewell nodeId (state.conns conn)
  simp only [dialogue, List.filterMap_append, filterMap_toList, nothing, Option.toList_none,
    List.append_nil, answered] at spoken
  simp only [dialogue] at hearing
  have received : spokenIn conn state.updates.received <+:
      spokenIn conn state.updates.attempts := by
    simp only [spokenIn, Channel.attempts, Channel.pushed, List.filter_append,
      List.map_append, List.append_assoc]
    exact List.prefix_append _ _
  have written : writesOf conn (platformWrites nodeId state.updates.received) <+:
      (platformMessages nodeId heard).map fun report =>
        (platformDocument nodeId report).fields := by
    rw [writesOf_platformWrites, ← spoken]
    exact (received.filterMap _).trans (List.prefix_append _ _)
  rw [List.prefix_iff_eq_take, ← List.map_take] at written
  refine ⟨_, ?_, written, ?_⟩
  · rw [hearing, platformMessages_append]
    exact (List.take_prefix _ _).trans (List.prefix_append _ _)
  · intro ease listening
    -- Nothing is in hand, in reply or in the channel any more.
    have consumed : state.updates.attempts = state.updates.received := by
      simp [Channel.attempts, Channel.pushed, ease.consumed listening,
        state.updates.refusedClosed listening]
    have idle : inHand (state.conns conn).stage = none ∧
        inReply (state.conns conn).stage = none := by
      rcases ease.conns conn with here | here <;> simp [here, inHand, inReply]
    rw [idle.1] at hearing
    rw [idle.2, consumed, ← writesOf_platformWrites] at spoken
    simp only [Option.bind_none, Option.toList_none, List.append_nil] at hearing spoken
    rw [hearing, spoken, List.length_map, List.take_length]

theorem mirrors_of_writes (mesh : MeshMerge F) {nodeId : String}
    {reported : ConnId → List (PlatformMessage F)} {writes : List (ConnId × Fields F)}
    (same : ∀ conn, writesOf conn writes =
      (reported conn).map fun report => (platformDocument nodeId report).fields) :
    Mirrors mesh nodeId reported (mergeAll mesh (writes.map Prod.snd)) where
  fields := by
    have fieldwise := fieldwise_mergeAll mesh writes
    simp only [same] at fieldwise
    exact fieldwise
  single := by
    intro conn alone
    have nothing : ∀ other, other ≠ conn → writesOf other writes = [] := by
      intro other apart
      rw [same, alone other apart, List.map_nil]
    rw [writesOf_single nothing, same]
    rfl

theorem mirrors_run (config : BridgeConfig F) (mesh : MeshMerge F)
    {trace : Trace (Bridge F) (Action F)} {state : Bridge F}
    (run : Run (machine config) trace state) (nodeId : String) :
    ∃ reported : ConnId → List (PlatformMessage F),
      (∀ conn, reported conn <+: platformMessages nodeId (receivedOn conn trace)) ∧
      Mirrors mesh nodeId reported
        (shownDocument mesh nodeId (state.updates.received.map Emitted.update)) ∧
      (AtEase state → state.updates.closed = false →
        ∀ conn, reported conn = platformMessages nodeId (receivedOn conn trace)) := by
  choose reported first written whole using reported_run config run nodeId
  refine ⟨reported, first, ?_, fun ease listening conn => whole conn ease listening⟩
  have mirrors := mirrors_of_writes mesh written
  rw [map_platformWrites] at mirrors
  exact mirrors

/-- Only the application's dropping its receiver closes the channel of the updates. -/
theorem listening_kept (config : BridgeConfig F) {state after : Bridge F} {action : Action F}
    (served : serves action) (moved : Moves config state action after) :
    after.updates.closed = state.updates.closed := by
  cases moved with
  | dropReceiver => cases served
  | emit id update updates here sent | announce id nodeId updates here sent =>
      exact Channel.closed_send sent
  | consume emitted updates taken =>
      obtain ⟨alive, stays, _⟩ := Channel.recv_cases taken
      exact stays.trans alive.symm
  | _ => rfl

omit [FloatOps F] in
theorem receivedOn_served {later trace : Trace (Bridge F) (Action F)} (conn : ConnId)
    (served : ∀ entry ∈ later, serves entry.2) :
    receivedOn conn (later ++ trace) = receivedOn conn trace := by
  have silent : receivedOn conn later = [] := by
    apply List.filterMap_eq_nil_iff.mpr
    rintro ⟨before, action⟩ member
    have carried := served _ (List.mem_reverse.mp member)
    cases action <;> first | rfl | cases carried
  unfold receivedOn at silent ⊢
  rw [List.reverse_append, List.filterMap_append, silent, List.append_nil]

/-- In every run, the document that the mesh shows of a node is merged from the first reports
of each of its connections, in their order and with none between them left out. While the
application listens, the bridge comes to ease by itself, and wherever it has done so, the
document is merged from all the reports it had received. -/
theorem nodes_mirrored (config : BridgeConfig F) (mesh : MeshMerge F)
    {trace : Trace (Bridge F) (Action F)} {state : Bridge F}
    (run : Run (machine config) trace state) (nodeId : String) :
    (∃ reported : ConnId → List (PlatformMessage F),
      (∀ conn, reported conn <+: platformMessages nodeId (receivedOn conn trace)) ∧
        Mirrors mesh nodeId reported
          (shownDocument mesh nodeId (state.updates.received.map Emitted.update))) ∧
      (∃ actions after, (∀ action ∈ actions, serves action) ∧
        follow (machine config) state actions = some after ∧ AtEase after) ∧
      (state.updates.closed = false → ∀ actions after, (∀ action ∈ actions, serves action) →
        follow (machine config) state actions = some after → AtEase after →
          Mirrors mesh nodeId (fun conn => platformMessages nodeId (receivedOn conn trace))
            (shownDocument mesh nodeId (after.updates.received.map Emitted.update))) := by
  obtain ⟨reported, first, mirrors, _⟩ := mirrors_run config mesh run nodeId
  refine ⟨⟨reported, first, mirrors⟩, ?_, ?_⟩
  · obtain ⟨bound, within⟩ := within_some config ⟨trace, run⟩
    obtain ⟨actions, after, served, done, ⟨later, _⟩, resting⟩ :=
      (serving_descends config bound).comes_to_rest lessWork_founded ⟨⟨trace, run⟩, within⟩
    exact ⟨actions, after, served, done, (resting_iff_atEase config later).mp resting⟩
  · intro listening actions after served done ease
    obtain ⟨later, whole, same⟩ := run.followed done
    have carried : ∀ entry ∈ later, serves entry.2 := by
      intro entry member
      apply served
      rw [← List.mem_reverse, ← same]
      exact List.mem_map_of_mem member
    have open_ : after.updates.closed = false :=
      follow_invariant serves (fun state => state.updates.closed = false)
        (fun _ _ _ served held taken =>
          (listening_kept config served (moves_of_step config taken)).trans held)
        served listening done
    obtain ⟨reported, _, mirrors, all⟩ := mirrors_run config mesh whole nodeId
    have complete := all ease open_
    simp only [receivedOn_served _ carried] at complete
    rwa [funext complete] at mirrors

def settling : List (Action Float) :=
  [.writerTakes 0, .writerWrote 0 true, .writerTakes 0, .writerWrote 0 true, .consume]

theorem nodes_mirrored_registerThenTask :
    ∃ (trace : Trace (Bridge Float) (Action Float)) (after : Bridge Float),
      platformMessages "n" (receivedOn 0 trace) = [.registration {}] ∧
      after.updates.received.length = 1 ∧
      shownDocument preferWrite "n" (after.updates.received.map Emitted.update) =
        merged preferWrite "n" [.registration {}] := by
  obtain ⟨trace, state, after, run, only, listening, done, taken, ease⟩ :
      ∃ (trace : Trace (Bridge Float) (Action Float)) (state after : Bridge Float),
        Run (machine plainConfig) trace state ∧
        (∀ conn, platformMessages "n" (receivedOn conn trace) =
          if conn = 0 then [.registration {}] else []) ∧
        state.updates.closed = false ∧
        follow (machine plainConfig) state settling = some after ∧
        after.updates.received.length = 1 ∧ AtEase after := by
    refine ⟨_, _, _, replay_reachable registerThenTask rfl, fun conn => ?_, rfl, rfl, rfl, ?_⟩
    · cases conn <;> rfl
    · refine ⟨fun id => ?_, fun id => ?_, fun id => ?_, fun id _ => ?_, fun _ => rfl, rfl, rfl⟩
      · cases id with
        | zero => exact Or.inr ⟨_, rfl⟩
        | succ => exact Or.inl rfl
      · cases id <;> exact Or.inl rfl
      · cases id <;> rfl
      · cases id <;> rfl
  obtain ⟨_, _, complete⟩ := nodes_mirrored plainConfig preferWrite run "n"
  have mirrors := complete listening settling after (by simp [settling, serves]) done ease
  simp only [only] at mirrors
  refine ⟨trace, after, only 0, taken, mirrors.single 0 fun other different => ?_⟩
  simp [different]

end PeatSapient.Bridge
