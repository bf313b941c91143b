import PeatSapient.Transport.Hldmm.Moves

/-! What the receive loops publish. Each loop publishes what its messages come to, one after
the other, and holds one publication at most; a loop that is cancelled loses that one. -/

namespace PeatSapient.Hldmm

open HashMap Execution

variable {F : Type}

def heardOf (entry : Hldmm F × HldmmAction F) : List (Nat × SapientMessage F) :=
  match entry.2 with
  | .inbound task (.ok (some msg)) => [(task, msg)]
  | _ => []

def ofTask {α : Type} (task : Nat) (tagged : List (Nat × α)) : List α :=
  (tagged.filter fun made => made.1 == task).map Prod.snd

def publishedOf (entry : Hldmm F × HldmmAction F) : List (Nat × Publication F) :=
  match entry.2 with
  | .publishDone task =>
      match (entry.1.recvLoops task).stage with
      | .publishing publication => [(task, publication)]
      | _ => []
  | _ => []

def heard (trace : Trace (Hldmm F) (HldmmAction F)) : List (Nat × SapientMessage F) :=
  history heardOf trace

def inbound (task : Nat) (trace : Trace (Hldmm F) (HldmmAction F)) : List (SapientMessage F) :=
  ofTask task (heard trace)

def publications (trace : Trace (Hldmm F) (HldmmAction F)) : List (Nat × Publication F) :=
  history publishedOf trace

def publishedBy (task : Nat) (trace : Trace (Hldmm F) (HldmmAction F)) :
    List (Publication F) := ofTask task (publications trace)

def inFlight : RecvStage F → List (Publication F)
  | .publishing publication => [publication]
  | _ => []

def isCancelled : RecvStage F → Bool
  | .cancelled => true
  | _ => false

theorem ofTask_append {α : Type} (task : Nat) (left right : List (Nat × α)) :
    ofTask task (left ++ right) = ofTask task left ++ ofTask task right := by
  simp [ofTask]

theorem ofTask_eq_nil {α : Type} {task : Nat} {tagged : List (Nat × α)}
    (apart : ∀ made ∈ tagged, made.1 ≠ task) : ofTask task tagged = [] := by
  simp only [ofTask, List.map_eq_nil_iff, List.filter_eq_nil_iff, beq_iff_eq]
  exact apart

theorem publishedBy_cons (task : Nat) (entry : Hldmm F × HldmmAction F)
    (trace : Trace (Hldmm F) (HldmmAction F)) :
    publishedBy task (entry :: trace) =
      publishedBy task trace ++ ofTask task (publishedOf entry) :=
  ofTask_append task (publications trace) (publishedOf entry)

theorem inbound_cons (task : Nat) (entry : Hldmm F × HldmmAction F)
    (trace : Trace (Hldmm F) (HldmmAction F)) :
    inbound task (entry :: trace) = inbound task trace ++ ofTask task (heardOf entry) :=
  ofTask_append task (heard trace) (heardOf entry)

variable [FloatOps F]

def producedOf (prost : Codec.Prost (SapientMessage F)) (task : Nat)
    (entry : Hldmm F × HldmmAction F) : List (Publication F) :=
  (ofTask task (heardOf entry)).flatMap fun msg => (receiveMessage prost entry.1.translator msg).1

def produced (prost : Codec.Prost (SapientMessage F)) (task : Nat)
    (trace : Trace (Hldmm F) (HldmmAction F)) : List (Publication F) :=
  history (producedOf prost task) trace

def translate (prost : Codec.Prost (SapientMessage F)) (translator : SapientTranslator F)
    (message : Nat × SapientMessage F) : SapientTranslator F :=
  (receiveMessage prost translator message.2).2

/-- A loop has published all that its messages came to, but for what it holds. -/
def Owes (prost : Codec.Prost (SapientMessage F)) (trace : Trace (Hldmm F) (HldmmAction F))
    (task : Nat) (stage : RecvStage F) : Prop :=
  ∃ owed, produced prost task trace = publishedBy task trace ++ owed ∧ owed.length ≤ 1 ∧
    (isCancelled stage = false → owed = inFlight stage)

structure Published (prost : Codec.Prost (SapientMessage F))
    (trace : Trace (Hldmm F) (HldmmAction F)) (state : Hldmm F) : Prop where
  all : state.published = (publications trace).map Prod.snd
  translator : state.translator = (heard trace).foldl (translate prost) .new
  fresh : ∀ task, state.recvCount ≤ task → (state.recvLoops task).stage = .idle
  unheard : ∀ task, (state.recvLoops task).stage = .idle → inbound task trace = []
  owes : ∀ task, Owes prost trace task (state.recvLoops task).stage

theorem length_receiveMessage (prost : Codec.Prost (SapientMessage F))
    (translator : SapientTranslator F) (msg : SapientMessage F) :
    (receiveMessage prost translator msg).1.length ≤ 1 := by
  unfold receiveMessage
  split
  · exact Nat.zero_le 1
  · simp only [publishDecoded]
    split <;> simp

theorem owes_elsewhere {prost : Codec.Prost (SapientMessage F)}
    {trace : Trace (Hldmm F) (HldmmAction F)} {entry : Hldmm F × HldmmAction F} {other : Nat}
    {stage : RecvStage F} (silent : ∀ message ∈ heardOf entry, message.1 ≠ other)
    (apart : ∀ made ∈ publishedOf entry, made.1 ≠ other) (owes : Owes prost trace other stage) :
    Owes prost (entry :: trace) other stage := by
  obtain ⟨owed, same, one, flying⟩ := owes
  refine ⟨owed, ?_, one, flying⟩
  rw [produced, history_cons, producedOf, ofTask_eq_nil silent, List.flatMap_nil,
    List.append_nil, publishedBy_cons, ofTask_eq_nil apart, List.append_nil]
  exact same

theorem Published.keep {prost : Codec.Prost (SapientMessage F)}
    {trace : Trace (Hldmm F) (HldmmAction F)} {state after : Hldmm F} {action : HldmmAction F}
    (held : Published prost trace state) (silent : heardOf (state, action) = [])
    (unpublished : publishedOf (state, action) = [])
    (translator : after.translator = state.translator)
    (published : after.published = state.published) (count : after.recvCount = state.recvCount)
    (stages : ∀ task, (after.recvLoops task).stage = (state.recvLoops task).stage) :
    Published prost ((state, action) :: trace) after := by
  constructor
  case all =>
    rw [published, held.all, publications, publications, history_cons, unpublished,
      List.append_nil]
  case translator =>
    rw [translator, held.translator, heard, heard, history_cons, silent, List.append_nil]
  case fresh =>
    intro task beyond
    rw [stages]
    exact held.fresh task (count ▸ beyond)
  case unheard =>
    intro task idle
    rw [stages] at idle
    rw [inbound_cons, ofTask_eq_nil (by simp [silent]), List.append_nil]
    exact held.unheard task idle
  case owes =>
    intro task
    rw [stages]
    exact owes_elsewhere (by simp [silent]) (by simp [unpublished]) (held.owes task)

theorem Published.move {prost : Codec.Prost (SapientMessage F)}
    {trace : Trace (Hldmm F) (HldmmAction F)} {state after : Hldmm F} {action : HldmmAction F}
    (held : Published prost trace state) (task : Nat) (loop : RecvLoop F)
    (active : (state.recvLoops task).stage ≠ .idle) (later : loop.stage ≠ .idle)
    (loops : after.recvLoops = Function.update state.recvLoops task loop)
    (count : after.recvCount = state.recvCount)
    (silent : ∀ message ∈ heardOf (state, action), message.1 = task)
    (translator : after.translator =
      (heardOf (state, action)).foldl (translate prost) state.translator)
    (own : ∀ made ∈ publishedOf (state, action), made.1 = task)
    (all : after.published = state.published ++ (publishedOf (state, action)).map Prod.snd)
    (owes : Owes prost ((state, action) :: trace) task loop.stage) :
    Published prost ((state, action) :: trace) after := by
  have elsewhere : ∀ other, other ≠ task → after.recvLoops other = state.recvLoops other := by
    intro other apart
    rw [loops, Function.update_of_ne apart]
  have here : after.recvLoops task = loop := by rw [loops, Function.update_self]
  constructor
  case all =>
    rw [all, held.all, publications, publications, history_cons, List.map_append]
  case translator =>
    rw [translator, held.translator, heard, heard, history_cons, List.foldl_append]
  case fresh =>
    intro other beyond
    rw [count] at beyond
    have apart : other ≠ task := by
      rintro rfl
      exact active (held.fresh other beyond)
    rw [elsewhere other apart]
    exact held.fresh other beyond
  case unheard =>
    intro other idle
    by_cases same : other = task
    · subst same
      rw [here] at idle
      exact absurd idle later
    · rw [elsewhere other same] at idle
      have apart : ∀ message ∈ heardOf (state, action), message.1 ≠ other :=
        fun message member from_ => same (from_.symm.trans (silent message member))
      rw [inbound_cons, ofTask_eq_nil apart, List.append_nil]
      exact held.unheard other idle
  case owes =>
    intro other
    by_cases same : other = task
    · subst same
      rw [here]
      exact owes
    · rw [elsewhere other same]
      apply owes_elsewhere _ _ (held.owes other)
      · exact fun message member from_ => same (from_.symm.trans (silent message member))
      · exact fun made member from_ => same (from_.symm.trans (own made member))

theorem Published.spawn {prost : Codec.Prost (SapientMessage F)}
    {trace : Trace (Hldmm F) (HldmmAction F)} {state : Hldmm F} (held : Published prost trace state)
    (accept : Nat) (peerId : String) :
    Published prost ((state, .proceed accept) :: trace) (state.spawnRecv accept peerId) := by
  have elsewhere : ∀ other, other ≠ state.recvCount →
      (state.spawnRecv accept peerId).recvLoops other = state.recvLoops other :=
    fun other apart => Function.update_of_ne apart _ _
  have here : (state.spawnRecv accept peerId).recvLoops state.recvCount =
      ⟨peerId, .receiving, false, true⟩ := Function.update_self ..
  have idle := held.fresh state.recvCount (Nat.le_refl _)
  constructor
  case all => exact held.all.trans (by simp [publications, history_cons, publishedOf])
  case translator => exact held.translator.trans (by simp [heard, history_cons, heardOf])
  case fresh =>
    intro other beyond
    have beyond : state.recvCount + 1 ≤ other := beyond
    rw [elsewhere other (Nat.ne_of_gt beyond)]
    exact held.fresh other (Nat.le_of_succ_le beyond)
  case unheard =>
    intro other unspawned
    by_cases same : other = state.recvCount
    · subst same
      rw [here] at unspawned
      cases unspawned
    · rw [elsewhere other same] at unspawned
      rw [inbound_cons, ofTask_eq_nil (by simp [heardOf]), List.append_nil]
      exact held.unheard other unspawned
  case owes =>
    intro other
    apply owes_elsewhere (by simp [heardOf]) (by simp [publishedOf])
    by_cases same : other = state.recvCount
    · subst same
      obtain ⟨owed, balance, one, flying⟩ := held.owes state.recvCount
      rw [idle] at flying
      rw [here]
      exact ⟨owed, balance, one, fun _ => flying rfl⟩
    · rw [elsewhere other same]
      exact held.owes other

theorem Owes.settled {prost : Codec.Prost (SapientMessage F)}
    {trace : Trace (Hldmm F) (HldmmAction F)} {task : Nat} {stage : RecvStage F}
    (owes : Owes prost trace task stage) (running : isCancelled stage = false) :
    produced prost task trace = publishedBy task trace ++ inFlight stage := by
  obtain ⟨owed, same, _, flying⟩ := owes
  rw [same, flying running]

/-- What an answer makes of the stage is what it adds to the history. -/
theorem Published.answered {prost : Codec.Prost (SapientMessage F)}
    {trace : Trace (Hldmm F) (HldmmAction F)} {state : Hldmm F}
    (held : Published prost trace state) {task : Nat}
    (here : (state.recvLoops task).stage = .receiving)
    {answer : Except SapientError (Option (SapientMessage F))}
    (translator : SapientTranslator F) {stage : RecvStage F} (later : stage ≠ .idle)
    (one : (inFlight stage).length ≤ 1)
    (translated : translator =
      (heardOf (state, .inbound task answer)).foldl (translate prost) state.translator)
    (made : producedOf prost task (state, .inbound task answer) = inFlight stage) :
    Published prost ((state, .inbound task answer) :: trace)
      ({ state with translator := translator }.setRecv task stage) := by
  have balance := (held.owes task).settled (by rw [here]; rfl)
  simp only [here, inFlight, List.append_nil] at balance
  apply held.move task { state.recvLoops task with stage := stage }
  case active => simp [here]
  case later => exact later
  case loops => rfl
  case count => rfl
  case translator => exact translated
  case silent =>
    intro message member
    simp only [heardOf] at member
    split at member
    · next same =>
        cases same
        rw [List.mem_singleton.mp member]
    · cases member
  case own => simp [publishedOf]
  case all => simp [publishedOf, setRecv]
  case owes =>
    refine ⟨inFlight stage, ?_, one, fun _ => rfl⟩
    rw [produced, history_cons, made, publishedBy_cons]
    simpa [publishedOf, produced, ofTask] using balance

theorem Published.receive {prost : Codec.Prost (SapientMessage F)}
    {trace : Trace (Hldmm F) (HldmmAction F)} {state : Hldmm F}
    (held : Published prost trace state) {task : Nat}
    (here : (state.recvLoops task).stage = .receiving)
    (answer : Except SapientError (Option (SapientMessage F))) :
    Published prost ((state, .inbound task answer) :: trace)
      (state.receiveInbound prost task answer) := by
  match answer with
  | .error failure =>
      exact held.answered here state.translator (by simp) (Nat.zero_le 1) rfl rfl
  | .ok none =>
      exact held.answered here state.translator (by simp) (Nat.zero_le 1) rfl rfl
  | .ok (some msg) =>
      have one := length_receiveMessage prost state.translator msg
      have made : producedOf prost task (state, .inbound task (.ok (some msg))) =
          (receiveMessage prost state.translator msg).1 := by
        simp [producedOf, heardOf, ofTask]
      simp only [receiveInbound]
      cases outcome : (receiveMessage prost state.translator msg).1 with
      | nil =>
          rw [outcome] at made
          exact held.answered here _ (by simp) (Nat.zero_le 1) rfl made
      | cons publication rest =>
          rw [outcome] at made one
          have last : rest = [] := List.length_eq_zero_iff.mp (by simpa using one)
          subst last
          exact held.answered here _ (by simp) (Nat.le_refl 1) rfl made

theorem published_step (prost : Codec.Prost (SapientMessage F))
    {trace : Trace (Hldmm F) (HldmmAction F)} {state after : Hldmm F} {action : HldmmAction F}
    (held : Published prost trace state) (moved : Moves prost state action after) :
    Published prost ((state, action) :: trace) after := by
  cases moved with
  | spawn accept peerId here => exact held.spawn accept peerId
  | receive task answer here live => exact held.receive here answer
  | publish task publication here live =>
      have made : publishedOf (state, .publishDone task) = [(task, publication)] := by
        simp [publishedOf, here]
      have balance := (held.owes task).settled (by rw [here]; rfl)
      apply held.move task { state.recvLoops task with stage := .receiving }
      case active => simp [here]
      case later => simp
      case loops => rfl
      case count => rfl
      case translator => rfl
      case silent => simp [heardOf]
      case own => simp [made]
      case all => simp [made, setRecv]
      case owes =>
        refine ⟨[], ?_, Nat.zero_le 1, fun _ => rfl⟩
        rw [here] at balance
        rw [publishedBy_cons, made]
        simpa [produced, history_cons, producedOf, heardOf, ofTask, inFlight] using balance
  | finish task here =>
      have balance := (held.owes task).settled (by rw [here]; rfl)
      apply held.move task { state.recvLoops task with stage := .returned, alive := false }
      case active => simp [here]
      case later => simp
      case loops => rfl
      case count => rfl
      case translator => rfl
      case silent => simp [heardOf]
      case own => simp [publishedOf]
      case all => simp [publishedOf]
      case owes =>
        apply owes_elsewhere (by simp [heardOf]) (by simp [publishedOf])
        rw [here] at balance
        exact ⟨[], balance, Nat.zero_le 1, fun _ => rfl⟩
  | cancelRecv task dead here =>
      obtain ⟨owed, balance, one, _⟩ := held.owes task
      apply held.move task { state.recvLoops task with stage := .cancelled }
      case active =>
        intro idle
        rw [idle] at here
        cases here
      case later => simp
      case loops => rfl
      case count => rfl
      case translator => rfl
      case silent => simp [heardOf]
      case own => simp [publishedOf]
      case all => simp [publishedOf, setRecv]
      case owes =>
        apply owes_elsewhere (by simp [heardOf]) (by simp [publishedOf])
        exact ⟨owed, balance, one, by simp [isCancelled]⟩
  | _ => exact held.keep rfl rfl rfl rfl rfl (fun _ => rfl)

theorem published_run (prost : Codec.Prost (SapientMessage F))
    {trace : Trace (Hldmm F) (HldmmAction F)} {state : Hldmm F}
    (run : Run (machine prost) trace state) : Published prost trace state := by
  apply run.invariant (Published prost)
  · constructor
    case all => rfl
    case translator => rfl
    case fresh => exact fun _ _ => rfl
    case unheard => exact fun _ _ => rfl
    case owes => exact fun _ => ⟨[], rfl, Nat.zero_le 1, fun _ => rfl⟩
  · intro trace before action after _ held taken
    exact published_step prost held (moves_of_step prost taken)

/-- What the receive loops of a HLDMM publish, in every run. All loops go through one
translator, in the order in which their messages came in. Each loop publishes what its own
messages come to, in order and each once; it holds one publication at most, and loses that
one at most, when it is cancelled. -/
theorem publishes_in_order (prost : Codec.Prost (SapientMessage F))
    {trace : Trace (Hldmm F) (HldmmAction F)} {state : Hldmm F}
    (run : Run (machine prost) trace state) :
    state.published = (publications trace).map Prod.snd ∧
    state.translator = (heard trace).foldl (translate prost) .new ∧
    ∀ task, ∃ owed, produced prost task trace = publishedBy task trace ++ owed ∧
      owed.length ≤ 1 ∧
        (isCancelled (state.recvLoops task).stage = false →
          owed = inFlight (state.recvLoops task).stage) := by
  have held := published_run prost run
  exact ⟨held.all, held.translator, held.owes⟩

def greeting : SapientMessage Float := { nodeId := some "n", content := some (.registration {}) }

/-- protobuf on the greeting: its `node_id` is field 2, its registration, with no bytes, field
4. -/
def greetingProst : Codec.Prost (SapientMessage Float) where
  encodeToVec _ := [18, 1, 110, 34, 0]
  decode bytes :=
    if bytes = [18, 1, 110, 34, 0] then .ok greeting
    else .error ⟨"failed to decode Protobuf message"⟩

def stoppedTwice : List (HldmmAction Float) :=
  [.start, .bound 0 true, .accepted 0 (.ok "10.0.0.7:40112"), .proceed 0, .proceed 0, .proceed 0,
    .inbound 0 (.ok (some greeting)), .publishDone 0, .inbound 0 (.ok (some greeting)), .stop 0,
    .advance 0, .cancelRecv 0]

theorem publishes_in_order_stoppedTwice :
    ∃ (trace : Trace (Hldmm Float) (HldmmAction Float)) (state : Hldmm Float),
      (produced greetingProst 0 trace).length = 2 ∧ state.published.length = 1 ∧
        state.published = (publications trace).map Prod.snd ∧
          ∃ owed, produced greetingProst 0 trace = publishedBy 0 trace ++ owed ∧
            owed.length ≤ 1 := by
  have ordered := publishes_in_order greetingProst (replay_reachable stoppedTwice rfl)
  obtain ⟨owed, balance, one, _⟩ := ordered.2.2 0
  exact ⟨_, _, rfl, rfl, ordered.1, owed, balance, one⟩

end PeatSapient.Hldmm
