import PeatSapient.Bridge.Moves
import PeatSapient.RateLimit.Windows

/-! The detection limit on the whole bridge. All connections ask one limiter, and a node may
use any number of them; still the detections that are routed for it, and those that the
application is sent, keep to the burst and the rate. -/

namespace PeatSapient

open HashMap Mpsc Execution TokenBuckets

namespace DetectionLimiter

variable {F : Type} [FloatOps F]

def afterAll (limiter : DetectionLimiter F) (checks : List (Nat × String)) :
    DetectionLimiter F :=
  checks.foldl (fun limiter check => (limiter.check check.1 check.2).2) limiter

theorem afterAll_append (limiter : DetectionLimiter F) (checks more : List (Nat × String)) :
    limiter.afterAll (checks ++ more) = (limiter.afterAll checks).afterAll more :=
  List.foldl_append

theorem checkAll_append (limiter : DetectionLimiter F) (checks more : List (Nat × String)) :
    limiter.checkAll (checks ++ more) =
      limiter.checkAll checks ++ (limiter.afterAll checks).checkAll more := by
  induction checks generalizing limiter with
  | nil => rfl
  | cons check rest ih =>
      obtain ⟨now, nodeId⟩ := check
      simp only [List.cons_append, checkAll, afterAll, List.foldl_cons]
      rw [ih]
      rfl

theorem length_checkAll (limiter : DetectionLimiter F) (checks : List (Nat × String)) :
    (limiter.checkAll checks).length = checks.length := by
  induction checks generalizing limiter with
  | nil => rfl
  | cons check rest ih => simp [checkAll, ih]

theorem historyOf_append (nodeId : String) {checks : List (Nat × String)} {results : List Bool}
    (more : List (Nat × String)) (others : List Bool) (paired : checks.length = results.length) :
    historyOf nodeId (checks ++ more) (results ++ others) =
      historyOf nodeId checks results ++ historyOf nodeId more others := by
  rw [historyOf, List.zip_append paired, List.filterMap_append]
  rfl

def letThrough (nodeId : String) (checks : List (Nat × String)) (results : List Bool) :
    List Nat :=
  ((historyOf nodeId checks results).filter Prod.snd).map Prod.fst

theorem letThrough_check (limiter : DetectionLimiter F) (nodeId : String)
    (checks : List (Nat × String)) (now : Nat) (asked : String) :
    letThrough nodeId (checks ++ [(now, asked)]) (limiter.checkAll (checks ++ [(now, asked)])) =
      letThrough nodeId checks (limiter.checkAll checks) ++
        if asked = nodeId ∧ ((limiter.afterAll checks).check now asked).1 = true then [now]
        else [] := by
  rw [checkAll_append, letThrough,
    historyOf_append nodeId _ _ (length_checkAll limiter checks).symm, List.filter_append,
    List.map_append]
  congr 1
  by_cases own : asked = nodeId
  · subst own
    cases admitted : ((limiter.afterAll checks).check now asked).1 <;>
      simp [historyOf, checkAll, admitted]
  · simp [historyOf, checkAll, own]

theorem mem_letThrough {nodeId : String} {checks : List (Nat × String)} {results : List Bool}
    {time : Nat} (member : time ∈ letThrough nodeId checks results) :
    ∃ check ∈ checks, check.1 = time := by
  obtain ⟨answer, listed, rfl⟩ := List.mem_map.mp member
  obtain ⟨⟨check, result⟩, among, found⟩ := List.mem_filterMap.mp (List.mem_of_mem_filter listed)
  split at found
  · cases found
    exact ⟨check, (List.of_mem_zip among).1, rfl⟩
  · cases found

theorem countP_letThrough (nodeId : String) (checks : List (Nat × String))
    (results : List Bool) (first last : Nat) :
    (letThrough nodeId checks results).countP
        (fun time => decide (first ≤ time ∧ time ≤ last)) =
      admittedIn (historyOf nodeId checks results) first last := by
  rw [letThrough, List.countP_map, List.countP_filter, admittedIn]
  simp only [Function.comp_def, Bool.and_comm]

theorem letThrough_bounded {approx : Approximations} {config : RateLimitConfig (Exact approx)}
    (flows : 0 < config.maxPerSecond.toRat) (whole : 0 < config.burstSize)
    {checks : List (Nat × String)}
    (ordered : checks.Pairwise fun earlier later => earlier.1 ≤ later.1) (nodeId : String)
    {first last : Nat} (window : first ≤ last) :
    ((letThrough nodeId checks (checkAll (new config) checks)).countP
        (fun time => decide (first ≤ time ∧ time ≤ last)) : ℚ) ≤
      config.burstSize + config.maxPerSecond.toRat * (seconds last - seconds first) := by
  have bound := admittedBetween_le (Nat.cast_nonneg config.burstSize) flows.le _
    (timesOf_ordered nodeId ordered) (seconds_le.mpr window)
  have exact_ := history_exact flows whole ordered nodeId
  change inSeconds _ = answered (config.burstSize : ℚ) config.maxPerSecond.toRat _ at exact_
  rw [← exact_, admittedIn_inSeconds] at bound
  rw [countP_letThrough]
  exact bound

end DetectionLimiter

namespace Bridge

variable {F : Type}

def detects (nodeId : String) : SapientUpdate F → Bool
  | .detected sender _ => sender == nodeId
  | _ => false

def routes (entry : Bridge F × Action F) :
    Option (ConnId × SapientMessage F × Option (TrackPosition F)) :=
  match entry.2 with
  | .proceed id =>
      match (entry.1.conns id).stage with
      | .routing msg position => some (id, msg, position)
      | _ => none
  | _ => none

def detectionInHand (nodeId : String) : Stage F → Nat
  | .recording update | .emitting update => if detects nodeId update then 1 else 0
  | _ => 0

def checkOf (entry : Bridge F × Action F) : List (Nat × String) :=
  match routes entry with
  | some (_, msg, _) =>
      match msg.content with
      | some (.detectionReport _) => [(entry.1.clock, msg.sender)]
      | _ => []
  | none => []

def checks (trace : Trace (Bridge F) (Action F)) : List (Nat × String) := history checkOf trace

def detectionsSent (nodeId : String) (attempts : List (Emitted F)) : List ConnId :=
  (attempts.filter fun emitted => detects nodeId emitted.update).map Emitted.source

variable [FloatOps F]

def detectionOf (nodeId : String) (entry : Bridge F × Action F) : List (ConnId × Nat) :=
  match routes entry with
  | some (id, msg, position) =>
      match (routeMessage msg position entry.1.detectionLimiter entry.1.clock).1 with
      | .ok update => if detects nodeId update then [(id, entry.1.clock)] else []
      | .error _ => []
  | none => []

def detections (nodeId : String) (trace : Trace (Bridge F) (Action F)) :
    List (ConnId × Nat) := history (detectionOf nodeId) trace

/-- What the routing of a message does to the limiter, and to whom it lets a detection pass. -/
theorem routeMessage_limited (msg : SapientMessage F) (position : Option (TrackPosition F))
    (limiter : DetectionLimiter F) (now : Nat) :
    (∃ report, msg.content = some (.detectionReport report) ∧
      (routeMessage msg position (some limiter) now).2 =
        some (limiter.check now msg.sender).2 ∧
      ∀ update nodeId, (routeMessage msg position (some limiter) now).1 = .ok update →
        detects nodeId update = true →
          nodeId = msg.sender ∧ (limiter.check now msg.sender).1 = true) ∨
    ((∀ report, msg.content ≠ some (.detectionReport report)) ∧
      (routeMessage msg position (some limiter) now).2 = some limiter ∧
      ∀ update nodeId, (routeMessage msg position (some limiter) now).1 = .ok update →
        detects nodeId update = false) := by
  cases content : msg.content with
  | none =>
      right
      simp only [routeMessage, content]
      refine ⟨by simp, trivial, ?_⟩
      rintro update nodeId same
      cases same
      rfl
  | some body =>
      cases body with
      | detectionReport report =>
          left
          refine ⟨report, rfl, ?_, ?_⟩
          · cases admitted : (limiter.check now msg.sender).1 with
            | false => simp [routeMessage, content, admits, admitted]
            | true =>
                cases mapped : fromDetectionReport msg.sender position report <;>
                  simp [routeMessage, content, admits, admitted, mapped]
          · intro update nodeId same found
            cases admitted : (limiter.check now msg.sender).1 with
            | false =>
                simp only [routeMessage, content, admits, admitted] at same
                cases same
                cases found
            | true =>
                cases mapped : fromDetectionReport msg.sender position report with
                | error failure =>
                    simp only [routeMessage, content, admits, admitted, mapped] at same
                    cases same
                | ok track =>
                    simp only [routeMessage, content, admits, admitted, mapped] at same
                    cases same
                    exact ⟨(beq_iff_eq.mp found).symm, rfl⟩
      | _ =>
          right
          simp only [routeMessage, content]
          refine ⟨by simp, trivial, ?_⟩
          rintro update nodeId same
          cases same
          rfl

/-- What holds of the limiter and of the checks it was asked for, in every run. -/
structure Limited (rate : RateLimitConfig F) (trace : Trace (Bridge F) (Action F))
    (state : Bridge F) : Prop where
  limiter : state.detectionLimiter = some ((DetectionLimiter.new rate).afterAll (checks trace))
  ordered : (checks trace).Pairwise fun earlier later => earlier.1 ≤ later.1
  past : ∀ check ∈ checks trace, check.1 ≤ state.clock
  routed : ∀ nodeId, ((detections nodeId trace).map Prod.snd).Sublist
    (DetectionLimiter.letThrough nodeId (checks trace)
      ((DetectionLimiter.new rate).checkAll (checks trace)))

theorem Limited.quiet {rate : RateLimitConfig F} {trace : Trace (Bridge F) (Action F)}
    {state after : Bridge F} {action : Action F} (limited : Limited rate trace state)
    (unrouted : routes (state, action) = none)
    (same : after.detectionLimiter = state.detectionLimiter)
    (later : state.clock ≤ after.clock) : Limited rate ((state, action) :: trace) after := by
  have asked : checks ((state, action) :: trace) = checks trace := by
    rw [checks, history_cons, checkOf, unrouted, List.append_nil]
    rfl
  constructor
  case limiter => rw [same, asked, limited.limiter]
  case ordered =>
    rw [asked]
    exact limited.ordered
  case past =>
    rw [asked]
    exact fun check member => Nat.le_trans (limited.past check member) later
  case routed =>
    intro nodeId
    rw [asked, detections, history_cons, detectionOf, unrouted, List.append_nil]
    exact limited.routed nodeId

theorem Limited.check {rate : RateLimitConfig F} {trace : Trace (Bridge F) (Action F)}
    {state after : Bridge F} {action : Action F} (limited : Limited rate trace state)
    {id : ConnId} {msg : SapientMessage F} {position : Option (TrackPosition F)}
    {current : DetectionLimiter F} (here : routes (state, action) = some (id, msg, position))
    (known : (DetectionLimiter.new rate).afterAll (checks trace) = current)
    (started : state.detectionLimiter = some current) (clock : after.clock = state.clock)
    (limiter : after.detectionLimiter = some (current.check state.clock msg.sender).2)
    {report : DetectionReport F} (content : msg.content = some (.detectionReport report))
    (passed : ∀ update nodeId,
      (routeMessage msg position (some current) state.clock).1 = .ok update →
        detects nodeId update = true →
          nodeId = msg.sender ∧ (current.check state.clock msg.sender).1 = true) :
    Limited rate ((state, action) :: trace) after := by
  have asked : checks ((state, action) :: trace) =
      checks trace ++ [(state.clock, msg.sender)] := by
    rw [checks, history_cons, checkOf, here]
    simp only [content]
    rfl
  constructor
  case limiter =>
    rw [limiter, asked, DetectionLimiter.afterAll_append, known]
    rfl
  case ordered =>
    rw [asked]
    refine List.pairwise_append.mpr ⟨limited.ordered, List.pairwise_singleton _ _, ?_⟩
    intro check member next last
    rw [List.mem_singleton] at last
    subst last
    exact limited.past check member
  case past =>
    rw [asked, clock]
    intro check member
    rcases List.mem_append.mp member with earlier | last
    · exact limited.past check earlier
    · rw [List.mem_singleton] at last
      subst last
      exact Nat.le_refl state.clock
  case routed =>
    intro nodeId
    rw [asked, DetectionLimiter.letThrough_check, known, detections, history_cons,
      List.map_append]
    refine (limited.routed nodeId).append ?_
    rw [detectionOf, here]
    simp only [started]
    cases result : (routeMessage msg position (some current) state.clock).1 with
    | error failure => exact List.nil_sublist _
    | ok update =>
        cases found : detects nodeId update with
        | false => simp [found]
        | true =>
            obtain ⟨own, admitted⟩ := passed update nodeId result found
            subst own
            simp [found, admitted]

theorem Limited.unasked {rate : RateLimitConfig F} {trace : Trace (Bridge F) (Action F)}
    {state after : Bridge F} {action : Action F} (limited : Limited rate trace state)
    {id : ConnId} {msg : SapientMessage F} {position : Option (TrackPosition F)}
    {current : DetectionLimiter F} (here : routes (state, action) = some (id, msg, position))
    (known : (DetectionLimiter.new rate).afterAll (checks trace) = current)
    (started : state.detectionLimiter = some current) (clock : after.clock = state.clock)
    (limiter : after.detectionLimiter = some current)
    (other : ∀ report, msg.content ≠ some (.detectionReport report))
    (silent : ∀ update nodeId,
      (routeMessage msg position (some current) state.clock).1 = .ok update →
        detects nodeId update = false) :
    Limited rate ((state, action) :: trace) after := by
  have asked : checks ((state, action) :: trace) = checks trace := by
    rw [checks, history_cons, checkOf, here]
    cases content : msg.content with
    | none => simp [content, checks]
    | some body =>
        cases body with
        | detectionReport report => exact absurd content (other report)
        | _ => simp [content, checks]
  constructor
  case limiter => rw [limiter, asked, known]
  case ordered =>
    rw [asked]
    exact limited.ordered
  case past =>
    rw [asked, clock]
    exact limited.past
  case routed =>
    intro nodeId
    have earlier := limited.routed nodeId
    rw [asked]
    rw [detections] at earlier ⊢
    rw [history_cons, detectionOf, here]
    simp only [started]
    cases result : (routeMessage msg position (some current) state.clock).1 with
    | error failure => simpa using earlier
    | ok update => simpa [silent update nodeId result] using earlier

theorem Limited.route {rate : RateLimitConfig F} {trace : Trace (Bridge F) (Action F)}
    {state after : Bridge F} {action : Action F} (limited : Limited rate trace state)
    {id : ConnId} {msg : SapientMessage F} {position : Option (TrackPosition F)}
    (here : routes (state, action) = some (id, msg, position))
    (limiter : after.detectionLimiter =
      (routeMessage msg position state.detectionLimiter state.clock).2)
    (clock : after.clock = state.clock) : Limited rate ((state, action) :: trace) after := by
  have started := limited.limiter
  generalize known : (DetectionLimiter.new rate).afterAll (checks trace) = current at started
  rw [started] at limiter
  rcases routeMessage_limited msg position current state.clock with
    ⟨report, content, spent, passed⟩ | ⟨other, kept, silent⟩
  · exact limited.check here known started clock (limiter.trans spent) content passed
  · exact limited.unasked here known started clock (limiter.trans kept) other silent

theorem limited_step (config : BridgeConfig F) {rate : RateLimitConfig F}
    {trace : Trace (Bridge F) (Action F)} {state after : Bridge F} {action : Action F}
    (limited : Limited rate trace state) (moved : Moves config state action after) :
    Limited rate ((state, action) :: trace) after := by
  cases moved with
  | route id msg position update limiter here routed =>
      refine limited.route (show routes (state, .proceed id) = some (id, msg, position) from ?_)
        ?_ rfl
      · simp [routes, here]
      · exact (congrArg Prod.snd routed).symm
  | reject id msg position failure limiter here routed =>
      refine limited.route (show routes (state, .proceed id) = some (id, msg, position) from ?_)
        ?_ rfl
      · simp [routes, here]
      · exact (congrArg Prod.snd routed).symm
  | tick elapsed => exact limited.quiet rfl rfl (Nat.le_add_right _ _)
  | register id msg here | acknowledgeRegistration id msg write here sent
  | snapshot id msg here free clean | drain id msg here free stale
  | connReap id msg expired here | replayed id msg here
  | replay id msg out rest write here sent | locate id msg here
  | upsert id update target capability here writes
  | ackTask id sender acked given status reasons here free
  | pass id update here silent other
  | correlate id sender acked status reasons cleared here
  | emit id update updates here sent
  | disconnect id target here free | unregister id target here
  | announce id target updates here sent =>
      exact limited.quiet (by simp [routes, here]) rfl (Nat.le_refl _)
  | _ => exact limited.quiet rfl rfl (Nat.le_refl _)

theorem limited_run {config : BridgeConfig F} {rate : RateLimitConfig F}
    (limits : config.detectionRateLimit = some rate) {trace : Trace (Bridge F) (Action F)}
    {state : Bridge F} (run : Run (machine config) trace state) : Limited rate trace state := by
  refine run.invariant (Limited rate) ?_ ?_
  · constructor
    case limiter => simp [machine, new, limits, checks, history, DetectionLimiter.afterAll]
    case ordered => exact List.Pairwise.nil
    case past =>
      intro check member
      cases member
    case routed =>
      intro nodeId
      exact List.nil_sublist _
  · intro trace before action after earlier held taken
    exact limited_step config held (moves_of_step config taken)

def sentOn (nodeId : String) (state : Bridge F) (conn : ConnId) : Nat :=
  (detectionsSent nodeId state.updates.attempts).count conn +
    detectionInHand nodeId (state.conns conn).stage

omit [FloatOps F] in
theorem sentOn_setConn (nodeId : String) (state : Bridge F) (id : ConnId)
    (changed : Connection F)
    (same : detectionInHand nodeId changed.stage =
      detectionInHand nodeId (state.conns id).stage) (conn : ConnId) :
    sentOn nodeId (state.setConn id changed) conn = sentOn nodeId state conn := by
  by_cases here : conn = id
  · subst here
    simp [sentOn, setConn, same]
  · simp [sentOn, setConn, here]

omit [FloatOps F] in
theorem sentOn_emit (nodeId : String) {state : Bridge F} (id : ConnId) (stage : Stage F)
    (updates : Channel (Emitted F)) (update : SapientUpdate F)
    (sent : state.updates.send ⟨id, update⟩ = some updates)
    (before : detectionInHand nodeId (state.conns id).stage =
      if detects nodeId update then 1 else 0)
    (nothing : detectionInHand nodeId stage = 0) (conn : ConnId) :
    sentOn nodeId (({ state with updates := updates } : Bridge F).setStage id stage) conn =
      sentOn nodeId state conn := by
  unfold sentOn
  change (detectionsSent nodeId updates.attempts).count conn + _ = _
  rw [Channel.attempts_send sent]
  by_cases here : conn = id
  · subst here
    cases found : detects nodeId update <;>
      simp [detectionsSent, setStage, setConn, nothing, before, found]
  · have other : id ≠ conn := Ne.symm here
    cases found : detects nodeId update <;>
      simp [detectionsSent, setStage, setConn, here, found, other]

/-- A connection gains a detection where it routes one, and sends each once. -/
theorem sentOn_step (config : BridgeConfig F) {state after : Bridge F} {action : Action F}
    (moved : Moves config state action after) (nodeId : String) (conn : ConnId) :
    sentOn nodeId after conn = sentOn nodeId state conn +
      ((detectionOf nodeId (state, action)).map Prod.fst).count conn := by
  cases moved with
  | route id msg position update limiter here routed =>
      have mapped : (routeMessage msg position state.detectionLimiter state.clock).1 =
          .ok update := congrArg Prod.fst routed
      simp only [detectionOf, routes, here, mapped]
      by_cases own : conn = id
      · subst own
        cases found : detects nodeId update <;>
          simp [sentOn, setStage, setConn, detectionInHand, here, found]
      · have other : id ≠ conn := Ne.symm own
        cases detects nodeId update <;> simp [sentOn, setStage, setConn, own, other]
  | reject id msg position failure limiter here routed =>
      have mapped : (routeMessage msg position state.detectionLimiter state.clock).1 =
          .error failure := congrArg Prod.fst routed
      simp only [detectionOf, routes, here, mapped]
      refine sentOn_setConn nodeId { state with detectionLimiter := limiter } id _ ?_ conn
      simp only [here, detectionInHand]
  | consume emitted updates taken =>
      simp only [sentOn, Channel.attempts_recv taken]
      rfl
  | emit id update updates here sent =>
      rw [sentOn_emit nodeId id .reading updates update sent (by rw [here]; rfl) rfl conn]
      simp [detectionOf, routes, here]
  | announce id target updates here sent =>
      rw [sentOn_emit nodeId id .closed updates _ sent (by rw [here]; rfl) rfl conn]
      simp [detectionOf, routes, here]
  | receive id msg here =>
      refine sentOn_setConn nodeId state id _ ?_ conn
      unfold arrive
      split <;> simp [here, detectionInHand]
  | hangUp id here =>
      refine sentOn_setConn nodeId state id _ ?_ conn
      unfold hungUp
      split <;> simp [here, detectionInHand]
  | register id msg here
  | acknowledgeRegistration id msg write here
  | snapshot id msg here
  | drain id msg here
  | connReap id msg expired here
  | replayed id msg here
  | replay id msg out rest write here
  | locate id msg here
  | upsert id update target capability here
  | ackTask id sender acked given status reasons here
  | pass id update here
  | correlate id sender acked status reasons cleared here
  | disconnect id target here
  | unregister id target here =>
      simp only [detectionOf, routes, here]
      refine sentOn_setConn nodeId _ id _ ?_ conn
      simp [here, detectionInHand, detects]
  | writerTakes id | writerWrote id | writerFailed id =>
      refine sentOn_setConn nodeId state id _ ?_ conn
      rfl
  | deliver id target delivered out write here sent =>
      exact sentOn_setConn nodeId state delivered
        { state.conns delivered with write := write } rfl conn
  | _ => rfl

theorem sentOn_run {config : BridgeConfig F} {trace : Trace (Bridge F) (Action F)}
    {state : Bridge F} (run : Run (machine config) trace state) (nodeId : String)
    (conn : ConnId) :
    sentOn nodeId state conn = ((detections nodeId trace).map Prod.fst).count conn := by
  refine run.invariant (fun trace state => sentOn nodeId state conn =
    ((detections nodeId trace).map Prod.fst).count conn) rfl ?_
  intro trace before action after _ held taken
  rw [sentOn_step config (moves_of_step config taken), held, ← List.count_append,
    ← List.map_append]
  rfl

theorem detectionsSent_le {config : BridgeConfig F} {trace : Trace (Bridge F) (Action F)}
    {state : Bridge F} (run : Run (machine config) trace state) (nodeId : String) :
    (detectionsSent nodeId state.updates.attempts).length ≤ (detections nodeId trace).length := by
  have among : (detectionsSent nodeId state.updates.attempts).Subperm
      ((detections nodeId trace).map Prod.fst) := by
    apply List.subperm_ext_iff.mpr
    intro conn _
    rw [← sentOn_run run nodeId conn]
    exact Nat.le_add_right _ _
  simpa using among.length_le

section Exact
variable {approx : Approximations}

/-- However many connections a node's messages come on, its detections that are routed keep
to the burst and the rate in every window of time; each of them is sent once, on its
connection; and so those sent keep to the burst and the rate from the start. -/
theorem detections_throttled {config : BridgeConfig (Exact approx)}
    {rate : RateLimitConfig (Exact approx)} (limits : config.detectionRateLimit = some rate)
    (flows : 0 < rate.maxPerSecond.toRat) (whole : 0 < rate.burstSize)
    {trace : Trace (Bridge (Exact approx)) (Action (Exact approx))}
    {state : Bridge (Exact approx)} (run : Run (machine config) trace state)
    (nodeId : String) :
    (∀ first last, first ≤ last →
      ((detections nodeId trace).countP
          (fun routed => decide (first ≤ routed.2 ∧ routed.2 ≤ last)) : ℚ) ≤
        rate.burstSize + rate.maxPerSecond.toRat *
          (DetectionLimiter.seconds last - DetectionLimiter.seconds first)) ∧
      (∀ conn, (detectionsSent nodeId state.updates.attempts).count conn +
          detectionInHand nodeId (state.conns conn).stage =
        ((detections nodeId trace).map Prod.fst).count conn) ∧
      ((detectionsSent nodeId state.updates.attempts).length : ℚ) ≤
        rate.burstSize +
          rate.maxPerSecond.toRat * DetectionLimiter.seconds state.clock := by
  have limited := limited_run limits run
  have windows : ∀ first last, first ≤ last →
      ((detections nodeId trace).countP
          (fun routed => decide (first ≤ routed.2 ∧ routed.2 ≤ last)) : ℚ) ≤
        rate.burstSize + rate.maxPerSecond.toRat *
          (DetectionLimiter.seconds last - DetectionLimiter.seconds first) := by
    intro first last window
    have fewer := (limited.routed nodeId).countP_le
      (p := fun time => decide (first ≤ time ∧ time ≤ last))
    rw [List.countP_map] at fewer
    have bound := DetectionLimiter.letThrough_bounded flows whole limited.ordered nodeId window
    exact le_trans (Nat.cast_le.mpr fewer) bound
  refine ⟨windows, sentOn_run run nodeId, ?_⟩
  have fromStart := windows 0 state.clock (Nat.zero_le state.clock)
  have all : (detections nodeId trace).countP
      (fun routed => decide (0 ≤ routed.2 ∧ routed.2 ≤ state.clock)) =
        (detections nodeId trace).length := by
    apply List.countP_eq_length.mpr
    intro routed member
    have time := (limited.routed nodeId).subset (List.mem_map_of_mem member)
    obtain ⟨check, asked, same⟩ := DetectionLimiter.mem_letThrough time
    simp [← same, limited.past check asked]
  have zero : DetectionLimiter.seconds 0 = 0 := by simp [DetectionLimiter.seconds]
  rw [all, zero, sub_zero] at fromStart
  exact le_trans (Nat.cast_le.mpr (detectionsSent_le run nodeId)) fromStart

def throttledConfig : BridgeConfig (Exact identities) where
  nodeId := "hldmm"
  detectionRateLimit := some DetectionLimiter.onceASecond
  taskQueueDepth := 32
  taskTtl := 300 * 1000000000

def spotted : SapientMessage (Exact identities) where
  nodeId := some "n"
  content := some (.detectionReport {
    locationOneof := some (.location {
      x := some (.ofRat 2), y := some (.ofRat 1), coordinateSystem := some 1 }) })

def spottedTwice : List (Action (Exact identities)) :=
  .receive 0 spotted :: .receive 1 spotted ::
    ([0, 0, 0, 0, 1, 1, 1].map Action.proceed)

theorem detections_throttled_spottedTwice :
    ∃ trace state, (detections "n" trace).map Prod.fst = [0] ∧
      Run (machine throttledConfig) trace state ∧
      ((detectionsSent "n" state.updates.attempts).length : ℚ) ≤
        DetectionLimiter.onceASecond.burstSize +
          DetectionLimiter.onceASecond.maxPerSecond.toRat *
            DetectionLimiter.seconds state.clock := by
  have run := @replay_reachable _ _ (machine throttledConfig) spottedTwice (by decide +kernel)
  refine ⟨_, _, ?_, run, ?_⟩
  · decide +kernel
  · exact (detections_throttled rfl one_pos (by decide) run "n").2.2

end Exact

end Bridge

end PeatSapient
