import PeatSapient.Lib.TokenBucket
import PeatSapient.Numeric.Exact
import PeatSapient.RateLimit

/-! The detection limiter over exact arithmetic. Its buckets are token buckets of the
library, one for each node, and so it admits exactly what every window of a node's
history allows. -/

namespace PeatSapient.DetectionLimiter

open HashMap TokenBuckets

section Runs
variable {F : Type} [FloatOps F]

def checkAll : DetectionLimiter F → List (Nat × String) → List Bool
  | _, [] => []
  | limiter, (now, nodeId) :: rest =>
      (limiter.check now nodeId).1 :: checkAll (limiter.check now nodeId).2 rest

end Runs

def seconds (nanos : Nat) : ℚ := nanos / 1000000000

theorem seconds_le {earlier later : Nat} : seconds earlier ≤ seconds later ↔ earlier ≤ later := by
  unfold seconds
  rw [div_le_div_iff_of_pos_right (by norm_num)]
  exact Nat.cast_le

theorem seconds_sub {earlier later : Nat} (ordered : earlier ≤ later) :
    seconds (later - earlier) = seconds later - seconds earlier := by
  unfold seconds
  rw [Nat.cast_sub ordered, sub_div]

theorem seconds_injective : Function.Injective seconds := by
  intro left right same
  exact Nat.le_antisymm (seconds_le.mp same.le) (seconds_le.mp same.ge)

variable {approx : Approximations}

theorem asSecsF64_exact (nanos : Nat) :
    (asSecsF64 nanos : Exact approx).toRat = seconds nanos := by
  have whole : ((1000000000 * (nanos / 1000000000) + nanos % 1000000000 : Nat) : ℚ) =
      nanos := by
    rw [Nat.div_add_mod]
  rw [Nat.cast_add, Nat.cast_mul] at whole
  have parts : ((nanos / 1000000000 : Nat) : ℚ) + ((nanos % 1000000000 : Nat) : ℚ) /
      1000000000.0 = seconds nanos := by
    unfold seconds
    norm_num at whole ⊢
    linarith
  exact parts

def levelOf (bucket : TokenBucket (Exact approx)) : Level ℚ :=
  some (bucket.tokens.toRat, seconds bucket.lastCheck)

/-- The level of each node; a node without a bucket has seen no check. -/
def levels (limiter : DetectionLimiter (Exact approx)) (nodeId : String) : Level ℚ :=
  (limiter.buckets.lookup nodeId).bind levelOf

abbrev burst (config : RateLimitConfig (Exact approx)) : ℚ := config.burstSize

abbrev rate (config : RateLimitConfig (Exact approx)) : ℚ := config.maxPerSecond.toRat

/-- The buckets are those of the limiter's configuration, last checked in the past. -/
structure Sound (config : RateLimitConfig (Exact approx))
    (limiter : DetectionLimiter (Exact approx)) (clock : Nat) : Prop where
  configured : limiter.config = config
  enabled : limiter.enabled = true
  capacity : ∀ nodeId bucket, limiter.buckets.lookup nodeId = some bucket →
    bucket.capacity.toRat = burst config
  refillRate : ∀ nodeId bucket, limiter.buckets.lookup nodeId = some bucket →
    bucket.refillRate = config.maxPerSecond
  past : ∀ nodeId bucket, limiter.buckets.lookup nodeId = some bucket →
    bucket.lastCheck ≤ clock

theorem one_exact : (1.0 : Exact approx).toRat = 1 := by
  have one : (1.0 : ℚ) = 1 := by norm_num
  exact one

theorem refill_exact (bucket : TokenBucket (Exact approx)) {now : Nat}
    (past : bucket.lastCheck ≤ now) :
    (FloatOps.min (bucket.tokens + asSecsF64 (now - bucket.lastCheck) * bucket.refillRate)
        bucket.capacity).toRat =
      available bucket.capacity.toRat bucket.refillRate.toRat (levelOf bucket)
        (seconds now) := by
  have flow : (asSecsF64 (now - bucket.lastCheck) : Exact approx).toRat =
      seconds now - seconds bucket.lastCheck := by
    rw [asSecsF64_exact, seconds_sub past]
  change min (bucket.tokens.toRat + (asSecsF64 (now - bucket.lastCheck) : Exact approx).toRat *
    bucket.refillRate.toRat) bucket.capacity.toRat = _
  rw [flow, levelOf, available, min_comm, mul_comm]

theorem tryConsume_exact (bucket : TokenBucket (Exact approx)) {now : Nat}
    (past : bucket.lastCheck ≤ now) :
    (bucket.tryConsume now).1 = admits bucket.capacity.toRat bucket.refillRate.toRat
        (levelOf bucket) (seconds now) ∧
      levelOf (bucket.tryConsume now).2 = spend bucket.capacity.toRat bucket.refillRate.toRat
        (levelOf bucket) (seconds now, (bucket.tryConsume now).1) ∧
      (bucket.tryConsume now).2.capacity = bucket.capacity ∧
      (bucket.tryConsume now).2.refillRate = bucket.refillRate ∧
      (bucket.tryConsume now).2.lastCheck = now := by
  have refill := refill_exact bucket past
  unfold TokenBucket.tryConsume admits
  dsimp only
  rw [← refill]
  generalize FloatOps.min (bucket.tokens + asSecsF64 (now - bucket.lastCheck) *
    bucket.refillRate) bucket.capacity = tokens at refill ⊢
  have whole : FloatOps.le 1.0 tokens = decide (1 ≤ tokens.toRat) := by
    change decide ((1.0 : Exact approx).toRat ≤ tokens.toRat) = _
    rw [one_exact]
  rw [whole]
  by_cases enough : 1 ≤ tokens.toRat
  · simp only [enough, decide_true, if_true, true_and, and_true]
    rw [spend, ← refill]
    change some ((tokens.toRat - (1.0 : Exact approx).toRat), seconds now) = _
    rw [one_exact]
    rfl
  · simp only [enough, decide_false, Bool.false_eq_true, if_false, true_and, and_true]
    rw [spend, ← refill]
    simp [levelOf, cost]

theorem sound_new (config : RateLimitConfig (Exact approx))
    (flows : 0 < config.maxPerSecond.toRat) (whole : 0 < config.burstSize) :
    Sound config (new config) 0 := by
  have positive : FloatOps.lt 0.0 config.maxPerSecond = true := by
    have zero : (0.0 : ℚ) = 0 := by norm_num
    change decide ((0.0 : ℚ) < config.maxPerSecond.toRat) = true
    rw [zero]
    exact decide_eq_true flows
  constructor
  · rfl
  · simp [new, positive, whole]
  all_goals
    intro nodeId bucket found
    cases found

def bucketAt (limiter : DetectionLimiter (Exact approx)) (now : Nat) (nodeId : String) :
    TokenBucket (Exact approx) :=
  (limiter.buckets.lookup nodeId).getD (TokenBucket.new limiter.config now)

theorem bucketAt_sound {config : RateLimitConfig (Exact approx)}
    {limiter : DetectionLimiter (Exact approx)} {clock now : Nat}
    (sound : Sound config limiter clock) (later : clock ≤ now) (nodeId : String) :
    (limiter.bucketAt now nodeId).capacity.toRat = burst config ∧
      (limiter.bucketAt now nodeId).refillRate = config.maxPerSecond ∧
      (limiter.bucketAt now nodeId).lastCheck ≤ now ∧
      available (burst config) (rate config) (levelOf (limiter.bucketAt now nodeId))
          (seconds now) =
        available (burst config) (rate config) (limiter.levels nodeId) (seconds now) := by
  unfold bucketAt levels
  cases found : limiter.buckets.lookup nodeId with
  | none =>
      rw [sound.configured]
      refine ⟨rfl, rfl, Nat.le_refl now, ?_⟩
      have full : (TokenBucket.new config now).tokens.toRat = burst config := rfl
      have made : (TokenBucket.new config now).lastCheck = now := rfl
      simp [levelOf, available, full, made]
  | some bucket =>
      exact ⟨sound.capacity nodeId bucket found, sound.refillRate nodeId bucket found,
        Nat.le_trans (sound.past nodeId bucket found) later, rfl⟩

/-- All that a check does: it answers from the level of its node and spends there. -/
theorem check_exact {config : RateLimitConfig (Exact approx)}
    {limiter : DetectionLimiter (Exact approx)} {clock now : Nat}
    (sound : Sound config limiter clock) (later : clock ≤ now) (nodeId : String) :
    (limiter.check now nodeId).1 = admits (burst config) (rate config)
        (limiter.levels nodeId) (seconds now) ∧
      (limiter.check now nodeId).2.levels = Function.update limiter.levels nodeId
        (spend (burst config) (rate config) (limiter.levels nodeId)
          (seconds now, (limiter.check now nodeId).1)) ∧
      Sound config (limiter.check now nodeId).2 now := by
  obtain ⟨capacity, refillRate, past, same⟩ := bucketAt_sound sound later nodeId
  have checked : limiter.check now nodeId = (((limiter.bucketAt now nodeId).tryConsume now).1,
      { limiter with
        buckets := (limiter.buckets.insert nodeId
          ((limiter.bucketAt now nodeId).tryConsume now).2) }) := by
    unfold check
    rw [if_pos sound.enabled]
    rfl
  obtain ⟨answer, spent, keptCapacity, keptRate, time⟩ :=
    tryConsume_exact (limiter.bucketAt now nodeId) past
  rw [capacity, refillRate] at answer spent
  rw [checked]
  refine ⟨?answer, ?levels, ?sound⟩
  case answer =>
    rw [answer, admits, admits, same]
  case levels =>
    funext other
    by_cases own : other = nodeId
    · subst own
      rw [Function.update_self, levels, AList.lookup_insert, Option.bind_some, spent, spend,
        spend, same]
    · rw [Function.update_of_ne own, levels, levels, AList.lookup_insert_ne own]
  case sound =>
    constructor
    · exact sound.configured
    · exact sound.enabled
    all_goals
      intro other bucket found
      rw [lookup_insert_eq] at found
      split at found
      · cases found
        first
          | rw [keptCapacity, capacity]
          | rw [keptRate, refillRate]
          | rw [time]
      · first
          | exact sound.capacity other bucket found
          | exact sound.refillRate other bucket found
          | exact Nat.le_trans (sound.past other bucket found) later

def inSeconds {N : Type} (checks : List (Nat × N)) : List (ℚ × N) :=
  checks.map fun check => (seconds check.1, check.2)

/-- A run of the limiter is a run of the token buckets. -/
theorem checkAll_exact {config : RateLimitConfig (Exact approx)}
    {limiter : DetectionLimiter (Exact approx)} {clock : Nat} {checks : List (Nat × String)}
    (sound : Sound config limiter clock) (later : ∀ check ∈ checks, clock ≤ check.1)
    (ordered : checks.Pairwise fun earlier later => earlier.1 ≤ later.1) :
    checkAll limiter checks =
      answers (burst config) (rate config) limiter.levels (inSeconds checks) := by
  induction checks generalizing limiter clock with
  | nil => rfl
  | cons check rest ih =>
      obtain ⟨now, nodeId⟩ := check
      obtain ⟨after, sorted⟩ := List.pairwise_cons.mp ordered
      obtain ⟨answer, spent, kept⟩ := check_exact sound (later _ List.mem_cons_self) nodeId
      rw [checkAll, ih kept after sorted, spent, answer]
      rfl

theorem inSeconds_append {N : Type} (earlier later : List (Nat × N)) :
    inSeconds (earlier ++ later) = inSeconds earlier ++ inSeconds later :=
  List.map_append

theorem inSeconds_cons {N : Type} (check : Nat × N) (later : List (Nat × N)) :
    inSeconds (check :: later) = (seconds check.1, check.2) :: inSeconds later :=
  rfl

theorem checkAll_new {config : RateLimitConfig (Exact approx)}
    (flows : 0 < config.maxPerSecond.toRat) (whole : 0 < config.burstSize)
    {checks : List (Nat × String)}
    (ordered : checks.Pairwise fun earlier later => earlier.1 ≤ later.1) :
    checkAll (new config) checks =
      answers (burst config) (rate config) (new config).levels (inSeconds checks) :=
  checkAll_exact (sound_new config flows whole) (fun check _ => Nat.zero_le check.1) ordered

theorem historyOf_inSeconds (nodeId : String) (checks : List (Nat × String))
    (results : List Bool) :
    historyOf nodeId (inSeconds checks) results = inSeconds (historyOf nodeId checks results) := by
  induction checks generalizing results with
  | nil => rfl
  | cons check rest ih =>
      cases results with
      | nil => rfl
      | cons result others =>
          have tail := ih others
          by_cases own : check.2 = nodeId
          · simpa [historyOf, inSeconds, own] using tail
          · simpa [historyOf, inSeconds, own] using tail

theorem history_exact {config : RateLimitConfig (Exact approx)}
    (flows : 0 < config.maxPerSecond.toRat) (whole : 0 < config.burstSize)
    {checks : List (Nat × String)}
    (ordered : checks.Pairwise fun earlier later => earlier.1 ≤ later.1) (nodeId : String) :
    inSeconds (historyOf nodeId checks (checkAll (new config) checks)) =
      answered (burst config) (rate config) (timesOf nodeId (inSeconds checks)) := by
  have history := historyOf_answers (burst config) (rate config) nodeId (inSeconds checks)
    (show (new config).levels nodeId = levelAfter (burst config) (rate config) [] from rfl)
  rw [List.nil_append] at history
  rw [← historyOf_inSeconds, checkAll_new flows whole ordered, history, answered]

theorem getElem?_inSeconds {N : Type} {history : List (Nat × N)} {k now : Nat} {answer : N}
    (found : history[k]? = some (now, answer)) :
    (inSeconds history)[k]? = some (seconds now, answer) := by
  rw [inSeconds, List.getElem?_map, found, Option.map_some]

theorem countP_inSeconds (history : List (Nat × Bool)) (j k : Nat) :
    (((inSeconds history).take k).drop j).countP Prod.snd =
      ((history.take k).drop j).countP Prod.snd := by
  rw [inSeconds, ← List.map_take, ← List.map_drop, List.countP_map]
  rfl

def admittedIn (history : List (Nat × Bool)) (first last : Nat) : Nat :=
  history.countP fun check => check.2 && decide (first ≤ check.1 ∧ check.1 ≤ last)

theorem admittedIn_inSeconds (history : List (Nat × Bool)) (first last : Nat) :
    admittedBetween (inSeconds history) (seconds first) (seconds last) =
      admittedIn history first last := by
  rw [admittedBetween, inSeconds, List.countP_map, admittedIn]
  simp [Function.comp_def, seconds_le]

theorem timesOf_inSeconds (nodeId : String) (checks : List (Nat × String)) :
    timesOf nodeId (inSeconds checks) = (timesOf nodeId checks).map seconds := by
  induction checks with
  | nil => rfl
  | cons check rest ih =>
      by_cases own : check.2 = nodeId
      · simpa [timesOf, inSeconds, own] using ih
      · simpa [timesOf, inSeconds, own] using ih

theorem timesOf_ordered (nodeId : String) {checks : List (Nat × String)}
    (ordered : checks.Pairwise fun earlier later => earlier.1 ≤ later.1) :
    (timesOf nodeId (inSeconds checks)).Pairwise (· ≤ ·) := by
  rw [timesOf_inSeconds, List.pairwise_map, timesOf, List.pairwise_filterMap]
  apply ordered.imp
  intro earlier later before time at_ other next
  split at at_ <;> cases at_
  split at next <;> cases next
  exact seconds_le.mpr before

theorem timesOf_filter (nodeId : String) (checks : List (Nat × String)) :
    timesOf nodeId (checks.filter fun check => check.2 = nodeId) = timesOf nodeId checks := by
  induction checks with
  | nil => rfl
  | cons check rest ih =>
      by_cases own : check.2 = nodeId
      · simpa [timesOf, own] using ih
      · simpa [timesOf, own] using ih

theorem inSeconds_injective {N : Type} : Function.Injective (@inSeconds N) := by
  apply List.map_injective_iff.mpr
  rintro ⟨left, first⟩ ⟨right, second⟩ same
  obtain ⟨times, others⟩ := Prod.mk.inj same
  exact Prod.ext (seconds_injective times) others

/-- A node's k-th check is admitted exactly when every window that ends with it has room,
so that no window admits more than burst and rate allow and nothing that conforms is
dropped; dropped checks and other nodes' checks leave the answers as they are. -/
theorem admitted_exactly (config : RateLimitConfig (Exact approx))
    (flows : 0 < config.maxPerSecond.toRat) (whole : 0 < config.burstSize)
    (checks : List (Nat × String))
    (ordered : checks.Pairwise fun earlier later => earlier.1 ≤ later.1) (nodeId : String) :
    let results := checkAll (new config) checks
    let history := historyOf nodeId checks results
    (∀ k now admitted, history[k]? = some (now, admitted) →
      (admitted = true ↔ ∀ j time answer, j ≤ k → history[j]? = some (time, answer) →
        (((history.take k).drop j).countP Prod.snd : ℚ) + 1 ≤
          config.burstSize + config.maxPerSecond.toRat * (seconds now - seconds time))) ∧
    (∀ first last, first ≤ last → (admittedIn history first last : ℚ) ≤
      config.burstSize + config.maxPerSecond.toRat * (seconds last - seconds first)) ∧
    (∀ earlier dropped later, checks = earlier ++ dropped :: later →
      results[earlier.length]? = some false →
      checkAll (new config) (earlier ++ later) = results.eraseIdx earlier.length) ∧
    historyOf nodeId (checks.filter fun check => check.2 = nodeId)
      (checkAll (new config) (checks.filter fun check => check.2 = nodeId)) = history := by
  intro results history
  have exact := history_exact flows whole ordered nodeId
  change inSeconds history = _ at exact
  refine ⟨?windows, ?bounded, ?dropped, ?others⟩
  case windows =>
    intro k now admitted found
    have at_ := getElem?_inSeconds found
    rw [exact] at at_
    rw [admitted_iff (burst config) (rate config) _ at_, ← exact]
    constructor
    · intro room j time answer upTo earlier
      have window := room j (seconds time) answer upTo (getElem?_inSeconds earlier)
      rw [countP_inSeconds] at window
      exact window
    · intro room j time answer upTo earlier
      rw [inSeconds, List.getElem?_map, Option.map_eq_some_iff] at earlier
      obtain ⟨⟨nanos, same⟩, earlier, entry⟩ := earlier
      cases entry
      rw [countP_inSeconds]
      exact room j nanos same upTo earlier
  case bounded =>
    intro first last window
    have bound := admittedBetween_le (Nat.cast_nonneg config.burstSize) flows.le _
      (timesOf_ordered nodeId ordered) (seconds_le.mpr window)
    rw [← exact, admittedIn_inSeconds] at bound
    exact bound
  case dropped =>
    rintro earlier dropped later rfl refused
    have shorter : (earlier ++ later).Pairwise fun earlier later => earlier.1 ≤ later.1 := by
      have fewer := List.Sublist.append_left (List.sublist_cons_self dropped later) earlier
      exact List.Pairwise.sublist fewer ordered
    have after : ∀ check ∈ inSeconds later, seconds dropped.1 ≤ check.1 := by
      intro check member
      obtain ⟨plain, listed, rfl⟩ := List.mem_map.mp member
      have next := List.rel_of_pairwise_cons (List.pairwise_append.mp ordered).2.1 listed
      exact seconds_le.mpr next
    have run := checkAll_new flows whole ordered
    rw [inSeconds_append, inSeconds_cons] at run
    have position : (inSeconds earlier).length = earlier.length := List.length_map _
    change (checkAll (new config) (earlier ++ dropped :: later))[_]? = _ at refused
    change _ = (checkAll (new config) (earlier ++ dropped :: later)).eraseIdx _
    rw [run, ← position] at refused ⊢
    rw [checkAll_new flows whole shorter, inSeconds_append]
    exact answers_dropped flows.le _ after refused
  case others =>
    have only := ordered.filter fun check => check.2 = nodeId
    have same := history_exact flows whole only nodeId
    rw [timesOf_inSeconds, timesOf_filter, ← timesOf_inSeconds, ← exact] at same
    exact inSeconds_injective same

def onceASecond : RateLimitConfig (Exact identities) where
  maxPerSecond := Exact.ofRat 1
  burstSize := 1

theorem admitted_exactly_onceASecond :
    let checks := [(0, "a"), (0, "b"), (0, "a"), (1000000000, "a")]
    let history := historyOf "a" checks (checkAll (new onceASecond) checks)
    (admittedIn history 0 999999999 : ℚ) ≤
      onceASecond.burstSize + onceASecond.maxPerSecond.toRat *
        (seconds 999999999 - seconds 0) :=
  (admitted_exactly onceASecond one_pos (by decide) _ (by simp) "a").2.1 0 999999999
    (by decide)

end PeatSapient.DetectionLimiter
