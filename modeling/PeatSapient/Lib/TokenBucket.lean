import Mathlib.Algebra.Order.Field.Basic
import Mathlib.Data.List.Induction
import Mathlib.Tactic.Linarith
import Mathlib.Tactic.Ring

/-! Token buckets over an ordered field. A bucket keeps the tokens that its last check
left and the time of that check; a bucket that has seen no check is full. The tokens
available are the minimum, over all earlier checks, of what the window from that check
on allows. -/

namespace PeatSapient.TokenBuckets

universe u
variable {K : Type u} [Field K] [LinearOrder K]

/-- The tokens left by the last check, and its time. -/
abbrev Level (K : Type u) := Option (K × K)

abbrev History (K : Type u) := List (K × Bool)

def cost (admitted : Bool) : K := if admitted then 1 else 0

/-- The tokens there are at a time no earlier than the last check. -/
def available (burst rate : K) (level : Level K) (now : K) : K :=
  match level with
  | none => burst
  | some (tokens, last) => min burst (tokens + rate * (now - last))

def spend (burst rate : K) (level : Level K) (check : K × Bool) : Level K :=
  some (available burst rate level check.1 - cost check.2, check.1)

def levelAfter (burst rate : K) (history : History K) : Level K :=
  history.foldl (spend burst rate) none

def admits (burst rate : K) (level : Level K) (now : K) : Bool :=
  decide (1 ≤ available burst rate level now)

theorem admits_iff (burst rate : K) (level : Level K) (now : K) :
    admits burst rate level now = true ↔ 1 ≤ available burst rate level now :=
  decide_eq_true_iff

theorem levelAfter_snoc (burst rate : K) (history : History K) (check : K × Bool) :
    levelAfter burst rate (history ++ [check]) =
      spend burst rate (levelAfter burst rate history) check := by
  simp [levelAfter]

def answeredFrom (burst rate : K) (history : History K) (times : List K) : History K :=
  times.foldl (fun history now =>
    history ++ [(now, admits burst rate (levelAfter burst rate history) now)]) history

def answered (burst rate : K) (times : List K) : History K :=
  answeredFrom burst rate [] times

theorem answered_snoc (burst rate : K) (times : List K) (now : K) :
    answered burst rate (times ++ [now]) = answered burst rate times ++
      [(now, admits burst rate (levelAfter burst rate (answered burst rate times)) now)] := by
  simp [answered, answeredFrom]

theorem answered_times (burst rate : K) (times : List K) :
    (answered burst rate times).map Prod.fst = times := by
  induction times using List.reverseRecOn with
  | nil => rfl
  | append_singleton times now ih => simp [answered_snoc, ih]

omit [LinearOrder K] in
theorem countP_single (check : K × Bool) :
    (([check].countP Prod.snd : Nat) : K) = cost check.2 := by
  cases check with
  | mk time admitted => cases admitted <;> simp [cost]

variable [IsStrictOrderedRing K]

/-- The running number unrolled: as much is available as every window allows that starts
with an earlier check. -/
theorem le_available_iff (burst rate : K) (history : History K) (amount now : K) :
    amount ≤ available burst rate (levelAfter burst rate history) now ↔
      amount ≤ burst ∧ ∀ j time admitted, history[j]? = some (time, admitted) →
        amount + ((history.drop j).countP Prod.snd : Nat) ≤ burst + rate * (now - time) := by
  induction history using List.reverseRecOn generalizing amount now with
  | nil => simp [levelAfter, available]
  | append_singleton history check ih =>
      obtain ⟨last, answer⟩ := check
      rw [levelAfter_snoc, spend, available, le_min_iff]
      apply and_congr_right
      intro bounded
      -- What is left after the last check bounds the amount less what has flowed in since.
      have moved : amount ≤ available burst rate (levelAfter burst rate history) last -
          cost answer + rate * (now - last) ↔
          amount + cost answer - rate * (now - last) ≤
            available burst rate (levelAfter burst rate history) last := by
        constructor <;> intro bound <;> linarith
      rw [moved, ih]
      constructor
      · rintro ⟨whole, windows⟩ j time admitted found
        by_cases older : j < history.length
        · rw [List.getElem?_append_left older] at found
          have window := windows j time admitted found
          rw [List.drop_append_of_le_length (Nat.le_of_lt older), List.countP_append,
            Nat.cast_add, countP_single]
          linarith
        · have inside := (List.getElem?_eq_some_iff.mp found).1
          rw [List.length_append, List.length_singleton] at inside
          have latest : j = history.length := by omega
          subst latest
          simp only [List.getElem?_append_right (Nat.le_refl _), Nat.sub_self,
            List.getElem?_cons_zero, Option.some.injEq, Prod.mk.injEq] at found
          obtain ⟨rfl, rfl⟩ := found
          rw [List.drop_left, countP_single]
          linarith
      · intro windows
        constructor
        · have window := windows history.length last answer (by simp)
          rw [List.drop_left, countP_single] at window
          linarith
        · intro j time admitted found
          have older := (List.getElem?_eq_some_iff.mp found).1
          have window := windows j time admitted (by rw [List.getElem?_append_left older, found])
          rw [List.drop_append_of_le_length (Nat.le_of_lt older), List.countP_append,
            Nat.cast_add, countP_single] at window
          linarith

/-- A check is admitted exactly when every window that ends with it allows one more. -/
theorem admitted_iff (burst rate : K) (times : List K) {k : Nat} {now : K} {admitted : Bool}
    (found : (answered burst rate times)[k]? = some (now, admitted)) :
    admitted = true ↔ ∀ j time answer, j ≤ k →
      (answered burst rate times)[j]? = some (time, answer) →
        ((((answered burst rate times).take k).drop j).countP Prod.snd : Nat) + 1 ≤
          burst + rate * (now - time) := by
  induction times using List.reverseRecOn with
  | nil => simp [answered, answeredFrom] at found
  | append_singleton times last ih =>
      rw [answered_snoc] at found ⊢
      generalize answered burst rate times = history at ih found ⊢
      by_cases older : k < history.length
      · rw [List.getElem?_append_left older] at found
        rw [List.take_append_of_le_length (Nat.le_of_lt older), ih found]
        constructor
        · intro windows j time answer upTo at_
          rw [List.getElem?_append_left (Nat.lt_of_le_of_lt upTo older)] at at_
          exact windows j time answer upTo at_
        · intro windows j time answer upTo at_
          refine windows j time answer upTo ?_
          rwa [List.getElem?_append_left (Nat.lt_of_le_of_lt upTo older)]
      · have inside := (List.getElem?_eq_some_iff.mp found).1
        rw [List.length_append, List.length_singleton] at inside
        have latest : k = history.length := by omega
        subst latest
        simp only [List.getElem?_append_right (Nat.le_refl _), Nat.sub_self,
          List.getElem?_cons_zero, Option.some.injEq, Prod.mk.injEq] at found
        obtain ⟨rfl, rfl⟩ := found
        rw [List.take_left, admits_iff, le_available_iff]
        constructor
        · rintro ⟨whole, windows⟩ j time answer upTo at_
          by_cases before : j < history.length
          · rw [List.getElem?_append_left before] at at_
            have window := windows j time answer at_
            linarith
          · have latest : j = history.length := by omega
            subst latest
            simp only [List.getElem?_append_right (Nat.le_refl _), Nat.sub_self,
              List.getElem?_cons_zero, Option.some.injEq, Prod.mk.injEq] at at_
            obtain ⟨rfl, _⟩ := at_
            simp only [List.drop_length, List.countP_nil, Nat.cast_zero]
            linarith
        · intro windows
          constructor
          · have window := windows history.length last _ (Nat.le_refl _) (by simp; rfl)
            simp only [List.drop_length, List.countP_nil, Nat.cast_zero] at window
            linarith
          · intro j time answer at_
            have before := (List.getElem?_eq_some_iff.mp at_).1
            have window := windows j time answer (Nat.le_of_lt before)
              (by rw [List.getElem?_append_left before]; exact at_)
            linarith

def admittedSince (history : History K) (first : K) : Nat :=
  history.countP fun check => check.2 && decide (first ≤ check.1)

def admittedBetween (history : History K) (first last : K) : Nat :=
  history.countP fun check => check.2 && decide (first ≤ check.1 ∧ check.1 ≤ last)

theorem available_since {burst rate : K} (flows : 0 ≤ rate) (history : History K)
    {amount first now : K} (window : first ≤ now)
    (past : ∀ check ∈ history, check.1 ≤ now)
    (ordered : history.Pairwise fun earlier later => earlier.1 ≤ later.1)
    (enough : amount ≤ available burst rate (levelAfter burst rate history) now) :
    amount + admittedSince history first ≤ burst + rate * (now - first) := by
  have flowed := mul_nonneg flows (sub_nonneg.mpr window)
  induction history using List.reverseRecOn generalizing amount now with
  | nil =>
      have full : amount ≤ burst := enough
      simp only [admittedSince, List.countP_nil, Nat.cast_zero]
      linarith
  | append_singleton history check ih =>
      obtain ⟨time, answer⟩ := check
      rw [levelAfter_snoc, spend, available, le_min_iff] at enough
      obtain ⟨bounded, left⟩ := enough
      obtain ⟨sorted, _, last⟩ := List.pairwise_append.mp ordered
      have beforeLast : ∀ check ∈ history, check.1 ≤ time :=
        fun check member => last check member _ (List.mem_singleton.mpr rfl)
      unfold admittedSince at ih ⊢
      rw [List.countP_append, Nat.cast_add]
      by_cases inside : first ≤ time
      · have earlier := ih inside beforeLast sorted
          (show amount + cost answer - rate * (now - time) ≤ _ by linarith)
          (mul_nonneg flows (sub_nonneg.mpr inside))
        have single : (([(time, answer)].countP fun check : K × Bool =>
            check.2 && decide (first ≤ check.1) : Nat) : K) = cost answer := by
          cases answer <;> simp [cost, inside]
        rw [single]
        linarith
      · -- Nothing at all has happened since: the last check is older.
        have none_ : ∀ check ∈ history ++ [(time, answer)], ¬ first ≤ check.1 := by
          intro check member since
          rcases List.mem_append.mp member with older | same
          · exact inside (le_trans since (beforeLast check older))
          · rw [List.mem_singleton.mp same] at since
            exact inside since
        have zero : (history ++ [(time, answer)]).countP (fun check : K × Bool =>
            check.2 && decide (first ≤ check.1)) = 0 := by
          rw [List.countP_eq_zero]
          intro check member
          simp [none_ check member]
        rw [List.countP_append] at zero
        rw [← Nat.cast_add, zero, Nat.cast_zero]
        linarith

omit [Field K] [IsStrictOrderedRing K] in
theorem admittedBetween_since (history : History K) (first last : K) :
    admittedBetween history first last ≤ admittedSince history first := by
  apply List.countP_mono_left
  intro check _ counted
  simp only [Bool.and_eq_true, decide_eq_true_eq] at counted ⊢
  exact ⟨counted.1, counted.2.1⟩

theorem admittedBetween_le {burst rate : K} (whole : 0 ≤ burst) (flows : 0 ≤ rate)
    (times : List K) (ordered : times.Pairwise (· ≤ ·)) {first last : K}
    (window : first ≤ last) :
    (admittedBetween (answered burst rate times) first last : K) ≤
      burst + rate * (last - first) := by
  induction times using List.reverseRecOn with
  | nil =>
      have flowed := mul_nonneg flows (sub_nonneg.mpr window)
      simp only [answered, answeredFrom, List.foldl_nil, admittedBetween, List.countP_nil,
        Nat.cast_zero]
      linarith
  | append_singleton times now ih =>
      obtain ⟨sorted, _, latest⟩ := List.pairwise_append.mp ordered
      have earlier := ih sorted
      rw [answered_snoc]
      by_cases counts : admits burst rate (levelAfter burst rate (answered burst rate times))
          now = true ∧ first ≤ now ∧ now ≤ last
      · obtain ⟨admitted, after, before⟩ := counts
        have times_ := answered_times burst rate times
        have past : ∀ check ∈ answered burst rate times, check.1 ≤ now := by
          intro check member
          have listed : check.1 ∈ times := by
            rw [← times_]
            exact List.mem_map_of_mem member
          exact latest check.1 listed now (List.mem_singleton.mpr rfl)
        have chronological : (answered burst rate times).Pairwise
            fun earlier later => earlier.1 ≤ later.1 := by
          rw [← times_] at sorted
          exact List.pairwise_map.mp sorted
        have since := available_since flows _ after past chronological
          ((admits_iff burst rate _ now).mp admitted)
        have atMost : (admittedBetween (answered burst rate times) first last : K) ≤
            admittedSince (answered burst rate times) first :=
          Nat.cast_le.mpr (admittedBetween_since _ first last)
        have shorter : rate * (now - first) ≤ rate * (last - first) :=
          mul_le_mul_of_nonneg_left (by linarith) flows
        have counted : admittedBetween (answered burst rate times ++ [(now,
            admits burst rate (levelAfter burst rate (answered burst rate times)) now)])
              first last = admittedBetween (answered burst rate times) first last + 1 := by
          simp [admittedBetween, List.countP_append, admitted, after, before]
        rw [counted, Nat.cast_add, Nat.cast_one]
        linarith
      · have uncounted : admittedBetween (answered burst rate times ++ [(now,
            admits burst rate (levelAfter burst rate (answered burst rate times)) now)])
              first last = admittedBetween (answered burst rate times) first last := by
          unfold admittedBetween
          rw [List.countP_append, Nat.add_eq_left, List.countP_eq_zero]
          intro check member hit
          rw [List.mem_singleton.mp member] at hit
          simp only [Bool.and_eq_true, decide_eq_true_eq] at hit
          exact counts hit
        rw [uncounted]
        exact earlier

/-- A check that was dropped leaves as much available as there was without it. -/
theorem available_dropped {burst rate : K} (flows : 0 ≤ rate) (level : Level K)
    {time now : K} (later : time ≤ now) :
    available burst rate (spend burst rate level (time, false)) now =
      available burst rate level now := by
  have flowed := mul_nonneg flows (sub_nonneg.mpr later)
  cases level with
  | none =>
      simp only [spend, available, cost]
      exact min_eq_left (by simpa using flowed)
  | some left =>
      obtain ⟨tokens, last⟩ := left
      simp only [spend, available, cost, Bool.false_eq_true, if_false, sub_zero]
      have capped : burst ≤ burst + rate * (now - time) := by linarith
      rw [← min_add_add_right, ← min_assoc, min_eq_left capped]
      congr 1
      ring

section Keyed
variable {N T : Type u} [DecidableEq N]

omit [IsStrictOrderedRing K] in
def answers (burst rate : K) : (N → Level K) → List (K × N) → List Bool
  | _, [] => []
  | levels, (now, key) :: rest =>
      admits burst rate (levels key) now ::
        answers burst rate (Function.update levels key (spend burst rate (levels key)
          (now, admits burst rate (levels key) now))) rest

def historyOf (key : N) (checks : List (T × N)) (results : List Bool) : List (T × Bool) :=
  (checks.zip results).filterMap fun entry =>
    if entry.1.2 = key then some (entry.1.1, entry.2) else none

def timesOf (key : N) (checks : List (T × N)) : List T :=
  checks.filterMap fun check => if check.2 = key then some check.1 else none

omit [IsStrictOrderedRing K] in
/-- A bucket answers its own checks whatever the other buckets are asked in between. -/
theorem historyOf_answers (burst rate : K) (key : N) (checks : List (K × N))
    {levels : N → Level K} {history : History K}
    (level : levels key = levelAfter burst rate history) :
    history ++ historyOf key checks (answers burst rate levels checks) =
      answeredFrom burst rate history (timesOf key checks) := by
  induction checks generalizing levels history with
  | nil => simp [historyOf, answeredFrom, timesOf]
  | cons check rest ih =>
      obtain ⟨now, asked⟩ := check
      by_cases own : asked = key
      · subst own
        have next : Function.update levels asked (spend burst rate (levels asked)
            (now, admits burst rate (levels asked) now)) asked =
            levelAfter burst rate (history ++ [(now, admits burst rate (levels asked) now)]) := by
          rw [Function.update_self, levelAfter_snoc, level]
        have followed := ih next
        rw [List.append_assoc] at followed
        simpa [historyOf, timesOf, answers, answeredFrom, level] using followed
      · have next : Function.update levels asked (spend burst rate (levels asked)
            (now, admits burst rate (levels asked) now)) key = levelAfter burst rate history := by
          rw [Function.update_of_ne (Ne.symm own), level]
        have followed := ih next
        simpa [historyOf, timesOf, answers, own] using followed

/-- Levels that no check from a time on can tell apart. -/
def Alike (burst rate : K) (time : K) (left right : N → Level K) : Prop :=
  ∀ key now, time ≤ now →
    available burst rate (left key) now = available burst rate (right key) now

omit [IsStrictOrderedRing K] in
theorem answers_alike {burst rate time : K} {checks : List (K × N)}
    {left right : N → Level K} (alike : Alike burst rate time left right)
    (later : ∀ check ∈ checks, time ≤ check.1) :
    answers burst rate left checks = answers burst rate right checks := by
  induction checks generalizing left right with
  | nil => rfl
  | cons check rest ih =>
      obtain ⟨now, key⟩ := check
      have same := alike key now (later _ List.mem_cons_self)
      have answer : admits burst rate (left key) now = admits burst rate (right key) now := by
        rw [admits, admits, same]
      rw [answers, answers, answer]
      congr 1
      apply ih
      · intro other at_ after
        by_cases own : other = key
        · subst own
          rw [Function.update_self, Function.update_self, spend, spend, same]
        · rw [Function.update_of_ne own, Function.update_of_ne own]
          exact alike other at_ after
      · exact fun check member => later check (List.mem_cons_of_mem _ member)

theorem answers_dropped {burst rate : K} (flows : 0 ≤ rate) (earlier : List (K × N))
    {dropped : K × N} {later : List (K × N)} (after : ∀ check ∈ later, dropped.1 ≤ check.1)
    {levels : N → Level K}
    (refused : (answers burst rate levels (earlier ++ dropped :: later))[earlier.length]? =
      some false) :
    answers burst rate levels (earlier ++ later) =
      (answers burst rate levels (earlier ++ dropped :: later)).eraseIdx earlier.length := by
  induction earlier generalizing levels with
  | nil =>
      obtain ⟨time, key⟩ := dropped
      have refused : admits burst rate (levels key) time = false := by
        simpa [answers] using refused
      simp only [List.nil_append, answers, List.length_nil, List.eraseIdx_cons_zero, refused]
      have alike : Alike burst rate time levels
          (Function.update levels key (spend burst rate (levels key) (time, false))) := by
        intro other now since
        by_cases own : other = key
        · subst own
          rw [Function.update_self, available_dropped flows _ since]
        · rw [Function.update_of_ne own]
      exact answers_alike alike after
  | cons check rest ih =>
      obtain ⟨now, key⟩ := check
      simp only [List.cons_append, answers, List.length_cons, List.getElem?_cons_succ,
        List.eraseIdx_cons_succ] at refused ⊢
      rw [ih refused]

end Keyed

end PeatSapient.TokenBuckets
