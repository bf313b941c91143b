import Mathlib.Data.List.Pairwise
import PeatSapient.Connection

/-! The delays of the retry loop against the law of capped doubling. The cap is
applied to the doubled delay only, and the doubling comes before the cap. -/

namespace PeatSapient

open Execution

namespace ReconnectConfig

def backoff (config : ReconnectConfig) (k : Nat) : Nat :=
  Nat.min (config.initialDelay.nanos * 2 ^ k) config.maxDelay.nanos

/-- Where the loop follows the law: the first delay is within the cap, and twice
the cap is still a duration unless there is nothing to double. -/
def Bounded (config : ReconnectConfig) : Prop :=
  config.initialDelay.nanos ≤ config.maxDelay.nanos ∧
    (config.initialDelay.nanos = 0 ∨ config.maxDelay.nanos * 2 < Duration.limit)

instance (config : ReconnectConfig) : Decidable config.Bounded :=
  inferInstanceAs (Decidable (_ ∧ _))

theorem backoff_zero {config : ReconnectConfig}
    (capped : config.initialDelay.nanos ≤ config.maxDelay.nanos) :
    config.backoff 0 = config.initialDelay.nanos := by
  simpa [backoff] using Nat.min_eq_left capped

theorem backoff_le (config : ReconnectConfig) (k : Nat) :
    config.backoff k ≤ config.maxDelay.nanos := Nat.min_le_right _ _

theorem backoff_succ (config : ReconnectConfig) (k : Nat) :
    config.backoff (k + 1) = Nat.min (config.backoff k * 2) config.maxDelay.nanos := by
  have twice : config.initialDelay.nanos * 2 ^ (k + 1) =
      config.initialDelay.nanos * 2 ^ k * 2 := by rw [Nat.pow_succ, Nat.mul_assoc]
  simp only [backoff, twice, Nat.min_def]
  split <;> split <;> (try split) <;> omega

theorem backoff_mono (config : ReconnectConfig) {earlier later : Nat} (order : earlier ≤ later) :
    config.backoff earlier ≤ config.backoff later := by
  have powers : 2 ^ earlier ≤ 2 ^ later := Nat.pow_le_pow_right (by omega) order
  have products := Nat.mul_le_mul_left config.initialDelay.nanos powers
  simp only [backoff, Nat.min_def]
  split <;> split <;> omega

theorem Bounded.fits {config : ReconnectConfig} (bounded : config.Bounded) (k : Nat) :
    config.backoff k * 2 < Duration.limit := by
  have capped := config.backoff_le k
  rcases bounded.2 with zero | fits
  · have nothing : config.backoff k = 0 := by simp [backoff, zero]
    simp [nothing, Duration.limit]
  · omega

theorem backoff_reaches {config : ReconnectConfig} (positive : 0 < config.initialDelay.nanos) :
    config.backoff config.maxDelay.nanos = config.maxDelay.nanos := by
  have power : config.maxDelay.nanos < 2 ^ config.maxDelay.nanos := Nat.lt_two_pow_self
  have product := Nat.mul_le_mul positive (Nat.le_refl (2 ^ config.maxDelay.nanos))
  exact Nat.min_eq_right (by omega)

end ReconnectConfig

namespace Retry

structure FollowsLaw (config : ReconnectConfig) (state : Retry) : Prop where
  kth : ∀ k failure delay, state.slept[k]? = some (failure, delay) →
    delay.nanos = config.backoff k
  capped : ∀ entry ∈ state.slept, entry.2.nanos ≤ config.maxDelay.nanos
  ordered : state.slept.Pairwise fun earlier later => earlier.2.nanos ≤ later.2.nanos
  noOverflow : state.stage ≠ .panicked

/-- The delay in hand is the one the law has for the next failure, or for the last
one while it is slept. -/
structure OnLaw (config : ReconnectConfig) (state : Retry) : Prop where
  kth : ∀ k failure delay, state.slept[k]? = some (failure, delay) →
    delay.nanos = config.backoff k
  connecting : state.stage = .connecting →
    state.delay.nanos = config.backoff state.slept.length
  sleeping : state.stage = .sleeping →
    ∃ k, state.slept.length = k + 1 ∧ state.delay.nanos = config.backoff k
  noOverflow : state.stage ≠ .panicked

section Loop

variable {Answer : Type} {attempt : Answer → Except SapientError Unit}
  {config : ReconnectConfig}

theorem OnLaw.moves {state after : Retry} {action : RetryAction Answer}
    (law : OnLaw config state) (bounded : config.Bounded)
    (moves : Moves attempt config state action after) : OnLaw config after := by
  cases moves with
  | connected answer here accepted =>
      constructor
      · exact law.kth
      · simp
      · simp
      · simp
  | failed answer failure here refused =>
      constructor
      · intro k found delay present
        rcases Nat.lt_trichotomy k state.slept.length with before | last | beyond
        · rw [List.getElem?_append_left before] at present
          exact law.kth k found delay present
        · subst last
          have same : (failure, state.delay) = (found, delay) := by simpa using present
          cases same
          exact law.connecting here
        · rw [List.getElem?_eq_none (by simp; omega)] at present
          cases present
      · simp
      · intro sleeping
        exact ⟨state.slept.length, by simp, law.connecting here⟩
      · simp
  | overflow here large =>
      obtain ⟨k, counted, current⟩ := law.sleeping here
      have fits := bounded.fits k
      have exceeds := Duration.double_eq_none.mp large
      omega
  | doubled twice here fits =>
      obtain ⟨k, counted, current⟩ := law.sleeping here
      constructor
      · exact law.kth
      · intro connecting
        rw [Duration.min_nanos, Duration.nanos_of_double fits, current, counted,
          config.backoff_succ k]
      · simp
      · simp

theorem onLaw_of_run (bounded : config.Bounded)
    {trace : Trace Retry (RetryAction Answer)} {state : Retry}
    (run : Run (machine attempt config) trace state) : OnLaw config state := by
  apply run.invariant (fun _ state => OnLaw config state)
  · constructor
    · simp [machine]
    · intro connecting
      exact (ReconnectConfig.backoff_zero bounded.1).symm
    · simp [machine]
    · simp [machine]
  · intro trace before action after earlier law taken
    exact law.moves bounded (moves_of_step taken)

theorem OnLaw.followsLaw {state : Retry} (law : OnLaw config state) :
    FollowsLaw config state := by
  constructor
  · exact law.kth
  · rintro ⟨failure, delay⟩ member
    obtain ⟨k, present⟩ := List.mem_iff_getElem?.mp member
    have current := law.kth k failure delay present
    have capped := config.backoff_le k
    show delay.nanos ≤ config.maxDelay.nanos
    omega
  · rw [List.pairwise_iff_getElem]
    intro earlier later first second order
    have before := law.kth earlier _ _ (List.getElem?_eq_getElem first)
    have behind := law.kth later _ _ (List.getElem?_eq_getElem second)
    have grows := config.backoff_mono (Nat.le_of_lt order)
    exact Nat.le_trans (Nat.le_of_eq before) (Nat.le_trans grows (Nat.le_of_eq behind.symm))
  · exact law.noOverflow

theorem run_failed {answer : Answer} {failure : SapientError}
    (refused : attempt answer = .error failure)
    {trace : Trace Retry (RetryAction Answer)} {state : Retry}
    (run : Run (machine attempt config) trace state) (here : state.stage = .connecting) :
    ∃ later after, Run (machine attempt config) later after ∧ after.stage = .sleeping ∧
      after.delay = state.delay ∧
      after.slept = state.slept ++ [(failure, state.delay)] := by
  have taken : (machine attempt config).step state (.attempt answer) = some _ :=
    step_failed here refused
  exact ⟨_, _, run.next taken, rfl, rfl, rfl⟩

/-- Where every run keeps the promises, one more failure doubles the delay under the cap. -/
theorem run_retried {answer : Answer} {failure : SapientError}
    (refused : attempt answer = .error failure)
    (lawful : ∀ trace state, Run (machine attempt config) trace state →
      FollowsLaw config state)
    {trace : Trace Retry (RetryAction Answer)} {state : Retry}
    (run : Run (machine attempt config) trace state) (here : state.stage = .connecting) :
    state.delay.nanos * 2 < Duration.limit ∧
      ∃ later after, Run (machine attempt config) later after ∧ after.stage = .connecting ∧
        after.delay.nanos = Nat.min (state.delay.nanos * 2) config.maxDelay.nanos := by
  obtain ⟨later, asleep, failed, sleeping, kept, _⟩ := run_failed refused run here
  rw [← kept]
  cases large : asleep.delay.double with
  | none =>
      have overflow : (machine attempt config).step asleep .wake = some _ :=
        step_overflow sleeping large
      exact absurd rfl (lawful _ _ (failed.next overflow)).noOverflow
  | some twice =>
      have doubled : (machine attempt config).step asleep .wake = some _ :=
        step_doubled sleeping large
      have product := Duration.nanos_of_double large
      constructor
      · rw [← product]
        exact twice.bounded
      · refine ⟨_, _, failed.next doubled, rfl, ?_⟩
        rw [Duration.min_nanos, product]

theorem reaches_backoff {answer : Answer} {failure : SapientError}
    (refused : attempt answer = .error failure)
    (lawful : ∀ trace state, Run (machine attempt config) trace state →
      FollowsLaw config state)
    (capped : config.initialDelay.nanos ≤ config.maxDelay.nanos) (k : Nat) :
    ∃ trace state, Run (machine attempt config) trace state ∧ state.stage = .connecting ∧
      state.delay.nanos = config.backoff k := by
  induction k with
  | zero =>
      exact ⟨[], _, Run.start, rfl, (ReconnectConfig.backoff_zero capped).symm⟩
  | succ k ih =>
      obtain ⟨trace, state, run, here, current⟩ := ih
      obtain ⟨_, later, after, reached, connecting, doubled⟩ :=
        run_retried refused lawful run here
      refine ⟨later, after, reached, connecting, ?_⟩
      rw [doubled, current, config.backoff_succ k]

theorem initial_le_of_lawful {answer : Answer} {failure : SapientError}
    (refused : attempt answer = .error failure)
    (lawful : ∀ trace state, Run (machine attempt config) trace state →
      FollowsLaw config state) :
    config.initialDelay.nanos ≤ config.maxDelay.nanos := by
  have begun : Run (machine attempt config) [] (machine attempt config).init := Run.start
  obtain ⟨later, asleep, failed, _, _, slept⟩ := run_failed refused begun rfl
  exact (lawful _ _ failed).capped (failure, config.initialDelay) (by simp [slept, machine])

theorem bounded_of_lawful {answer : Answer} {failure : SapientError}
    (refused : attempt answer = .error failure)
    (lawful : ∀ trace state, Run (machine attempt config) trace state →
      FollowsLaw config state) : config.Bounded := by
  have capped := initial_le_of_lawful refused lawful
  constructor
  · exact capped
  · by_cases zero : config.initialDelay.nanos = 0
    · exact .inl zero
    · right
      -- By then the cap is the delay in hand, and the next failure doubles it.
      obtain ⟨trace, state, run, here, current⟩ :=
        reaches_backoff refused lawful capped config.maxDelay.nanos
      have fits := (run_retried refused lawful run here).1
      rwa [current, ReconnectConfig.backoff_reaches (by omega)] at fits

theorem lawful_iff {answer : Answer} {failure : SapientError}
    (refused : attempt answer = .error failure) :
    (∀ trace state, Run (machine attempt config) trace state → FollowsLaw config state) ↔
      config.Bounded := by
  constructor
  · exact bounded_of_lawful refused
  · intro bounded trace state run
    exact (onLaw_of_run bounded run).followsLaw

end Loop

end Retry

/-- A socket that is not there fails the attempt, whatever the TLS part holds. -/
theorem connectTls_refused {ClientConfig : Type} (parseServerName : String → Except String Unit)
    (tls : SapientTlsConfig ClientConfig) (serverName : String) (handshake : Except String Unit) :
    ∃ failure, connectTls parseServerName tls serverName ⟨.error "refused", handshake⟩ =
      .error failure := by
  simp only [connectTls]
  split
  · exact ⟨_, rfl⟩
  · split <;> exact ⟨_, rfl⟩

/-- Both loops follow the backoff law in all of their runs exactly where the first
delay is within the cap and the cap can still be doubled. -/
theorem backoff_followed_iff (config : ReconnectConfig) :
    ((∀ trace state, Run (connectWithRetry config) trace state →
        Retry.FollowsLaw config state) ↔ config.Bounded) ∧
    ∀ (ClientConfig : Type) (parseServerName : String → Except String Unit)
      (tls : SapientTlsConfig ClientConfig) (serverName : String),
      (∀ trace state, Run (connectTlsWithRetry parseServerName tls serverName config)
          trace state → Retry.FollowsLaw config state) ↔ config.Bounded := by
  constructor
  · have refused : connect (.error "refused") = .error (.connectionFailed "refused") := rfl
    exact Retry.lawful_iff refused
  · intro ClientConfig parseServerName tls serverName
    obtain ⟨failure, refused⟩ := connectTls_refused parseServerName tls serverName (.ok ())
    exact Retry.lawful_iff refused

/-- A first delay of a minute under a cap of thirty seconds is slept in full. -/
theorem first_delay_above_cap :
    ∃ config trace state, Run (connectWithRetry config) trace state ∧
      config.maxDelay = .fromSecs 30 ∧
      state.slept = [(.connectionFailed "refused", .fromSecs 60)] ∧
      ¬ Retry.FollowsLaw config state := by
  have refused : connect (.error "refused") = .error (.connectionFailed "refused") := rfl
  have begun : Run (Retry.machine connect ⟨.fromSecs 60, .fromSecs 30⟩) []
      ⟨.fromSecs 60, [], .connecting⟩ := Run.start
  obtain ⟨later, asleep, failed, _, _, slept⟩ := Retry.run_failed refused begun rfl
  refine ⟨⟨.fromSecs 60, .fromSecs 30⟩, later, asleep, failed, rfl, slept, ?_⟩
  intro law
  have capped := law.capped (.connectionFailed "refused", .fromSecs 60) (by simp [slept])
  exact absurd capped (by decide)

example : ReconnectConfig.default.Bounded := by decide

end PeatSapient
