import Mathlib.Algebra.Group.Nat.Defs
import PeatSapient.Error
import PeatSapient.Lib.Execution

/-! connection.rs: one attempt to connect, plain or over TLS, and the loop that
retries it. What the socket and the TLS library answer comes with each attempt.
A step of the loop is what it does from one await point to the next. -/

namespace PeatSapient

open Execution

/-- `std::time::Duration` as a nanosecond count: its seconds fit in 64 bits. -/
structure Duration where
  nanos : Nat
  bounded : nanos < 2 ^ 64 * 1000000000
  deriving DecidableEq

namespace Duration

def limit : Nat := 2 ^ 64 * 1000000000

def fromSecs (seconds : Fin (2 ^ 64)) : Duration where
  nanos := seconds.val * 1000000000
  bounded := by have := seconds.isLt; omega

/-- `duration * 2`, which panics where the product does not fit. -/
def double (duration : Duration) : Option Duration :=
  if fits : duration.nanos * 2 < limit then some ⟨duration.nanos * 2, fits⟩ else none

def min (left right : Duration) : Duration :=
  if right.nanos < left.nanos then right else left

theorem double_eq_none {duration : Duration} :
    duration.double = none ↔ limit ≤ duration.nanos * 2 := by
  simp [double]

theorem nanos_of_double {duration doubled : Duration} (fits : duration.double = some doubled) :
    doubled.nanos = duration.nanos * 2 := by
  simp only [double] at fits
  split at fits
  · cases fits
    rfl
  · cases fits

theorem min_nanos (left right : Duration) :
    (left.min right).nanos = Nat.min left.nanos right.nanos := by
  simp only [min]
  split
  · next less => exact (Nat.min_eq_right (by omega)).symm
  · next more => exact (Nat.min_eq_left (by omega)).symm

end Duration

structure ReconnectConfig where
  initialDelay : Duration
  maxDelay : Duration

def ReconnectConfig.default : ReconnectConfig where
  initialDelay := .fromSecs 1
  maxDelay := .fromSecs 30

def connect (stream : Except String Unit) : Except SapientError Unit :=
  stream.mapError .connectionFailed

/-- The part that `connect_tls` reads. A config of the server side has no client part. -/
structure SapientTlsConfig (ClientConfig : Type) where
  clientConfig : Option ClientConfig

variable {ClientConfig : Type}

def SapientTlsConfig.clientConnector (tls : SapientTlsConfig ClientConfig) :
    Option ClientConfig := tls.clientConfig

structure TlsAnswer where
  stream : Except String Unit
  handshake : Except String Unit

def connectTls (parseServerName : String → Except String Unit)
    (tls : SapientTlsConfig ClientConfig) (serverName : String) (answer : TlsAnswer) :
    Except SapientError Unit :=
  match tls.clientConnector with
  | none => .error (.connectionFailed "TLS config has no client config")
  | some _ =>
  match parseServerName serverName with
  | .error detail => .error (.connectionFailed ("invalid server name: " ++ detail))
  | .ok _ =>
  match answer.stream with
  | .error detail => .error (.connectionFailed detail)
  | .ok _ =>
  match answer.handshake with
  | .error detail => .error (.connectionFailed ("TLS handshake: " ++ detail))
  | .ok _ => .ok ()

inductive RetryStage where
  | connecting
  | sleeping
  | connected
  | panicked
  deriving DecidableEq

/-- The loop's `delay`, and each failure so far with the delay that was slept after it. -/
structure Retry where
  delay : Duration
  slept : List (SapientError × Duration)
  stage : RetryStage

inductive RetryAction (Answer : Type) where
  | attempt (answer : Answer)
  | wake

namespace Retry

variable {Answer : Type}

def step (attempt : Answer → Except SapientError Unit) (config : ReconnectConfig)
    (state : Retry) : RetryAction Answer → Option Retry
  | .attempt answer =>
      match state.stage with
      | .connecting =>
          match attempt answer with
          | .ok _ => some { state with stage := .connected }
          | .error failure =>
              some { state with
                slept := state.slept ++ [(failure, state.delay)]
                stage := .sleeping }
      | _ => none
  | .wake =>
      match state.stage with
      | .sleeping =>
          match state.delay.double with
          | none => some { state with stage := .panicked }
          | some doubled =>
              some { state with
                delay := doubled.min config.maxDelay
                stage := .connecting }
      | _ => none

def machine (attempt : Answer → Except SapientError Unit) (config : ReconnectConfig) :
    Machine Retry (RetryAction Answer) where
  init := ⟨config.initialDelay, [], .connecting⟩
  step := step attempt config

inductive Moves (attempt : Answer → Except SapientError Unit) (config : ReconnectConfig)
    (state : Retry) : RetryAction Answer → Retry → Prop where
  | connected (answer : Answer) (here : state.stage = .connecting)
      (accepted : attempt answer = .ok ()) :
      Moves attempt config state (.attempt answer) { state with stage := .connected }
  | failed (answer : Answer) (failure : SapientError) (here : state.stage = .connecting)
      (refused : attempt answer = .error failure) :
      Moves attempt config state (.attempt answer)
        { state with
          slept := state.slept ++ [(failure, state.delay)]
          stage := .sleeping }
  | overflow (here : state.stage = .sleeping) (large : state.delay.double = none) :
      Moves attempt config state .wake { state with stage := .panicked }
  | doubled (twice : Duration) (here : state.stage = .sleeping)
      (fits : state.delay.double = some twice) :
      Moves attempt config state .wake
        { state with
          delay := twice.min config.maxDelay
          stage := .connecting }

theorem moves_of_step {attempt : Answer → Except SapientError Unit} {config : ReconnectConfig}
    {state after : Retry} {action : RetryAction Answer}
    (taken : step attempt config state action = some after) :
    Moves attempt config state action after := by
  cases action with
  | attempt answer =>
      simp only [step] at taken
      split at taken
      · next here =>
          split at taken
          · next accepted =>
              cases taken
              exact .connected answer here accepted
          · next failure refused =>
              cases taken
              exact .failed answer failure here refused
      · cases taken
  | wake =>
      simp only [step] at taken
      split at taken
      · next here =>
          split at taken
          · next large =>
              cases taken
              exact .overflow here large
          · next twice fits =>
              cases taken
              exact .doubled twice here fits
      · cases taken

theorem step_failed {attempt : Answer → Except SapientError Unit} {config : ReconnectConfig}
    {state : Retry} {answer : Answer} {failure : SapientError}
    (here : state.stage = .connecting) (refused : attempt answer = .error failure) :
    (machine attempt config).step state (.attempt answer) =
      some { state with
        slept := state.slept ++ [(failure, state.delay)]
        stage := .sleeping } := by
  simp [machine, step, here, refused]

theorem step_overflow {attempt : Answer → Except SapientError Unit} {config : ReconnectConfig}
    {state : Retry} (here : state.stage = .sleeping) (large : state.delay.double = none) :
    (machine attempt config).step state .wake = some { state with stage := .panicked } := by
  simp [machine, step, here, large]

theorem step_doubled {attempt : Answer → Except SapientError Unit} {config : ReconnectConfig}
    {state : Retry} {twice : Duration} (here : state.stage = .sleeping)
    (fits : state.delay.double = some twice) :
    (machine attempt config).step state .wake =
      some { state with
        delay := twice.min config.maxDelay
        stage := .connecting } := by
  simp [machine, step, here, fits]

end Retry

def connectWithRetry (config : ReconnectConfig) :
    Machine Retry (RetryAction (Except String Unit)) :=
  Retry.machine connect config

def connectTlsWithRetry (parseServerName : String → Except String Unit)
    (tls : SapientTlsConfig ClientConfig) (serverName : String) (config : ReconnectConfig) :
    Machine Retry (RetryAction TlsAnswer) :=
  Retry.machine (connectTls parseServerName tls serverName) config

end PeatSapient
