import PeatSapient.Transport.Dlmm.Moves
import PeatSapient.Transport.Hldmm.Moves

/-! Starting the transport again after a stop. The first start in DLMM mode takes the
receiver of the outbound channel out of the transport, and nothing puts one back; the
accept loop of HLDMM mode needs nothing of the kind. -/

namespace PeatSapient

open HashMap Mpsc Execution

variable {F : Type}

namespace Dlmm

def isAvailable (state : Dlmm F) : Bool := state.started.isSome

def isStart : DlmmAction F → Bool
  | .start => true
  | _ => false

def starts (trace : Trace (Dlmm F) (DlmmAction F)) : Nat :=
  trace.countP fun entry => isStart entry.2

def startsUnavailable (_ : Trace (Dlmm F) (DlmmAction F)) (state : Dlmm F)
    (action : DlmmAction F) : Prop :=
  isStart action = true → state.isAvailable = false

structure Restarts (trace : Trace (Dlmm F) (DlmmAction F)) (state : Dlmm F) : Prop where
  taken : state.outboundRx = true ↔ starts trace = 0
  panicked : state.startPanicked = true ↔ 1 < starts trace
  unavailable : 1 < starts trace → state.isAvailable = false

structure Unstarted (state after : Dlmm F) : Prop where
  outboundRx : after.outboundRx = state.outboundRx
  startPanicked : after.startPanicked = state.startPanicked
  started : after.started = state.started ∨ after.started = none

variable [FloatOps F]

theorem unstarted_of_moves (config : DlmmConfig F) {state after : Dlmm F}
    {action : DlmmAction F} (moved : Moves config state action after)
    (other : isStart action = false) : Unstarted state after := by
  cases moved with
  | start => cases other
  | drain call here => exact ⟨rfl, rfl, .inr rfl⟩
  | receive answer here live =>
      unfold receiveInbound
      split <;> exact ⟨rfl, rfl, .inl rfl⟩
  | _ => exact ⟨rfl, rfl, .inl rfl⟩

omit [FloatOps F] in
theorem Unstarted.restarts {trace : Trace (Dlmm F) (DlmmAction F)} {state after : Dlmm F}
    {action : DlmmAction F} (kept : Unstarted state after) (held : Restarts trace state)
    (other : isStart action = false) : Restarts ((state, action) :: trace) after := by
  have same : starts ((state, action) :: trace) = starts trace := by simp [starts, other]
  constructor
  · rw [same, kept.outboundRx]
    exact held.taken
  · rw [same, kept.startPanicked]
    exact held.panicked
  · rw [same]
    intro again
    have before := held.unavailable again
    unfold isAvailable at before ⊢
    rcases kept.started with started | stopped
    · rwa [started]
    · simp [stopped]

omit [FloatOps F] in
/-- The first start takes the receiver, and every later one panics for want of it. -/
theorem start_restarts {trace : Trace (Dlmm F) (DlmmAction F)} {state : Dlmm F}
    (held : Restarts trace state) (idle : state.isAvailable = false) :
    Restarts ((state, .start) :: trace) state.start := by
  have next : starts ((state, .start) :: trace) = starts trace + 1 := by
    simp [starts, isStart]
  by_cases first : starts trace = 0
  · have present := held.taken.mpr first
    have calm : ¬ state.startPanicked = true := by
      rw [held.panicked]
      omega
    constructor <;> simp [start, present, next, first, calm]
  · have absent : ¬ state.outboundRx = true := by
      rwa [held.taken]
    constructor
    · simp [start, absent, next]
    · simp only [start, absent, next]
      simp
      omega
    · intro again
      simpa [start, absent, isAvailable] using idle

theorem restarts_run (config : DlmmConfig F) {trace : Trace (Dlmm F) (DlmmAction F)}
    {state : Dlmm F} (run : Run (machine config) trace state)
    (meets : Meets startsUnavailable trace) : Restarts trace state := by
  apply run.invariant_of_meets startsUnavailable Restarts
  · constructor <;> simp [machine, new, starts]
  · intro trace before action after earlier held allowed taken
    have moved := moves_of_step config taken
    cases starting : isStart action with
    | false => exact (unstarted_of_moves config moved starting).restarts held starting
    | true =>
        cases moved with
        | start => exact start_restarts held (allowed rfl)
        | _ => cases starting
  · exact meets

end Dlmm

/-- Starting an HLDMM again and again always succeeds. In DLMM mode a second start panics,
and the transport is never available again. -/
theorem start_succeeds_once [FloatOps F] :
    (∀ (prost : Codec.Prost (SapientMessage F)) (trace : Trace (Hldmm F) (HldmmAction F))
        (state : Hldmm F), Run (Hldmm.machine prost) trace state →
      Throughout (fun _ before action after =>
        action = .start → after.started = some before.clock) trace state) ∧
    ∀ (config : DlmmConfig F) (trace : Trace (Dlmm F) (DlmmAction F)) (state : Dlmm F),
      Run (Dlmm.machine config) trace state → Meets Dlmm.startsUnavailable trace →
        (state.startPanicked = true ↔ 1 < Dlmm.starts trace) ∧
          (1 < Dlmm.starts trace → state.isAvailable = false) := by
  constructor
  · intro prost trace state run
    induction run with
    | start => trivial
    | @next trace before after action earlier taken ih =>
        constructor
        · rintro rfl
          have moved : Hldmm.Moves prost before .start after := Hldmm.moves_of_step prost taken
          cases moved with
          | start => rfl
        · exact ih
  · intro config trace state run meets
    have held := Dlmm.restarts_run config run meets
    exact ⟨held.panicked, held.unavailable⟩

namespace Dlmm

def restarting : List (DlmmAction Float) := [.start, .stop 0, .advance 0, .start]

theorem restarting_unavailable :
    Meets startsUnavailable ((replay (machine sampleConfig) ([], new) restarting).get rfl).1 :=
  ⟨fun _ => rfl, nofun, nofun, fun _ => rfl, trivial⟩

end Dlmm

/-- A transport that was stopped panics when it is started again. -/
theorem restart_panics :
    ¬ ∀ (trace : Trace (Dlmm Float) (DlmmAction Float)) (state : Dlmm Float),
      Run (Dlmm.machine Dlmm.sampleConfig) trace state → Meets Dlmm.startsUnavailable trace →
        state.startPanicked = false := by
  intro claim
  have calm := claim _ _ (replay_reachable Dlmm.restarting rfl) Dlmm.restarting_unavailable
  cases calm

theorem start_succeeds_once_restarting :
    (∃ trace state, Run (Dlmm.machine Dlmm.sampleConfig) trace state ∧
      state.startPanicked = true ∧ state.isAvailable = false) ∧
    ∃ trace state, Run (Hldmm.machine Dlmm.sampleConfig.prost) trace state ∧
      Throughout (fun _ before action after =>
        action = .start → after.started = some before.clock) trace state := by
  constructor
  · have run : Run (Dlmm.machine Dlmm.sampleConfig) _ _ := replay_reachable Dlmm.restarting rfl
    have held := start_succeeds_once.2 _ _ _ run Dlmm.restarting_unavailable
    exact ⟨_, _, run, held.1.mpr (by decide), held.2 (by decide)⟩
  · have run : Run (Hldmm.machine Dlmm.sampleConfig.prost) _ _ :=
      replay_reachable [.start, .stop 0, .advance 0, .start] rfl
    exact ⟨_, _, run, start_succeeds_once.1 _ _ _ run⟩

end PeatSapient
