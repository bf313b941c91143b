import Mathlib.Order.Basic

/-! Partial machines and their runs. A machine answers `none` when an action is
not enabled. A run carries its trace, newest step first, so an invariant may
speak about the history as well as about the state. Conditions on the steps of
a run are stated on the same trace. -/

namespace PeatSapient.Execution

universe u v
variable {State : Type u} {Action : Type v}

structure Machine (State : Type u) (Action : Type v) where
  init : State
  step : State → Action → Option State

/-- Each step as the state it was taken in and its action, newest first. -/
abbrev Trace (State : Type u) (Action : Type v) := List (State × Action)

inductive Run (machine : Machine State Action) : Trace State Action → State → Prop where
  | start : Run machine [] machine.init
  | next {trace : Trace State Action} {before after : State} {action : Action}
      (earlier : Run machine trace before)
      (taken : machine.step before action = some after) :
      Run machine ((before, action) :: trace) after

def Reachable (machine : Machine State Action) (state : State) : Prop :=
  ∃ trace, Run machine trace state

theorem Reachable.start (machine : Machine State Action) : Reachable machine machine.init :=
  ⟨[], Run.start⟩

theorem Reachable.next {machine : Machine State Action} {before after : State}
    {action : Action} (reached : Reachable machine before)
    (taken : machine.step before action = some after) : Reachable machine after := by
  obtain ⟨trace, run⟩ := reached
  exact ⟨_, run.next taken⟩

theorem Run.invariant {machine : Machine State Action}
    (inv : Trace State Action → State → Prop) (base : inv [] machine.init)
    (preserved : ∀ trace before action after, Run machine trace before →
      inv trace before → machine.step before action = some after →
      inv ((before, action) :: trace) after)
    {trace : Trace State Action} {state : State} (run : Run machine trace state) :
    inv trace state := by
  induction run with
  | start => exact base
  | next earlier taken ih => exact preserved _ _ _ _ earlier ih taken

theorem Reachable.invariant {machine : Machine State Action} (inv : State → Prop)
    (base : inv machine.init)
    (preserved : ∀ before action after, Reachable machine before → inv before →
      machine.step before action = some after → inv after)
    {state : State} (reached : Reachable machine state) : inv state := by
  obtain ⟨trace, run⟩ := reached
  exact run.invariant (fun _ state => inv state) base
    (fun trace before action after earlier held taken =>
      preserved before action after ⟨trace, earlier⟩ held taken)

def visited (trace : Trace State Action) (state : State) : List State :=
  state :: trace.map Prod.fst

theorem visited_cons (trace : Trace State Action) (before after : State) (action : Action) :
    visited ((before, action) :: trace) after = after :: visited trace before := rfl

/-- Every step of the trace meets a condition on its own history. -/
def Meets (allowed : Trace State Action → State → Action → Prop) :
    Trace State Action → Prop
  | [] => True
  | (state, action) :: earlier => allowed earlier state action ∧ Meets allowed earlier

instance decidableMeets (allowed : Trace State Action → State → Action → Prop)
    [∀ earlier state action, Decidable (allowed earlier state action)] :
    (trace : Trace State Action) → Decidable (Meets allowed trace)
  | [] => isTrue trivial
  | (state, action) :: earlier =>
      @instDecidableAnd (allowed earlier state action) (Meets allowed earlier) _
        (decidableMeets allowed earlier)

theorem Run.invariant_of_meets {machine : Machine State Action}
    (allowed : Trace State Action → State → Action → Prop)
    (inv : Trace State Action → State → Prop) (base : inv [] machine.init)
    (preserved : ∀ trace before action after, Run machine trace before →
      inv trace before → allowed trace before action →
      machine.step before action = some after → inv ((before, action) :: trace) after)
    {trace : Trace State Action} {state : State} (run : Run machine trace state)
    (meets : Meets allowed trace) : inv trace state := by
  induction run with
  | start => exact base
  | next earlier taken ih =>
      exact preserved _ _ _ _ earlier (ih meets.2) meets.1 taken

def Throughout (property : Trace State Action → State → Action → State → Prop) :
    Trace State Action → State → Prop
  | [], _ => True
  | (before, action) :: earlier, after =>
      property earlier before action after ∧ Throughout property earlier before

theorem Run.of_visited {machine : Machine State Action}
    (allowed : Trace State Action → State → Action → Prop) {trace : Trace State Action}
    {state : State} (run : Run machine trace state) (meets : Meets allowed trace)
    {earlier : State} (member : earlier ∈ visited trace state) :
    ∃ part, Run machine part earlier ∧ Meets allowed part := by
  induction run with
  | start =>
      rw [List.mem_singleton.mp member]
      exact ⟨[], Run.start, trivial⟩
  | @next trace before after action run taken ih =>
      rcases List.mem_cons.mp member with rfl | member
      · exact ⟨_, run.next taken, meets⟩
      · exact ih meets.2 member

theorem Run.throughout_iff {machine : Machine State Action}
    (property : Trace State Action → State → Action → State → Prop)
    (allowed : Trace State Action → State → Action → Prop)
    (same : ∀ trace before action after, Run machine trace before →
      machine.step before action = some after →
        (property trace before action after ↔ allowed trace before action))
    {trace : Trace State Action} {state : State} (run : Run machine trace state) :
    Throughout property trace state ↔ Meets allowed trace := by
  induction run with
  | start => exact Iff.rfl
  | next earlier taken ih => exact and_congr (same _ _ _ _ earlier taken) ih

section Projection

universe w x
variable {View : Type w} {Shown : Type x}

/-- A trace as it is seen from a part of the state: of some steps nothing is seen. -/
def projected (view : State → View) (seen : State → Action → Option Shown)
    (trace : Trace State Action) : Trace View Shown :=
  trace.filterMap fun entry => (seen entry.1 entry.2).map fun shown => (view entry.1, shown)

theorem mem_projected_cons {view : State → View} {seen : State → Action → Option Shown}
    {trace : Trace State Action} {shown : View × Shown} {entry : State × Action}
    (member : shown ∈ projected view seen trace) :
    shown ∈ projected view seen (entry :: trace) := by
  obtain ⟨older, among, same⟩ := List.mem_filterMap.mp member
  exact List.mem_filterMap.mpr ⟨older, List.mem_cons_of_mem _ among, same⟩

def Shows (target : Machine View Shown) (view : State → View) (before after : State) :
    Option Shown → Prop
  | none => view after = view before
  | some shown => target.step (view before) shown = some (view after)

/-- A run projects to a run of a machine that shows each of its steps. -/
theorem Run.project {machine : Machine State Action} {target : Machine View Shown}
    (view : State → View) (seen : State → Action → Option Shown)
    (start : view machine.init = target.init)
    (simulates : ∀ before action after, machine.step before action = some after →
      Shows target view before after (seen before action))
    {trace : Trace State Action} {state : State} (run : Run machine trace state) :
    Run target (projected view seen trace) (view state) := by
  induction run with
  | start =>
      rw [start]
      exact Run.start
  | @next trace before after action earlier taken ih =>
      have shown := simulates before action after taken
      cases given : seen before action with
      | none =>
          rw [given] at shown
          rw [shown]
          simpa [projected, given] using ih
      | some action =>
          rw [given] at shown
          simpa [projected, given] using ih.next shown

end Projection

section History

universe y z
variable {Event : Type y} {Told : Type z}

def history (of : State × Action → List Event) : Trace State Action → List Event
  | [] => []
  | entry :: earlier => history of earlier ++ of entry

theorem history_cons (of : State × Action → List Event) (entry : State × Action)
    (trace : Trace State Action) :
    history of (entry :: trace) = history of trace ++ of entry := rfl

theorem history_map {of : State × Action → List Event} {told : State × Action → List Told}
    (tell : Told → Event) {trace : Trace State Action}
    (same : ∀ entry ∈ trace, of entry = (told entry).map tell) :
    history of trace = (history told trace).map tell := by
  induction trace with
  | nil => rfl
  | cons entry trace ih =>
      have earlier := ih fun other member => same other (List.mem_cons_of_mem _ member)
      rw [history_cons, history_cons, earlier, same entry List.mem_cons_self, List.map_append]

end History

def follow (machine : Machine State Action) : State → List Action → Option State
  | state, [] => some state
  | state, action :: rest =>
      match machine.step state action with
      | none => none
      | some after => follow machine after rest

theorem follow_cons {machine : Machine State Action} {state result : State}
    {action : Action} {rest : List Action}
    (done : follow machine state (action :: rest) = some result) :
    ∃ after, machine.step state action = some after ∧
      follow machine after rest = some result := by
  cases taken : machine.step state action with
  | none => simp [follow, taken] at done
  | some after => exact ⟨after, rfl, by simpa [follow, taken] using done⟩

theorem follow_invariant {machine : Machine State Action} (allowed : Action → Prop)
    (inv : State → Prop)
    (preserved : ∀ before action after, allowed action → inv before →
      machine.step before action = some after → inv after)
    {actions : List Action} (listed : ∀ action ∈ actions, allowed action)
    {state result : State} (held : inv state)
    (done : follow machine state actions = some result) : inv result := by
  induction actions generalizing state with
  | nil =>
      cases done
      exact held
  | cons action rest ih =>
      obtain ⟨after, taken, later⟩ := follow_cons done
      have next := preserved state action after (listed action List.mem_cons_self) held taken
      exact ih (fun other member => listed other (List.mem_cons_of_mem _ member)) next later

theorem follow_append {machine : Machine State Action} {state middle : State}
    {first : List Action} (done : follow machine state first = some middle)
    (rest : List Action) : follow machine state (first ++ rest) = follow machine middle rest := by
  induction first generalizing state with
  | nil =>
      cases done
      rfl
  | cons action first ih =>
      obtain ⟨after, taken, later⟩ := follow_cons done
      simpa [follow, taken] using ih later

theorem Reachable.followed {machine : Machine State Action} {state result : State}
    {actions : List Action} (reached : Reachable machine state)
    (done : follow machine state actions = some result) : Reachable machine result :=
  follow_invariant (fun _ => True) (Reachable machine)
    (fun _ _ _ _ earlier taken => earlier.next taken) (by simp) reached done

theorem Run.followed {machine : Machine State Action} {trace : Trace State Action}
    {state result : State} {actions : List Action} (run : Run machine trace state)
    (done : follow machine state actions = some result) :
    ∃ later, Run machine (later ++ trace) result ∧ later.map Prod.snd = actions.reverse := by
  induction actions generalizing trace state with
  | nil =>
      cases done
      exact ⟨[], run, rfl⟩
  | cons action rest ih =>
      obtain ⟨after, taken, goes⟩ := follow_cons done
      obtain ⟨later, whole, same⟩ := ih (run.next taken) goes
      exact ⟨later ++ [(state, action)], by simpa using whole, by simp [same]⟩

section Simulation

universe s t
variable {Spec : Type s} {Operation : Type t}

/-- A run whose every step is matched by some steps of another machine, in related states. -/
theorem Run.simulate {machine : Machine State Action} {target : Machine Spec Operation}
    (relates : Trace State Action → State → Spec → Prop)
    (steps : State × Action → List Operation) (start : relates [] machine.init target.init)
    (simulates : ∀ trace before action after spec, Run machine trace before →
      Reachable target spec → relates trace before spec →
      machine.step before action = some after →
        ∃ result, follow target spec (steps (before, action)) = some result ∧
          relates ((before, action) :: trace) after result)
    {trace : Trace State Action} {state : State} (run : Run machine trace state) :
    ∃ spec, follow target target.init (history steps trace) = some spec ∧
      relates trace state spec := by
  induction run with
  | start => exact ⟨target.init, rfl, start⟩
  | @next trace before after action earlier taken ih =>
      obtain ⟨spec, done, related⟩ := ih
      have reached := (Reachable.start target).followed done
      obtain ⟨result, matched, stays⟩ :=
        simulates trace before action after spec earlier reached related taken
      exact ⟨result, by rw [history_cons, follow_append done, matched], stays⟩

end Simulation

def replay (machine : Machine State Action) :
    Trace State Action × State → List Action → Option (Trace State Action × State)
  | recorded, [] => some recorded
  | (trace, state), action :: rest =>
      match machine.step state action with
      | none => none
      | some after => replay machine ((state, action) :: trace, after) rest

theorem replay_run {machine : Machine State Action} (actions : List Action)
    {trace : Trace State Action} {state : State} {result : Trace State Action × State}
    (run : Run machine trace state)
    (done : replay machine (trace, state) actions = some result) :
    Run machine result.1 result.2 := by
  induction actions generalizing trace state with
  | nil =>
      have same : (trace, state) = result := by simpa [replay] using done
      subst result
      exact run
  | cons action rest ih =>
      cases taken : machine.step state action with
      | none => simp [replay, taken] at done
      | some after =>
          simp only [replay, taken] at done
          exact ih (run.next taken) done

theorem replay_reachable {machine : Machine State Action} (actions : List Action)
    (done : (replay machine ([], machine.init) actions).isSome) :
    Run machine ((replay machine ([], machine.init) actions).get done).1
      ((replay machine ([], machine.init) actions).get done).2 :=
  replay_run actions Run.start (Option.some_get done).symm

end PeatSapient.Execution
