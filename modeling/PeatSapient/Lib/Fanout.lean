import PeatSapient.Lib.Channel
import PeatSapient.Lib.Execution

/-! The events of a machine, told to many subscribers. Each subscriber has a bounded queue.
An event goes on a round: it is offered to one subscriber after the other, and who has no
room misses it. Several rounds may be under way, and nobody subscribes during one. -/

namespace PeatSapient.Fanout

open Mpsc Execution

universe u v w
variable {State : Type u} {Action : Type v} {Event : Type w}

-- All but the queue is history: the state it was made in, what it was offered so far, and
-- what it missed of that.
structure Subscriber (State : Type u) (Event : Type w) where
  joined : State
  queue : Channel Event
  offered : List Event
  missed : List Event

def Subscriber.offer (subscriber : Subscriber State Event) (event : Event) :
    Subscriber State Event :=
  match subscriber.queue.send event with
  | some queue =>
      { subscriber with queue := queue, offered := subscriber.offered ++ [event] }
  | none =>
      { subscriber with
        offered := subscriber.offered ++ [event]
        missed := subscriber.missed ++ [event] }

structure Round (Event : Type w) where
  event : Event
  next : Nat

structure Fanned (State : Type u) (Event : Type w) where
  inner : State
  subscribers : List (Subscriber State Event)
  rounds : List (Round Event)

inductive FanAction (Action : Type v) where
  | inner (action : Action)
  | subscribe
  | offer (round : Nat)
  | take (subscriber : Nat)
  | leave (subscriber : Nat)

def added (log : State → List Event) (before after : State) : List Event :=
  (log after).drop (log before).length

def step (machine : Machine State Action) (log : State → List Event) (capacity : Nat)
    (state : Fanned State Event) : FanAction Action → Option (Fanned State Event)
  | .inner action =>
      match machine.step state.inner action with
      | none => none
      | some after =>
          some { state with
            inner := after
            rounds := state.rounds ++ (added log state.inner after).map (⟨·, 0⟩) }
  | .subscribe =>
      match state.rounds with
      | [] =>
          some { state with
            subscribers := state.subscribers ++ [⟨state.inner, channel capacity, [], []⟩] }
      | _ => none
  | .offer index =>
      match state.rounds[index]? with
      | none => none
      | some round =>
          match state.subscribers[round.next]? with
          | none => some { state with rounds := state.rounds.eraseIdx index }
          | some subscriber =>
              some { state with
                subscribers := state.subscribers.set round.next (subscriber.offer round.event)
                rounds := state.rounds.set index { round with next := round.next + 1 } }
  | .take index =>
      match state.subscribers[index]? with
      | none => none
      | some subscriber =>
          match subscriber.queue.recv with
          | none => none
          | some (_, queue) =>
              some { state with
                subscribers := state.subscribers.set index { subscriber with queue := queue } }
  | .leave index =>
      match state.subscribers[index]? with
      | none => none
      | some subscriber =>
          some { state with
            subscribers :=
              state.subscribers.set index { subscriber with queue := subscriber.queue.close } }

def fanned (machine : Machine State Action) (log : State → List Event) (capacity : Nat) :
    Machine (Fanned State Event) (FanAction Action) where
  init := ⟨machine.init, [], []⟩
  step := step machine log capacity

inductive Moves (machine : Machine State Action) (log : State → List Event) (capacity : Nat)
    (state : Fanned State Event) : FanAction Action → Fanned State Event → Prop where
  | inner (action : Action) (next : State)
      (moved : machine.step state.inner action = some next) :
      Moves machine log capacity state (.inner action)
        { state with
          inner := next
          rounds := state.rounds ++ (added log state.inner next).map (⟨·, 0⟩) }
  | subscribe (idle : state.rounds = []) :
      Moves machine log capacity state .subscribe
        { state with
          subscribers := state.subscribers ++ [⟨state.inner, channel capacity, [], []⟩] }
  | finish (position : Nat) (round : Round Event)
      (here : state.rounds[position]? = some round)
      (beyond : state.subscribers[round.next]? = none) :
      Moves machine log capacity state (.offer position)
        { state with rounds := state.rounds.eraseIdx position }
  | pass (position : Nat) (round : Round Event) (target : Subscriber State Event)
      (here : state.rounds[position]? = some round)
      (chosen : state.subscribers[round.next]? = some target) :
      Moves machine log capacity state (.offer position)
        { state with
          subscribers := state.subscribers.set round.next (target.offer round.event)
          rounds := state.rounds.set position { round with next := round.next + 1 } }
  | take (position : Nat) (target : Subscriber State Event) (event : Event)
      (queue : Channel Event) (chosen : state.subscribers[position]? = some target)
      (received : target.queue.recv = some (event, queue)) :
      Moves machine log capacity state (.take position)
        { state with
          subscribers := state.subscribers.set position { target with queue := queue } }
  | leave (position : Nat) (target : Subscriber State Event)
      (chosen : state.subscribers[position]? = some target) :
      Moves machine log capacity state (.leave position)
        { state with
          subscribers :=
            state.subscribers.set position { target with queue := target.queue.close } }

theorem moves_of_step {machine : Machine State Action} {log : State → List Event}
    {capacity : Nat} {state after : Fanned State Event} {action : FanAction Action}
    (taken : step machine log capacity state action = some after) :
    Moves machine log capacity state action after := by
  cases action with
  | inner action =>
      simp only [step] at taken
      split at taken
      · cases taken
      · next next moved =>
          cases taken
          exact .inner action next moved
  | subscribe =>
      simp only [step] at taken
      split at taken
      · next idle =>
          cases taken
          exact .subscribe idle
      · cases taken
  | offer position =>
      simp only [step] at taken
      split at taken
      · cases taken
      · next round here =>
          split at taken
          · next beyond =>
              cases taken
              exact .finish position round here beyond
          · next target chosen =>
              cases taken
              exact .pass position round target here chosen
  | take position =>
      simp only [step] at taken
      split at taken
      · cases taken
      · next target chosen =>
          split at taken
          · cases taken
          · next event queue received =>
              cases taken
              exact .take position target event queue chosen received
  | leave position =>
      simp only [step] at taken
      split at taken
      · cases taken
      · next target chosen =>
          cases taken
          exact .leave position target chosen

def seen (_ : Fanned State Event) : FanAction Action → Option Action
  | .inner action => some action
  | _ => none

abbrev innerTrace (trace : Trace (Fanned State Event) (FanAction Action)) :
    Trace State Action :=
  projected Fanned.inner seen trace

def pendingFor (index : Nat) (rounds : List (Round Event)) : List Event :=
  (rounds.filter fun round => decide (round.next ≤ index)).map Round.event

theorem pendingFor_append (index : Nat) (rounds more : List (Round Event)) :
    pendingFor index (rounds ++ more) = pendingFor index rounds ++ pendingFor index more := by
  simp [pendingFor]

theorem pendingFor_new (index : Nat) (events : List Event) :
    pendingFor index (events.map (⟨·, 0⟩)) = events := by
  induction events with
  | nil => rfl
  | cons event rest ih => simpa [pendingFor] using ih

/-- A round goes on from one subscriber: only that one has an event less to come. -/
theorem pendingFor_passed {rounds : List (Round Event)} {position : Nat} {round : Round Event}
    (found : rounds[position]? = some round) (index : Nat) :
    (pendingFor index rounds).Perm
      ((if index = round.next then [round.event] else []) ++
        pendingFor index (rounds.set position { round with next := round.next + 1 })) := by
  obtain ⟨within, here⟩ := List.getElem?_eq_some_iff.mp found
  have parts : rounds = rounds.take position ++ round :: rounds.drop (position + 1) := by
    rw [← here, List.getElem_cons_drop, List.take_append_drop]
  rw [List.set_eq_take_append_cons_drop, if_pos within]
  conv_lhs => rw [parts]
  rw [pendingFor_append, pendingFor_append, ← List.append_assoc]
  by_cases own : index = round.next
  · subst own
    have gone : ¬ round.next + 1 ≤ round.next := Nat.not_succ_le_self _
    simp only [pendingFor, List.filter_cons, Nat.le_refl, decide_true, if_true, gone,
      decide_false, Bool.false_eq_true, if_false, List.map_cons]
    exact List.perm_middle
  · have same : round.next ≤ index ↔ round.next + 1 ≤ index := by omega
    by_cases reached : round.next + 1 ≤ index <;>
      simp [pendingFor, own, same, reached]

theorem pendingFor_ended {rounds : List (Round Event)} {position : Nat} {round : Round Event}
    (found : rounds[position]? = some round) {index : Nat} (passed : index < round.next) :
    pendingFor index (rounds.eraseIdx position) = pendingFor index rounds := by
  obtain ⟨within, here⟩ := List.getElem?_eq_some_iff.mp found
  have parts : rounds = rounds.take position ++ round :: rounds.drop (position + 1) := by
    rw [← here, List.getElem_cons_drop, List.take_append_drop]
  have beyond : ¬ round.next ≤ index := Nat.not_le.mpr passed
  rw [List.eraseIdx_eq_take_drop_succ]
  conv_rhs => rw [parts]
  simp [pendingFor, beyond]

/-- A subscriber's queue has what it was offered, in that order, but for what it missed, and
it misses nothing of what the queue can hold. -/
structure Kept (capacity : Nat) (subscriber : Subscriber State Event) : Prop where
  sized : subscriber.queue.capacity = capacity
  ordered : subscriber.queue.attempts.Sublist subscriber.offered
  whole : (subscriber.queue.attempts ++ subscriber.missed).Perm subscriber.offered
  room : subscriber.missed ≠ [] → capacity < subscriber.offered.length

theorem Kept.offer {capacity : Nat} {subscriber : Subscriber State Event}
    (kept : Kept capacity subscriber) (event : Event) :
    Kept capacity (subscriber.offer event) := by
  unfold Subscriber.offer
  split
  · next queue sent =>
      constructor
      case sized => exact (Channel.capacity_send sent).trans kept.sized
      case ordered =>
        change queue.attempts.Sublist _
        rw [Channel.attempts_send sent]
        exact kept.ordered.append (List.Sublist.refl _)
      case whole =>
        change (queue.attempts ++ subscriber.missed).Perm _
        rw [Channel.attempts_send sent, List.append_assoc]
        have swapped : ([event] ++ subscriber.missed).Perm (subscriber.missed ++ [event]) :=
          List.perm_append_comm
        refine (swapped.append_left _).trans ?_
        rw [← List.append_assoc]
        exact kept.whole.append_right [event]
      case room =>
        intro missed
        have held := kept.room missed
        simp only [List.length_append]
        omega
  · next full =>
      constructor
      case sized => exact kept.sized
      case ordered => exact kept.ordered.trans (List.sublist_append_left _ _)
      case whole =>
        change (subscriber.queue.attempts ++ (subscriber.missed ++ [event])).Perm _
        rw [← List.append_assoc]
        exact kept.whole.append_right [event]
      case room =>
        intro _
        have held := Channel.length_of_full full
        have within : subscriber.queue.buffer.length ≤ subscriber.queue.attempts.length := by
          simp only [Channel.attempts, Channel.pushed, List.length_append]
          omega
        have sent := kept.ordered.length_le
        rw [kept.sized] at held
        simp only [List.length_append, List.length_singleton]
        omega

theorem Kept.complete {capacity : Nat} {subscriber : Subscriber State Event}
    (kept : Kept capacity subscriber) (complete : subscriber.missed = []) :
    subscriber.queue.attempts = subscriber.offered := by
  have same := kept.whole
  rw [complete, List.append_nil] at same
  exact kept.ordered.eq_of_length same.length_eq

/-- What holds of the subscriber with this number, in every run: each event since it came
has been offered to it once, or is still to be. -/
structure Served (log : State → List Event) (capacity : Nat)
    (trace : Trace (Fanned State Event) (FanAction Action)) (state : Fanned State Event)
    (index : Nat) (subscriber : Subscriber State Event) : Prop where
  kept : Kept capacity subscriber
  joined : subscriber.joined ∈ visited (innerTrace trace) state.inner
  once : ∃ since, log state.inner = log subscriber.joined ++ since ∧
    (subscriber.offered ++ pendingFor index state.rounds).Perm since

def Grows (machine : Machine State Action) (log : State → List Event) : Prop :=
  ∀ before action after, machine.step before action = some after →
    ∃ more, log after = log before ++ more

theorem added_of_append {log : State → List Event} {before after : State} {more : List Event}
    (grown : log after = log before ++ more) : added log before after = more := by
  rw [added, grown, List.drop_left]

theorem set_cases {Item : Type v} {items : List Item} {position index : Nat} {item new : Item}
    (found : (items.set position new)[index]? = some item) :
    (position = index ∧ item = new) ∨ (position ≠ index ∧ items[index]? = some item) := by
  rw [List.getElem?_set] at found
  split at found
  · next own =>
      split at found
      · cases found
        exact Or.inl ⟨own, rfl⟩
      · cases found
  · next other => exact Or.inr ⟨other, found⟩

theorem only_round {rounds : List (Round Event)} {position : Nat} {round : Round Event}
    (alone : rounds.length ≤ 1) (here : rounds[position]? = some round) :
    position = 0 ∧ rounds = [round] := by
  have within := (List.getElem?_eq_some_iff.mp here).1
  have first : position = 0 := by omega
  subst first
  have single : rounds.length = 1 := by omega
  obtain ⟨other, rfl⟩ := List.length_eq_one_iff.mp single
  cases here
  exact ⟨rfl, rfl⟩

theorem subscribed {subscribers : List (Subscriber State Event)} {index : Nat}
    {new subscriber : Subscriber State Event}
    (found : (subscribers ++ [new])[index]? = some subscriber) :
    subscribers[index]? = some subscriber ∨ index = subscribers.length ∧ subscriber = new := by
  rcases Nat.lt_trichotomy index subscribers.length with known | rfl | beyond
  · rw [List.getElem?_append_left known] at found
    exact Or.inl found
  · rw [List.getElem?_concat_length] at found
    cases found
    exact Or.inr ⟨rfl, rfl⟩
  · have within := (List.getElem?_eq_some_iff.mp found).1
    rw [List.length_append, List.length_singleton] at within
    omega

@[simp] theorem Subscriber.offered_offer (subscriber : Subscriber State Event) (event : Event) :
    (subscriber.offer event).offered = subscriber.offered ++ [event] := by
  unfold offer
  split <;> rfl

@[simp] theorem Subscriber.joined_offer (subscriber : Subscriber State Event) (event : Event) :
    (subscriber.offer event).joined = subscriber.joined := by
  unfold offer
  split <;> rfl

section Steps
variable {machine : Machine State Action} {log : State → List Event} {capacity : Nat}
  {trace : Trace (Fanned State Event) (FanAction Action)} {state after : Fanned State Event}
  {action : FanAction Action} {index : Nat} {subscriber : Subscriber State Event}

theorem Served.keep {changed : Subscriber State Event}
    (served : Served log capacity trace state index subscriber)
    (kept : Kept capacity changed) (joined : changed.joined = subscriber.joined)
    (own : seen state action = none) (inner : after.inner = state.inner)
    (offered : (changed.offered ++ pendingFor index after.rounds).Perm
      (subscriber.offered ++ pendingFor index state.rounds)) :
    Served log capacity ((state, action) :: trace) after index changed := by
  have silent : innerTrace ((state, action) :: trace) = innerTrace trace := by
    simp [innerTrace, projected, own]
  obtain ⟨since, grown, once⟩ := served.once
  constructor
  case kept => exact kept
  case joined =>
    rw [silent, inner, joined]
    exact served.joined
  case once =>
    rw [inner, joined]
    exact ⟨since, grown, offered.trans once⟩

theorem served_step (grows : Grows machine log)
    (all : ∀ index subscriber, state.subscribers[index]? = some subscriber →
      Served log capacity trace state index subscriber)
    (moved : Moves machine log capacity state action after)
    (found : after.subscribers[index]? = some subscriber) :
    Served log capacity ((state, action) :: trace) after index subscriber := by
  cases moved with
  | inner action next moved =>
      obtain ⟨kept, joined, since, grown, once⟩ := all index subscriber found
      obtain ⟨more, further⟩ := grows _ _ _ moved
      refine ⟨kept, List.mem_cons_of_mem next joined, since ++ more, ?_, ?_⟩
      · rw [← List.append_assoc, ← grown]
        exact further
      · rw [added_of_append further, pendingFor_append, pendingFor_new, ← List.append_assoc]
        exact once.append_right more
  | subscribe idle =>
      rcases subscribed found with known | ⟨rfl, rfl⟩
      · have served := all index subscriber known
        exact served.keep served.kept rfl rfl rfl (List.Perm.refl _)
      · refine ⟨⟨rfl, List.Sublist.refl _, List.Perm.refl _, nofun⟩, List.mem_cons_self, [],
          (List.append_nil _).symm, ?_⟩
        rw [idle]
        exact List.Perm.refl _
  | finish position round here beyond =>
      have within := (List.getElem?_eq_some_iff.mp found).1
      have passed := Nat.lt_of_lt_of_le within (List.getElem?_eq_none_iff.mp beyond)
      have served := all index subscriber found
      refine served.keep served.kept rfl rfl rfl ?_
      rw [pendingFor_ended here passed]
  | pass position round target here chosen =>
      have moved := pendingFor_passed here index
      rcases set_cases found with ⟨rfl, rfl⟩ | ⟨other, found⟩
      · have served := all _ target chosen
        refine served.keep (served.kept.offer round.event) (by simp) rfl rfl ?_
        rw [if_pos rfl] at moved
        rw [Subscriber.offered_offer, List.append_assoc]
        exact moved.symm.append_left target.offered
      · have served := all index subscriber found
        rw [if_neg (Ne.symm other)] at moved
        exact served.keep served.kept rfl rfl rfl
          (moved.symm.append_left subscriber.offered)
  | take position target event queue chosen received =>
      rcases set_cases found with ⟨rfl, rfl⟩ | ⟨other, found⟩
      · have served := all _ target chosen
        obtain ⟨sized, ordered, whole, room⟩ := served.kept
        have same := Channel.attempts_recv received
        refine served.keep ⟨?_, same ▸ ordered, same ▸ whole, room⟩ rfl rfl rfl
          (List.Perm.refl _)
        exact (Channel.capacity_recv received).trans sized
      · have served := all index subscriber found
        exact served.keep served.kept rfl rfl rfl (List.Perm.refl _)
  | leave position target chosen =>
      rcases set_cases found with ⟨rfl, rfl⟩ | ⟨other, found⟩
      · have served := all _ target chosen
        obtain ⟨sized, ordered, whole, room⟩ := served.kept
        exact served.keep ⟨sized, ordered, whole, room⟩ rfl rfl rfl (List.Perm.refl _)
      · have served := all index subscriber found
        exact served.keep served.kept rfl rfl rfl (List.Perm.refl _)

theorem served_run (grows : Grows machine log)
    (run : Run (fanned machine log capacity) trace state)
    (found : state.subscribers[index]? = some subscriber) :
    Served log capacity trace state index subscriber := by
  refine run.invariant (fun trace state => ∀ index subscriber,
    state.subscribers[index]? = some subscriber →
      Served log capacity trace state index subscriber) ?_ ?_ index subscriber found
  · intro index subscriber none_
    cases none_
  · intro trace before action after _ all taken index subscriber found
    exact served_step grows all (moves_of_step taken) found

/-- Where only one round is under way, a subscriber is offered the events in their order. -/
theorem inOrder_step (grows : Grows machine log) (alone : state.rounds.length ≤ 1)
    (told : ∀ index subscriber, state.subscribers[index]? = some subscriber →
      log state.inner =
        log subscriber.joined ++ (subscriber.offered ++ pendingFor index state.rounds))
    (moved : Moves machine log capacity state action after)
    (found : after.subscribers[index]? = some subscriber) :
    log after.inner =
      log subscriber.joined ++ (subscriber.offered ++ pendingFor index after.rounds) := by
  cases moved with
  | inner action next moved =>
      obtain ⟨more, further⟩ := grows _ _ _ moved
      rw [added_of_append further, pendingFor_append, pendingFor_new, further,
        told index subscriber found]
      simp
  | subscribe idle =>
      rcases subscribed found with known | ⟨rfl, rfl⟩
      · exact told index subscriber known
      · rw [idle]
        exact (List.append_nil _).symm
  | finish position round here beyond =>
      have within := (List.getElem?_eq_some_iff.mp found).1
      have passed := Nat.lt_of_lt_of_le within (List.getElem?_eq_none_iff.mp beyond)
      rw [pendingFor_ended here passed]
      exact told index subscriber found
  | pass position round target here chosen =>
      obtain ⟨first, only⟩ := only_round alone here
      rcases set_cases found with ⟨rfl, rfl⟩ | ⟨other, found⟩
      · have held := told _ target chosen
        rw [only] at held ⊢
        simpa [first, pendingFor] using held
      · have held := told index subscriber found
        have same : round.next ≤ index ↔ round.next + 1 ≤ index := by omega
        rw [only] at held ⊢
        by_cases reached : round.next + 1 ≤ index <;>
          simpa [first, pendingFor, same, reached] using held
  | take position target event queue chosen received =>
      rcases set_cases found with ⟨rfl, rfl⟩ | ⟨other, found⟩
      · exact told _ target chosen
      · exact told index subscriber found
  | leave position target chosen =>
      rcases set_cases found with ⟨rfl, rfl⟩ | ⟨other, found⟩
      · exact told _ target chosen
      · exact told index subscriber found

theorem inOrder_run (grows : Grows machine log)
    (run : Run (fanned machine log capacity) trace state)
    (alone : ∀ earlier ∈ visited trace state, earlier.rounds.length ≤ 1)
    (found : state.subscribers[index]? = some subscriber) :
    log state.inner =
      log subscriber.joined ++ (subscriber.offered ++ pendingFor index state.rounds) := by
  induction run generalizing index subscriber with
  | start => cases found
  | @next trace before after action earlier taken ih =>
      refine inOrder_step grows (alone before ?_) ?_ (moves_of_step taken) found
      · exact List.mem_cons_of_mem after List.mem_cons_self
      · intro index subscriber found
        exact ih (fun state member => alone state (List.mem_cons_of_mem after member)) found

/-- What the subscribers do is nothing to the machine whose events are told. -/
theorem inner_run (run : Run (fanned machine log capacity) trace state) :
    Run machine (innerTrace trace) state.inner := by
  refine run.project Fanned.inner seen rfl ?_
  intro before action after taken
  cases moves_of_step taken with
  | inner action next moved => exact moved
  | _ => rfl

end Steps

end PeatSapient.Fanout
