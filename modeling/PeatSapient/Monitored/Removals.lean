import PeatSapient.Monitored
import PeatSapient.Watchdog.Reports

/-! The reports of a watchdog that has its channel to itself. What its reader gets are its
removals, in order, each once. -/

namespace PeatSapient.Monitored

open HashMap Mpsc Execution Watchdog

variable {F : Type}

def watched (trace : Trace (Monitored F) (MonitoredAction F)) :
    Trace (Watchdog F) (WatchdogAction F) := projected watchdog seen trace

/-- Nobody else sends on the channel. -/
def Alone (trace : Trace (Watchdog F) (WatchdogAction F)) : Prop :=
  ∀ entry ∈ trace, ∀ update, entry.2 ≠ .sendUpdate update

theorem postedOf_alone {entry : Watchdog F × WatchdogAction F}
    (alone : ∀ update, entry.2 ≠ .sendUpdate update) :
    postedOf entry = (reportedOf entry).map .nodeDisconnected := by
  obtain ⟨state, action⟩ := entry
  cases action with
  | sendUpdate update => exact absurd rfl (alone update)
  | _ => rfl

theorem refusedOf_alone {entry : Watchdog F × WatchdogAction F}
    (alone : ∀ update, entry.2 ≠ .sendUpdate update) :
    refusedOf entry = (unheardOf entry).map .nodeDisconnected := by
  rw [refusedOf, unheardOf, postedOf_alone alone]
  split <;> rfl

variable [FloatOps F]

theorem seen_ne_sendUpdate (config : BridgeConfig F) (watch : WatchdogConfig)
    {state after : Monitored F} {action : MonitoredAction F}
    (taken : step config watch state action = some after) (update : SapientUpdate F) :
    seen state action ≠ some (.sendUpdate update) := by
  cases moves_of_step config watch taken with
  | watchdog action watchdog own stepped =>
      rintro same
      cases same
      cases own
  | bridge action bridge moved =>
      intro same
      simp only [seen] at same
      split at same
      · contradiction
      · cases same
      · split at same
        · simp [Option.map_eq_some_iff] at same
        · cases same
        · cases same
      · cases same

theorem watched_alone (config : BridgeConfig F) (watch : WatchdogConfig)
    {trace : Trace (Monitored F) (MonitoredAction F)} {state : Monitored F}
    (run : Run (machine config watch) trace state) : Alone (watched trace) := by
  induction run with
  | start =>
      intro entry member
      cases member
  | @next trace before after action earlier taken ih =>
      intro entry member update
      obtain ⟨older, among, same⟩ := List.mem_filterMap.mp member
      rcases List.mem_cons.mp among with rfl | among
      · obtain ⟨shown, given, rfl⟩ := Option.map_eq_some_iff.mp same
        rintro rfl
        exact seen_ne_sendUpdate config watch taken update given
      · exact ih entry (List.mem_filterMap.mpr ⟨older, among, same⟩) update

/-- The reports of the watchdog of a bridge, in every run. What its channel took and what is
still in hand are its removals, in order; one report at most is refused, and then the
watchdog has ended; and no node is removed again before it has come back. -/
theorem removals_told (config : BridgeConfig F) (watch : WatchdogConfig)
    {trace : Trace (Monitored F) (MonitoredAction F)} {state : Monitored F}
    (run : Run (machine config watch) trace state) :
    state.updates.received ++ state.updates.buffer ++ state.updates.refused ++
        (inHand state.stage).toList.map .nodeDisconnected =
      (removed (watched trace)).map .nodeDisconnected ∧
    state.updates.refused.length ≤ (if state.stage = .ended then 1 else 0) ∧
    Meets RemovesPresent (watched trace) := by
  have shown : Run (Watchdog.machine watch) (watched trace) state.watchdog :=
    watchdog_run config watch run
  have alone := watched_alone config watch run
  have held := told watch shown
  refine ⟨?_, ?_, removesPresent watch shown⟩
  · have attempts : state.updates.attempts = posted (watched trace) := held.attempts
    have hand : removed (watched trace) =
        reported (watched trace) ++ (inHand state.stage).toList := held.told
    have posts : posted (watched trace) = (reported (watched trace)).map .nodeDisconnected :=
      history_map _ fun entry member => by
        rw [postedOf_alone (alone entry member), Option.toList_map]
    rw [hand, List.map_append, ← posts, ← attempts]
    rfl
  · have refused : state.updates.refused = refusals (watched trace) := held.refused
    have refusals : refusals (watched trace) =
        (unheard (watched trace)).map .nodeDisconnected :=
      history_map _ fun entry member => by
        rw [refusedOf_alone (alone entry member), Option.toList_map]
    rw [refused, refusals, List.length_map]
    exact held.heard

def silentNode : List (MonitoredAction Float) :=
  [.watchdog .advance, .watchdog .advance, .bridge (.receive 0 (Bridge.registrationOf "n"))] ++
    List.replicate 8 (.bridge (.proceed 0)) ++
    [.bridge (.tick 10000000000 0), .watchdog .advance, .watchdog (.scan ["n"]),
      .watchdog .advance, .watchdog .advance]

theorem removals_told_silentNode :
    ∃ (trace : Trace (Monitored Float) (MonitoredAction Float)) (state : Monitored Float),
      removed (watched trace) = ["n"] ∧
        state.updates.received ++ state.updates.buffer ++ state.updates.refused ++
          (inHand state.stage).toList.map .nodeDisconnected =
            (removed (watched trace)).map .nodeDisconnected :=
  ⟨_, _, by decide, (removals_told Bridge.plainConfig Watchdog.fiveSeconds
    (replay_reachable silentNode rfl)).1⟩

end PeatSapient.Monitored
