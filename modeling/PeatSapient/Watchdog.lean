import Mathlib.Algebra.Group.Nat.Defs
import PeatSapient.Lib.Channel
import PeatSapient.Lib.Execution
import PeatSapient.Registry
import PeatSapient.Route

/-! watchdog.rs as a machine, beside the tasks it shares the registry and the
channel with. A step of the watchdog is what it does from one await point to the
next; instants and durations are nanosecond counts. -/

namespace PeatSapient

open HashMap Mpsc Execution

variable {F : Type}

structure WatchdogConfig where
  heartbeatInterval : Nat
  channelDepth : Nat

/-- Where `run_watchdog` is: before a tick, between the reading of `now` and the
scan under the read lock, or in the loop over the expired ids. -/
inductive WatchdogStage where
  | starting
  | burning
  | waiting
  | scanning (now : Nat)
  | removing (expired : List String)
  | reporting (nodeId : String) (rest : List String)
  | ended
  deriving DecidableEq

structure Watchdog (F : Type) where
  clock : Nat
  registry : NodeRegistry F
  updates : Channel (SapientUpdate F)
  nextTick : Nat
  stage : WatchdogStage

inductive WatchdogAction (F : Type) where
  | elapse (duration : Nat)
  | upsert (nodeId : String) (capability : Option (CapabilityAdvertisement F))
      (position : Option (TrackPosition F))
  | remove (nodeId : String)
  | sendUpdate (update : SapientUpdate F)
  | consume
  | dropReceiver
  | scan (order : List String)
  | advance

namespace Watchdog

/-- The first duration that `heartbeat_interval * 2` cannot hold. -/
def durationLimit : Nat := 2 ^ 64 * 1000000000

/-- The ids of the nodes that the scan finds silent. `duration_since` saturates. -/
def expiredIds (interval now : Nat) (registry : NodeRegistry F) : List String :=
  (registry.entries.filter fun entry =>
    decide (interval * 2 ≤ now - entry.2.lastSeen)).map Sigma.fst

def setStage (state : Watchdog F) (stage : WatchdogStage) : Watchdog F :=
  { state with stage := stage }

def stepWatchdog (config : WatchdogConfig) (state : Watchdog F) : Option (Watchdog F) :=
  match state.stage with
  | .starting =>
      -- `time::interval` panics on a zero period.
      if config.heartbeatInterval = 0 then some (state.setStage .ended)
      else some { state with nextTick := state.clock, stage := .burning }
  | .burning =>
      if state.nextTick ≤ state.clock then
        some { state with
          nextTick := state.nextTick + config.heartbeatInterval
          stage := .waiting }
      else none
  | .waiting =>
      if state.nextTick ≤ state.clock then
        if config.heartbeatInterval * 2 < durationLimit then
          some { state with
            nextTick := state.nextTick + config.heartbeatInterval
            stage := .scanning state.clock }
        else some (state.setStage .ended)
      else none
  | .scanning _ | .ended => none
  | .removing [] => some (state.setStage .waiting)
  | .removing (nodeId :: rest) =>
      some { state with
        registry := state.registry.remove nodeId
        stage := .reporting nodeId rest }
  | .reporting nodeId rest =>
      match state.updates.send (.nodeDisconnected nodeId) with
      | none => none
      | some updates =>
          -- The channel may have been closed meanwhile; then the send fails and the task ends.
          some { state with
            updates := updates
            stage := if state.updates.closed then .ended else .removing rest }

def step (config : WatchdogConfig) (state : Watchdog F) :
    WatchdogAction F → Option (Watchdog F)
  | .elapse duration => some { state with clock := state.clock + duration }
  | .upsert nodeId capability position =>
      some { state with
        registry := state.registry.upsert state.clock nodeId capability position }
  | .remove nodeId => some { state with registry := state.registry.remove nodeId }
  | .sendUpdate update =>
      (state.updates.send update).map fun updates => { state with updates := updates }
  | .consume => state.updates.recv.map fun taken => { state with updates := taken.2 }
  | .dropReceiver => some { state with updates := state.updates.close }
  | .scan order =>
      -- A hash map enumerates its keys in any order.
      match state.stage with
      | .scanning now =>
          if order.Perm (expiredIds config.heartbeatInterval now state.registry) then
            some (state.setStage (.removing order))
          else none
      | _ => none
  | .advance => state.stepWatchdog config

def machine (config : WatchdogConfig) : Machine (Watchdog F) (WatchdogAction F) where
  init := ⟨0, ∅, channel config.channelDepth, 0, .starting⟩
  step := step config

def removes (state : Watchdog F) : Option String :=
  match state.stage with
  | .removing (nodeId :: _) => some nodeId
  | _ => none

def reports (state : Watchdog F) : Option String :=
  match state.stage with
  | .reporting nodeId _ => if state.updates.closed then none else some nodeId
  | _ => none

def outstanding (state : Watchdog F) : List String :=
  match state.stage with
  | .removing [] => []
  | .removing (nodeId :: rest) => if state.updates.closed then [nodeId] else nodeId :: rest
  | .reporting nodeId rest => if state.updates.closed then [] else nodeId :: rest
  | _ => []

theorem mem_expiredIds {interval now : Nat} {registry : NodeRegistry F} {nodeId : String}
    (expired : nodeId ∈ expiredIds interval now registry) :
    ∃ node, registry.lookup nodeId = some node ∧ interval * 2 ≤ now - node.lastSeen := by
  simp only [expiredIds, List.mem_map, List.mem_filter, decide_eq_true_eq] at expired
  obtain ⟨entry, ⟨present, silent⟩, rfl⟩ := expired
  exact ⟨entry.2, (entry_iff_lookup registry entry.1 entry.2).mp present, silent⟩

inductive Moves (config : WatchdogConfig) (state : Watchdog F) :
    WatchdogAction F → Watchdog F → Prop where
  | elapse (duration : Nat) :
      Moves config state (.elapse duration) { state with clock := state.clock + duration }
  | upsert (nodeId : String) (capability : Option (CapabilityAdvertisement F))
      (position : Option (TrackPosition F)) :
      Moves config state (.upsert nodeId capability position)
        { state with
          registry := state.registry.upsert state.clock nodeId capability position }
  | remove (nodeId : String) :
      Moves config state (.remove nodeId)
        { state with registry := state.registry.remove nodeId }
  | sendUpdate (update : SapientUpdate F) (updates : Channel (SapientUpdate F))
      (sent : state.updates.send update = some updates) :
      Moves config state (.sendUpdate update) { state with updates := updates }
  | consume (update : SapientUpdate F) (updates : Channel (SapientUpdate F))
      (taken : state.updates.recv = some (update, updates)) :
      Moves config state .consume { state with updates := updates }
  | dropReceiver :
      Moves config state .dropReceiver { state with updates := state.updates.close }
  | start (positive : 0 < config.heartbeatInterval) (here : state.stage = .starting) :
      Moves config state .advance
        { state with nextTick := state.clock, stage := .burning }
  | stop (stage : state.stage = .starting ∨ state.stage = .waiting) :
      Moves config state .advance (state.setStage .ended)
  | burn (here : state.stage = .burning) (due : state.nextTick ≤ state.clock) :
      Moves config state .advance
        { state with
          nextTick := state.nextTick + config.heartbeatInterval
          stage := .waiting }
  | tick (here : state.stage = .waiting) (due : state.nextTick ≤ state.clock) :
      Moves config state .advance
        { state with
          nextTick := state.nextTick + config.heartbeatInterval
          stage := .scanning state.clock }
  | scan (order : List String) (now : Nat) (here : state.stage = .scanning now)
      (found : order.Perm (expiredIds config.heartbeatInterval now state.registry)) :
      Moves config state (.scan order) (state.setStage (.removing order))
  | finish (here : state.stage = .removing []) :
      Moves config state .advance (state.setStage .waiting)
  | expire (nodeId : String) (rest : List String)
      (here : state.stage = .removing (nodeId :: rest)) :
      Moves config state .advance
        { state with
          registry := state.registry.remove nodeId
          stage := .reporting nodeId rest }
  | report (nodeId : String) (rest : List String) (updates : Channel (SapientUpdate F))
      (here : state.stage = .reporting nodeId rest) (alive : state.updates.closed = false)
      (sent : state.updates.send (.nodeDisconnected nodeId) = some updates) :
      Moves config state .advance
        { state with updates := updates, stage := .removing rest }
  | shutDown (nodeId : String) (rest : List String) (updates : Channel (SapientUpdate F))
      (here : state.stage = .reporting nodeId rest) (gone : state.updates.closed = true)
      (sent : state.updates.send (.nodeDisconnected nodeId) = some updates) :
      Moves config state .advance { state with updates := updates, stage := .ended }

theorem moves_of_step (config : WatchdogConfig) {state after : Watchdog F}
    {action : WatchdogAction F} (taken : step config state action = some after) :
    Moves config state action after := by
  cases action with
  | elapse duration =>
      cases taken
      exact .elapse duration
  | upsert nodeId capability position =>
      cases taken
      exact .upsert nodeId capability position
  | remove nodeId =>
      cases taken
      exact .remove nodeId
  | sendUpdate update =>
      obtain ⟨updates, sent, rfl⟩ := Option.map_eq_some_iff.mp taken
      exact .sendUpdate update updates sent
  | consume =>
      obtain ⟨⟨update, updates⟩, received, rfl⟩ := Option.map_eq_some_iff.mp taken
      exact .consume update updates received
  | dropReceiver =>
      cases taken
      exact .dropReceiver
  | scan order =>
      simp only [step] at taken
      split at taken
      · next now here =>
          split at taken
          · next found =>
              cases taken
              exact .scan order now here found
          · cases taken
      · cases taken
  | advance =>
      simp only [step, stepWatchdog] at taken
      split at taken
      · next here =>
          split at taken <;> cases taken
          · exact .stop (Or.inl here)
          · next positive => exact .start (Nat.pos_of_ne_zero positive) here
      · next here =>
          split at taken
          · next due =>
              cases taken
              exact .burn here due
          · cases taken
      · next here =>
          split at taken
          · next due =>
              split at taken <;> cases taken
              · exact .tick here due
              · exact .stop (Or.inr here)
          · cases taken
      · cases taken
      · cases taken
      · next here =>
          cases taken
          exact .finish here
      · next nodeId rest here =>
          cases taken
          exact .expire nodeId rest here
      · next nodeId rest here =>
          split at taken
          · cases taken
          · next updates sent =>
              cases taken
              cases gone : state.updates.closed with
              | true => simpa [gone] using Moves.shutDown nodeId rest updates here gone sent
              | false => simpa [gone] using Moves.report nodeId rest updates here gone sent

end Watchdog

end PeatSapient
