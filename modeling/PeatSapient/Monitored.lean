import PeatSapient.Bridge.Moves
import PeatSapient.Watchdog.Freshness

/-! The bridge with a watchdog on its registry, on one clock. The watchdog has a channel of
its own. What it sees of the bridge are time, upserts and removals. -/

namespace PeatSapient

open HashMap Mpsc Execution

variable {F : Type}

structure Monitored (F : Type) where
  bridge : Bridge F
  updates : Channel (SapientUpdate F)
  nextTick : Nat
  stage : WatchdogStage

inductive MonitoredAction (F : Type) where
  | bridge (action : Action F)
  | watchdog (action : WatchdogAction F)

namespace Monitored

def watchdog (state : Monitored F) : Watchdog F where
  clock := state.bridge.clock
  registry := state.bridge.registry
  updates := state.updates
  nextTick := state.nextTick
  stage := state.stage

def withWatchdog (state : Monitored F) (watchdog : Watchdog F) : Monitored F where
  bridge := { state.bridge with registry := watchdog.registry }
  updates := watchdog.updates
  nextTick := watchdog.nextTick
  stage := watchdog.stage

def isOwn : WatchdogAction F → Bool
  | .scan _ | .advance | .consume | .dropReceiver => true
  | _ => false

def seen (state : Monitored F) : MonitoredAction F → Option (WatchdogAction F)
  | .watchdog action => some action
  | .bridge (.tick elapsed _) => some (.elapse elapsed)
  | .bridge (.proceed id) =>
      match (state.bridge.conns id).stage with
      | .recording update =>
          (Bridge.upsertOf update).map fun write => .upsert write.1 write.2 none
      | .unregistering nodeId => some (.remove nodeId)
      | _ => none
  | .bridge _ => none

theorem own_clock (watch : WatchdogConfig) {state after : Watchdog F}
    {action : WatchdogAction F} (own : isOwn action = true)
    (moved : Watchdog.Moves watch state action after) : after.clock = state.clock := by
  cases moved with
  | elapse | upsert | remove | sendUpdate => cases own
  | _ => rfl

variable [FloatOps F]

def step (config : BridgeConfig F) (watch : WatchdogConfig) (state : Monitored F) :
    MonitoredAction F → Option (Monitored F)
  | .bridge action =>
      (Bridge.step config state.bridge action).map fun bridge => { state with bridge := bridge }
  | .watchdog action =>
      if isOwn action then
        (Watchdog.step watch state.watchdog action).map state.withWatchdog
      else none

def machine (config : BridgeConfig F) (watch : WatchdogConfig) :
    Machine (Monitored F) (MonitoredAction F) where
  init := ⟨Bridge.new config, channel watch.channelDepth, 0, .starting⟩
  step := step config watch

/-- A step is one of the bridge, beside which the watchdog stays, or one of the watchdog. -/
inductive Moves (config : BridgeConfig F) (watch : WatchdogConfig) (state : Monitored F) :
    MonitoredAction F → Monitored F → Prop where
  | bridge (action : Action F) (bridge : Bridge F)
      (moved : Bridge.Moves config state.bridge action bridge) :
      Moves config watch state (.bridge action) { state with bridge := bridge }
  | watchdog (action : WatchdogAction F) (watchdog : Watchdog F) (own : isOwn action = true)
      (taken : Watchdog.step watch state.watchdog action = some watchdog) :
      Moves config watch state (.watchdog action) (state.withWatchdog watchdog)

theorem moves_of_step (config : BridgeConfig F) (watch : WatchdogConfig)
    {state after : Monitored F} {action : MonitoredAction F}
    (taken : step config watch state action = some after) :
    Moves config watch state action after := by
  cases action with
  | bridge action =>
      obtain ⟨bridge, moved, rfl⟩ := Option.map_eq_some_iff.mp taken
      exact .bridge action bridge (Bridge.moves_of_step config moved)
  | watchdog action =>
      simp only [step] at taken
      split at taken
      · next own =>
          obtain ⟨watchdog, moved, rfl⟩ := Option.map_eq_some_iff.mp taken
          exact .watchdog action watchdog own moved
      · cases taken

/-- The watchdog sees every write to the registry, and every passing of time. -/
theorem bridge_shows (config : BridgeConfig F) (watch : WatchdogConfig)
    {state : Monitored F} {action : Action F} {bridge : Bridge F}
    (moved : Bridge.Moves config state.bridge action bridge) :
    Shows (Watchdog.machine watch) watchdog state { state with bridge := bridge }
      (state.seen (.bridge action)) := by
  cases moved with
  | upsert id update nodeId capability here writes =>
      simp only [seen, here, writes]
      rfl
  | unregister id nodeId here =>
      simp only [seen, here]
      rfl
  | pass id update here silent =>
      simp only [seen, here, silent]
      rfl
  | register id msg here | acknowledgeRegistration id msg write here
  | snapshot id msg here | drain id msg here | connReap id msg expired here
  | replayed id msg here | replay id msg out rest write here | locate id msg here
  | route id msg position update limiter here | reject id msg position failure limiter here
  | ackTask id nodeId taskId command status reasons here
  | correlate id nodeId taskId status reasons cleared here | emit id update updates here
  | disconnect id nodeId here | announce id nodeId updates here =>
      simp only [seen, here]
      rfl
  | _ => rfl

/-- The bridge and its watchdog are, to the watchdog, a watchdog among other tasks. -/
theorem watchdog_run (config : BridgeConfig F) (watch : WatchdogConfig)
    {trace : Trace (Monitored F) (MonitoredAction F)} {state : Monitored F}
    (run : Run (machine config watch) trace state) :
    Run (Watchdog.machine watch) (projected watchdog seen trace) state.watchdog := by
  apply run.project
  · rfl
  · intro before action after taken
    cases moves_of_step config watch taken with
    | bridge action bridge moved => exact bridge_shows config watch moved
    | watchdog action moved own stepped =>
        have clock := own_clock watch own (Watchdog.moves_of_step watch stepped)
        have same : (before.withWatchdog moved).watchdog = moved := by
          obtain ⟨_, _, _, _, _⟩ := moved
          cases clock
          rfl
        simp only [seen, Shows, same]
        exact stepped

end Monitored

end PeatSapient
