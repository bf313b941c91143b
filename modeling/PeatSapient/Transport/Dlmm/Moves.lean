import PeatSapient.Transport.Dlmm

/-! What one step of the DLMM transport can do, with its guard. -/

namespace PeatSapient.Dlmm

open HashMap Mpsc Execution

variable {F : Type}

def awaits : PeerLoop F → Bool
  | .selecting | .publishing _ | .sending _ => true
  | _ => false

def gone : PeerLoop F → Bool
  | .idle | .returned | .cancelled => true
  | _ => false

/-- Each aborted task has come to its next await point, and ended there. -/
structure Settled (state : Dlmm F) : Prop where
  connect : state.connectAborted = true → state.connectLoop = .ended
  peer : state.peerAborted = true → gone state.peerLoop = true

def aside : DlmmAction F → Bool
  | .elapse _ | .sendOutbound _ | .inbound _ | .publishDone | .takeOutbound | .sendRawDone _
  | .finish | .cancelPeer => true
  | _ => false

structure Apart (state after : Dlmm F) : Prop where
  calls : after.calls = state.calls
  peers : after.peers = state.peers
  current : after.current = state.current
  listenerTask : after.listenerTask = state.listenerTask
  connectLoop : after.connectLoop = state.connectLoop
  connectAborted : after.connectAborted = state.connectAborted
  peerAborted : after.peerAborted = state.peerAborted
  peerGone : gone state.peerLoop = true → gone after.peerLoop = true

/-- The receiver is with the transport until the loop starts, and no peer loop runs before
the first connection. -/
structure Founded (state : Dlmm F) : Prop where
  unstarted : state.outboundRx = true → state.connectLoop = .idle
  unconnected : state.handed = [] → state.peerLoop = .idle

def sampleConfig : DlmmConfig Float where
  peerNodeId := "hldmm"
  prost := ⟨fun _ => [], fun _ => .error ⟨"buffer underflow"⟩⟩

variable [FloatOps F]

inductive Moves (config : DlmmConfig F) (state : Dlmm F) : DlmmAction F → Dlmm F → Prop where
  | elapse (duration : Nat) :
      Moves config state (.elapse duration) { state with clock := state.clock + duration }
  | start : Moves config state .start state.start
  | stop (call : Nat) (here : state.calls call = .idle) :
      Moves config state (.stop call) (state.stop call)
  | disconnect (call : Nat) (peerId : String) (here : state.calls call = .idle) :
      Moves config state (.disconnect call peerId) (state.disconnect call peerId)
  | drain (call : Nat) (here : state.calls call = .draining) :
      Moves config state (.advance call)
        ({ state with
          peerAborted := state.abort state.peers.tasks
          peers := state.peers.drain
          started := none }.setCall call (.returned (.ok ())))
  | abortTask (call : Nat) (peerId : String) (record : PeerRecord)
      (here : state.calls call = .aborting peerId record) :
      Moves config state (.advance call)
        ({ state with peerAborted := state.abort [record.task] }.setCall call
          (.announcing peerId (state.clock - record.connectedAt)))
  | announce (call : Nat) (peerId : String) (connectionDuration : Nat)
      (here : state.calls call = .announcing peerId connectionDuration) :
      Moves config state (.advance call)
        ({ state with
          peers := state.peers.emitEvent
            (.disconnected peerId .localClosed connectionDuration) }.setCall call
              (.returned (.ok ())))
  | accept (raw : Codec.Bytes) (outbound : Channel Codec.Bytes)
      (alive : state.outbound.closed = false) (sent : state.outbound.send raw = some outbound) :
      Moves config state (.sendOutbound raw)
        { state with outbound := outbound, accepted := state.accepted ++ [raw] }
  | refuse (raw : Codec.Bytes) (outbound : Channel Codec.Bytes)
      (gone : state.outbound.closed = true) (sent : state.outbound.send raw = some outbound) :
      Moves config state (.sendOutbound raw) { state with outbound := outbound }
  | connected (here : state.connectLoop = .dialling) (live : state.connectAborted = false) :
      Moves config state .connected { state with connectLoop := .spawning }
  | spawn (here : state.connectLoop = .spawning) :
      Moves config state .proceed state.spawnPeer
  | register (connectedAt : Nat) (here : state.connectLoop = .registering connectedAt) :
      Moves config state .proceed
        { state with
          peers := state.peers.registerPeer config.peerNodeId connectedAt state.current
          connectLoop := .announcing connectedAt }
  | announceOpen (connectedAt : Nat) (here : state.connectLoop = .announcing connectedAt) :
      Moves config state .proceed
        { state with
          peers := state.peers.emitEvent (.connected config.peerNodeId connectedAt)
          connectLoop := .awaiting connectedAt }
  | takeBack (connectedAt : Nat) (here : state.connectLoop = .awaiting connectedAt)
      (live : state.connectAborted = false) (back : state.peerLoop = .returned) :
      Moves config state .proceed { state with connectLoop := .checking connectedAt }
  | giveUp (connectedAt : Nat) (here : state.connectLoop = .awaiting connectedAt)
      (live : state.connectAborted = false) (lost : state.peerLoop = .cancelled) :
      Moves config state .proceed { state with connectLoop := .ended }
  | recheck (connectedAt : Nat) (here : state.connectLoop = .checking connectedAt)
      (present : (state.peers.records.lookup config.peerNodeId).isSome = true) :
      Moves config state .proceed { state with connectLoop := .deregistering connectedAt }
  | leave (connectedAt : Nat) (here : state.connectLoop = .checking connectedAt)
      (absent : state.peers.records.lookup config.peerNodeId = none) :
      Moves config state .proceed
        { state with connectLoop := .ended, outbound := state.outbound.close }
  | deregister (connectedAt : Nat) (here : state.connectLoop = .deregistering connectedAt) :
      Moves config state .proceed
        { state with
          peers := state.peers.removePeer config.peerNodeId
          connectLoop := .reporting connectedAt }
  | report (connectedAt : Nat) (here : state.connectLoop = .reporting connectedAt) :
      Moves config state .proceed
        { state with
          peers := state.peers.emitEvent
            (.disconnected config.peerNodeId .remoteClosed (state.clock - connectedAt))
          connectLoop := .dialling }
  | receive (answer : Except SapientError (Option (SapientMessage F)))
      (here : state.peerLoop = .selecting) (live : state.peerAborted = false) :
      Moves config state (.inbound answer) (state.receiveInbound config answer)
  | publish (publication : Publication F) (here : state.peerLoop = .publishing publication)
      (live : state.peerAborted = false) :
      Moves config state .publishDone
        { state with
          published := state.published ++ [publication]
          peerLoop := .selecting }
  | take (raw : Codec.Bytes) (outbound : Channel Codec.Bytes)
      (here : state.peerLoop = .selecting) (live : state.peerAborted = false)
      (taken : state.outbound.recv = some (raw, outbound)) :
      Moves config state .takeOutbound
        { state with outbound := outbound, peerLoop := .sending raw }
  | sent (raw : Codec.Bytes) (here : state.peerLoop = .sending raw)
      (live : state.peerAborted = false) :
      Moves config state (.sendRawDone true)
        { state with handed := handOver raw state.handed, peerLoop := .selecting }
  | failed (raw : Codec.Bytes) (here : state.peerLoop = .sending raw)
      (live : state.peerAborted = false) :
      Moves config state (.sendRawDone false) { state with peerLoop := .broken }
  | finish (here : state.peerLoop = .broken) :
      Moves config state .finish
        { state with
          alive := fun task => task != state.current && state.alive task
          peerLoop := .returned
          outbound := if state.connectLoop = .ended then state.outbound.close
            else state.outbound }
  | cancelDialling (dead : state.connectAborted = true)
      (here : state.connectLoop = .dialling) :
      Moves config state .cancelConnect
        { state with connectLoop := .ended, outbound := state.outbound.close }
  | cancelTakeBack (connectedAt : Nat) (dead : state.connectAborted = true)
      (here : state.connectLoop = .awaiting connectedAt) (back : state.peerLoop = .returned) :
      Moves config state .cancelConnect
        { state with connectLoop := .ended, outbound := state.outbound.close }
  | cancelAwaiting (connectedAt : Nat) (dead : state.connectAborted = true)
      (here : state.connectLoop = .awaiting connectedAt)
      (away : state.peerLoop ≠ .returned) :
      Moves config state .cancelConnect { state with connectLoop := .ended }
  | cancelPeer (dead : state.peerAborted = true) (here : awaits state.peerLoop = true) :
      Moves config state .cancelPeer
        { state with peerLoop := .cancelled, outbound := state.outbound.close }

theorem moves_of_stepConnect (config : DlmmConfig F) {state after : Dlmm F}
    (taken : state.stepConnect config = some after) : Moves config state .proceed after := by
  unfold stepConnect at taken
  split at taken
  · cases taken
  · cases taken
  · cases taken
  · next here =>
      cases taken
      exact .spawn here
  · next connectedAt here =>
      cases taken
      exact .register connectedAt here
  · next connectedAt here =>
      cases taken
      exact .announceOpen connectedAt here
  · next connectedAt here =>
      split at taken
      · cases taken
      · next live =>
          split at taken
          · next back =>
              cases taken
              exact .takeBack connectedAt here (eq_false_of_ne_true live) back
          · next lost =>
              cases taken
              exact .giveUp connectedAt here (eq_false_of_ne_true live) lost
          · cases taken
  · next connectedAt here =>
      split at taken
      · next present =>
          cases taken
          exact .recheck connectedAt here present
      · next absent =>
          cases taken
          exact .leave connectedAt here (by simpa using absent)
  · next connectedAt here =>
      cases taken
      exact .deregister connectedAt here
  · next connectedAt here =>
      cases taken
      exact .report connectedAt here

theorem moves_of_stepCall (config : DlmmConfig F) {state after : Dlmm F} {call : Nat}
    (taken : state.stepCall call = some after) : Moves config state (.advance call) after := by
  unfold stepCall at taken
  split at taken
  · cases taken
  · cases taken
  · next here =>
      cases taken
      exact .drain call here
  · next peerId record here =>
      cases taken
      exact .abortTask call peerId record here
  · next peerId duration here =>
      cases taken
      exact .announce call peerId duration here

theorem moves_of_takeOutbound (config : DlmmConfig F) {state after : Dlmm F}
    (taken : step config state .takeOutbound = some after) :
    Moves config state .takeOutbound after := by
  simp only [step] at taken
  split at taken
  · next here =>
      obtain ⟨live, taken⟩ := of_live taken
      split at taken
      · cases taken
      · next raw outbound received =>
          cases taken
          exact .take raw outbound here live received
  · cases taken

theorem moves_of_sendRawDone (config : DlmmConfig F) {state after : Dlmm F}
    {ok : Bool} (taken : step config state (.sendRawDone ok) = some after) :
    Moves config state (.sendRawDone ok) after := by
  simp only [step] at taken
  split at taken
  · next raw here =>
      obtain ⟨live, taken⟩ := of_live taken
      cases ok with
      | true =>
          cases taken
          exact .sent raw here live
      | false =>
          cases taken
          exact .failed raw here live
  · cases taken

theorem moves_of_cancelConnect (config : DlmmConfig F) {state after : Dlmm F}
    (taken : step config state .cancelConnect = some after) :
    Moves config state .cancelConnect after := by
  simp only [step] at taken
  split at taken
  · next dead =>
      split at taken
      · next here =>
          cases taken
          exact .cancelDialling dead here
      · next since here =>
          split at taken
          · next back =>
              cases taken
              exact .cancelTakeBack since dead here back
          · next away =>
              cases taken
              exact .cancelAwaiting since dead here away
      · cases taken
  · cases taken

theorem moves_of_cancelPeer (config : DlmmConfig F) {state after : Dlmm F}
    (taken : step config state .cancelPeer = some after) :
    Moves config state .cancelPeer after := by
  simp only [step] at taken
  split at taken
  · next dead =>
      split at taken
      · next here =>
          cases taken
          exact .cancelPeer dead (by rw [here]; rfl)
      · next publication here =>
          cases taken
          exact .cancelPeer dead (by rw [here]; rfl)
      · next raw here =>
          cases taken
          exact .cancelPeer dead (by rw [here]; rfl)
      · cases taken
  · cases taken

theorem moves_of_step (config : DlmmConfig F) {state after : Dlmm F} {action : DlmmAction F}
    (taken : step config state action = some after) : Moves config state action after := by
  cases action with
  | elapse duration =>
      cases taken
      exact .elapse duration
  | start =>
      cases taken
      exact .start
  | stop call =>
      simp only [step] at taken
      split at taken
      · next here =>
          cases taken
          exact .stop call here
      · cases taken
  | disconnect call peerId =>
      simp only [step] at taken
      split at taken
      · next here =>
          cases taken
          exact .disconnect call peerId here
      · cases taken
  | advance call => exact moves_of_stepCall config taken
  | sendOutbound raw =>
      simp only [step] at taken
      split at taken
      · cases taken
      · next outbound sent =>
          cases taken
          cases gone : state.outbound.closed with
          | true => simpa [gone] using Moves.refuse raw outbound gone sent
          | false => simpa [gone] using Moves.accept raw outbound gone sent
  | connected =>
      simp only [step] at taken
      split at taken
      · next here =>
          obtain ⟨live, same⟩ := of_live taken
          cases same
          exact .connected here live
      · cases taken
  | proceed => exact moves_of_stepConnect config taken
  | inbound answer =>
      simp only [step] at taken
      split at taken
      · next here =>
          obtain ⟨live, same⟩ := of_live taken
          cases same
          exact .receive answer here live
      · cases taken
  | publishDone =>
      simp only [step] at taken
      split at taken
      · next publication here =>
          obtain ⟨live, same⟩ := of_live taken
          cases same
          exact .publish publication here live
      · cases taken
  | takeOutbound =>
      exact moves_of_takeOutbound config taken
  | sendRawDone ok =>
      exact moves_of_sendRawDone config taken
  | finish =>
      simp only [step] at taken
      split at taken
      · next here =>
          cases taken
          exact .finish here
      · cases taken
  | cancelConnect =>
      exact moves_of_cancelConnect config taken
  | cancelPeer =>
      exact moves_of_cancelPeer config taken

omit [FloatOps F] in
theorem length_handOver (raw : Codec.Bytes) {handed : List (List Codec.Bytes)}
    (connected : handed ≠ []) : (handOver raw handed).length = handed.length := by
  cases handed with
  | nil => exact absurd rfl connected
  | cons latest earlier => rfl

theorem founded_step (config : DlmmConfig F) {state after : Dlmm F} {action : DlmmAction F}
    (founded : Founded state) (moved : Moves config state action after) : Founded after := by
  have started : ∀ stage, state.connectLoop = stage → stage ≠ .idle →
      state.outboundRx = true → False := by
    intro stage here busy untaken
    rw [founded.unstarted untaken] at here
    exact busy here.symm
  have connected : ∀ stage, state.peerLoop = stage → stage ≠ .idle → state.handed = [] →
      False := by
    intro stage here busy none_
    rw [founded.unconnected none_] at here
    exact busy here.symm
  cases moved with
  | elapse | accept | refuse | stop | disconnect | drain | abortTask | announce =>
      exact ⟨founded.unstarted, founded.unconnected⟩
  | start =>
      unfold start
      split
      · exact ⟨fun taken => absurd taken (by simp), founded.unconnected⟩
      · exact ⟨founded.unstarted, founded.unconnected⟩
  | connected here | register since here | announceOpen since here | takeBack since here
  | giveUp since here | recheck since here | leave since here | deregister since here
  | report since here =>
      refine ⟨fun untaken => (started _ here ?_ untaken).elim, founded.unconnected⟩
      simp
  | cancelDialling dead here | cancelTakeBack since dead here
  | cancelAwaiting since dead here =>
      refine ⟨fun untaken => (started _ here ?_ untaken).elim, founded.unconnected⟩
      simp
  | spawn here =>
      refine ⟨fun untaken => (started _ here ?_ untaken).elim, fun none_ => ?_⟩
      · simp
      · cases none_
  | receive answer here live =>
      unfold receiveInbound
      split <;> exact ⟨founded.unstarted, fun none_ => (connected _ here (by simp) none_).elim⟩
  | publish publication here | take raw outbound here | failed raw here | finish here =>
      exact ⟨founded.unstarted, fun none_ => (connected _ here (by simp) none_).elim⟩
  | sent raw here live =>
      refine ⟨founded.unstarted, fun none_ => ?_⟩
      cases handed : state.handed <;> simp [handOver, handed] at none_
  | cancelPeer dead here =>
      refine ⟨founded.unstarted, fun none_ => ?_⟩
      rw [founded.unconnected none_] at here
      cases here

theorem founded_run (config : DlmmConfig F) {trace : Trace (Dlmm F) (DlmmAction F)}
    {state : Dlmm F} (run : Run (machine config) trace state) : Founded state :=
  run.invariant (fun _ state => Founded state) ⟨fun _ => rfl, fun _ => rfl⟩
    fun _ _ _ _ _ held taken => founded_step config held (moves_of_step config taken)

theorem apart_of_aside (config : DlmmConfig F) {state after : Dlmm F} {action : DlmmAction F}
    (founded : Founded state) (moved : Moves config state action after)
    (quiet : aside action = true) : Apart state after := by
  cases moved with
  | elapse | accept | refuse => exact ⟨rfl, rfl, rfl, rfl, rfl, rfl, rfl, fun before => before⟩
  | receive answer here live =>
      unfold receiveInbound
      split <;>
      · refine ⟨rfl, rfl, rfl, rfl, rfl, rfl, rfl, fun before => ?_⟩
        rw [here] at before
        cases before
  | sent raw here live =>
      have connected : state.handed ≠ [] := by
        intro none_
        rw [founded.unconnected none_] at here
        cases here
      refine ⟨rfl, rfl, length_handOver raw connected, rfl, rfl, rfl, rfl, fun before => ?_⟩
      rw [here] at before
      cases before
  | publish publication here | take raw outbound here | failed raw here =>
      refine ⟨rfl, rfl, rfl, rfl, rfl, rfl, rfl, fun before => ?_⟩
      rw [here] at before
      cases before
  | finish | cancelPeer => exact ⟨rfl, rfl, rfl, rfl, rfl, rfl, rfl, fun _ => rfl⟩
  | _ => cases quiet

omit [FloatOps F] in
/-- A second `start()` panics. -/
theorem start_cases {state : Dlmm F} (founded : Founded state) :
    (state.connectLoop = .idle ∧ state.start =
      { state with
        outboundRx := false
        connectLoop := .dialling
        connectAborted := false
        listenerTask := true
        started := some state.clock }) ∨ Apart state state.start := by
  unfold start
  split
  · next untaken => exact Or.inl ⟨founded.unstarted untaken, rfl⟩
  · exact Or.inr ⟨rfl, rfl, rfl, rfl, rfl, rfl, rfl, fun before => before⟩

theorem calls_kept (config : DlmmConfig F) {state after : Dlmm F} {action : DlmmAction F}
    (founded : Founded state) (moved : Moves config state action after) (call : Nat) :
    after.calls call = state.calls call ∨ state.calls call = .idle ∨
      action = .advance call ∧ (state.calls call).busy = true := by
  have apart := apart_of_aside config founded moved
  have update : ∀ other stage, call ≠ other →
      Function.update state.calls other stage call = state.calls call :=
    fun other stage distinct => Function.update_of_ne distinct stage state.calls
  cases moved with
  | elapse | accept | refuse | receive | publish | take | sent | failed | finish
  | cancelPeer =>
      left
      rw [(apart rfl).calls]
  | start =>
      left
      rcases start_cases founded with ⟨_, started⟩ | apart
      · rw [started]
      · rw [apart.calls]
  | stop other here | disconnect other peerId here =>
      by_cases same : call = other
      · subst same
        exact Or.inr (Or.inl here)
      · exact Or.inl (update other _ same)
  | drain other here | abortTask other peerId record here | announce other peerId since here =>
      by_cases same : call = other
      · subst same
        exact Or.inr (Or.inr ⟨rfl, by rw [here]; rfl⟩)
      · exact Or.inl (update other _ same)
  | _ => exact Or.inl rfl

theorem returned_step (config : DlmmConfig F) {state after : Dlmm F} {action : DlmmAction F}
    {call : Nat} {result : Except TransportError Unit} (founded : Founded state)
    (moved : Moves config state action after) (returned : state.calls call = .returned result) :
    after.calls call = .returned result := by
  rcases calls_kept config founded moved call with kept | idle | ⟨_, busy⟩
  · rw [kept]
    exact returned
  · rw [returned] at idle
    cases idle
  · rw [returned] at busy
    cases busy

end PeatSapient.Dlmm
