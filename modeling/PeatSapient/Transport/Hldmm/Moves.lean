import PeatSapient.Transport.Hldmm

/-! What one step of the HLDMM transport can do, with its guard. -/

namespace PeatSapient.Hldmm

open HashMap Execution

variable {F : Type}

def acceptAwaits : AcceptStage → Bool
  | .binding | .accepting => true
  | _ => false

def recvAwaits : RecvStage F → Bool
  | .receiving | .publishing _ => true
  | _ => false

def gone : RecvStage F → Bool
  | .idle | .returned | .cancelled => true
  | _ => false

structure Settled (state : Hldmm F) : Prop where
  accept : ∀ accept, (state.acceptLoops accept).aborted = true →
    (state.acceptLoops accept).stage = .ended
  recv : ∀ task, (state.recvLoops task).aborted = true →
    gone (state.recvLoops task).stage = true

variable [FloatOps F]

inductive Moves (prost : Codec.Prost (SapientMessage F)) (state : Hldmm F) :
    HldmmAction F → Hldmm F → Prop where
  | elapse (duration : Nat) :
      Moves prost state (.elapse duration) { state with clock := state.clock + duration }
  | start : Moves prost state .start state.start
  | stop (call : Nat) (here : state.calls call = .idle) :
      Moves prost state (.stop call) (state.stop call)
  | disconnect (call : Nat) (peerId : String) (here : state.calls call = .idle) :
      Moves prost state (.disconnect call peerId) (state.disconnect call peerId)
  | drain (call : Nat) (here : state.calls call = .draining) :
      Moves prost state (.advance call)
        ({ state.abortRecvs state.peers.tasks with
          peers := state.peers.drain
          started := none }.setCall call (.returned (.ok ())))
  | abortTask (call : Nat) (peerId : String) (record : PeerRecord)
      (here : state.calls call = .aborting peerId record) :
      Moves prost state (.advance call)
        ((state.abortRecvs [record.task]).setCall call
          (.announcing peerId (state.clock - record.connectedAt)))
  | announce (call : Nat) (peerId : String) (connectionDuration : Nat)
      (here : state.calls call = .announcing peerId connectionDuration) :
      Moves prost state (.advance call)
        ({ state with
          peers := state.peers.emitEvent
            (.disconnected peerId .localClosed connectionDuration) }.setCall call
              (.returned (.ok ())))
  | bound (accept : Nat) (ok : Bool) (here : (state.acceptLoops accept).stage = .binding)
      (live : (state.acceptLoops accept).aborted = false) :
      Moves prost state (.bound accept ok)
        (state.setAccept accept (if ok then .accepting else .ended))
  | accepted (accept : Nat) (peerId : String)
      (here : (state.acceptLoops accept).stage = .accepting)
      (live : (state.acceptLoops accept).aborted = false) :
      Moves prost state (.accepted accept (.ok peerId))
        (state.setAccept accept (.spawning peerId))
  | refused (accept : Nat) (error : SapientError)
      (here : (state.acceptLoops accept).stage = .accepting)
      (live : (state.acceptLoops accept).aborted = false) :
      Moves prost state (.accepted accept (.error error)) state
  | spawn (accept : Nat) (peerId : String)
      (here : (state.acceptLoops accept).stage = .spawning peerId) :
      Moves prost state (.proceed accept) (state.spawnRecv accept peerId)
  | register (accept : Nat) (peerId : String) (connectedAt task : Nat)
      (here : (state.acceptLoops accept).stage = .registering peerId connectedAt task) :
      Moves prost state (.proceed accept)
        ({ state with
          peers := state.peers.registerPeer peerId connectedAt task }.setAccept accept
            (.announcing peerId connectedAt))
  | announceOpen (accept : Nat) (peerId : String) (connectedAt : Nat)
      (here : (state.acceptLoops accept).stage = .announcing peerId connectedAt) :
      Moves prost state (.proceed accept)
        ({ state with
          peers := state.peers.emitEvent (.connected peerId connectedAt) }.setAccept accept
            .accepting)
  | receive (task : Nat) (answer : Except SapientError (Option (SapientMessage F)))
      (here : (state.recvLoops task).stage = .receiving)
      (live : (state.recvLoops task).aborted = false) :
      Moves prost state (.inbound task answer) (state.receiveInbound prost task answer)
  | publish (task : Nat) (publication : Publication F)
      (here : (state.recvLoops task).stage = .publishing publication)
      (live : (state.recvLoops task).aborted = false) :
      Moves prost state (.publishDone task)
        ({ state with published := state.published ++ [publication] }.setRecv task .receiving)
  | finish (task : Nat) (here : (state.recvLoops task).stage = .broken) :
      Moves prost state (.finish task)
        { state with
          recvLoops := Function.update state.recvLoops task
            { state.recvLoops task with stage := .returned, alive := false } }
  | cancelAccept (accept : Nat) (dead : (state.acceptLoops accept).aborted = true)
      (here : acceptAwaits (state.acceptLoops accept).stage = true) :
      Moves prost state (.cancelAccept accept) (state.setAccept accept .ended)
  | cancelRecv (task : Nat) (dead : (state.recvLoops task).aborted = true)
      (here : recvAwaits (state.recvLoops task).stage = true) :
      Moves prost state (.cancelRecv task) (state.setRecv task .cancelled)

theorem moves_of_stepCall (prost : Codec.Prost (SapientMessage F)) {state after : Hldmm F}
    {call : Nat} (taken : state.stepCall call = some after) :
    Moves prost state (.advance call) after := by
  unfold stepCall at taken
  split at taken
  · cases taken
  · cases taken
  · next here =>
      cases taken
      exact .drain call here
  · next peerId record here =>
      cases taken
      exact .abortTask call peerId record here
  · next peerId duration here =>
      cases taken
      exact .announce call peerId duration here

theorem moves_of_stepAccept (prost : Codec.Prost (SapientMessage F)) {state after : Hldmm F}
    {accept : Nat} (taken : state.stepAccept accept = some after) :
    Moves prost state (.proceed accept) after := by
  unfold stepAccept at taken
  split at taken
  · cases taken
  · cases taken
  · cases taken
  · cases taken
  · next peerId here =>
      cases taken
      exact .spawn accept peerId here
  · next peerId connectedAt task here =>
      cases taken
      exact .register accept peerId connectedAt task here
  · next peerId connectedAt here =>
      cases taken
      exact .announceOpen accept peerId connectedAt here

theorem moves_of_accepted (prost : Codec.Prost (SapientMessage F)) {state after : Hldmm F}
    {accept : Nat} {answer : Except SapientError String}
    (taken : step prost state (.accepted accept answer) = some after) :
    Moves prost state (.accepted accept answer) after := by
  simp only [step] at taken
  split at taken
  · next here =>
      obtain ⟨live, taken⟩ := of_live taken
      cases answer with
      | ok peerId =>
          cases taken
          exact .accepted accept peerId here live
      | error error =>
          cases taken
          exact .refused accept error here live
  · cases taken

theorem moves_of_cancelAccept (prost : Codec.Prost (SapientMessage F)) {state after : Hldmm F}
    {accept : Nat} (taken : step prost state (.cancelAccept accept) = some after) :
    Moves prost state (.cancelAccept accept) after := by
  simp only [step] at taken
  split at taken
  · next dead =>
      split at taken
      · next here =>
          cases taken
          exact .cancelAccept accept dead (by rw [here]; rfl)
      · next here =>
          cases taken
          exact .cancelAccept accept dead (by rw [here]; rfl)
      · cases taken
  · cases taken

theorem moves_of_cancelRecv (prost : Codec.Prost (SapientMessage F)) {state after : Hldmm F}
    {task : Nat} (taken : step prost state (.cancelRecv task) = some after) :
    Moves prost state (.cancelRecv task) after := by
  simp only [step] at taken
  split at taken
  · next dead =>
      split at taken
      · next here =>
          cases taken
          exact .cancelRecv task dead (by rw [here]; rfl)
      · next publication here =>
          cases taken
          exact .cancelRecv task dead (by rw [here]; rfl)
      · cases taken
  · cases taken

theorem moves_of_step (prost : Codec.Prost (SapientMessage F)) {state after : Hldmm F}
    {action : HldmmAction F} (taken : step prost state action = some after) :
    Moves prost state action after := by
  cases action with
  | elapse duration =>
      cases taken
      exact .elapse duration
  | start =>
      cases taken
      exact .start
  | stop call =>
      simp only [step] at taken
      split at taken
      · next here =>
          cases taken
          exact .stop call here
      · cases taken
  | disconnect call peerId =>
      simp only [step] at taken
      split at taken
      · next here =>
          cases taken
          exact .disconnect call peerId here
      · cases taken
  | advance call => exact moves_of_stepCall prost taken
  | bound accept ok =>
      simp only [step] at taken
      split at taken
      · next here =>
          obtain ⟨live, same⟩ := of_live taken
          cases same
          exact .bound accept ok here live
      · cases taken
  | accepted accept answer =>
      exact moves_of_accepted prost taken
  | proceed accept => exact moves_of_stepAccept prost taken
  | inbound task answer =>
      simp only [step] at taken
      split at taken
      · next here =>
          obtain ⟨live, same⟩ := of_live taken
          cases same
          exact .receive task answer here live
      · cases taken
  | publishDone task =>
      simp only [step] at taken
      split at taken
      · next publication here =>
          obtain ⟨live, same⟩ := of_live taken
          cases same
          exact .publish task publication here live
      · cases taken
  | finish task =>
      simp only [step] at taken
      split at taken
      · next here =>
          cases taken
          exact .finish task here
      · cases taken
  | cancelAccept accept =>
      exact moves_of_cancelAccept prost taken
  | cancelRecv task =>
      exact moves_of_cancelRecv prost taken

theorem calls_kept (prost : Codec.Prost (SapientMessage F)) {state after : Hldmm F}
    {action : HldmmAction F} (moved : Moves prost state action after) (call : Nat) :
    after.calls call = state.calls call ∨ state.calls call = .idle ∨
      action = .advance call ∧ (state.calls call).busy = true := by
  have update : ∀ other stage, call ≠ other →
      Function.update state.calls other stage call = state.calls call :=
    fun other stage distinct => Function.update_of_ne distinct stage state.calls
  cases moved with
  | stop other here | disconnect other peerId here =>
      by_cases same : call = other
      · subst same
        exact Or.inr (Or.inl here)
      · exact Or.inl (update other _ same)
  | drain other here | abortTask other peerId record here | announce other peerId since here =>
      by_cases same : call = other
      · subst same
        exact Or.inr (Or.inr ⟨rfl, by rw [here]; rfl⟩)
      · exact Or.inl (update other _ same)
  | receive task answer here live =>
      left
      unfold receiveInbound
      split <;> rfl
  | _ => exact Or.inl rfl

end PeatSapient.Hldmm
