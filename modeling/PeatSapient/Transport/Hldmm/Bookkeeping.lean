import PeatSapient.Transport.Dlmm.Bookkeeping
import PeatSapient.Transport.Hldmm.Moves

/-! The peer map in HLDMM mode, where each connection and each call is handled to completion
before the next. The receive loop leaves the record as it is, so a connection that ends by
itself stays in the map until `disconnect()` is called for the peer. -/

namespace PeatSapient

open HashMap Execution

variable {F : Type}

namespace Hldmm

def lifecycle : HldmmAction F → Bool
  | .start | .accepted _ (.ok _) | .disconnect _ _ => true
  | .inbound _ (.ok none) | .inbound _ (.error _) => true
  | _ => false

def acceptRests : AcceptStage → Bool
  | .idle | .binding | .accepting | .ended => true
  | _ => false

structure Quiet (state : Hldmm F) : Prop where
  calls : ∀ call, (state.calls call).busy = false
  accepts : ∀ accept, acceptRests (state.acceptLoops accept).stage = true
  recvs : ∀ task, gone (state.recvLoops task).stage = true ∨
    recvAwaits (state.recvLoops task).stage = true
  settled : Settled state

def Sequential (state : Hldmm F) (action : HldmmAction F) : Prop :=
  (∀ call, action ≠ .stop call) ∧ (lifecycle action = true → Quiet state)

/-- No connection is accepted from a peer whose record is still in the map. -/
def acceptsFresh (state : Hldmm F) : HldmmAction F → Bool
  | .accepted _ (.ok peerId) => (state.peers.records.lookup peerId).isNone
  | _ => true

/-- The peers whose connection has ended by itself, less those that `disconnect()` has been
called for since. -/
def lapsed : Trace (Hldmm F) (HldmmAction F) → List String
  | [] => []
  | (state, .inbound task (.ok none)) :: earlier =>
      (state.recvLoops task).peerId :: lapsed earlier
  | (state, .inbound task (.error _)) :: earlier =>
      (state.recvLoops task).peerId :: lapsed earlier
  | (_, .disconnect _ peerId) :: earlier => (lapsed earlier).filter (· != peerId)
  | _ :: earlier => lapsed earlier

def runs (state : Hldmm F) (peerId : String) : Prop :=
  ∃ task, (state.recvLoops task).peerId = peerId ∧ gone (state.recvLoops task).stage = false

def listed (state : Hldmm F) (peerId : String) : Bool :=
  (state.peers.records.lookup peerId).isSome

def overStage : RecvStage F → Bool
  | .broken | .returned => true
  | _ => false

/-- The map has the peer, and its receive loop has left by itself. -/
def Stray (state : Hldmm F) (peerId : String) : Prop :=
  ∃ record, state.peers.records.lookup peerId = some record ∧
    overStage (state.recvLoops record.task).stage = true

/-- Records, receive loops and events agree, but for the accept loop, the call and the
receive loop that are being handled. -/
structure Balanced (state : Hldmm F) (accepting calling loose : Option Nat)
    (shown : String → Bool) : Prop where
  accepts : ∀ accept, accepting ≠ some accept →
    acceptRests (state.acceptLoops accept).stage = true
  calls : ∀ call, calling ≠ some call → (state.calls call).busy = false
  recorded : ∀ peerId record, state.peers.records.lookup peerId = some record →
    (state.recvLoops record.task).peerId = peerId ∧
      (state.recvLoops record.task).aborted = false ∧
      (recvAwaits (state.recvLoops record.task).stage = true ∨
        overStage (state.recvLoops record.task).stage = true)
  recent : ∀ peerId record, state.peers.records.lookup peerId = some record →
    record.task < state.recvCount
  held : ∀ task, recvAwaits (state.recvLoops task).stage = true →
    (state.recvLoops task).aborted = false → loose = some task ∨
      ∃ record, state.peers.records.lookup (state.recvLoops task).peerId = some record ∧
        record.task = task
  announced : ∀ peerId, PeerMap.paired peerId state.peers.events = some (shown peerId)

inductive Phase (state : Hldmm F) : Prop where
  | rest (balanced : Balanced state none none none (listed state))
  | spawning (accept : Nat) (peerId : String)
      (here : (state.acceptLoops accept).stage = .spawning peerId)
      (absent : state.peers.records.lookup peerId = none)
      (balanced : Balanced state (some accept) none none (listed state))
  | registering (accept : Nat) (peerId : String) (since task : Nat)
      (here : (state.acceptLoops accept).stage = .registering peerId since task)
      (absent : state.peers.records.lookup peerId = none)
      (own : (state.recvLoops task).peerId = peerId)
      (live : (state.recvLoops task).aborted = false)
      (running : recvAwaits (state.recvLoops task).stage = true)
      (recent : task < state.recvCount)
      (balanced : Balanced state (some accept) none (some task) (listed state))
  | announcing (accept : Nat) (peerId : String) (since : Nat)
      (here : (state.acceptLoops accept).stage = .announcing peerId since)
      (present : listed state peerId = true)
      (balanced : Balanced state (some accept) none none
        (Function.update (listed state) peerId false))
  | aborting (call : Nat) (peerId : String) (record : PeerRecord)
      (here : state.calls call = .aborting peerId record)
      (absent : listed state peerId = false)
      (own : (state.recvLoops record.task).peerId = peerId)
      (balanced : Balanced state none (some call) (some record.task)
        (Function.update (listed state) peerId true))
  | reporting (call : Nat) (peerId : String) (since : Nat)
      (here : state.calls call = .announcing peerId since)
      (absent : listed state peerId = false)
      (balanced : Balanced state none (some call) none
        (Function.update (listed state) peerId true))

theorem Balanced.recv {state after : Hldmm F} {accepting calling loose : Option Nat}
    {shown : String → Bool} (balanced : Balanced state accepting calling loose shown)
    {moving : Nat} {loop : RecvLoop F}
    (recvLoops : after.recvLoops = Function.update state.recvLoops moving loop)
    (peerId : loop.peerId = (state.recvLoops moving).peerId)
    (aborted : loop.aborted = (state.recvLoops moving).aborted)
    (stays : (state.recvLoops moving).aborted = false →
      recvAwaits loop.stage = true ∨ overStage loop.stage = true)
    (begun : recvAwaits loop.stage = true → recvAwaits (state.recvLoops moving).stage = true)
    (accepts : after.acceptLoops = state.acceptLoops) (calls : after.calls = state.calls)
    (peers : after.peers = state.peers) (recvCount : after.recvCount = state.recvCount) :
    Balanced after accepting calling loose shown := by
  constructor
  · rw [accepts]
    exact balanced.accepts
  · rw [calls]
    exact balanced.calls
  · rw [peers, recvLoops]
    intro otherId record found
    obtain ⟨own, live, stage⟩ := balanced.recorded otherId record found
    by_cases same : record.task = moving
    · rw [same] at own live ⊢
      rw [Function.update_self]
      exact ⟨peerId.trans own, aborted.trans live, stays live⟩
    · rw [Function.update_of_ne same]
      exact ⟨own, live, stage⟩
  · rw [peers, recvCount]
    exact balanced.recent
  · rw [peers, recvLoops]
    intro task
    by_cases same : task = moving
    · subst same
      rw [Function.update_self, peerId, aborted]
      exact fun running => balanced.held task (begun running)
    · rw [Function.update_of_ne same]
      exact balanced.held task
  · rw [peers]
    exact balanced.announced

theorem Phase.keep {state after : Hldmm F} (phase : Phase state)
    (keep : ∀ {accepting calling loose shown}, Balanced state accepting calling loose shown →
      Balanced after accepting calling loose shown)
    (accepts : ∀ {accept stage}, (state.acceptLoops accept).stage = stage →
      acceptRests stage = false → (after.acceptLoops accept).stage = stage)
    (calls : after.calls = state.calls) (peers : after.peers = state.peers)
    (recvCount : after.recvCount = state.recvCount)
    (owner : ∀ task, (after.recvLoops task).peerId = (state.recvLoops task).peerId)
    (runs : ∀ accept task, acceptRests (state.acceptLoops accept).stage = false →
      (state.recvLoops task).aborted = false →
      recvAwaits (state.recvLoops task).stage = true →
      (after.recvLoops task).aborted = false ∧
        recvAwaits (after.recvLoops task).stage = true) : Phase after := by
  have same : listed after = listed state := by
    unfold listed
    rw [peers]
  cases phase with
  | rest balanced =>
      refine .rest ?_
      rw [same]
      exact keep balanced
  | spawning accept peerId here absent balanced =>
      refine .spawning accept peerId (accepts here rfl) (by rw [peers]; exact absent) ?_
      rw [same]
      exact keep balanced
  | registering accept peerId since task here absent own live running recent balanced =>
      obtain ⟨live, running⟩ := runs accept task (by rw [here]; rfl) live running
      refine .registering accept peerId since task (accepts here rfl)
        (by rw [peers]; exact absent) ((owner task).trans own) live running
        (by rw [recvCount]; exact recent) ?_
      rw [same]
      exact keep balanced
  | announcing accept peerId since here present balanced =>
      refine .announcing accept peerId since (accepts here rfl) (by rw [same]; exact present) ?_
      rw [same]
      exact keep balanced
  | aborting call peerId record here absent own balanced =>
      refine .aborting call peerId record (by rw [calls]; exact here)
        (by rw [same]; exact absent) ((owner record.task).trans own) ?_
      rw [same]
      exact keep balanced
  | reporting call peerId since here absent balanced =>
      refine .reporting call peerId since (by rw [calls]; exact here)
        (by rw [same]; exact absent) ?_
      rw [same]
      exact keep balanced

/-- A receive loop moves on. While a connection is being accepted, it does not end. -/
theorem Phase.recv {state after : Hldmm F} (phase : Phase state) {moving : Nat}
    {loop : RecvLoop F}
    (recvLoops : after.recvLoops = Function.update state.recvLoops moving loop)
    (peerId : loop.peerId = (state.recvLoops moving).peerId)
    (aborted : loop.aborted = (state.recvLoops moving).aborted)
    (stays : (state.recvLoops moving).aborted = false →
      recvAwaits loop.stage = true ∨ overStage loop.stage = true)
    (begun : recvAwaits loop.stage = true → recvAwaits (state.recvLoops moving).stage = true)
    (goesOn : Quiet state ∨ ((state.recvLoops moving).aborted = false →
      recvAwaits (state.recvLoops moving).stage = true → recvAwaits loop.stage = true))
    (accepts : after.acceptLoops = state.acceptLoops) (calls : after.calls = state.calls)
    (peers : after.peers = state.peers) (recvCount : after.recvCount = state.recvCount) :
    Phase after := by
  apply phase.keep _ _ calls peers recvCount
  · intro task
    rw [recvLoops]
    by_cases same : task = moving
    · rw [same, Function.update_self, peerId]
    · rw [Function.update_of_ne same]
  · intro accept task busy live running
    rw [recvLoops]
    by_cases same : task = moving
    · subst same
      rw [Function.update_self, aborted]
      rcases goesOn with quiet | goesOn
      · rw [quiet.accepts accept] at busy
        cases busy
      · exact ⟨live, goesOn live running⟩
    · rw [Function.update_of_ne same]
      exact ⟨live, running⟩
  · exact fun balanced =>
      balanced.recv recvLoops peerId aborted stays begun accepts calls peers recvCount
  · rw [accepts]
    exact fun here _ => here

theorem Balanced.accept {state after : Hldmm F} {accepting accepting' calling loose : Option Nat}
    {shown : String → Bool} (balanced : Balanced state accepting calling loose shown)
    {moving : Nat} {loop : AcceptLoop}
    (acceptLoops : after.acceptLoops = Function.update state.acceptLoops moving loop)
    (self : accepting' = some moving ∨ acceptRests loop.stage = true)
    (others : ∀ accept, accept ≠ moving → accepting = some accept → accepting' = some accept)
    (calls : after.calls = state.calls) (peers : after.peers = state.peers)
    (recvLoops : after.recvLoops = state.recvLoops)
    (recvCount : after.recvCount = state.recvCount) :
    Balanced after accepting' calling loose shown := by
  constructor
  · rw [acceptLoops]
    intro accept away
    by_cases same : accept = moving
    · subst same
      rw [Function.update_self]
      exact self.resolve_left away
    · rw [Function.update_of_ne same]
      exact balanced.accepts accept fun here => away (others accept same here)
  · rw [calls]
    exact balanced.calls
  · rw [peers, recvLoops]
    exact balanced.recorded
  · rw [peers, recvCount]
    exact balanced.recent
  · rw [peers, recvLoops]
    exact balanced.held
  · rw [peers]
    exact balanced.announced

theorem Balanced.call {state after : Hldmm F} {accepting calling calling' loose : Option Nat}
    {shown : String → Bool} (balanced : Balanced state accepting calling loose shown)
    {moving : Nat} {stage : PeerCall}
    (calls : after.calls = Function.update state.calls moving stage)
    (self : calling' = some moving ∨ stage.busy = false)
    (others : ∀ call, call ≠ moving → calling = some call → calling' = some call)
    (acceptLoops : after.acceptLoops = state.acceptLoops) (peers : after.peers = state.peers)
    (recvLoops : after.recvLoops = state.recvLoops)
    (recvCount : after.recvCount = state.recvCount) :
    Balanced after accepting calling' loose shown := by
  constructor
  · rw [acceptLoops]
    exact balanced.accepts
  · rw [calls]
    intro call away
    by_cases same : call = moving
    · subst same
      rw [Function.update_self]
      exact self.resolve_left away
    · rw [Function.update_of_ne same]
      exact balanced.calls call fun here => away (others call same here)
  · rw [peers, recvLoops]
    exact balanced.recorded
  · rw [peers, recvCount]
    exact balanced.recent
  · rw [peers, recvLoops]
    exact balanced.held
  · rw [peers]
    exact balanced.announced

theorem Balanced.emit {state : Hldmm F} {accepting calling loose : Option Nat}
    {shown shown' : String → Bool} (balanced : Balanced state accepting calling loose shown)
    (event : PeerEvent)
    (announced : ∀ peerId, PeerMap.paired peerId (state.peers.events ++ [event]) =
      some (shown' peerId)) :
    Balanced { state with peers := state.peers.emitEvent event } accepting calling loose
      shown' :=
  ⟨balanced.accepts, balanced.calls, balanced.recorded, balanced.recent, balanced.held,
    announced⟩

theorem Balanced.register {state : Hldmm F} {accept task : Nat} {peerId : String}
    (balanced : Balanced state (some accept) none (some task) (listed state)) (since : Nat)
    (absent : state.peers.records.lookup peerId = none)
    (own : (state.recvLoops task).peerId = peerId)
    (live : (state.recvLoops task).aborted = false)
    (running : recvAwaits (state.recvLoops task).stage = true)
    (recent : task < state.recvCount) :
    Balanced { state with peers := state.peers.registerPeer peerId since task } (some accept)
      none none
      (Function.update
        (listed { state with peers := state.peers.registerPeer peerId since task })
        peerId false) := by
  have lookup := lookup_insert_eq state.peers.records peerId
  refine ⟨balanced.accepts, balanced.calls, ?_, ?_, ?_, ?_⟩
  · intro otherId record found
    have found := (lookup otherId _).symm.trans found
    split at found
    · next same =>
        cases found
        exact ⟨own.trans same.symm, live, Or.inl running⟩
    · exact balanced.recorded otherId record found
  · intro otherId record found
    have found := (lookup otherId _).symm.trans found
    split at found
    · cases found
      exact recent
    · exact balanced.recent otherId record found
  · intro other awaiting unaborted
    right
    rcases balanced.held other awaiting unaborted with latest | ⟨record, found, its⟩
    · cases latest
      refine ⟨⟨since, task⟩, (lookup _ _).trans ?_, rfl⟩
      rw [if_pos own]
    · have distinct : (state.recvLoops other).peerId ≠ peerId := by
        intro same
        rw [same, absent] at found
        cases found
      refine ⟨record, (lookup _ _).trans ?_, its⟩
      rw [if_neg distinct]
      exact found
  · intro otherId
    refine (balanced.announced otherId).trans (congrArg some ?_)
    by_cases same : otherId = peerId
    · subst same
      rw [Function.update_self, listed, absent]
      rfl
    · rw [Function.update_of_ne same]
      exact congrArg Option.isSome ((lookup otherId _).trans (if_neg same)).symm

theorem Balanced.spawn {state : Hldmm F} {accept : Nat} {shown : String → Bool}
    (balanced : Balanced state (some accept) none none shown) (peerId : String) :
    Balanced (state.spawnRecv accept peerId) (some accept) none (some state.recvCount)
      shown := by
  have earlier : ∀ otherId record, state.peers.records.lookup otherId = some record →
      (state.spawnRecv accept peerId).recvLoops record.task = state.recvLoops record.task := by
    intro otherId record found
    exact Function.update_of_ne (balanced.recent otherId record found).ne ..
  constructor
  · intro other away
    have distinct : other ≠ accept := fun same => away (by rw [same])
    refine (congrArg (fun loop => acceptRests (AcceptLoop.stage loop))
      (Function.update_of_ne distinct ..)).trans ?_
    exact balanced.accepts other away
  · exact balanced.calls
  · intro otherId record found
    rw [earlier otherId record found]
    exact balanced.recorded otherId record found
  · intro otherId record found
    exact Nat.lt_succ_of_lt (balanced.recent otherId record found)
  · intro task
    by_cases latest : task = state.recvCount
    · subst latest
      exact fun _ _ => Or.inl rfl
    · have same : (state.spawnRecv accept peerId).recvLoops task = state.recvLoops task :=
        Function.update_of_ne latest ..
      rw [same]
      intro awaiting live
      rcases balanced.held task awaiting live with none_ | recorded
      · cases none_
      · exact Or.inr recorded
  · exact balanced.announced

theorem Balanced.remove {state : Hldmm F}
    (balanced : Balanced state none none none (listed state)) {peerId : String}
    {record : PeerRecord} (found : state.peers.records.lookup peerId = some record) :
    Balanced { state with peers := state.peers.removePeer peerId } none none
      (some record.task)
      (Function.update (listed { state with peers := state.peers.removePeer peerId }) peerId
        true) := by
  have lookup := lookup_erase_eq state.peers.records peerId
  have kept : ∀ otherId other, (state.peers.removePeer peerId).records.lookup otherId =
      some other → state.peers.records.lookup otherId = some other := by
    intro otherId other there
    have there := (lookup otherId).symm.trans there
    split at there
    · cases there
    · exact there
  refine ⟨balanced.accepts, balanced.calls, ?_, ?_, ?_, ?_⟩
  · exact fun otherId other there => balanced.recorded otherId other (kept otherId other there)
  · exact fun otherId other there => balanced.recent otherId other (kept otherId other there)
  · intro task awaiting live
    rcases balanced.held task awaiting live with none_ | ⟨other, there, its⟩
    · cases none_
    · by_cases same : (state.recvLoops task).peerId = peerId
      · rw [same, found] at there
        cases there
        exact Or.inl (by rw [its])
      · refine Or.inr ⟨other, (lookup _).trans ?_, its⟩
        rw [if_neg same]
        exact there
  · intro otherId
    refine (balanced.announced otherId).trans (congrArg some ?_)
    by_cases same : otherId = peerId
    · subst same
      rw [Function.update_self, listed, found]
      rfl
    · rw [Function.update_of_ne same]
      exact congrArg Option.isSome ((lookup otherId).trans (if_neg same)).symm

theorem Balanced.abort {state : Hldmm F} {call : Nat} {peerId : String} {record : PeerRecord}
    {shown : String → Bool}
    (balanced : Balanced state none (some call) (some record.task) shown)
    (absent : listed state peerId = false)
    (own : (state.recvLoops record.task).peerId = peerId) :
    Balanced (state.abortRecvs [record.task]) none (some call) none shown := by
  have others : ∀ task, task ≠ record.task →
      ((state.abortRecvs [record.task]).recvLoops task).aborted =
        (state.recvLoops task).aborted := by
    intro task distinct
    simp [abortRecvs, distinct]
  refine ⟨balanced.accepts, balanced.calls, ?_, balanced.recent, ?_, balanced.announced⟩
  · intro otherId other found
    obtain ⟨its, live, stage⟩ := balanced.recorded otherId other found
    have distinct : other.task ≠ record.task := by
      intro same
      rw [same, own] at its
      subst its
      exact absurd ((congrArg Option.isSome found).symm.trans absent) (by simp)
    exact ⟨its, (others other.task distinct).trans live, stage⟩
  · intro task awaiting live
    right
    by_cases same : task = record.task
    · subst same
      simp [abortRecvs] at live
    · rw [others task same] at live
      rcases balanced.held task awaiting live with latest | recorded
      · exact absurd (Option.some.inj latest).symm same
      · exact recorded

theorem Balanced.mover {state : Hldmm F} {accepting calling loose : Option Nat}
    {shown : String → Bool} (balanced : Balanced state accepting calling loose shown) {call : Nat}
    (busy : (state.calls call).busy = true) : calling = some call := by
  by_contra distinct
  rw [balanced.calls call distinct] at busy
  cases busy

theorem Balanced.acceptor {state : Hldmm F} {accepting calling loose : Option Nat}
    {shown : String → Bool} (balanced : Balanced state accepting calling loose shown)
    {accept : Nat} (moving : acceptRests (state.acceptLoops accept).stage = false) :
    accepting = some accept := by
  by_contra distinct
  rw [balanced.accepts accept distinct] at moving
  cases moving

theorem Phase.call {state : Hldmm F} (phase : Phase state) {call : Nat}
    (busy : (state.calls call).busy = true) :
    (∃ peerId record, state.calls call = .aborting peerId record ∧
      listed state peerId = false ∧ (state.recvLoops record.task).peerId = peerId ∧
      Balanced state none (some call) (some record.task)
        (Function.update (listed state) peerId true)) ∨
    ∃ peerId since, state.calls call = .announcing peerId since ∧
      listed state peerId = false ∧
      Balanced state none (some call) none (Function.update (listed state) peerId true) := by
  cases phase with
  | rest balanced | spawning _ _ _ _ balanced | registering _ _ _ _ _ _ _ _ _ _ balanced
  | announcing _ _ _ _ _ balanced => cases balanced.mover busy
  | aborting other peerId record here absent own balanced =>
      cases balanced.mover busy
      exact Or.inl ⟨peerId, record, here, absent, own, balanced⟩
  | reporting other peerId since here absent balanced =>
      cases balanced.mover busy
      exact Or.inr ⟨peerId, since, here, absent, balanced⟩

/-- An accept loop between two awaits is the one being handled. -/
theorem Phase.acceptor {state : Hldmm F} (phase : Phase state) {accept : Nat}
    (moving : acceptRests (state.acceptLoops accept).stage = false) :
    (∃ peerId, (state.acceptLoops accept).stage = .spawning peerId ∧
      state.peers.records.lookup peerId = none ∧
      Balanced state (some accept) none none (listed state)) ∨
    (∃ peerId since task, (state.acceptLoops accept).stage = .registering peerId since task ∧
      state.peers.records.lookup peerId = none ∧
      (state.recvLoops task).peerId = peerId ∧ (state.recvLoops task).aborted = false ∧
      recvAwaits (state.recvLoops task).stage = true ∧ task < state.recvCount ∧
      Balanced state (some accept) none (some task) (listed state)) ∨
    ∃ peerId since, (state.acceptLoops accept).stage = .announcing peerId since ∧
      listed state peerId = true ∧
      Balanced state (some accept) none none
        (Function.update (listed state) peerId false) := by
  cases phase with
  | rest balanced | aborting _ _ _ _ _ _ balanced | reporting _ _ _ _ _ balanced =>
      cases balanced.acceptor moving
  | spawning other peerId here absent balanced =>
      cases balanced.acceptor moving
      exact Or.inl ⟨peerId, here, absent, balanced⟩
  | registering other peerId since task here absent own live running recent balanced =>
      cases balanced.acceptor moving
      exact Or.inr (Or.inl ⟨peerId, since, task, here, absent, own, live, running, recent,
        balanced⟩)
  | announcing other peerId since here present balanced =>
      cases balanced.acceptor moving
      exact Or.inr (Or.inr ⟨peerId, since, here, present, balanced⟩)

theorem Phase.not_draining {state : Hldmm F} (phase : Phase state) (call : Nat) :
    state.calls call ≠ .draining := by
  intro here
  rcases phase.call (by rw [here]; rfl) with ⟨_, _, there, _⟩ | ⟨_, _, there, _⟩ <;>
  · rw [here] at there
    cases there

theorem Phase.of_aborting {state : Hldmm F} (phase : Phase state) {call : Nat}
    {peerId : String} {record : PeerRecord}
    (here : state.calls call = .aborting peerId record) :
    listed state peerId = false ∧ (state.recvLoops record.task).peerId = peerId ∧
      Balanced state none (some call) (some record.task)
        (Function.update (listed state) peerId true) := by
  rcases phase.call (by rw [here]; rfl) with ⟨_, _, there, known⟩ | ⟨_, _, there, _⟩
  · rw [here] at there
    cases there
    exact known
  · rw [here] at there
    cases there

theorem Phase.of_reporting {state : Hldmm F} (phase : Phase state) {call : Nat}
    {peerId : String} {since : Nat} (here : state.calls call = .announcing peerId since) :
    listed state peerId = false ∧
      Balanced state none (some call) none (Function.update (listed state) peerId true) := by
  rcases phase.call (by rw [here]; rfl) with ⟨_, _, there, _⟩ | ⟨_, _, there, known⟩
  · rw [here] at there
    cases there
  · rw [here] at there
    cases there
    exact known

theorem Phase.of_spawning {state : Hldmm F} (phase : Phase state) {accept : Nat}
    {peerId : String} (here : (state.acceptLoops accept).stage = .spawning peerId) :
    state.peers.records.lookup peerId = none ∧
      Balanced state (some accept) none none (listed state) := by
  rcases phase.acceptor (by rw [here]; rfl) with
    ⟨_, there, known⟩ | ⟨_, _, _, there, _⟩ | ⟨_, _, there, _⟩
  · rw [here] at there
    cases there
    exact known
  · rw [here] at there
    cases there
  · rw [here] at there
    cases there

theorem Phase.of_registering {state : Hldmm F} (phase : Phase state) {accept : Nat}
    {peerId : String} {since task : Nat}
    (here : (state.acceptLoops accept).stage = .registering peerId since task) :
    state.peers.records.lookup peerId = none ∧ (state.recvLoops task).peerId = peerId ∧
      (state.recvLoops task).aborted = false ∧
      recvAwaits (state.recvLoops task).stage = true ∧ task < state.recvCount ∧
      Balanced state (some accept) none (some task) (listed state) := by
  rcases phase.acceptor (by rw [here]; rfl) with
    ⟨_, there, _⟩ | ⟨_, _, _, there, known⟩ | ⟨_, _, there, _⟩
  · rw [here] at there
    cases there
  · rw [here] at there
    cases there
    exact known
  · rw [here] at there
    cases there

theorem Phase.of_announcing {state : Hldmm F} (phase : Phase state) {accept : Nat}
    {peerId : String} {since : Nat}
    (here : (state.acceptLoops accept).stage = .announcing peerId since) :
    listed state peerId = true ∧
      Balanced state (some accept) none none
        (Function.update (listed state) peerId false) := by
  rcases phase.acceptor (by rw [here]; rfl) with
    ⟨_, there, _⟩ | ⟨_, _, _, there, _⟩ | ⟨_, _, there, known⟩
  · rw [here] at there
    cases there
  · rw [here] at there
    cases there
  · rw [here] at there
    cases there
    exact known

theorem Phase.quiet {state : Hldmm F} (phase : Phase state) (quiet : Quiet state) :
    Balanced state none none none (listed state) := by
  cases phase with
  | rest balanced => exact balanced
  | spawning accept peerId here | registering accept peerId since task here
  | announcing accept peerId since here =>
      have rests := quiet.accepts accept
      rw [here] at rests
      cases rests
  | aborting call peerId record here | reporting call peerId since here =>
      have rests := quiet.calls call
      rw [here] at rests
      cases rests

theorem Phase.accept {state after : Hldmm F} (phase : Phase state)
    (accepts : ∀ accept,
      (after.acceptLoops accept).stage = (state.acceptLoops accept).stage ∨
        acceptRests (state.acceptLoops accept).stage = true ∧
          acceptRests (after.acceptLoops accept).stage = true)
    (calls : after.calls = state.calls) (peers : after.peers = state.peers)
    (recvLoops : after.recvLoops = state.recvLoops)
    (recvCount : after.recvCount = state.recvCount) : Phase after := by
  have keep : ∀ {accepting calling loose shown},
      Balanced state accepting calling loose shown →
        Balanced after accepting calling loose shown := by
    intro accepting calling loose shown balanced
    constructor
    · intro accept away
      rcases accepts accept with same | ⟨_, resting⟩
      · rw [same]
        exact balanced.accepts accept away
      · exact resting
    · rw [calls]
      exact balanced.calls
    · rw [peers, recvLoops]
      exact balanced.recorded
    · rw [peers, recvCount]
      exact balanced.recent
    · rw [peers, recvLoops]
      exact balanced.held
    · rw [peers]
      exact balanced.announced
  apply phase.keep keep _ calls peers recvCount
  · intro task
    rw [recvLoops]
  · intro accept task _ live running
    rw [recvLoops]
    exact ⟨live, running⟩
  · intro accept stage here running
    rcases accepts accept with same | ⟨resting, _⟩
    · exact same.trans here
    · rw [here, running] at resting
      cases resting

theorem Phase.disconnect {state : Hldmm F} (phase : Phase state) (quiet : Quiet state)
    (call : Nat) (peerId : String) : Phase (state.disconnect call peerId) := by
  have balanced := phase.quiet quiet
  cases found : state.peers.records.lookup peerId with
  | none =>
      -- Without a record, taking it out changes nothing.
      have same : state.peers.records.erase peerId = state.peers.records := by
        apply AList.ext
        exact List.kerase_of_notMem_keys (AList.lookup_eq_none.mp found)
      have unchanged : state.peers.removePeer peerId = state.peers := by
        unfold PeerMap.removePeer
        rw [same]
      unfold Hldmm.disconnect
      rw [unchanged, PeerCall.ofDisconnect, found]
      exact .rest (balanced.call rfl (Or.inr rfl) (fun _ _ none_ => none_) rfl rfl rfl rfl)
  | some record =>
      refine .aborting call peerId record ?_ ?_ (balanced.recorded peerId record found).1 ?_
      · refine (Function.update_self ..).trans ?_
        rw [PeerCall.ofDisconnect, found]
      · exact congrArg Option.isSome (AList.lookup_erase _ _)
      · refine (balanced.remove found).call rfl (Or.inl rfl) ?_ rfl rfl rfl rfl
        intro _ _ none_
        cases none_

theorem Balanced.report {state : Hldmm F} {call : Nat} {peerId : String}
    (balanced : Balanced state none (some call) none
      (Function.update (listed state) peerId true))
    (absent : listed state peerId = false) (connectionDuration : Nat) :
    Balanced { state with
      peers := state.peers.emitEvent
        (.disconnected peerId .localClosed connectionDuration) } none (some call) none
          (listed state) := by
  refine balanced.emit _ fun otherId => ?_
  have announced := balanced.announced otherId
  by_cases same : otherId = peerId
  · subst same
    rw [Function.update_self] at announced
    rw [absent]
    exact PeerMap.paired_disconnected _ _ announced
  · rw [Function.update_of_ne same] at announced
    exact (PeerMap.paired_elsewhere (by simp [PeerMap.announces, Ne.symm same]) _).trans
      announced

theorem Balanced.announce {state : Hldmm F} {accept : Nat} {peerId : String}
    (balanced : Balanced state (some accept) none none
      (Function.update (listed state) peerId false))
    (present : listed state peerId = true) (since : Nat) :
    Balanced { state with peers := state.peers.emitEvent (.connected peerId since) }
      (some accept) none none (listed state) := by
  refine balanced.emit _ fun otherId => ?_
  have announced := balanced.announced otherId
  by_cases same : otherId = peerId
  · subst same
    rw [Function.update_self] at announced
    rw [present]
    exact PeerMap.paired_connected _ announced
  · rw [Function.update_of_ne same] at announced
    exact (PeerMap.paired_elsewhere (by simp [PeerMap.announces, Ne.symm same]) _).trans
      announced

theorem Phase.accepted {state : Hldmm F} (phase : Phase state) (accept : Nat) (peerId : String)
    (quiet : Quiet state) (fresh : acceptsFresh state (.accepted accept (.ok peerId)) = true) :
    Phase (state.setAccept accept (.spawning peerId)) := by
  have balanced := phase.quiet quiet
  have absent : state.peers.records.lookup peerId = none := by
    simpa [acceptsFresh] using fresh
  refine .spawning accept peerId ?_ absent
    (balanced.accept rfl (Or.inl rfl) ?_ rfl rfl rfl rfl)
  · simp [setAccept]
  · intro _ _ none_
    cases none_

theorem Phase.spawn {state : Hldmm F} (phase : Phase state) (accept : Nat) (peerId : String)
    (here : (state.acceptLoops accept).stage = .spawning peerId) :
    Phase (state.spawnRecv accept peerId) := by
  obtain ⟨absent, balanced⟩ := phase.of_spawning here
  refine .registering accept peerId state.clock state.recvCount ?_ absent ?_ ?_ ?_
    (Nat.lt_succ_self _) (balanced.spawn peerId)
  · simp [spawnRecv, setAccept]
  · simp [spawnRecv, setAccept]
  · simp [spawnRecv, setAccept]
  · simp [spawnRecv, setAccept, recvAwaits]

theorem Phase.register {state : Hldmm F} (phase : Phase state) (accept : Nat) (peerId : String)
    (since task : Nat)
    (here : (state.acceptLoops accept).stage = .registering peerId since task) :
    Phase ({ state with
      peers := state.peers.registerPeer peerId since task }.setAccept accept
        (.announcing peerId since)) := by
  obtain ⟨absent, own, live, running, recent, balanced⟩ := phase.of_registering here
  refine .announcing accept peerId since ?_ ?_
    ((balanced.register since absent own live running recent).accept rfl (Or.inl rfl)
      (fun _ _ same => same) rfl rfl rfl rfl)
  · simp [setAccept]
  · exact congrArg Option.isSome (AList.lookup_insert _)

variable [FloatOps F]

theorem Phase.receive (prost : Codec.Prost (SapientMessage F)) {state : Hldmm F}
    (phase : Phase state) (moving : Nat)
    (answer : Except SapientError (Option (SapientMessage F)))
    (quiet : lifecycle (.inbound moving answer) = true → Quiet state)
    (here : (state.recvLoops moving).stage = .receiving) :
    Phase (state.receiveInbound prost moving answer) := by
  have running : recvAwaits (state.recvLoops moving).stage = true := by
    rw [here]
    rfl
  unfold receiveInbound
  split
  · refine phase.recv rfl rfl rfl (fun _ => Or.inl ?_) (fun _ => running)
      (Or.inr fun _ _ => ?_) rfl rfl rfl rfl
    · dsimp only
      split <;> rfl
    · dsimp only
      split <;> rfl
  · exact phase.recv rfl rfl rfl (fun _ => Or.inr rfl) (fun _ => running)
      (Or.inl (quiet rfl)) rfl rfl rfl rfl
  · exact phase.recv rfl rfl rfl (fun _ => Or.inr rfl) (fun _ => running)
      (Or.inl (quiet rfl)) rfl rfl rfl rfl

theorem phase_step (prost : Codec.Prost (SapientMessage F)) {state after : Hldmm F}
    {action : HldmmAction F} (phase : Phase state) (sequential : Sequential state action)
    (fresh : acceptsFresh state action = true) (moved : Moves prost state action after) :
    Phase after := by
  have quiet := sequential.2
  cases moved with
  | elapse => exact phase.accept (fun _ => Or.inl rfl) rfl rfl rfl rfl
  | refused => exact phase
  | start =>
      have balanced := phase.quiet (quiet rfl)
      exact .rest (balanced.accept rfl (Or.inr rfl) (fun _ _ none_ => none_) rfl rfl rfl rfl)
  | stop call => exact absurd rfl (sequential.1 call)
  | disconnect call peerId here => exact phase.disconnect (quiet rfl) call peerId
  | drain call here => exact absurd here (phase.not_draining call)
  | abortTask call peerId record here =>
      obtain ⟨absent, own, balanced⟩ := phase.of_aborting here
      exact .reporting call peerId _ (Function.update_self ..) absent
        ((balanced.abort absent own).call rfl (Or.inl rfl) (fun _ _ same => same)
          rfl rfl rfl rfl)
  | announce call peerId since here =>
      obtain ⟨absent, balanced⟩ := phase.of_reporting here
      refine .rest ((balanced.report absent since).call rfl (Or.inr rfl) ?_ rfl rfl rfl rfl)
      intro other distinct same
      exact absurd (Option.some.inj same).symm distinct
  | bound accept ok here =>
      refine phase.accept (fun other => ?_) rfl rfl rfl rfl
      by_cases same : other = accept
      · subst same
        refine Or.inr ⟨by rw [here]; rfl, ?_⟩
        cases ok <;> simp [setAccept, acceptRests]
      · exact Or.inl (by simp [setAccept, same])
  | accepted accept peerId here =>
      exact phase.accepted accept peerId (quiet rfl) fresh
  | spawn accept peerId here =>
      exact phase.spawn accept peerId here
  | register accept peerId since task here =>
      exact phase.register accept peerId since task here
  | announceOpen accept peerId since here =>
      obtain ⟨present, balanced⟩ := phase.of_announcing here
      refine .rest ((balanced.announce present since).accept rfl (Or.inr rfl) ?_
        rfl rfl rfl rfl)
      intro other distinct same
      exact absurd (Option.some.inj same).symm distinct
  | receive moving answer here live =>
      exact phase.receive prost moving answer quiet here
  | publish moving publication here live =>
      exact phase.recv rfl rfl rfl (fun _ => Or.inl rfl) (fun _ => by rw [here]; rfl)
        (Or.inr fun _ _ => rfl) rfl rfl rfl rfl
  | finish moving here =>
      refine phase.recv rfl rfl rfl (fun _ => Or.inr rfl) (fun begun => ?_)
        (Or.inr fun _ running => ?_) rfl rfl rfl rfl
      · cases begun
      · rw [here] at running
        cases running
  | cancelAccept accept dead here =>
      refine phase.accept (fun other => ?_) rfl rfl rfl rfl
      by_cases same : other = accept
      · subst same
        refine Or.inr ⟨?_, by simp [setAccept, acceptRests]⟩
        cases there : (state.acceptLoops other).stage with
        | binding | accepting | idle | ended => rfl
        | spawning | registering | announcing =>
            rw [there] at here
            cases here
      · exact Or.inl (by simp [setAccept, same])
  | cancelRecv moving dead here =>
      refine phase.recv rfl rfl rfl (fun live => ?_) (fun begun => ?_)
        (Or.inr fun live _ => ?_) rfl rfl rfl rfl
      · rw [dead] at live
        cases live
      · cases begun
      · rw [dead] at live
        cases live

omit [FloatOps F] in
theorem stray_congr {state after : Hldmm F} {peerId : String}
    (records : after.peers.records = state.peers.records)
    (stages : ∀ peerId record, state.peers.records.lookup peerId = some record →
      overStage (after.recvLoops record.task).stage =
        overStage (state.recvLoops record.task).stage) :
    Stray state peerId ↔ Stray after peerId := by
  unfold Stray
  rw [records]
  constructor
  · rintro ⟨record, found, finished⟩
    exact ⟨record, found, (stages peerId record found).trans finished⟩
  · rintro ⟨record, found, finished⟩
    exact ⟨record, found, (stages peerId record found).symm.trans finished⟩

omit [FloatOps F] in
theorem stray_update {state after : Hldmm F} {moving : Nat} {loop : RecvLoop F}
    {peerId : String}
    (records : after.peers.records = state.peers.records)
    (recvLoops : after.recvLoops = Function.update state.recvLoops moving loop)
    (same : overStage loop.stage = overStage (state.recvLoops moving).stage) :
    Stray state peerId ↔ Stray after peerId := by
  refine stray_congr records fun otherId record _ => ?_
  rw [recvLoops]
  by_cases latest : record.task = moving
  · rw [latest, Function.update_self]
    exact same
  · rw [Function.update_of_ne latest]

omit [FloatOps F] in
/-- A connection ends by itself: its record stays. -/
theorem stray_over {state after : Hldmm F} {moving : Nat} {loop : RecvLoop F}
    {peerId : String}
    (balanced : Balanced state none none none (listed state))
    (running : recvAwaits (state.recvLoops moving).stage = true)
    (live : (state.recvLoops moving).aborted = false)
    (records : after.peers.records = state.peers.records)
    (recvLoops : after.recvLoops = Function.update state.recvLoops moving loop)
    (finished : overStage loop.stage = true) :
    peerId = (state.recvLoops moving).peerId ∨ Stray state peerId ↔ Stray after peerId := by
  obtain none_ | ⟨own, found, latest⟩ := balanced.held moving running live
  · cases none_
  unfold Stray
  rw [records, recvLoops]
  constructor
  · rintro (rfl | ⟨record, there, stage⟩)
    · refine ⟨own, found, ?_⟩
      rw [latest, Function.update_self]
      exact finished
    · refine ⟨record, there, ?_⟩
      by_cases same : record.task = moving
      · rw [same, Function.update_self]
        exact finished
      · rw [Function.update_of_ne same]
        exact stage
  · rintro ⟨record, there, stage⟩
    by_cases same : record.task = moving
    · left
      rw [← same]
      exact (balanced.recorded peerId record there).1.symm
    · rw [Function.update_of_ne same] at stage
      exact Or.inr ⟨record, there, stage⟩

omit [FloatOps F] in
theorem not_over_of_awaits {stage : RecvStage F} (running : recvAwaits stage = true) :
    overStage stage = false := by
  cases stage with
  | receiving | publishing => rfl
  | _ => cases running

omit [FloatOps F] in
theorem stray_disconnect {state : Hldmm F} (call : Nat) (gone peerId : String) :
    Stray state peerId ∧ peerId ≠ gone ↔ Stray (state.disconnect call gone) peerId := by
  have lookup := lookup_erase_eq state.peers.records gone peerId
  constructor
  · rintro ⟨⟨record, found, finished⟩, distinct⟩
    refine ⟨record, lookup.trans ?_, finished⟩
    rw [if_neg distinct]
    exact found
  · rintro ⟨record, found, finished⟩
    have found := lookup.symm.trans found
    split at found
    · cases found
    · next distinct => exact ⟨⟨record, found, finished⟩, distinct⟩

omit [FloatOps F] in
theorem stray_register {state : Hldmm F} (phase : Phase state) (accept : Nat)
    (latest peerId : String) (since task : Nat)
    (here : (state.acceptLoops accept).stage = .registering latest since task) :
    Stray state peerId ↔ Stray ({ state with
      peers := state.peers.registerPeer latest since task }.setAccept accept
        (.announcing latest since)) peerId := by
  have lookup := lookup_insert_eq state.peers.records latest peerId ⟨since, task⟩
  obtain ⟨absent, _, _, running, _⟩ := phase.of_registering here
  constructor
  · rintro ⟨record, found, finished⟩
    have distinct : peerId ≠ latest := by
      rintro rfl
      rw [absent] at found
      cases found
    exact ⟨record, (lookup.trans (if_neg distinct)).trans found, finished⟩
  · rintro ⟨record, found, finished⟩
    have found := lookup.symm.trans found
    split at found
    · cases found
      cases (not_over_of_awaits running).symm.trans finished
    · exact ⟨record, found, finished⟩

theorem lapsed_step (prost : Codec.Prost (SapientMessage F)) {state after : Hldmm F}
    {action : HldmmAction F} {trace : Trace (Hldmm F) (HldmmAction F)} (phase : Phase state)
    (sequential : Sequential state action)
    (strays : ∀ peerId, peerId ∈ lapsed trace ↔ Stray state peerId)
    (moved : Moves prost state action after) (peerId : String) :
    peerId ∈ lapsed ((state, action) :: trace) ↔ Stray after peerId := by
  have quiet := sequential.2
  cases moved with
  | elapse | refused | start | bound | accepted | announceOpen | cancelAccept | announce =>
      exact strays peerId
  | stop call => exact absurd rfl (sequential.1 call)
  | disconnect call gone here =>
      simp only [lapsed, List.mem_filter, bne_iff_ne, ne_eq]
      rw [strays peerId]
      exact stray_disconnect call gone peerId
  | drain call here => exact absurd here (phase.not_draining call)
  | abortTask => exact (strays peerId).trans (stray_congr rfl fun _ _ _ => rfl)
  | spawn accept latest here =>
      refine (strays peerId).trans ?_
      refine stray_congr rfl fun otherId record found => ?_
      have recent := (phase.of_spawning here).2.recent otherId record found
      simp [spawnRecv, setAccept, recent.ne]
  | register accept latest since task here =>
      exact (strays peerId).trans (stray_register phase accept latest peerId since task here)
  | receive moving answer here live =>
      have running : recvAwaits (state.recvLoops moving).stage = true := by
        rw [here]
        rfl
      cases answer with
      | ok received =>
          cases received with
          | none =>
              simp only [lapsed, List.mem_cons]
              rw [strays peerId]
              exact stray_over (phase.quiet (quiet rfl)) running live rfl rfl rfl
          | some msg =>
              refine (strays peerId).trans ?_
              refine stray_update rfl rfl ?_
              rw [here]
              dsimp only
              split <;> rfl
      | error error =>
          simp only [lapsed, List.mem_cons]
          rw [strays peerId]
          exact stray_over (phase.quiet (quiet rfl)) running live rfl rfl rfl
  | publish moving publication here live | finish moving here =>
      refine (strays peerId).trans ?_
      refine stray_update rfl rfl ?_
      rw [here]
      rfl
  | cancelRecv moving dead here =>
      refine (strays peerId).trans ?_
      refine stray_update rfl rfl ?_
      rw [not_over_of_awaits here]
      rfl

theorem phase_run (prost : Codec.Prost (SapientMessage F))
    {trace : Trace (Hldmm F) (HldmmAction F)} {state : Hldmm F}
    (run : Run (machine prost) trace state)
    (sequential : Meets (fun _ state action =>
      Sequential state action ∧ acceptsFresh state action = true) trace) :
    Phase state ∧ ∀ peerId, peerId ∈ lapsed trace ↔ Stray state peerId := by
  refine run.invariant_of_meets (fun _ state action =>
      Sequential state action ∧ acceptsFresh state action = true)
    (fun trace state => Phase state ∧ ∀ peerId, peerId ∈ lapsed trace ↔ Stray state peerId)
    ?_ ?_ sequential
  · refine ⟨.rest ⟨fun _ _ => rfl, fun _ _ => rfl, ?_, ?_, ?_, fun _ => rfl⟩, ?_⟩
    · intro peerId record found
      cases found
    · intro peerId record found
      cases found
    · intro task running
      cases running
    · intro peerId
      constructor
      · intro none_
        cases none_
      · rintro ⟨record, found, _⟩
        cases found
  · intro trace before action after earlier held allowed taken
    obtain ⟨phase, strays⟩ := held
    have moved := moves_of_step prost taken
    exact ⟨phase_step prost phase allowed.1 allowed.2 moved,
      lapsed_step prost phase allowed.1 strays moved⟩

omit [FloatOps F] in
theorem Balanced.running {state : Hldmm F}
    (balanced : Balanced state none none none (listed state)) (quiet : Quiet state) {task : Nat}
    (running : gone (state.recvLoops task).stage = false) :
    recvAwaits (state.recvLoops task).stage = true ∧
      ∃ record, state.peers.records.lookup (state.recvLoops task).peerId = some record ∧
        record.task = task := by
  have awaiting : recvAwaits (state.recvLoops task).stage = true := by
    rcases quiet.recvs task with finished | awaiting
    · rw [running] at finished
      cases finished
    · exact awaiting
  have live : (state.recvLoops task).aborted = false := by
    cases aborted : (state.recvLoops task).aborted with
    | false => rfl
    | true =>
        rw [quiet.settled.recv task aborted] at running
        cases running
  rcases balanced.held task awaiting live with none_ | recorded
  · cases none_
  · exact ⟨awaiting, recorded⟩

/-- In a quiescent state the books are right exactly when every connection that has ended by
itself has been disconnected since. -/
theorem bookkept_iff (prost : Codec.Prost (SapientMessage F))
    {trace : Trace (Hldmm F) (HldmmAction F)} {state : Hldmm F}
    (run : Run (machine prost) trace state)
    (sequential : Meets (fun _ state action =>
      Sequential state action ∧ acceptsFresh state action = true) trace)
    (quiet : Quiet state) : state.peers.Bookkept (runs state) ↔ lapsed trace = [] := by
  obtain ⟨phase, strays⟩ := phase_run prost run sequential
  have balanced := phase.quiet quiet
  constructor
  · intro bookkept
    apply List.eq_nil_iff_forall_not_mem.mpr
    intro peerId member
    obtain ⟨record, found, finished⟩ := (strays peerId).mp member
    have present : peerId ∈ state.peers.connectedPeers :=
      PeerMap.mem_connectedPeers.mpr (by rw [found]; rfl)
    -- The peer is listed, so some loop runs for it, and that is the record's.
    obtain ⟨task, own, running⟩ := (bookkept.listed peerId).mp present
    obtain ⟨awaiting, other, there, latest⟩ := balanced.running quiet running
    rw [own, found] at there
    cases there
    rw [latest] at finished
    cases (not_over_of_awaits awaiting).symm.trans finished
  · intro none_
    refine PeerMap.bookkept_of_lookup (fun peerId => ?_) balanced.announced
    constructor
    · intro present
      obtain ⟨record, found⟩ := Option.isSome_iff_exists.mp present
      obtain ⟨own, live, awaiting | finished⟩ := balanced.recorded peerId record found
      · refine ⟨record.task, own, ?_⟩
        cases stage : (state.recvLoops record.task).stage with
        | receiving | publishing | broken => rfl
        | idle | returned | cancelled =>
            rw [stage] at awaiting
            cases awaiting
      · have member := (strays peerId).mpr ⟨record, found, finished⟩
        rw [none_] at member
        cases member
    · rintro ⟨task, rfl, running⟩
      obtain ⟨_, record, found, _⟩ := balanced.running quiet running
      rw [found]
      rfl

end Hldmm

/-- In every quiescent state, in DLMM mode the map has exactly the peers whose receive loop
runs and the events agree with it. In HLDMM mode, where no connection is accepted from a
peer still in the map, this is so exactly when every connection that has ended by itself has
been disconnected since. -/
theorem bookkeeping [FloatOps F] :
    (∀ (config : DlmmConfig F) (trace : Trace (Dlmm F) (DlmmAction F)) (state : Dlmm F),
      Run (Dlmm.machine config) trace state →
      Meets (fun _ state action => Dlmm.Sequential state action) trace → Dlmm.Quiet state →
      state.peers.Bookkept (Dlmm.runs config state)) ∧
    ∀ (prost : Codec.Prost (SapientMessage F)) (trace : Trace (Hldmm F) (HldmmAction F))
      (state : Hldmm F), Run (Hldmm.machine prost) trace state →
      Meets (fun _ state action =>
        Hldmm.Sequential state action ∧ Hldmm.acceptsFresh state action = true) trace →
      Hldmm.Quiet state →
      (state.peers.Bookkept (Hldmm.runs state) ↔ Hldmm.lapsed trace = []) := by
  constructor
  · intro config trace state run sequential quiet
    exact Dlmm.bookkept_of_quiet config run sequential quiet
  · intro prost trace state run sequential quiet
    exact Hldmm.bookkept_iff prost run sequential quiet

namespace Hldmm

def accepting : List (HldmmAction Float) :=
  [.start, .bound 0 true, .accepted 0 (.ok "10.0.0.7:40112"), .proceed 0, .proceed 0,
    .proceed 0]

def accepted : Trace (Hldmm Float) (HldmmAction Float) × Hldmm Float :=
  (replay (machine Dlmm.sampleConfig.prost) ([], new) accepting).get rfl

theorem sequential_accepted :
    Meets (fun _ state action => Sequential state action ∧ acceptsFresh state action = true)
      accepted.1 := by
  refine And.intro ⟨⟨nofun, nofun⟩, rfl⟩ (And.intro ⟨⟨nofun, nofun⟩, rfl⟩
    (And.intro ⟨⟨nofun, nofun⟩, rfl⟩ (And.intro ⟨⟨nofun, fun _ => ?_⟩, rfl⟩
    (And.intro ⟨⟨nofun, nofun⟩, rfl⟩ (And.intro ⟨⟨nofun, fun _ => ?_⟩, rfl⟩ trivial)))))
  · refine ⟨fun _ => rfl, fun accept => ?_, fun _ => Or.inl rfl, fun accept dead => ?_, nofun⟩
    · match accept with
      | 0 => rfl
      | _ + 1 => rfl
    · match accept with
      | 0 => cases dead
      | _ + 1 => cases dead
  · exact ⟨fun _ => rfl, fun _ => rfl, fun _ => Or.inl rfl, nofun, nofun⟩

theorem quiet_accepted : Quiet accepted.2 := by
  refine ⟨fun _ => rfl, fun accept => ?_, fun task => ?_, fun accept dead => ?_,
    fun task dead => ?_⟩
  · match accept with
    | 0 => rfl
    | _ + 1 => rfl
  · match task with
    | 0 => exact Or.inr rfl
    | _ + 1 => exact Or.inl rfl
  · match accept with
    | 0 => cases dead
    | _ + 1 => cases dead
  · match task with
    | 0 => cases dead
    | _ + 1 => cases dead

end Hldmm

/-- A connection that is dialled, and one that is accepted. -/
theorem bookkeeping_connected :
    (∃ state : Dlmm Float, state.peers.peerCount = 1 ∧
      state.peers.Bookkept (Dlmm.runs Dlmm.sampleConfig state)) ∧
    ∃ state : Hldmm Float, state.peers.peerCount = 1 ∧
      state.peers.Bookkept (Hldmm.runs state) := by
  constructor
  · refine ⟨_, ?_, bookkeeping.1 Dlmm.sampleConfig _ _
      (replay_reachable [.start, .connected, .proceed, .proceed, .proceed] rfl) ?_ ?_⟩
    · rfl
    · exact And.intro ⟨nofun, nofun⟩ (And.intro ⟨nofun, nofun⟩ (And.intro ⟨nofun, nofun⟩
        (And.intro ⟨nofun, fun _ => ⟨fun _ => rfl, rfl, Or.inl rfl, nofun, nofun⟩⟩
        (And.intro ⟨nofun, fun _ => ⟨fun _ => rfl, rfl, Or.inl rfl, nofun, nofun⟩⟩ trivial))))
    · exact ⟨fun _ => rfl, rfl, Or.inr rfl, nofun, nofun⟩
  · exact ⟨_, rfl, (bookkeeping.2 Dlmm.sampleConfig.prost _ _
      (replay_reachable Hldmm.accepting rfl) Hldmm.sequential_accepted
      Hldmm.quiet_accepted).mpr rfl⟩

/-- The remote side of an accepted connection closes: the receive loop ends, and the peer
stays in the map. -/
theorem accepted_kept :
    ¬ ∀ (trace : Trace (Hldmm Float) (HldmmAction Float)) (state : Hldmm Float),
      Run (Hldmm.machine Dlmm.sampleConfig.prost) trace state →
      Meets (fun _ state action =>
        Hldmm.Sequential state action ∧ Hldmm.acceptsFresh state action = true) trace →
      Hldmm.Quiet state → state.peers.Bookkept (Hldmm.runs state) := by
  intro kept
  have run : Run (Hldmm.machine Dlmm.sampleConfig.prost) _ _ :=
    replay_reachable (Hldmm.accepting ++ [.inbound 0 (.ok none), .finish 0]) rfl
  have bookkept := kept _ _ run
    (And.intro ⟨⟨nofun, nofun⟩, rfl⟩ (And.intro
      ⟨⟨nofun, fun _ => Hldmm.quiet_accepted⟩, rfl⟩ Hldmm.sequential_accepted)) ?_
  · obtain ⟨task, _, running⟩ := (bookkept.listed "10.0.0.7:40112").mp (by decide)
    match task with
    | 0 => cases running
    | _ + 1 => cases running
  · refine ⟨fun _ => rfl, fun accept => ?_, fun task => Or.inl ?_, fun accept dead => ?_,
      fun task dead => ?_⟩
    · match accept with
      | 0 => rfl
      | _ + 1 => rfl
    · match task with
      | 0 => rfl
      | _ + 1 => rfl
    · match accept with
      | 0 => cases dead
      | _ + 1 => cases dead
    · match task with
      | 0 => cases dead
      | _ + 1 => cases dead

end PeatSapient
