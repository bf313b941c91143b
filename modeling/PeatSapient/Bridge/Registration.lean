import PeatSapient.Bridge.Moves

/-! The life of a connection's first Registration: from its arrival to the Registered
update that the connection emits at its end. -/

namespace PeatSapient.Bridge

open HashMap Mpsc Execution

variable {F : Type}

def isRegistered : SapientUpdate F → Bool
  | .registered _ _ => true
  | _ => false

def isDisconnected : SapientUpdate F → Bool
  | .nodeDisconnected _ => true
  | _ => false

def announces (conn : ConnId) (emitted : Emitted F) : Bool :=
  emitted.source == conn && isRegistered emitted.update

def announced (state : Bridge F) (conn : ConnId) : Bool :=
  state.updates.attempts.any (announces conn)

def Unregistered : Stage F → Prop
  | .reading | .closed => True
  | .locating msg | .routing msg _ => isRegistration msg = false
  | .recording update | .emitting update =>
      isRegistered update = false ∧ isDisconnected update = false
  | .correlating _ _ _ _ _ => True
  | _ => False

def Registering (nodeId : String) : Stage F → Prop
  | .registering msg | .acking msg | .snapshotting msg | .reaping msg _
  | .replaying msg _ | .locating msg | .routing msg _ =>
      isRegistration msg = true ∧ msg.sender = nodeId
  | .recording update | .emitting update =>
      ∃ advertisement, update = .registered nodeId advertisement
  | _ => False

def Settled : Stage F → Prop
  | .registering _ | .acking _ | .snapshotting _ | .reaping _ _ | .replaying _ _ => False
  | .recording update | .emitting update => isDisconnected update = false
  | _ => True

inductive Phased (state : Bridge F) (conn : ConnId) : Prop where
  | unregistered (none_ : (state.conns conn).registered = none)
      (silent : announced state conn = false) (stage : Unregistered (state.conns conn).stage)
  | registering (nodeId : String) (some_ : (state.conns conn).registered = some nodeId)
      (silent : announced state conn = false)
      (stage : Registering nodeId (state.conns conn).stage)
  | settled (nodeId : String) (some_ : (state.conns conn).registered = some nodeId)
      (spoken : announced state conn = true) (stage : Settled (state.conns conn).stage)

theorem Phased.congr {before after : Bridge F} {conn : ConnId} (phased : Phased before conn)
    (conns : after.conns conn = before.conns conn)
    (announcements : announced after conn = announced before conn) : Phased after conn := by
  cases phased with
  | unregistered none_ silent stage =>
      exact .unregistered (by rw [conns]; exact none_) (by rw [announcements]; exact silent)
        (by rw [conns]; exact stage)
  | registering nodeId some_ silent stage =>
      exact .registering nodeId (by rw [conns]; exact some_)
        (by rw [announcements]; exact silent) (by rw [conns]; exact stage)
  | settled nodeId some_ spoken stage =>
      exact .settled nodeId (by rw [conns]; exact some_)
        (by rw [announcements]; exact spoken) (by rw [conns]; exact stage)

/-- A connection takes a step without announcing anything, from a stage to a stage
that no phase tells apart. -/
theorem Phased.setConn {state after : Bridge F} (phased : ∀ conn, Phased state conn)
    (id : ConnId) (changed : Connection F)
    (conns : after.conns = Function.update state.conns id changed)
    (updates : after.updates.attempts = state.updates.attempts)
    (same : changed.registered = (state.conns id).registered)
    (unregistered : Unregistered (state.conns id).stage → Unregistered changed.stage)
    (registering : ∀ nodeId, Registering nodeId (state.conns id).stage →
      Registering nodeId changed.stage)
    (settled : Settled (state.conns id).stage → Settled changed.stage) :
    ∀ conn, Phased after conn := by
  intro conn
  have announcements : announced after conn = announced state conn := by
    simp only [announced, updates]
  by_cases here : conn = id
  · subst here
    have shape : after.conns conn = changed := by rw [conns, Function.update_self]
    cases phased conn with
    | unregistered none_ silent stage =>
        exact .unregistered (by rw [shape, same]; exact none_)
          (by rw [announcements]; exact silent) (by rw [shape]; exact unregistered stage)
    | registering nodeId some_ silent stage =>
        exact .registering nodeId (by rw [shape, same]; exact some_)
          (by rw [announcements]; exact silent) (by rw [shape]; exact registering nodeId stage)
    | settled nodeId some_ spoken stage =>
        exact .settled nodeId (by rw [shape, same]; exact some_)
          (by rw [announcements]; exact spoken) (by rw [shape]; exact settled stage)
  · exact (phased conn).congr (by rw [conns, Function.update_of_ne here]) announcements

theorem announced_send {before after : Bridge F} {emitted : Emitted F}
    (sent : before.updates.send emitted = some after.updates) (conn : ConnId) :
    announced after conn =
      (announced before conn || announces conn emitted) := by
  simp [announced, Channel.attempts_send sent]

theorem Phased.emit {state : Bridge F} (phased : ∀ conn, Phased state conn) {id : ConnId}
    {update : SapientUpdate F} {updates : Channel (Emitted F)}
    (here : (state.conns id).stage = .emitting update)
    (sent : state.updates.send ⟨id, update⟩ = some updates) :
    ∀ conn, Phased (({ state with updates := updates } : Bridge F).setStage id .reading)
      conn := by
  intro conn
  have announcements :
      announced (({ state with updates := updates } : Bridge F).setStage id .reading) conn =
        (announced state conn || announces conn ⟨id, update⟩) := announced_send sent conn
  by_cases same : conn = id
  · subst same
    have stage : ((({ state with updates := updates } : Bridge F).setStage conn
        .reading).conns conn).stage = .reading := by simp [setStage, Bridge.setConn]
    have registered : ((({ state with updates := updates } : Bridge F).setStage conn
        .reading).conns conn).registered = (state.conns conn).registered := by
      simp [setStage, Bridge.setConn]
    cases phased conn with
    | unregistered none_ silent before =>
        rw [here] at before
        have quiet : isRegistered update = false := before.1
        apply unregistered (registered.trans none_)
        · simp [announcements, silent, announces, quiet]
        · rw [stage]
          trivial
    | registering nodeId some_ silent before =>
        rw [here] at before
        obtain ⟨advertisement, rfl⟩ := before
        apply settled nodeId (registered.trans some_)
        · simp [announcements, announces, isRegistered]
        · rw [stage]
          trivial
    | settled nodeId some_ spoken before =>
        apply settled nodeId (registered.trans some_)
        · simp [announcements, spoken]
        · rw [stage]
          trivial
  · apply (phased conn).congr
    · simp [setStage, Bridge.setConn, same]
    · simp [announcements, announces, Ne.symm same]

theorem Phased.announce {state : Bridge F} (phased : ∀ conn, Phased state conn) {id : ConnId}
    {target : String} {updates : Channel (Emitted F)}
    (here : (state.conns id).stage = .announcing target)
    (sent : state.updates.send ⟨id, .nodeDisconnected target⟩ = some updates) :
    ∀ conn, Phased (({ state with updates := updates } : Bridge F).setStage id .closed)
      conn := by
  intro conn
  have announcements :
      announced (({ state with updates := updates } : Bridge F).setStage id .closed) conn =
        (announced state conn || announces conn ⟨id, .nodeDisconnected target⟩) :=
    announced_send sent conn
  have moved : ∀ conn, Phased
      (state.setConn id { state.conns id with stage := .closed }) conn := by
    refine Phased.setConn phased id _ rfl rfl ?_ ?_ ?_ ?_
    · rfl
    · simp [Unregistered]
    · simp [here, Registering]
    · simp [Settled]
  refine (moved conn).congr rfl ?_
  simp only [announcements, announces, isRegistered, Bool.and_false, Bool.or_false]
  rfl

theorem Phased.receive {state : Bridge F} (phased : ∀ conn, Phased state conn) {id : ConnId}
    (msg : SapientMessage F) (here : (state.conns id).stage = .reading) :
    ∀ conn, Phased (state.setConn id (state.arrive id msg)) conn := by
  intro conn
  by_cases same : conn = id
  · subst same
    have shape : (state.setConn conn (state.arrive conn msg)).conns conn =
        state.arrive conn msg := by simp [Bridge.setConn]
    cases phased conn with
    | unregistered none_ silent stage =>
        cases first : isRegistration msg with
        | true =>
            refine registering msg.sender ?_ silent ?_ <;> rw [shape] <;>
              simp [arrive, none_, first, Registering]
        | false =>
            refine unregistered ?_ silent ?_ <;> rw [shape] <;>
              simp [arrive, none_, first, Unregistered]
    | registering nodeId some_ silent stage =>
        rw [here] at stage
        cases stage
    | settled nodeId some_ spoken stage =>
        refine settled nodeId ?_ spoken ?_ <;> rw [shape] <;>
          simp [arrive, some_, Settled]
  · exact (phased conn).congr (by simp [Bridge.setConn, same]) rfl

theorem Phased.hangUp {state : Bridge F} (phased : ∀ conn, Phased state conn) {id : ConnId}
    (here : (state.conns id).stage = .reading) :
    ∀ conn, Phased (state.setStage id (state.hungUp id)) conn := by
  intro conn
  by_cases same : conn = id
  · subst same
    cases phased conn with
    | unregistered none_ silent stage =>
        refine unregistered ?_ silent ?_ <;>
          simp [setStage, Bridge.setConn, hungUp, none_, Unregistered]
    | registering nodeId some_ silent stage =>
        rw [here] at stage
        cases stage
    | settled nodeId some_ spoken stage =>
        refine settled nodeId ?_ spoken ?_ <;>
          simp [setStage, Bridge.setConn, hungUp, some_, Settled]
  · exact (phased conn).congr (by simp [setStage, Bridge.setConn, same]) rfl

variable [FloatOps F]

theorem route_registration {msg : SapientMessage F} {position : Option (TrackPosition F)}
    {limiter after : Option (DetectionLimiter F)} {now : Nat}
    {result : Except SapientError (SapientUpdate F)}
    (routed : routeMessage msg position limiter now = (result, after))
    (first : isRegistration msg = true) :
    ∃ advertisement, result = .ok (.registered msg.sender advertisement) := by
  unfold isRegistration at first
  split at first
  · next reg content =>
      rw [routeMessage_registration msg reg position limiter now content] at routed
      exact ⟨_, (congrArg Prod.fst routed).symm⟩
  · cases first

/-- Only a Registration is routed to a Registered update, and only the clean-up announces a
disconnect. -/
theorem route_kind {msg : SapientMessage F} {position : Option (TrackPosition F)}
    {limiter after : Option (DetectionLimiter F)} {now : Nat} {update : SapientUpdate F}
    (routed : routeMessage msg position limiter now = (.ok update, after)) :
    isRegistered update = isRegistration msg ∧ isDisconnected update = false := by
  unfold routeMessage at routed
  unfold isRegistration
  split at routed
  · next reg content =>
      cases routed
      rw [content]
      exact ⟨rfl, rfl⟩
  · next report content =>
      cases routed
      rw [content]
      exact ⟨rfl, rfl⟩
  · next report content =>
      rw [content]
      dsimp only at routed
      split at routed
      · split at routed <;> cases routed
        exact ⟨rfl, rfl⟩
      · cases routed
        exact ⟨rfl, rfl⟩
  all_goals
    cases routed
    simp_all [isRegistered, isDisconnected]

theorem phased_step (config : BridgeConfig F) {state after : Bridge F} {action : Action F}
    (phased : ∀ conn, Phased state conn) (moved : Moves config state action after) :
    ∀ conn, Phased after conn := by
  cases moved with
  | tick | startTask | startAlert | insert | skipInsert | queue | queueReap | callReap
  | absent | connect | alertAbsent | alertConnect | dropReceiver =>
      exact fun conn => (phased conn).congr rfl rfl
  | consume emitted updates taken =>
      intro conn
      refine (phased conn).congr rfl ?_
      simp only [announced, Channel.attempts_recv taken]
  | deliver id target conn out write here sent =>
      refine Phased.setConn phased conn { state.conns conn with write := write } rfl rfl rfl
        (fun stage => stage) (fun _ stage => stage) fun stage => stage
  | writerTakes id out write taken | writerWrote id | writerFailed id =>
      refine Phased.setConn phased id _ rfl rfl ?_ ?_ ?_ ?_
      · rfl
      · exact fun stage => stage
      · exact fun _ stage => stage
      · exact fun stage => stage
  | register id msg here free
  | acknowledgeRegistration id msg write here sent
  | snapshot id msg here free clean
  | drain id msg here free stale
  | connReap id msg expired here
  | replayed id msg here
  | replay id msg out rest write here sent
  | locate id msg here
  | ackTask id sender acked given status reasons here free
  | disconnect id target here free
  | unregister id target here =>
      refine Phased.setConn phased id _ rfl rfl ?_ ?_ ?_ ?_
      · rfl
      · simp [here, Unregistered]
      · simp [here, Registering]
      · simp [here, Settled]
  | route id msg position update limiter here routed =>
      refine Phased.setConn phased id _ rfl rfl ?_ ?_ ?_ ?_
      · rfl
      · rw [here]
        exact fun other => ⟨(route_kind routed).1.trans other, (route_kind routed).2⟩
      · rw [here]
        rintro nodeId ⟨first, rfl⟩
        obtain ⟨advertisement, result⟩ := route_registration routed first
        exact ⟨advertisement, Except.ok.inj result⟩
      · exact fun _ => (route_kind routed).2
  | reject id msg position failure limiter here routed =>
      refine Phased.setConn phased id _ rfl rfl ?_ ?_ ?_ ?_
      · rfl
      · simp [Unregistered]
      · rw [here]
        rintro nodeId ⟨first, _⟩
        obtain ⟨advertisement, result⟩ := route_registration routed first
        cases result
      · simp [Settled]
  | upsert id update target capability here writes
  | pass id update here silent other =>
      refine Phased.setConn phased id _ rfl rfl ?_ ?_ ?_ ?_
      · rfl
      · simp [here, Unregistered]
      · simp [here, Registering]
      · simp [here, Settled]
  | correlate id sender acked status reasons cleared here =>
      refine Phased.setConn phased id _ rfl rfl ?_ ?_ ?_ ?_
      · rfl
      · simp [Unregistered, isRegistered, isDisconnected]
      · simp [here, Registering]
      · simp [Settled, isDisconnected]
  | emit id update updates here sent => exact Phased.emit phased here sent
  | announce id target updates here sent => exact Phased.announce phased here sent
  | receive id msg here => exact Phased.receive phased msg here
  | hangUp id here => exact Phased.hangUp phased here

theorem phased (config : BridgeConfig F) {state : Bridge F}
    (reached : Reachable (machine config) state) (conn : ConnId) : Phased state conn := by
  revert conn
  refine reached.invariant (fun state => ∀ conn, Phased state conn) ?_ ?_
  · exact fun conn => .unregistered rfl rfl trivial
  · intro before action after _ held taken
    exact phased_step config held (moves_of_step config taken)

end PeatSapient.Bridge
