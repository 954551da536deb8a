import Sentel.Mqtt.SessionRules

namespace Sentel
namespace Mqtt

open Library Handler Base Queue Event SessionMgr Auth SessionM

/-!
# The stages of a connection

A CONNECT packet is handled in stages: it is read, its client is identified,
the entry of an older session is taken over, a queue is opened, and from then
on the session is connected.  Until the queue is there the handler can stop
with an error.  Afterwards it cannot.
-/

/-! ## Identifying the client -/

theorem checkAuthentication_error (failure : AuthError) :
    NeverReturns (checkAuthentication (.error failure)) := by
  cases failure with
  | unauthorized => exact .bind (fun _ => .bind (fun _ => .fail _))
  | other reason => exact .bind (fun _ => .fail _)

variable {scene : Scene} {host : Host}

theorem authenticated_returned {need : Bool} {answer : Except AuthError Unit}
    (returned : (when need (checkAuthentication answer) scene).outcome = .ok ()) :
    when need (checkAuthentication answer) scene = ⟨[], .ok (), scene⟩ := by
  cases need with
  | false =>
    rw [when_neg Bool.false_ne_true]
    rfl
  | true =>
    rw [when_pos rfl] at returned ⊢
    cases answer with
    | ok value => rfl
    | error failure => exact absurd returned (checkAuthentication_error failure scene ())

def ConnectRequest.context (request : ConnectRequest) : Context :=
  (parseRequestOptions request.rawClientID request.username request.password).1

def Scene.identified (scene : Scene) (ctx : Context) : Scene :=
  { scene with session := { scene.session with
      authctx := ctx
      clientID := ctx.clientID
      productID := ctx.productID } }

theorem identify_returned {request : ConnectRequest}
    (returned : (identify host request scene).outcome = .ok ()) :
    identify host request scene = ⟨[], .ok (), scene.identified request.context⟩ := by
  unfold identify at returned ⊢
  rw [setSession_bind_apply] at returned ⊢
  rcases returned_of_bind returned with ⟨_, parsed, rest⟩
  have parsed := failWith_returned parsed
  rw [parsed, session_bind_apply] at rest
  rcases returned_of_bind rest with ⟨_, checked, _⟩
  rw [bind_of_ok parsed, precede_nil, session_bind_apply,
    bind_of_ok (authenticated_returned checked)]
  rfl

/-! ## Taking over and opening the queue -/

def Scene.takenOver (scene : Scene) (cleanSession : UInt8) : Scene :=
  if cleanSession = 0 then
    { scene with broker := scene.broker.removeSession scene.session.clientID }
  else scene

theorem takeOverSession_eq (cleanSession : UInt8) (scene : Scene) :
    exists effects ack, (forall effect, effect ∈ effects ->
        exists event, effect = Effect.notify (.sessionResume event)) ∧
      takeOverSession cleanSession scene = ⟨effects, .ok ack, scene.takenOver cleanSession⟩ := by
  rw [takeOverSession, session_bind_apply, Scene.takenOver]
  by_cases persistent : cleanSession = 0
  · rw [if_pos persistent, if_pos persistent, broker_bind_apply]
    cases found : scene.broker.findSession scene.session.clientID with
    | none =>
      refine ⟨[], 0, fun _ member => absurd member List.not_mem_nil, ?_⟩
      have absent : scene.session.clientID ∉ scene.broker.sessions.entries.keys :=
        AList.lookup_eq_none.mp found
      have same : scene.broker.sessions.erase scene.session.clientID = scene.broker.sessions :=
        AList.ext (List.kerase_of_notMem_keys absent)
      rw [Broker.removeSession, same]
      rfl
    | some old =>
      let ack : UInt8 := if scene.session.protocol = .mqtt311 then 1 else 0
      let event : SessionResumeEvent :=
        { clientId := scene.session.clientID, brokerId := scene.broker.brokerId }
      cases resumed : old.isPersistent with
      | false =>
        refine ⟨[], ack, fun _ member => absurd member List.not_mem_nil, ?_⟩
        simp only
        rw [resumed, when_neg_bind_apply Bool.false_ne_true, setBroker_bind_apply]
        rfl
      | true =>
        refine ⟨[.notify (.sessionResume event)], ack,
          fun effect member => ⟨event, List.mem_singleton.mp member⟩, ?_⟩
        simp only
        rw [resumed, when_pos rfl, bind_of_ok (notify_apply _ _),
          setBroker_bind_apply]
        rfl
  · rw [if_neg persistent, if_neg persistent]
    exact ⟨[], 0, fun _ member => absurd member List.not_mem_nil, rfl⟩

def Scene.newQueue (scene : Scene) (host : Host) (persistent : Bool) :
    Except GoString QueueRef × QueueService :=
  scene.broker.queueService.newQueue scene.session.clientID persistent host.dial

theorem openQueue_refused {persistent : Bool} {reason : GoString}
    (refused : (scene.newQueue host persistent).1 = .error reason) :
    openQueue host persistent scene = ⟨[], .error reason, { scene with broker :=
      { scene.broker with queueService := (scene.newQueue host persistent).2 } }⟩ := by
  unfold Scene.newQueue at refused ⊢
  rw [openQueue, session_bind_apply, broker_bind_apply, setQueueService, setBroker_bind_apply,
    refused]
  rfl

def Scene.observing (scene : Scene) (ref : QueueRef) (service : QueueService) : Scene :=
  { scene with
    session := { scene.session with queue := some ref }
    broker := { scene.broker with
      queueService := service.registerObserver ref (some scene.session.id) } }

theorem openQueue_given {persistent : Bool} {ref : QueueRef}
    (given : (scene.newQueue host persistent).1 = .ok ref) :
    openQueue host persistent scene = ⟨[.accessQueue], .ok (),
      scene.observing ref (scene.newQueue host persistent).2⟩ := by
  unfold Scene.newQueue at given ⊢
  rw [openQueue, session_bind_apply, broker_bind_apply, setQueueService, setBroker_bind_apply,
    given]
  rfl

/-! ## Opening the session -/

def Scene.prepared (scene : Scene) (cleanSession : UInt8) (willMsg : Option Message) : Scene :=
  { scene.takenOver cleanSession with session :=
    { scene.session with willMsg := willMsg, cleanSession := cleanSession } }

def announceSession (persistent : Bool) : SessionM Unit := do
  let session ← session
  setBroker (fun broker => broker.registerSession session.clientID
    (.mqtt session.id (session.cleanSession = 0)))
  notify (.sessionCreate { clientId := session.clientID, persistent := persistent })
  when (0 < session.keepalive) startKeepAlive
  handleDataAvailableNotification availableAll

def enterSession (cleanSession conack : UInt8) : SessionM Unit := do
  setSessionState .connected
  ignore (sendConnAck conack CONNACK_ACCEPTED)
  announceSession (cleanSession = 0)

theorem takenOver_session (scene : Scene) (cleanSession : UInt8) :
    (scene.takenOver cleanSession).session = scene.session := by
  unfold Scene.takenOver
  split <;> rfl

theorem takenOver_brokerId (scene : Scene) (cleanSession : UInt8) :
    (scene.takenOver cleanSession).broker.brokerId = scene.broker.brokerId := by
  unfold Scene.takenOver
  split <;> rfl

theorem takenOver_tree (scene : Scene) (cleanSession : UInt8) :
    (scene.takenOver cleanSession).broker.tree = scene.broker.tree := by
  unfold Scene.takenOver
  split <;> rfl

theorem takenOver_queueService (scene : Scene) (cleanSession : UInt8) :
    (scene.takenOver cleanSession).broker.queueService = scene.broker.queueService := by
  unfold Scene.takenOver
  split <;> rfl

theorem prepared_newQueue (scene : Scene) (cleanSession : UInt8) (willMsg : Option Message)
    (host : Host) (persistent : Bool) :
    (scene.prepared cleanSession willMsg).newQueue host persistent =
      scene.newQueue host persistent := by
  change (scene.takenOver cleanSession).broker.queueService.newQueue _ _ _ = _
  rw [takenOver_queueService]
  rfl

section Opening

variable {host : Host} {cleanSession : UInt8} {willMsg : Option Message} {scene : Scene}

theorem openSession_eq :
    exists effects ack, (forall effect, effect ∈ effects ->
        exists event, effect = Effect.notify (.sessionResume event)) ∧
      openSession host cleanSession willMsg scene =
        precede effects ((do
          openQueue host (cleanSession = 0)
          enterSession cleanSession ack : SessionM Unit)
            (scene.prepared cleanSession willMsg)) := by
  rcases takeOverSession_eq cleanSession scene with ⟨effects, ack, resumes, taken⟩
  refine ⟨effects, ack, resumes, ?_⟩
  rw [openSession, bind_of_ok taken, setSession_bind_apply, takenOver_session]
  rfl

theorem openSession_refused {reason : GoString}
    (refused : (scene.newQueue host (cleanSession = 0)).1 = .error reason) :
    exists effects, (forall effect, effect ∈ effects ->
        exists event, effect = Effect.notify (.sessionResume event)) ∧
      openSession host cleanSession willMsg scene = ⟨effects, .error reason,
        { scene.prepared cleanSession willMsg with broker :=
          { (scene.prepared cleanSession willMsg).broker with
            queueService := (scene.newQueue host (cleanSession = 0)).2 } }⟩ := by
  rcases @openSession_eq host cleanSession willMsg scene with ⟨effects, ack, resumes, opened⟩
  refine ⟨effects, resumes, ?_⟩
  have same := prepared_newQueue scene cleanSession willMsg host (cleanSession = 0)
  rw [← same] at refused ⊢
  have failed := openQueue_refused refused
  have outcome : (openQueue host (cleanSession = 0) (scene.prepared cleanSession willMsg)).outcome =
      .error reason := by
    rw [failed]
  rw [opened, bind_of_error outcome, failed]
  simp [precede]

theorem openSession_given {ref : QueueRef}
    (given : (scene.newQueue host (cleanSession = 0)).1 = .ok ref) :
    exists effects ack, (forall effect, effect ∈ effects -> effect = .accessQueue ∨
        exists event, effect = Effect.notify (.sessionResume event)) ∧
      openSession host cleanSession willMsg scene =
        precede effects (enterSession cleanSession ack
          ((scene.prepared cleanSession willMsg).observing ref
            (scene.newQueue host (cleanSession = 0)).2)) := by
  rcases @openSession_eq host cleanSession willMsg scene with ⟨effects, ack, resumes, opened⟩
  refine ⟨effects ++ [.accessQueue], ack, ?_, ?_⟩
  · intro effect member
    rcases List.mem_append.mp member with resumed | accessed
    · exact .inr (resumes effect resumed)
    · exact .inl (List.mem_singleton.mp accessed)
  · have same := prepared_newQueue scene cleanSession willMsg host (cleanSession = 0)
    rw [← same] at given ⊢
    rw [opened, bind_of_ok (openQueue_given given)]
    simp [precede]

end Opening

/-! ## The connected session -/

theorem useQueue_neverFails : NeverFails useQueue := by
  refine .bind (.bind .look (fun _ => .pure _)) (fun session => ?_)
  cases session.queue with
  | none => exact .crash _
  | some ref => exact .bind (.emit _) (fun _ => .pure _)

theorem broker_neverFails : NeverFails SessionM.broker :=
  .bind .look (fun _ => .pure _)

theorem resendEach_neverFails (indices : List Nat) : NeverFails (resendEach indices) := by
  induction indices with
  | nil => exact .pure ()
  | cons index later ih =>
    refine .bind useQueue_neverFails (fun ref => .bind broker_neverFails (fun broker =>
      .bind ?_ (fun _ => ih)))
    cases (broker.queueService.getRetainList ref).get index with
    | none => exact .pure ()
    | some msg => exact .ignore _

theorem drainQueue_neverFails (rounds : Nat) : NeverFails (drainQueue rounds) := by
  induction rounds with
  | zero => exact .spin
  | succ rounds ih =>
    refine .bind useQueue_neverFails (fun ref => .bind broker_neverFails (fun broker =>
      .ite ?_ (.pure ())))
    cases broker.queueService.front ref with
    | none => exact ih
    | some msg =>
      refine .bind (.attempt _) (fun answer => ?_)
      cases answer with
      | error reason => exact ih
      | ok sent =>
        exact .bind (.change _) (fun _ => .bind
          (.when (.bind broker_neverFails (fun _ => .bind (.ofPanic _) (fun _ => .change _))))
          (fun _ => ih))

theorem handleDataAvailableNotification_neverFails (t : UInt16) :
    NeverFails (handleDataAvailableNotification t) :=
  .bind (.when (.bind useQueue_neverFails (fun _ => .bind broker_neverFails (fun _ =>
      resendEach_neverFails _))))
    (fun _ => .when (.bind .look (fun _ => drainQueue_neverFails _)))

theorem enterSession_neverFails (cleanSession conack : UInt8) :
    NeverFails (enterSession cleanSession conack) :=
  .bind (.change _) (fun _ => .bind (.ignore _) (fun _ =>
    .bind (.bind .look (fun _ => .pure _)) (fun _ => .bind (.change _) (fun _ =>
      .bind (.bind broker_neverFails (fun _ => .emit _)) (fun _ =>
        .bind (.when (.bind (.change _) (fun _ => .emit _))) (fun _ =>
          handleDataAvailableNotification_neverFails _))))))

theorem connected_stable :
    QueueStable (fun scene => scene.session.sessionState = .connected) where
  packet := fun _ _ holds => holds
  conn := fun _ _ _ holds => holds
  nextPacketID := fun _ _ holds => holds
  protocol := fun _ _ holds => holds
  keepalive := fun _ _ holds => holds
  setContents := fun _ _ _ holds => holds
  setRetainList := fun _ _ _ holds => holds

theorem enterSession_connected (cleanSession conack : UInt8) (scene : Scene) :
    (enterSession cleanSession conack scene).state.session.sessionState = .connected := by
  let connected := fun scene : Scene => scene.session.sessionState = .connected
  have keeps : Keeps connected (fun _ => True) (do
      ignore (sendConnAck conack CONNACK_ACCEPTED)
      announceSession (cleanSession = 0)) :=
    .bind (.ignore (sendConnAck_keeps connected_stable.toStable (fun _ => True.intro) _ _)) (fun _ =>
      .bind session_keeps (fun _ => .bind (.change (fun _ holds => holds)) (fun _ =>
        .bind (notify_keeps (fun _ => True.intro)) (fun _ =>
          .bind (.when (fun _ => .bind (setSession_keeps (fun _ holds => holds)) (fun _ =>
            .emit True.intro))) (fun _ =>
            handleDataAvailableNotification_keeps connected_stable (fun _ => True.intro)
              True.intro _)))))
  rw [enterSession, setSessionState, setSession_bind_apply]
  exact (keeps _ rfl).2

/-! ## Invariants of the surroundings -/

structure BrokerStable (own : ConnId) (inv : Scene -> Prop) : Prop where
  owned : forall scene, inv scene -> scene.session.id = own
  packet : forall scene packet, inv scene -> inv { scene with packet := packet }
  session : forall scene session, session.id = own -> inv scene -> inv { scene with session := session }
  setContents : forall scene ref msgs, inv scene ->
    inv { scene with broker := { scene.broker with
      queueService := scene.broker.queueService.setContents ref msgs } }
  setRetainList : forall scene ref list, inv scene ->
    inv { scene with broker := { scene.broker with
      queueService := scene.broker.queueService.setRetainList ref list } }
  removeSession : forall scene clientId, inv scene ->
    inv { scene with broker := scene.broker.removeSession clientId }
  registerSession : forall scene clientId entry, inv scene ->
    inv { scene with broker := scene.broker.registerSession clientId entry }
  newQueue : forall scene clientId persistent dial, inv scene ->
    inv { scene with broker := { scene.broker with
      queueService := (scene.broker.queueService.newQueue clientId persistent dial).2 } }
  registerObserver : forall scene ref, inv scene ->
    inv { scene with broker := { scene.broker with
      queueService := scene.broker.queueService.registerObserver ref (some own) } }

namespace BrokerStable

variable {own : ConnId} {inv : Scene -> Prop} (stable : BrokerStable own inv)

include stable

variable {scene : Scene}

theorem change_session (holds : inv scene) {session : MqttSession}
    (same : session.id = scene.session.id) : inv { scene with session := session } :=
  stable.session scene session (same.trans (stable.owned scene holds)) holds

theorem toLifeStable : LifeStable inv where
  packet := stable.packet
  conn := fun _ _ _ holds => stable.change_session holds rfl
  nextPacketID := fun _ _ holds => stable.change_session holds rfl
  protocol := fun _ _ holds => stable.change_session holds rfl
  keepalive := fun _ _ holds => stable.change_session holds rfl
  setContents := stable.setContents
  setRetainList := stable.setRetainList
  willMsg := fun _ _ holds => stable.change_session holds rfl
  disconnecting := fun _ holds => stable.change_session holds rfl
  disconnected := fun _ holds => stable.change_session holds rfl
  closed := fun _ holds => stable.change_session holds rfl

theorem identify_keeps (host : Host) (request : ConnectRequest) :
    Keeps inv (fun _ => True) (identify host request) := by
  have life := stable.toLifeStable
  refine .bind (setSession_keeps (fun _ holds => stable.change_session holds rfl)) (fun _ =>
    .bind (.failWith _) (fun _ => .bind session_keeps (fun session =>
      .bind (.when (fun _ => ?_)) (fun _ =>
        setSession_keeps (fun _ holds => stable.change_session holds rfl)))))
  exact checkAuthentication_keeps life.toStable (fun _ => True.intro) (disconnect_keepsAny life) _

theorem enterSession_keeps (cleanSession conack : UInt8) :
    Keeps inv (fun _ => True) (enterSession cleanSession conack) := by
  have life := stable.toLifeStable
  refine .bind (setSession_keeps (fun _ holds => stable.change_session holds rfl)) (fun _ =>
    .bind (.ignore (sendConnAck_keeps life.toStable (fun _ => True.intro) _ _)) (fun _ =>
      .bind session_keeps (fun session => ?_)))
  exact .bind (.change (fun scene holds => stable.registerSession scene _ _ holds)) (fun _ =>
    .bind (notify_keeps (fun _ => True.intro)) (fun _ =>
      .bind (.when (fun _ => .bind
        (setSession_keeps (fun _ holds => stable.change_session holds rfl))
        (fun _ => .emit True.intro))) (fun _ =>
        handleDataAvailableNotification_keeps life.toQueueStable (fun _ => True.intro)
          True.intro _)))

theorem openSession_keeps (host : Host) (cleanSession : UInt8) (willMsg : Option Message)
    (holds : inv scene) : inv (openSession host cleanSession willMsg scene).state := by
  have prepared : inv (scene.prepared cleanSession willMsg) := by
    have taken : inv (scene.takenOver cleanSession) := by
      unfold Scene.takenOver
      split
      · exact stable.removeSession scene _ holds
      · exact holds
    refine stable.change_session taken ?_
    rw [takenOver_session]
  have same := prepared_newQueue scene cleanSession willMsg host (cleanSession = 0)
  have served := stable.newQueue _ (scene.prepared cleanSession willMsg).session.clientID
    (cleanSession = 0) host.dial prepared
  cases answer : (scene.newQueue host (cleanSession = 0)).1 with
  | error reason =>
    rcases @openSession_refused host cleanSession willMsg scene _ answer with ⟨effects, _, failed⟩
    rw [failed, ← same]
    exact served
  | ok ref =>
    rcases @openSession_given host cleanSession willMsg scene _ answer
        with ⟨effects, ack, _, entered⟩
    rw [entered, precede_state, ← same]
    refine (stable.enterSession_keeps cleanSession ack _ ?_).2
    unfold Scene.observing
    rw [stable.owned _ prepared]
    exact stable.change_session (stable.registerObserver _ ref served) rfl

theorem handleConnect_keeps (host : Host) (holds : inv scene) :
    inv (handleConnect host scene).state := by
  have opening : forall request, Keeps inv (fun _ => True) (do
      identify host request
      openSession host request.cleanSession request.willMsg) :=
    fun request => .bind (stable.identify_keeps host request) (fun _ scene holds =>
      ⟨fun _ _ => True.intro, stable.openSession_keeps host _ _ holds⟩)
  have keeps : Keeps inv (fun _ => True) (handleConnect host) :=
    .bind (readConnect_keeps stable.toLifeStable.toStable (fun _ => True.intro)) opening
  exact (keeps scene holds).2

theorem handleInput_keeps (host : Host) (input : Input) {scene : Scene} (holds : inv scene) :
    inv (handleInput host input scene).state := by
  have life := stable.toLifeStable
  apply Mqtt.handleInput_keeps life
  cases input with
  | failure reason => exact holds
  | available t =>
    exact (@handleDataAvailableNotification_keeps inv (fun _ => True) life.toQueueStable
      (fun _ => True.intro) True.intro t scene holds).2
  | packet packet =>
    have received := stable.packet scene packet holds
    change inv (handleMqttPacket host { scene with packet := packet }).state
    by_cases connect : packetType packet = CONNECT
    · rw [handleMqttPacket_connect connect]
      exact stable.handleConnect_keeps host received
    · exact handleMqttPacket_keeps life host received connect

end BrokerStable

end Mqtt
end Sentel
