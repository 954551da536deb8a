import Sentel.Mqtt.BeforeConnect

namespace Sentel
namespace Mqtt

open Library Handler Base Queue Event SessionMgr Auth SessionM

/-!
# What one input does to a session

A session that has not ended is a new one or a connected one.  An input to its
main loop is served and changes nothing of this, or it accepts the connection,
or it ends the session.  The session ends in three ways: a DISCONNECT packet, a
client that fails authentication, and any other error, which the main loop
answers by disconnecting.  The case distinction below says this once, together
with the effects of each case.
-/

inductive Life
  | new
  | connected (will : Option Message)

namespace Life

def state : Life -> SessionState
  | .new => .new
  | .connected _ => .connected

def will : Life -> Option Message
  | .new => none
  | .connected will => will

theorem state_ne_disconnected (life : Life) : life.state ≠ .disconnected := by
  cases life <;> exact SessionState.noConfusion

end Life

structure Alive (life : Life) (scene : Scene) : Prop where
  state : scene.session.sessionState = life.state
  will : scene.session.willMsg = life.will
  opened : scene.session.conn ≠ none

variable {life : Life} {scene : Scene}

theorem Alive.running (alive : Alive life scene) : scene.session.sessionState ≠ .disconnected := by
  rw [alive.state]
  exact life.state_ne_disconnected

theorem Alive.elsewhere {other : Scene} (alive : Alive life scene)
    (same : other.session = scene.session) : Alive life other := by
  refine ⟨?_, ?_, ?_⟩ <;> rw [same]
  · exact alive.state
  · exact alive.will
  · exact alive.opened

theorem alive_stable (life : Life) : QueueStable (Alive life) where
  packet := fun _ _ alive => ⟨alive.state, alive.will, alive.opened⟩
  conn := fun _ _ _ alive => ⟨alive.state, alive.will, Option.some_ne_none _⟩
  nextPacketID := fun _ _ alive => ⟨alive.state, alive.will, alive.opened⟩
  protocol := fun _ _ alive => ⟨alive.state, alive.will, alive.opened⟩
  keepalive := fun _ _ alive => ⟨alive.state, alive.will, alive.opened⟩
  setContents := fun _ _ _ alive => ⟨alive.state, alive.will, alive.opened⟩
  setRetainList := fun _ _ _ alive => ⟨alive.state, alive.will, alive.opened⟩

def Plain : Effect -> Prop
  | .notify (.sessionCreate _) => False
  | .notify (.sessionDestroy _) => False
  | .notify (.topicPublish _) => False
  | .stopTimer => False
  | .closeConn => False
  | .closeAvailableChan => False
  | .closePacketChan => False
  | _ => True

def Input.isPublish : Input -> Prop
  | .packet received => packetType received = PUBLISH
  | _ => False

instance (input : Input) : Decidable input.isPublish :=
  match input with
  | .failure _ => inferInstanceAs (Decidable False)
  | .available _ => inferInstanceAs (Decidable False)
  | .packet _ => inferInstanceAs (Decidable (_ = _))

def Serves (input : Input) (effect : Effect) : Prop :=
  Plain effect ∨ input.isPublish ∧ exists event, effect = .notify (.topicPublish event)

structure FailsWith (will : Option Message) (reason : GoString)
    (run : Run Scene Effect GoString Unit) : Prop where
  effects : forall effect, effect ∈ run.effects -> Plain effect
  outcome : run.outcome = .error reason
  state : run.state.session.sessionState = .new
  will : run.state.session.willMsg = will
  opened : run.state.session.conn ≠ none

inductive Received (host : Host) (input : Input) (scene : Scene) : Life -> Prop
  /-- The input is served, fails or panics, and the session is what it was. -/
  | served {life : Life}
      (effects : forall effect, effect ∈ (receive host input scene).effects -> Serves input effect)
      (alive : Alive life (receive host input scene).state) : Received host input scene life
  /-- The handler panics on its way. -/
  | crashed {life : Life}
      (effects : forall effect, effect ∈ (receive host input scene).effects -> Plain effect)
      (notOk : (receive host input scene).outcome ≠ .ok ())
      (notError : forall reason, (receive host input scene).outcome ≠ .error reason) :
      Received host input scene life
  /-- A valid DISCONNECT packet. -/
  | left {life : Life} (before : Scene) (state : before.session.sessionState = .disconnecting)
      (opened : before.session.conn ≠ none)
      (run : receive host input scene = disconnect none before) : Received host input scene life
  /-- The client has failed authentication. -/
  | banned (effects : List Effect) (plain : forall effect, effect ∈ effects -> Plain effect)
      (before : Scene) (alive : Alive .new before) (reason : GoString)
      (run : receive host input scene = ⟨effects ++ (disconnect (some reason) before).effects,
        .error reason, (disconnect (some reason) before).state⟩) : Received host input scene .new
  /-- The client gets no queue, but its will is already set. -/
  | refused {packet : MqttPacket} (same : input = .packet packet)
      (connect : packetType packet = CONNECT) (request : ConnectRequest)
      (openable : Openable host { scene with packet := packet } request) (reason : GoString)
      (fails : FailsWith request.willMsg reason (receive host input scene))
      (loses : LosesQueue host { scene with packet := packet } ↔ request.willMsg ≠ none) :
      Received host input scene .new
  /-- The connection is accepted and reported. -/
  | accepted {packet : MqttPacket} (same : input = .packet packet)
      (connect : packetType packet = CONNECT) (request : ConnectRequest)
      (openable : Openable host { scene with packet := packet } request)
      (keeps : ¬ LosesQueue host { scene with packet := packet })
      (earlier later : List Effect) (event : SessionCreateEvent)
      (effects : (receive host input scene).effects =
        earlier ++ .notify (.sessionCreate event) :: later)
      (before : forall effect, effect ∈ earlier -> Plain effect)
      (after : forall effect, effect ∈ later -> Plain effect)
      (notError : forall reason, (receive host input scene).outcome ≠ .error reason)
      (alive : Alive (.connected request.willMsg) (receive host input scene).state) :
      Received host input scene .new

/-! ## Inputs that are served -/

theorem receive_failure (host : Host) (reason : GoString) (alive : Alive life scene) :
    Received host (.failure reason) scene life :=
  .served (fun _ member => absurd member List.not_mem_nil) alive

theorem receive_available (host : Host) (t : UInt16) (alive : Alive life scene) :
    Received host (.available t) scene life := by
  have keeps := @handleDataAvailableNotification_keeps _ Plain (alive_stable life)
    (fun _ => True.intro) True.intro t scene alive
  exact .served (fun effect member => .inl (keeps.1 effect member)) keeps.2

section Packets

variable {host : Host} {scene : Scene} {packet : MqttPacket} {life : Life}
  (alive : Alive life scene)

include alive

theorem receive_serves (other : packetType packet ≠ CONNECT)
    (stays : packetType packet ≠ DISCONNECT) : Received host (.packet packet) scene life := by
  have keeps := @handleMqttPacket_serves _ (Serves (.packet packet)) (alive_stable life)
    (fun _ _ => .inl True.intro) host { scene with packet := packet } other stays
    (fun _ => .inl True.intro) (fun _ => .inl True.intro)
    (fun publish event => .inr ⟨publish, event, rfl⟩) (.inl True.intro)
    ((alive_stable life).packet scene packet alive)
  exact .served keeps.1 keeps.2

theorem receive_fails {reason : GoString}
    (run : receive host (.packet packet) scene =
      ⟨[], .error reason, { scene with packet := packet }⟩) :
    Received host (.packet packet) scene life := by
  refine .served ?_ ?_
  · rw [run]
    exact fun _ member => absurd member List.not_mem_nil
  · rw [run]
    exact (alive_stable life).packet scene packet alive

theorem receive_disconnect (leaves : packetType packet = DISCONNECT) :
    Received host (.packet packet) scene life := by
  let first : Scene := { scene with packet := packet }
  have handler : receive host (.packet packet) scene = handleDisconnect first :=
    handleMqttPacket_disconnect leaves
  by_cases long : first.packet.remainingLength ≠ 0
  · apply receive_fails alive
    rw [handler, handleDisconnect, look_bind_apply, failIf_pos_bind_apply long]
  · by_cases flags : first.session.protocol = .mqtt311 ∧ first.packet.command &&& 0x0F ≠ 0x00
    · apply receive_fails alive
      rw [handler, handleDisconnect, look_bind_apply, failIf_neg_bind_apply long,
        failIf_pos_bind_apply flags]
    · refine .left { first with session := { scene.session with
        willMsg := none, sessionState := .disconnecting } } rfl alive.opened ?_
      rw [handler, handleDisconnect, look_bind_apply, failIf_neg_bind_apply long,
        failIf_neg_bind_apply flags, setSession_bind_apply, setSessionState,
        setSession_bind_apply]

end Packets

/-! ## CONNECT packets that are not accepted -/

inductive Halted {Value : Type} (run : Run Scene Effect GoString Value) : Prop
  | quietly (effects : forall effect, effect ∈ run.effects -> Plain effect)
      (alive : Alive .new run.state) : Halted run
  | ending (effects : List Effect) (plain : forall effect, effect ∈ effects -> Plain effect)
      (before : Scene) (alive : Alive .new before) (reason : GoString)
      (same : run = ⟨effects ++ (disconnect (some reason) before).effects, .error reason,
        (disconnect (some reason) before).state⟩) : Halted run

namespace Halted

variable {Value Next : Type} {call : SessionM Value} {next : Value -> SessionM Next} {scene : Scene}

theorem bind (notOk : forall value, (call scene).outcome ≠ .ok value) (halted : Halted (call scene)) :
    Halted ((call >>= next) scene) := by
  cases halted with
  | quietly effects alive =>
    have stopped := bind_of_stopped next notOk
    refine .quietly ?_ ?_
    · rw [stopped.1]
      exact effects
    · rw [stopped.2.1]
      exact alive
  | ending effects plain before alive reason same =>
    have failed : (call scene).outcome = .error reason := by rw [same]
    refine .ending effects plain before alive reason ?_
    rw [bind_of_error failed, same]

theorem after {effects : List Effect} {run : Run Scene Effect GoString Value}
    (plain : forall effect, effect ∈ effects -> Plain effect) (halted : Halted run) :
    Halted (precede effects run) := by
  cases halted with
  | quietly later alive =>
    refine .quietly ?_ alive
    intro effect member
    exact (List.mem_append.mp member).elim (plain effect) (later effect)
  | ending later plainLater before alive reason same =>
    refine .ending (effects ++ later) ?_ before alive reason ?_
    · intro effect member
      exact (List.mem_append.mp member).elim (plain effect) (plainLater effect)
    · rw [same, List.append_assoc]
      rfl

theorem disconnects (alive : Alive .new scene) (reason : GoString) :
    Halted ((do disconnect (some reason); fail reason : SessionM Value) scene) := by
  have ended := disconnect_eq (some reason) alive.running alive.opened
  refine .ending [] (fun _ member => absurd member List.not_mem_nil) scene alive reason ?_
  rw [bind_of_ok ended, ended]
  simp [precede]

theorem not_connected {run : Run Scene Effect GoString Value} (halted : Halted run) :
    run.state.session.sessionState ≠ .connected := by
  cases halted with
  | quietly _ alive =>
    rw [alive.state]
    exact SessionState.noConfusion
  | ending _ _ before alive reason same =>
    rw [same, disconnect_eq _ alive.running alive.opened]
    exact SessionState.noConfusion

end Halted

theorem checkAuthentication_halted (alive : Alive .new scene) (failure : AuthError) :
    Halted (checkAuthentication (.error failure) scene) := by
  cases failure with
  | other reason => exact .disconnects alive reason
  | unauthorized =>
    have keeps : Keeps (Alive .new) Plain
        (ignore (sendConnAck 0 CONNACK_REFUSED_NOT_AUTHORIZED)) :=
      .ignore (sendConnAck_keeps (alive_stable .new).toStable (fun _ => True.intro) _ _)
    have kept := keeps scene alive
    rcases returned_or_stopped (ignore (sendConnAck 0
      CONNACK_REFUSED_NOT_AUTHORIZED)) scene with ⟨value, sent⟩ | never
    · rw [checkAuthentication, bind_of_returned sent]
      exact .after kept.1 (.disconnects kept.2 _)
    · exact .bind never (.quietly kept.1 kept.2)

theorem authentication_halted (alive : Alive .new scene) (need : Bool)
    (answer : Except AuthError Unit) :
    Halted (when need (checkAuthentication answer) scene) := by
  cases need with
  | false =>
    rw [when_neg Bool.false_ne_true]
    exact .quietly (fun _ member => absurd member List.not_mem_nil) alive
  | true =>
    rw [when_pos rfl]
    cases answer with
    | ok value => exact .quietly (fun _ member => absurd member List.not_mem_nil) alive
    | error failure => exact checkAuthentication_halted alive failure

theorem identify_halted {host : Host} {request : ConnectRequest} (alive : Alive .new scene)
    (notOk : (identify host request scene).outcome ≠ .ok ()) :
    Halted (identify host request scene) := by
  let parsed := parseRequestOptions request.rawClientID request.username request.password
  let named : Scene := { scene with session := { scene.session with authctx := parsed.1 } }
  have aliveNamed : Alive .new named := ⟨alive.state, alive.will, alive.opened⟩
  have start : identify host request scene = (do
      failWith parsed.2
      let session ← session
      when session.authNeed (checkAuthentication (host.auth.authenticate parsed.1))
      setSession (fun session => { session with
        clientID := parsed.1.clientID, productID := parsed.1.productID }) : SessionM Unit) named :=
    rfl
  rw [start] at notOk ⊢
  cases problem : parsed.2 with
  | some reason => exact .quietly (fun _ member => absurd member List.not_mem_nil) aliveNamed
  | none =>
    rw [problem] at notOk
    change Halted ((when named.session.authNeed
      (checkAuthentication (host.auth.authenticate parsed.1)) >>= fun _ => _) named)
    change ((when named.session.authNeed
      (checkAuthentication (host.auth.authenticate parsed.1)) >>= fun _ => _) named).outcome ≠ _
      at notOk
    refine .bind ?_ ?_
    · intro value returned
      apply notOk
      rw [bind_of_returned returned]
      rfl
    · exact authentication_halted aliveNamed named.session.authNeed _

section Connect

variable {host : Host} {scene : Scene} {request : ConnectRequest}

theorem readConnect_plain {life : Life} (alive : Alive life scene) :
    (forall effect, effect ∈ (readConnect scene).effects -> Plain effect) ∧
      Alive life (readConnect scene).state :=
  readConnect_keeps (alive_stable life).toStable (fun _ => True.intro) scene alive

theorem handleConnect_halted (alive : Alive .new scene)
    (unknown : forall request, ¬ Openable host scene request) :
    Halted (handleConnect host scene) := by
  rcases readConnect_plain alive with ⟨plain, still⟩
  by_cases read : exists request, (readConnect scene).outcome = .ok request
  · rcases read with ⟨request, read⟩
    have unidentified : (identify host request (readConnect scene).state).outcome ≠ .ok () :=
      fun identified => unknown request ⟨read, identified⟩
    rw [handleConnect, bind_of_returned read]
    exact .after plain (.bind (fun _ => unidentified) (identify_halted still unidentified))
  · exact .bind (fun request returned => read ⟨request, returned⟩) (.quietly plain still)

theorem handleConnect_again {will : Option Message} (alive : Alive (.connected will) scene) :
    exists reason, handleConnect host scene = ⟨[], .error reason, scene⟩ := by
  have miss : scene.session.sessionState ≠ .new := by
    rw [alive.state]
    exact SessionState.noConfusion
  have silent : checkSessionState .new scene =
      ⟨[], .error (stateMiss .new scene.session.sessionState), scene⟩ := by
    rw [checkSessionState, session_bind_apply, failIf, when_pos miss]
    rfl
  have read : readConnect scene = ⟨[], .error (stateMiss .new scene.session.sessionState), scene⟩ := by
    rw [readConnect, bind_of_error (checkSessionState_of_ne miss), silent]
  have failed : (readConnect scene).outcome =
      .error (stateMiss .new scene.session.sessionState) := by rw [read]
  exact ⟨_, by rw [handleConnect, bind_of_error failed, read]⟩

end Connect

/-! ## Accepting a connection -/

theorem announceSession_reports {will : Option Message} (persistent : Bool)
    (alive : Alive (.connected will) scene) :
    Alive (.connected will) (announceSession persistent scene).state ∧
      exists event later, (announceSession persistent scene).effects =
          Effect.notify (.sessionCreate event) :: later ∧
        forall effect, effect ∈ later -> Plain effect := by
  have serves : Keeps (Alive (.connected will)) Plain (do
      when (0 < scene.session.keepalive) startKeepAlive
      handleDataAvailableNotification availableAll) :=
    .bind
      (.when (fun _ => .bind
        (setSession_keeps (fun _ alive => ⟨alive.state, alive.will, alive.opened⟩))
        (fun _ => .emit True.intro)))
      (fun _ => handleDataAvailableNotification_keeps (alive_stable _) (fun _ => True.intro)
        True.intro _)
  rw [announceSession, session_bind_apply, setBroker_bind_apply,
    bind_of_ok (notify_apply _ _), precede_effects, precede_state]
  have served := serves { scene with
    broker := scene.broker.registerSession scene.session.clientID
      (.mqtt scene.session.id (scene.session.cleanSession = 0)) }
    ⟨alive.state, alive.will, alive.opened⟩
  exact ⟨served.2, _, _, rfl, served.1⟩

theorem enterSession_reports {will : Option Message} (cleanSession conack : UInt8) {scene : Scene}
    (hasWill : scene.session.willMsg = will) (opened : scene.session.conn ≠ none) :
    Alive (.connected will) (enterSession cleanSession conack scene).state ∧
      ((enterSession cleanSession conack scene).outcome ≠ .ok () ∧
          (forall effect, effect ∈ (enterSession cleanSession conack scene).effects ->
            Plain effect) ∨
        exists earlier event later, (enterSession cleanSession conack scene).effects =
            earlier ++ Effect.notify (.sessionCreate event) :: later ∧
          (forall effect, effect ∈ earlier -> Plain effect) ∧
          (forall effect, effect ∈ later -> Plain effect)) := by
  let entered : Scene := { scene with session := { scene.session with sessionState := .connected } }
  have answers : Keeps (Alive (.connected will)) Plain
      (ignore (sendConnAck conack CONNACK_ACCEPTED)) :=
    .ignore (sendConnAck_keeps (alive_stable _).toStable (fun _ => True.intro) _ _)
  have answered := answers entered ⟨rfl, hasWill, opened⟩
  have start : enterSession cleanSession conack scene = (do
      ignore (sendConnAck conack CONNACK_ACCEPTED)
      announceSession (cleanSession = 0) : SessionM Unit) entered := by
    rw [enterSession, setSessionState, setSession_bind_apply]
  rw [start]
  rcases returned_or_stopped (ignore (sendConnAck conack CONNACK_ACCEPTED)) entered
    with ⟨value, sent⟩ | never
  · rcases announceSession_reports (cleanSession = 0) answered.2
        with ⟨alive, event, later, effects, plain⟩
    rw [bind_of_returned sent, precede_effects, precede_state, effects]
    exact ⟨alive, .inr ⟨_, event, later, rfl, answered.1, plain⟩⟩
  · have stopped := bind_of_stopped (fun _ : Unit => announceSession (cleanSession = 0)) never
    rw [stopped.1, stopped.2.1]
    exact ⟨answered.2, .inl ⟨stopped.2.2.1 (), answered.1⟩⟩

theorem enterSession_acknowledges (cleanSession conack : UInt8)
    (opened : scene.session.conn = some reliableConn) :
    Effect.write CONNACK [CONNACK, 2, conack, CONNACK_ACCEPTED] ∈
      (enterSession cleanSession conack scene).effects := by
  have sent := @sendConnAck_reliable conack CONNACK_ACCEPTED
    { scene with session := { scene.session with sessionState := .connected } } opened
  rw [enterSession, setSessionState, setSession_bind_apply,
    bind_of_ok (ignore_of_ok sent), precede_effects]
  exact List.mem_append_left _ (List.mem_singleton_self _)

/-! ## All inputs -/

section Inputs

variable {host : Host} {scene : Scene} {packet : MqttPacket}

theorem receive_handleConnect (connect : packetType packet = CONNECT) :
    receive host (.packet packet) scene = handleConnect host { scene with packet := packet } :=
  handleMqttPacket_connect connect

variable {input : Input} {reason : GoString}

theorem received_of_halted (halted : Halted (receive host input scene)) :
    Received host input scene .new := by
  cases halted with
  | quietly effects alive =>
    exact .served (fun effect member => .inl (effects effect member)) alive
  | ending effects plain before alive reason same =>
    exact .banned effects plain before alive reason same

theorem plain_of_resumes {effects : List Effect}
    (resumes : forall effect, effect ∈ effects ->
      exists event, effect = Effect.notify (.sessionResume event)) :
    forall effect, effect ∈ effects -> Plain effect := by
  intro effect member
  rcases resumes effect member with ⟨event, rfl⟩
  exact True.intro

theorem plain_append {first second : List Effect}
    (plainFirst : forall effect, effect ∈ first -> Plain effect)
    (plainSecond : forall effect, effect ∈ second -> Plain effect) :
    forall effect, effect ∈ first ++ second -> Plain effect :=
  fun effect member => (List.mem_append.mp member).elim (plainFirst effect) (plainSecond effect)

theorem losesQueue_iff {request : ConnectRequest} (alive : Alive .new scene)
    (openable : Openable host scene request) :
    LosesQueue host scene ↔ request.willMsg ≠ none ∧
      exists reason, (((readConnect scene).state.identified request.context).newQueue host
        (request.cleanSession = 0)).1 = .error reason :=
  losesQueue_iff_of_openable openable (readConnect_quiet alive.state alive.will).2.2.2

theorem receive_refused {request : ConnectRequest} (alive : Alive .new scene)
    (connect : packetType packet = CONNECT)
    (openable : Openable host { scene with packet := packet } request)
    (answer : (((readConnect { scene with packet := packet }).state.identified
      request.context).newQueue host (request.cleanSession = 0)).1 = .error reason) :
    FailsWith request.willMsg reason (receive host (.packet packet) scene) := by
  rcases readConnect_plain ((alive_stable .new).packet scene packet alive) with ⟨plain, still⟩
  rcases @openSession_refused host _ request.willMsg _ _ answer with ⟨effects, resumes, failed⟩
  rw [receive_handleConnect connect, handleConnect_opens openable, failed]
  exact ⟨plain_append plain (plain_of_resumes resumes), rfl, still.state, rfl, still.opened⟩

theorem receive_connect_new (alive : Alive .new scene) (connect : packetType packet = CONNECT) :
    Received host (.packet packet) scene .new := by
  let first : Scene := { scene with packet := packet }
  have handler := @receive_handleConnect host scene packet connect
  have fresh : Alive .new first := (alive_stable .new).packet scene packet alive
  by_cases known : exists request, Openable host first request
  · rcases known with ⟨request, openable⟩
    rcases readConnect_plain fresh with ⟨plain, still⟩
    have loses := losesQueue_iff fresh openable
    have run := handler.trans (handleConnect_opens openable)
    let identified := (readConnect first).state.identified request.context
    cases answer : (identified.newQueue host (request.cleanSession = 0)).1 with
    | error reason =>
      refine .refused rfl connect request openable reason
        (receive_refused alive connect openable answer) ?_
      rw [loses, answer]
      exact ⟨And.left, fun will => ⟨will, reason, rfl⟩⟩
    | ok ref =>
      rcases @openSession_given host _ request.willMsg _ ref answer
          with ⟨effects, ack, quiet, entered⟩
      rw [entered] at run
      have before : forall effect, effect ∈ effects -> Plain effect := by
        intro effect member
        rcases quiet effect member with rfl | ⟨event, rfl⟩ <;> exact True.intro
      have notError : forall reason, (receive host (.packet packet) scene).outcome ≠
          .error reason := by
        intro reason failed
        rw [run, precede_outcome, precede_outcome] at failed
        exact enterSession_neverFails _ _ _ reason failed
      have keeps : ¬ LosesQueue host first := by
        rw [loses, answer]
        rintro ⟨_, reason, refused⟩
        cases refused
      rcases @enterSession_reports request.willMsg request.cleanSession ack
          ((identified.prepared request.cleanSession request.willMsg).observing ref
            (identified.newQueue host (request.cleanSession = 0)).2) rfl still.opened
          with ⟨connected, stopped | ⟨earlier, event, later, reported, plainEarlier, plainLater⟩⟩
      · refine .crashed ?_ ?_ notError
        · rw [run, precede_effects, precede_effects]
          exact plain_append plain (plain_append before stopped.2)
        · rw [run, precede_outcome, precede_outcome]
          exact stopped.1
      · refine .accepted rfl connect request openable keeps
          ((readConnect first).effects ++ (effects ++ earlier)) later event ?_
          (plain_append plain (plain_append before plainEarlier)) plainLater notError ?_
        · rw [run, precede_effects, precede_effects, reported]
          simp only [List.append_assoc]
          rfl
        · rw [run, precede_state, precede_state]
          exact connected
  · apply received_of_halted
    rw [handler]
    exact handleConnect_halted fresh (fun request openable => known ⟨request, openable⟩)

theorem handleInput_disconnects (failed : (receive host input scene).outcome = .error reason)
    (running : (receive host input scene).state.session.sessionState ≠ .disconnected)
    (opened : (receive host input scene).state.session.conn ≠ none) :
    handleInput host input scene = ⟨(receive host input scene).effects ++
        (disconnect (some reason) (receive host input scene).state).effects,
      .ok (some reason), (receive host input scene).state.ended⟩ := by
  have ended := disconnect_eq (some reason) running opened
  rw [handleInput_failed failed, bind_of_ok ended, ended]
  simp [precede]

theorem handleInput_disconnected (failed : (receive host input scene).outcome = .error reason)
    (gone : (receive host input scene).state.session.sessionState = .disconnected) :
    handleInput host input scene = ⟨(receive host input scene).effects, .ok (some reason),
      (receive host input scene).state⟩ := by
  rw [handleInput_failed failed, bind_of_ok (disconnect_of_disconnected (some reason) gone)]
  simp [precede]

theorem readConnect_reliable (opened : scene.session.conn = some reliableConn) :
    (readConnect scene).state.session.conn = some reliableConn := by
  have stable : Stable (fun now => now.session.conn = some reliableConn) := {
    packet := fun _ _ holds => holds
    conn := fun _ _ opened holds => by
      rw [opened] at holds
      cases holds
      rfl
    nextPacketID := fun _ _ holds => holds
    protocol := fun _ _ holds => holds
    keepalive := fun _ _ holds => holds }
  exact (@readConnect_keeps _ (fun _ => True) stable (fun _ => True.intro) scene opened).2

theorem receive_acknowledges (alive : Alive .new scene) (connect : packetType packet = CONNECT)
    (opened : scene.session.conn = some reliableConn)
    (connected : (receive host (.packet packet) scene).state.session.sessionState = .connected) :
    exists ack, Effect.write CONNACK [CONNACK, 2, ack, CONNACK_ACCEPTED] ∈
      (receive host (.packet packet) scene).effects := by
  let first : Scene := { scene with packet := packet }
  have handler := @receive_handleConnect host scene packet connect
  have fresh : Alive .new first := (alive_stable .new).packet scene packet alive
  by_cases known : exists request, Openable host first request
  · rcases known with ⟨request, openable⟩
    let identified := (readConnect first).state.identified request.context
    cases answer : (identified.newQueue host (request.cleanSession = 0)).1 with
    | error reason =>
      rw [(receive_refused alive connect openable answer).state] at connected
      cases connected
    | ok ref =>
      rcases @openSession_given host _ request.willMsg _ ref answer
          with ⟨effects, ack, _, entered⟩
      refine ⟨ack, ?_⟩
      rw [handler, handleConnect_opens openable, entered, precede_effects,
        precede_effects]
      refine List.mem_append_right _ (List.mem_append_right _ ?_)
      exact enterSession_acknowledges _ _ (@readConnect_reliable first opened)
  · have halted := handleConnect_halted fresh (fun request openable => known ⟨request, openable⟩)
    rw [handler] at connected
    exact absurd connected halted.not_connected

theorem receive_loses {life : Life} (alive : Alive life scene)
    (connect : packetType packet = CONNECT)
    (loses : LosesQueue host { scene with packet := packet }) :
    life = .new ∧ exists will reason,
      FailsWith (some will) reason (receive host (.packet packet) scene) := by
  cases life with
  | connected will =>
    rcases loses with ⟨request, read, _⟩
    have new := readConnect_new read
    rw [alive.state] at new
    cases new
  | new =>
    have fresh := (alive_stable .new).packet scene packet alive
    have openable := loses
    rcases openable with ⟨request, read, identified, _⟩
    rcases (losesQueue_iff fresh ⟨read, identified⟩).mp loses with ⟨hasWill, reason, answer⟩
    rcases Option.ne_none_iff_exists'.mp hasWill with ⟨will, same⟩
    have fails := receive_refused alive connect ⟨read, identified⟩ answer
    rw [same] at fails
    exact ⟨rfl, will, reason, fails⟩

end Inputs

theorem received (host : Host) (input : Input) (alive : Alive life scene) :
    Received host input scene life := by
  cases input with
  | failure reason => exact receive_failure host reason alive
  | available t => exact receive_available host t alive
  | packet packet =>
    by_cases connect : packetType packet = CONNECT
    · cases life with
      | new => exact receive_connect_new alive connect
      | connected will =>
        rcases @handleConnect_again host { scene with packet := packet } will
          ((alive_stable _).packet scene packet alive) with ⟨reason, failed⟩
        exact receive_fails alive ((receive_handleConnect connect).trans failed)
    · by_cases leaves : packetType packet = DISCONNECT
      · exact receive_disconnect alive leaves
      · exact receive_serves alive connect leaves

end Mqtt
end Sentel
