import Sentel.Auth.Auth
import Sentel.Mqtt.Packet
import Sentel.SessionMgr.SessionManager

namespace Sentel
namespace Mqtt

open Library Handler Base Queue Event SessionMgr Auth MqttPacket

/-!
# MQTT sessions

A session serves one connection.  Its main loop handles one input at a time: a
decoded packet, an error of the reader or of the keep-alive timer, or a notice
that its queue has data.  A handler reads the packet, sends frames, notifies
events and uses the services of the broker.  The model keeps the order in
which these effects take place.

Times, metrics and the message state are left out; no handler reads them.
-/

/-- The session states that the source uses. -/
inductive SessionState
  | new
  | connected
  | disconnecting
  | disconnected
  deriving DecidableEq, Repr

def nameOfSessionState : SessionState -> GoString
  | .new => ascii "mqttStateNew"
  | .connected => ascii "mqttStateConnected"
  | .disconnecting => ascii "mqttStateDisconnecting"
  | .disconnected => ascii "mqttStateDisconnected"

inductive Protocol
  | invalid
  | mqtt31
  | mqtt311
  deriving DecidableEq, Repr

/-- What one call of `Write` on the connection answers.  It accepts all bytes,
or as many as the limit says, and may report a failure. -/
structure WriteAnswer where
  limit : Option Nat := none
  failure : Option GoString := none
  deriving DecidableEq

def WriteAnswer.accepts (answer : WriteAnswer) (bytes : List UInt8) : List UInt8 :=
  match answer.limit with
  | none => bytes
  | some limit => bytes.take limit

/-- A connection answers finitely many writes in any way and the later ones all
alike.  A call that returns has seen finitely many answers, so nothing is lost
by the second half. -/
structure Connection where
  answers : List WriteAnswer
  final : WriteAnswer
  deriving DecidableEq

def Connection.next (conn : Connection) : WriteAnswer × Connection :=
  match conn.answers with
  | [] => (conn.final, conn)
  | answer :: later => (answer, { conn with answers := later })

/-- `mqttSession` -/
structure MqttSession where
  id : ConnId
  conn : Option Connection
  clientID : GoString := []
  keepalive : UInt16 := 0
  protocol : Protocol := .invalid
  cleanSession : UInt8 := 0
  willMsg : Option Message := none
  mountpoint : GoString := []
  sessionState : SessionState := .new
  authctx : Context := {}
  aliveTimer : Bool := false
  queue : Option QueueRef := none
  nextPacketID : UInt16 := 0
  authNeed : Bool
  productID : GoString := []

def newMqttSession (id : ConnId) (conn : Connection) (authNeed : Bool) : MqttSession where
  id := id
  conn := some conn
  authNeed := authNeed

/-- What a session finds around it: the auth service, the configured limit of
a published payload and the answer of the message store to a new client. -/
structure Host where
  auth : AuthService
  messageSizeLimit : Int
  dial : Except GoString Unit

/-- What a handler can do to the outside. -/
inductive Effect
  | notify (event : BrokerEvent)
  | write (command : UInt8) (bytes : List UInt8)
  | accessQueue
  | startTimer
  | stopTimer
  | closeConn
  | closeAvailableChan
  | closePacketChan
  deriving DecidableEq

/-- The state of a running handler: its session, the packet it reads and the
shared services. -/
structure Scene where
  session : MqttSession
  packet : MqttPacket
  broker : Broker

abbrev SessionM (Value : Type) := Handler Scene Effect GoString Value

namespace SessionM

def session : SessionM MqttSession := do
  return (← look).session

def broker : SessionM Broker := do
  return (← look).broker

def setSession (update : MqttSession -> MqttSession) : SessionM Unit :=
  change (fun scene => { scene with session := update scene.session })

def setBroker (update : Broker -> Broker) : SessionM Unit :=
  change (fun scene => { scene with broker := update scene.broker })

def reading {Value : Type} (read : PacketM Effect Value) : SessionM Value :=
  within Scene.packet (fun packet scene => { scene with packet := packet }) read

def notify (event : BrokerEvent) : SessionM Unit := do
  let broker ← broker
  emit (.notify (event.setBrokerId broker.brokerId))

def useQueue : SessionM QueueRef := do
  let session ← session
  match session.queue with
  | none => crash .nilDereference
  | some ref =>
    emit .accessQueue
    return ref

def setQueueService (update : QueueService -> QueueService) : SessionM Unit :=
  setBroker (fun broker => { broker with queueService := update broker.queueService })

end SessionM

open SessionM

def setSessionState (state : SessionState) : SessionM Unit :=
  setSession (fun session => { session with sessionState := state })

def stateMiss (expected now : SessionState) : GoString :=
  ascii "mqtt: state miss occurred, expected:" ++ nameOfSessionState expected ++
    ascii ", now:" ++ nameOfSessionState now

def checkSessionState (state : SessionState) : SessionM Unit := do
  let session ← session
  failIf (session.sessionState ≠ state) (stateMiss state session.sessionState)

/-! ## Sending -/

def connWrite (command : UInt8) (bytes : List UInt8) : SessionM Nat := do
  let session ← session
  match session.conn with
  | none => crash .nilDereference
  | some conn =>
    setSession (fun session => { session with conn := some conn.next.2 })
    let sent := conn.next.1.accepts bytes
    when (sent ≠ []) (emit (.write command sent))
    failWith conn.next.1.failure
    return sent.length

/-- The loop of `writePacket`.  Every round but the last sends at least one
byte. -/
def writeRounds : Nat -> MqttPacket -> SessionM Unit
  | 0, _ => pure ()
  | rounds + 1, packet => do
    if 0 < packet.toprocess then
      let bytes ← ofPanic (packet.payload.subslice packet.pos packet.toprocess)
      let len ← connWrite packet.command bytes
      if 0 < len then
        writeRounds rounds { packet with
          toprocess := packet.toprocess - len
          pos := packet.pos + len }
      else
        let session ← session
        fail (ascii "Failed to send packet to '" ++ session.clientID ++ ascii "'")

def writePacket (packet : MqttPacket) : SessionM Unit :=
  writeRounds packet.length { packet with pos := 0, toprocess := packet.length }

def sendPacket (packet : MqttPacket) (fill : PacketM Effect Unit) : SessionM Unit := do
  let filled ← building packet (do
    ignore initializePacket
    fill)
  writePacket filled

def sendSimpleCommand (cmd : UInt8) : SessionM Unit :=
  sendPacket { command := cmd, remainingLength := 1 } (pure ())

def sendPingRsp : SessionM Unit := sendSimpleCommand PINGRESP

def sendConnAck (ack result : UInt8) : SessionM Unit :=
  sendPacket { command := CONNACK, remainingLength := 2 } (do
    assignAt 0 ack
    assignAt 1 result)

def sendSubAck (pid : UInt16) (payload : List UInt8) : SessionM Unit :=
  sendPacket { command := SUBACK, remainingLength := 2 + payload.length } (do
    ignore (writeUint16 pid)
    when (payload ≠ []) (ignore (writeBytes payload)))

def sendCommandWithPacketID (command : UInt8) (pid : UInt16) (dup : Bool) : SessionM Unit :=
  sendPacket { command := if dup then command ||| 8 else command, remainingLength := 2 } (do
    assignAt 0 ((pid &&& 0xFF00) >>> 8).toUInt8
    assignAt 1 (pid &&& 0xFF).toUInt8)

def sendPubAck (pid : UInt16) : SessionM Unit := sendCommandWithPacketID PUBACK pid false

def sendPubComp (pid : UInt16) : SessionM Unit := sendCommandWithPacketID PUBCOMP pid false

def makePacketID : SessionM UInt16 := do
  let session ← session
  if session.nextPacketID < 65535 then
    setSession (fun session => { session with nextPacketID := session.nextPacketID + 1 })
    return session.nextPacketID
  else
    setSession (fun session => { session with nextPacketID := 0 })
    return 0

/-- The packet that `sendPublish` starts from. -/
def publishPacket (msg : Message) : MqttPacket :=
  { newMqttPacket with
    command := PUBLISH
    qos := msg.qos
    dup := msg.dup
    remainingLength :=
      2 + msg.topic.length + msg.payload.length + (if 0 < msg.qos then 2 else 0) }

def sendPublish (msg : Message) : SessionM Unit := do
  let pid ← (if 0 < msg.qos then makePacketID else pure 0)
  sendPacket (publishPacket msg) (do
    ignore (writeString msg.topic)
    when (0 < msg.qos) (ignore (writeUint16 pid))
    ignore (writeBytes msg.payload))

/-! ## Queued messages -/

def availableQueue : UInt16 := 1
def availableList : UInt16 := 2
def availableAll : UInt16 := availableQueue ||| availableList

def resend : Option Message -> SessionM Unit
  | none => pure ()
  | some msg => ignore (sendPublish msg)

/-- The loop of `handleDataAvailableNotification` over the list of messages
that wait for an acknowledgement. -/
def resendEach : List Nat -> SessionM Unit
  | [] => pure ()
  | index :: later => do
    let ref ← useQueue
    let broker ← broker
    resend ((broker.queueService.getRetainList ref).get index)
    resendEach later

def retainMessage (ref : QueueRef) (msg : Message) : SessionM Unit := do
  let broker ← broker
  let list ← ofPanic ((broker.queueService.getRetainList ref).pushback msg)
  setQueueService (fun service => service.setRetainList ref list)

/-- The loop of `handleDataAvailableNotification` over the queue.  A message
that cannot be sent is tried again at once. -/
def drainQueue : Nat -> SessionM Unit
  | 0 => spin
  | rounds + 1 => do
    let ref ← useQueue
    let broker ← broker
    if 0 < broker.queueService.length ref then
      match broker.queueService.front ref with
      | none => drainQueue rounds
      | some msg =>
        match ← attempt (sendPublish msg) with
        | .error _ => drainQueue rounds
        | .ok _ =>
          setQueueService (fun service => service.pop ref)
          when (msg.qos = 1) (retainMessage ref { msg with dup := true })
          drainQueue rounds

/-- Enough rounds for every drain that ends: each round sends a message or
uses up an answer of the connection, and when all answers are used up a
message that fails keeps failing. -/
def drainRounds (scene : Scene) : Nat :=
  (scene.session.queue.map scene.broker.queueService.length).getD 0 +
    (scene.session.conn.map (fun conn => conn.answers.length)).getD 0 + 1

def resendRetained : SessionM Unit := do
  let ref ← useQueue
  let broker ← broker
  resendEach (List.range (broker.queueService.getRetainList ref).length)

/-- Send the queued messages. -/
def sendQueued : SessionM Unit := do
  let scene ← look
  drainQueue (drainRounds scene)

def handleDataAvailableNotification (t : UInt16) : SessionM Unit := do
  when (t &&& availableList = availableList) resendRetained
  when (t &&& availableQueue = availableQueue) sendQueued

/-! ## Connecting -/

def parseOption (pair : GoString) (ctx : Context) : Context × Option GoString :=
  let invalid := some (ascii "Invalid authentication clientId options:'" ++ pair ++ ascii "'")
  match split 0x3D pair with
  | [name, value] =>
    if name = ascii "securemode" then
      match atoi value with
      | none => (ctx, invalid)
      | some mode => ({ ctx with securityMode := mode }, none)
    else if name = ascii "signmethod" then ({ ctx with signMethod := value }, none)
    else if name = ascii "timestamp" then
      match parseUint value with
      | none => (ctx, invalid)
      | some _ => ({ ctx with timestamp := value }, none)
    else (ctx, invalid)
  | _ => (ctx, invalid)

/-- The loop of `parseRequestOptions`. -/
def parseOptions : List GoString -> Context -> Context × Option GoString
  | [], ctx => (ctx, none)
  | pair :: later, ctx =>
    match parseOption pair ctx with
    | (ctx, some reason) => (ctx, some reason)
    | (ctx, none) => parseOptions later ctx

def parseRequestOptions (clientID userName _password : GoString) : Context × Option GoString :=
  match split 0x26 userName with
  | [deviceName, productID] =>
    let ctx : Context := { deviceName := deviceName, productID := productID }
    match split 0x7C clientID with
    | [name, options] => parseOptions (split 0x2C options) { ctx with clientID := name }
    | _ => (ctx,
        some (ascii "Invalid authentication clientId options:'" ++ clientID ++ ascii "'"))
  | _ => ({}, some (ascii "Invalid authentication user name options:'" ++ userName ++ ascii "'"))

def invalidVersion (version : UInt8) : GoString :=
  ascii "Invalid protocol version '" ++ decimal version.toNat ++ ascii "' in CONNECT packet"

def refuse {Value : Type} (result : UInt8) (reason : GoString) : SessionM Value := do
  ignore (sendConnAck 0 result)
  fail reason

/-- The `switch` of `handleConnect` on the protocol name. -/
def checkProtocol (protocolName : GoString) (protocolVersion cflags : UInt8) : SessionM Unit := do
  if protocolName = PROTOCOL_NAME_V31 then
    when (protocolVersion &&& 0x7F ≠ PROTOCOL_VERSION_V31)
      (refuse CONNACK_REFUSED_PROTOCOL_VERSION (invalidVersion protocolVersion))
    setSession (fun session => { session with protocol := .mqtt31 })
  else if protocolName = PROTOCOL_NAME_V311 then
    when (protocolVersion &&& 0x7F ≠ PROTOCOL_VERSION_V311)
      (refuse CONNACK_REFUSED_PROTOCOL_VERSION (invalidVersion protocolVersion))
    let scene ← look
    failIf (scene.packet.command &&& 0x0F ≠ 0x00) (invalidVersion protocolVersion)
    setSession (fun session => { session with protocol := .mqtt311 })
    failIf (cflags &&& 0x01 ≠ 0x00) (ascii "Invalid protocol version in connect flags")
  else
    fail (ascii "Invalid protocol name '" ++ protocolName ++ ascii "' in CONNECT packet")

def readClientID : SessionM GoString := do
  let invalid := ascii "Invalid mqtt packet with client id"
  match ← attempt (reading readString) with
  | .ok rawClientID =>
    if rawClientID = [] then refuse CONNACK_REFUSED_IDENTIFIER_REJECTED invalid
    else return rawClientID
  | .error _ => refuse CONNACK_REFUSED_IDENTIFIER_REJECTED invalid

def readingOr {Value : Type} (read : PacketM Effect Value) : SessionM Value := do
  match ← attempt (reading read) with
  | .ok value => return value
  | .error _ => fail mqttErrorInvalidProtocol

/-- The will message of a CONNECT packet, if its flags announce one. -/
def readWill (will willQos : UInt8) (willRetain : Bool) : SessionM (Option Message) := do
  if 0 < will then
    let topic ← readingOr readString
    failIf (topic = []) mqttErrorInvalidProtocol
    let session ← session
    let willTopic := session.mountpoint ++ topic
    let willPayloadLength ← readingOr readUint16
    let payload ← (if 0 < willPayloadLength then
        readingOr (readBytes willPayloadLength.toNat)
      else pure [])
    return some { topic := willTopic, qos := willQos, retain := willRetain, payload := payload }
  else
    let session ← session
    failIf (session.protocol = .mqtt311 ∧ (willQos ≠ 0 ∨ willRetain))
      mqttErrorInvalidProtocol
    return none

/-- The user name and the password of a CONNECT packet.  Both are read before
either error is looked at. -/
def readCredentials (cflags : UInt8) : SessionM (GoString × GoString) := do
  when (cflags &&& 0x40 = 0 ∨ cflags &&& 0x80 = 0)
    (refuse CONNACK_REFUSED_BAD_USERNAME_PASSWORD mqttErrorInvalidProtocol)
  let username ← attempt (reading readString)
  let password ← attempt (reading readString)
  match username, password with
  | .ok username, .ok password => return (username, password)
  | _, _ => refuse CONNACK_REFUSED_BAD_USERNAME_PASSWORD mqttErrorInvalidProtocol

/-- The fields that `handleConnect` has read when it looks at the credentials. -/
structure ConnectRequest where
  cleanSession : UInt8
  willMsg : Option Message
  rawClientID : GoString
  username : GoString
  password : GoString
  deriving DecidableEq

/-- `handleConnect` up to the credentials. -/
def readConnect : SessionM ConnectRequest := do
  checkSessionState .new
  let protocolName ← reading readString
  let protocolVersion ← reading readByte
  let cflags ← reading readByte
  checkProtocol protocolName protocolVersion cflags
  let cleanSession := (cflags &&& 0x02) >>> 1
  let will := cflags &&& 0x04
  let willQos := (cflags &&& 0x18) >>> 3
  let session ← session
  failIf (willQos ≥ 3)
    (ascii "Invalid Will Qos in CONNECT from " ++ session.clientID)
  let willRetain := cflags &&& 0x20 == 0x20
  failIf (will = 0 ∧ (willQos ≠ 0 ∨ willRetain))
    (ascii "Invalid Will Qos or Will Retain in CONNECT from " ++ session.clientID)
  let keepalive ← reading readUint16
  setSession (fun session => { session with keepalive := keepalive })
  let rawClientID ← readClientID
  let willMsg ← readWill will willQos willRetain
  let credentials ← readCredentials cflags
  return {
    cleanSession := cleanSession
    willMsg := willMsg
    rawClientID := rawClientID
    username := credentials.1
    password := credentials.2 }

def publishWill (reason : Option GoString) (session : MqttSession) : SessionM Unit :=
  match reason, session.willMsg with
  | some _, some will => notify (.topicPublish
      { clientID := session.clientID
        productID := session.productID
        topic := will.topic
        payload := will.payload
        qos := will.qos
        retain := will.retain })
  | _, _ => pure ()

def closeConn (session : MqttSession) : SessionM Unit :=
  match session.conn with
  | none => crash .nilDereference
  | some _ => emit .closeConn

def disconnect (reason : Option GoString) : SessionM Unit := do
  let session ← session
  if session.sessionState ≠ .disconnected then
    publishWill reason session
    notify (.sessionDestroy { clientId := session.clientID })
    setSessionState .disconnected
    when session.aliveTimer (emit .stopTimer)
    closeConn session
    setSession (fun session => { session with conn := none })
    emit .closeAvailableChan
    emit .closePacketChan

/-- The `switch` of `handleConnect` on the answer of the auth service. -/
def checkAuthentication : Except AuthError Unit -> SessionM Unit
  | .ok _ => pure ()
  | .error .unauthorized => do
    ignore (sendConnAck 0 CONNACK_REFUSED_NOT_AUTHORIZED)
    disconnect (some AuthError.unauthorized.text)
    fail AuthError.unauthorized.text
  | .error (.other reason) => do
    disconnect (some reason)
    fail reason

/-- `handleConnect` from the credentials to the client identifier. -/
def identify (host : Host) (request : ConnectRequest) : SessionM Unit := do
  let parsed := parseRequestOptions request.rawClientID request.username request.password
  setSession (fun session => { session with authctx := parsed.1 })
  failWith parsed.2
  let session ← session
  when session.authNeed (checkAuthentication (host.auth.authenticate parsed.1))
  setSession (fun session => { session with
    clientID := parsed.1.clientID
    productID := parsed.1.productID })

/-- The part of `handleConnect` that takes over the entry of an old session.
It returns the acknowledgement flags. -/
def takeOverSession (cleanSession : UInt8) : SessionM UInt8 := do
  let session ← session
  if cleanSession = 0 then
    match (← broker).findSession session.clientID with
    | none => return 0
    | some old =>
      when old.isPersistent (notify (.sessionResume { clientId := session.clientID }))
      setBroker (fun broker => broker.removeSession session.clientID)
      return if session.protocol = .mqtt311 then 1 else 0
  else return 0

/-- The part of `handleConnect` that gets a queue for the session and observes
it. -/
def openQueue (host : Host) (persistent : Bool) : SessionM Unit := do
  let session ← session
  let answer := (← broker).queueService.newQueue session.clientID persistent host.dial
  setQueueService (fun _ => answer.2)
  match answer.1 with
  | .error reason => fail reason
  | .ok ref =>
    setSession (fun session => { session with queue := some ref })
    let ref ← useQueue
    setQueueService (fun service => service.registerObserver ref (some session.id))

def startKeepAlive : SessionM Unit := do
  setSession (fun session => { session with aliveTimer := true })
  emit .startTimer

/-- `handleConnect` once the client is known. -/
def openSession (host : Host) (cleanSession : UInt8) (willMsg : Option Message) :
    SessionM Unit := do
  let conack ← takeOverSession cleanSession
  setSession (fun session => { session with willMsg := willMsg, cleanSession := cleanSession })
  openQueue host (cleanSession = 0)
  setSessionState .connected
  ignore (sendConnAck conack CONNACK_ACCEPTED)
  let session ← session
  setBroker (fun broker => broker.registerSession session.clientID
    (.mqtt session.id (session.cleanSession = 0)))
  notify (.sessionCreate
    { clientId := session.clientID, persistent := cleanSession = 0 })
  when (0 < session.keepalive) startKeepAlive
  handleDataAvailableNotification availableAll

def handleConnect (host : Host) : SessionM Unit := do
  let request ← readConnect
  identify host request
  openSession host request.cleanSession request.willMsg

/-! ## The other packets -/

def handleDisconnect : SessionM Unit := do
  let scene ← look
  failIf (scene.packet.remainingLength ≠ 0) mqttErrorInvalidProtocol
  failIf (scene.session.protocol = .mqtt311 ∧ scene.packet.command &&& 0x0F ≠ 0x00)
    mqttErrorInvalidProtocol
  setSession (fun session => { session with willMsg := none })
  setSessionState .disconnecting
  disconnect none

def readFilter : SessionM (GoString × UInt8) := do
  let topic ← reading readString
  let qos ← reading readByte
  failIf (qos > 2) mqttErrorInvalidProtocol
  return (topic, qos)

/-- The loop of `handleSubscribe`.  Every round moves the position on, so the
remaining length bounds the rounds. -/
def subscribeEach : Nat -> List UInt8 -> SessionM (List UInt8)
  | 0, payload => pure payload
  | rounds + 1, payload => do
    let packet := (← look).packet
    if packet.pos < packet.remainingLength then
      let filter ← readFilter
      let session ← session
      when (filter.2 ≠ 0x80) (notify (.topicSubscribe
        { clientID := session.clientID
          topic := session.mountpoint ++ filter.1
          qos := filter.2
          retain := true }))
      subscribeEach rounds (payload ++ [filter.2])
    else return payload

def handleSubscribe : SessionM Unit := do
  let scene ← look
  failIf (scene.session.protocol = .mqtt311 ∧ scene.packet.command &&& 0x0F ≠ 0x02)
    mqttErrorInvalidProtocol
  let pid ← reading readUint16
  let payload ← subscribeEach scene.packet.remainingLength []
  failIf (scene.session.protocol = .mqtt311 ∧ payload = []) mqttErrorInvalidProtocol
  sendSubAck pid payload

/-- The loop of `handleUnsubscribe`. -/
def unsubscribeEach : Nat -> SessionM Unit
  | 0 => pure ()
  | rounds + 1 => do
    let packet := (← look).packet
    if packet.pos < packet.remainingLength then
      let topic ← readingOr readString
      let session ← session
      notify (.topicUnsubscribe { clientID := session.clientID, topic := topic })
      unsubscribeEach rounds

def handleUnsubscribe : SessionM Unit := do
  let scene ← look
  failIf (scene.session.protocol = .mqtt311 ∧ scene.packet.command &&& 0x0F ≠ 0x02)
    mqttErrorInvalidProtocol
  let pid ← reading readUint16
  unsubscribeEach scene.packet.remainingLength
  sendCommandWithPacketID UNSUBACK pid false

def readTopic (clientID : GoString) : SessionM GoString := do
  match ← attempt (reading readString) with
  | .ok topic => return topic
  | .error _ => fail (ascii "Invalid topic in PUBLISH from " ++ clientID)

def readPayload (host : Host) : SessionM (List UInt8) := do
  let scene ← look
  let payloadlen := scene.packet.remainingLength - scene.packet.pos
  if 0 < payloadlen then
    failIf (host.messageSizeLimit < payloadlen) mqttErrorInvalidProtocol
    reading (readBytes payloadlen)
  else return []

def readPublish (host : Host) : SessionM (TopicPublishEvent × UInt16) := do
  let scene ← look
  let qos := (scene.packet.command &&& 0x06) >>> 1
  failIf (qos > 2)
    (ascii "Invalid Qos in PUBLISH from " ++ scene.session.clientID ++ ascii ", disconnectiing")
  let retain := scene.packet.command &&& 0x01
  let topic ← readTopic scene.session.clientID
  let pid ← (if 0 < qos then reading readUint16 else pure 0)
  let payload ← readPayload host
  return ({ clientID := scene.session.clientID
            productID := scene.session.productID
            topic := scene.session.mountpoint ++ topic
            qos := qos
            retain := decide (0 < retain)
            payload := payload }, pid)

def Host.refusesPublish (host : Host) (session : MqttSession) (topic : GoString) : Bool :=
  match host.auth.authorize session.authctx session.clientID topic AclWrite with
  | .error _ => true
  | .ok _ => false

def handlePublish (host : Host) : SessionM Unit := do
  let received ← readPublish host
  let event := received.1
  let session ← session
  failIf (host.refusesPublish session event.topic) mqttErrorConnectRefused
  if event.qos = 0 then notify (.topicPublish event)
  else if event.qos = 1 then
    notify (.topicPublish event)
    sendPubAck received.2
  else if event.qos = 2 then fail (ascii "MQTT qos 2 is not supported now")
  else fail mqttErrorInvalidProtocol

def handlePubAck : SessionM Unit := do
  let scene ← look
  failIf (scene.packet.remainingLength ≠ 2) (ascii "PUBACK remainingLength error")
  let pid ← reading readUint16
  let ref ← useQueue
  setQueueService (fun service =>
    service.setRetainList ref ((service.getRetainList ref).remove pid))

def handlePubRel : SessionM Unit := do
  let scene ← look
  failIf (scene.session.protocol = .mqtt311 ∧ scene.packet.command &&& 0x0F ≠ 0x02)
    mqttErrorInvalidProtocol
  let pid ← reading readUint16
  sendPubComp pid

def handlePingReq : SessionM Unit := sendPingRsp

/-! ## The main loop -/

def packetType (packet : MqttPacket) : UInt8 := packet.command &&& 0xF0

def handleMqttPacket (host : Host) : SessionM Unit := do
  let kind := packetType (← look).packet
  if kind = PINGREQ then handlePingReq
  else if kind = CONNECT then handleConnect host
  else if kind = DISCONNECT then handleDisconnect
  else if kind = PUBLISH then handlePublish host
  else if kind = PUBREL then handlePubRel
  else if kind = SUBSCRIBE then handleSubscribe
  else if kind = UNSUBSCRIBE then handleUnsubscribe
  else if kind = PUBACK then handlePubAck
  else fail (ascii "Unrecognized protocol command:" ++ decimal kind.toNat)

/-- What the main loop can receive. -/
inductive Input
  | failure (reason : GoString)
  | available (t : UInt16)
  | packet (packet : MqttPacket)

/-- The `select` of the main loop. -/
def receive (host : Host) : Input -> SessionM Unit
  | .failure reason => fail reason
  | .available t => handleDataAvailableNotification t
  | .packet packet => do
    change (fun scene => { scene with packet := packet })
    handleMqttPacket host

/-- One round of the main loop.  It returns the error that ends the loop. -/
def handleInput (host : Host) (input : Input) : SessionM (Option GoString) := do
  match ← attempt (receive host input) with
  | .ok _ => return none
  | .error reason =>
    disconnect (some reason)
    return some reason

/-- The rounds of the main loop over a list of inputs, up to the one that ends
the loop. -/
def handleInputs (host : Host) : List Input -> Scene ->
    List (Input × Run Scene Effect GoString (Option GoString))
  | [], _ => []
  | input :: later, scene =>
    let run := handleInput host input scene
    (input, run) ::
      match run.outcome with
      | .ok none =>
        if run.state.session.sessionState = .disconnected then []
        else handleInputs host later run.state
      | _ => []

end Mqtt
end Sentel
