import Sentel.Mqtt.Session

namespace Sentel
namespace Mqtt

open Library Handler Base Queue Event SessionMgr Auth SessionM MqttPacket

/-!
# What the parts of a session keep

Most handlers change little.  Sending moves the connection on and draws packet
identifiers, reading moves the position in the packet, and serving the queue
changes the queue service.  An invariant that reads none of these is kept by
all of them, and each of them emits a few kinds of effect only.  The rules are
stated once for such invariants and used for every property of the session.
-/

structure Stable (inv : Scene -> Prop) : Prop where
  packet : forall scene packet, inv scene -> inv { scene with packet := packet }
  conn : forall scene conn, scene.session.conn = some conn -> inv scene ->
    inv { scene with session := { scene.session with conn := some conn.next.2 } }
  nextPacketID : forall scene id, inv scene ->
    inv { scene with session := { scene.session with nextPacketID := id } }
  protocol : forall scene protocol, inv scene ->
    inv { scene with session := { scene.session with protocol := protocol } }
  keepalive : forall scene keepalive, inv scene ->
    inv { scene with session := { scene.session with keepalive := keepalive } }

structure QueueStable (inv : Scene -> Prop) : Prop extends Stable inv where
  setContents : forall scene ref msgs, inv scene ->
    inv { scene with broker := { scene.broker with
      queueService := scene.broker.queueService.setContents ref msgs } }
  setRetainList : forall scene ref list, inv scene ->
    inv { scene with broker := { scene.broker with
      queueService := scene.broker.queueService.setRetainList ref list } }

theorem queueStable_true : QueueStable (fun _ => True) where
  packet := fun _ _ _ => trivial
  conn := fun _ _ _ _ => trivial
  nextPacketID := fun _ _ _ => trivial
  protocol := fun _ _ _ => trivial
  keepalive := fun _ _ _ => trivial
  setContents := fun _ _ _ _ => trivial
  setRetainList := fun _ _ _ _ => trivial

variable {Value : Type} {scene : Scene} {host : Host}

@[simp] theorem session_bind_apply (next : MqttSession -> SessionM Value) (scene : Scene) :
    (SessionM.session >>= next) scene = next scene.session scene := rfl

@[simp] theorem broker_bind_apply (next : Broker -> SessionM Value) (scene : Scene) :
    (SessionM.broker >>= next) scene = next scene.broker scene := rfl

@[simp] theorem setSession_bind_apply (update : MqttSession -> MqttSession)
    (next : Unit -> SessionM Value) (scene : Scene) :
    (setSession update >>= next) scene =
      next () { scene with session := update scene.session } := rfl

@[simp] theorem setBroker_bind_apply (update : Broker -> Broker) (next : Unit -> SessionM Value)
    (scene : Scene) :
    (setBroker update >>= next) scene = next () { scene with broker := update scene.broker } := rfl

theorem notify_apply (event : BrokerEvent) (scene : Scene) :
    notify event scene = ⟨[.notify (event.setBrokerId scene.broker.brokerId)], .ok (), scene⟩ := rfl

def notified (effects : List Effect) : List BrokerEvent :=
  effects.filterMap (fun
    | .notify event => some event
    | _ => none)

theorem mem_notified {effects : List Effect} {event : BrokerEvent} :
    event ∈ notified effects ↔ Effect.notify event ∈ effects := by
  rw [notified, List.mem_filterMap]
  constructor
  · rintro ⟨effect, member, found⟩
    cases effect with
    | notify other =>
      cases found
      exact member
    | _ => cases found
  · exact fun member => ⟨_, member, rfl⟩

def Silent (effect : Effect) : Prop :=
  forall event, effect ≠ .notify event

theorem silent_write (command : UInt8) (bytes : List UInt8) : Silent (.write command bytes) := by
  intro event same
  cases same

theorem notified_append (first second : List Effect) :
    notified (first ++ second) = notified first ++ notified second :=
  List.filterMap_append

theorem notified_of_silent {effects : List Effect}
    (silent : forall effect, effect ∈ effects -> Silent effect) : notified effects = [] := by
  apply List.eq_nil_iff_forall_not_mem.mpr
  intro event member
  exact silent _ (mem_notified.mp member) event rfl

def isSessionCreate : BrokerEvent -> Bool
  | .sessionCreate _ => true
  | _ => false

/-- What a handler writes to its connection, one entry for each call of `Write`. -/
def written (effects : List Effect) : List (List UInt8) :=
  effects.filterMap (fun
    | .write _ bytes => some bytes
    | _ => none)

/-! ## The end of a session -/

def Scene.ended (scene : Scene) : Scene :=
  { scene with session := { scene.session with sessionState := .disconnected, conn := none } }

theorem publishWill_eq (reason : Option GoString) (session : MqttSession) (scene : Scene) :
    publishWill reason session scene =
      ⟨(publishWill reason session scene).effects, .ok (), scene⟩ := by
  cases reason with
  | none => rfl
  | some reason =>
    unfold publishWill
    cases session.willMsg with
    | none | some will => rfl

theorem closeConn_eq {session : MqttSession} (opened : session.conn ≠ none) (scene : Scene) :
    closeConn session scene = ⟨[.closeConn], .ok (), scene⟩ := by
  unfold closeConn
  cases conn : session.conn with
  | none => exact absurd conn opened
  | some conn => rfl

theorem disconnect_eq (reason : Option GoString)
    (running : scene.session.sessionState ≠ .disconnected) (opened : scene.session.conn ≠ none) :
    disconnect reason scene =
      ⟨(publishWill reason scene.session scene).effects ++
        (.notify (.sessionDestroy
          { clientId := scene.session.clientID, brokerId := scene.broker.brokerId }) ::
        ((if scene.session.aliveTimer then [.stopTimer] else []) ++
          [.closeConn, .closeAvailableChan, .closePacketChan])), .ok (), scene.ended⟩ := by
  rw [disconnect, session_bind_apply, if_pos running,
    bind_of_ok (publishWill_eq reason scene.session scene),
    bind_of_ok (notify_apply _ scene), setSessionState, setSession_bind_apply,
    bind_of_ok (when_emit_apply _), bind_of_ok (closeConn_eq opened _)]
  rfl

theorem disconnect_of_disconnected (reason : Option GoString)
    (gone : scene.session.sessionState = .disconnected) :
    disconnect reason scene = ⟨[], .ok (), scene⟩ := by
  rw [disconnect, session_bind_apply, if_neg (not_not.mpr gone)]
  rfl

/-! ## Packets keep their command -/

namespace MqttPacket

variable {command : UInt8} {allowed : Effect -> Prop}

theorem initializePacket_command :
    Keeps (fun packet => packet.command = command) allowed initializePacket := by
  refine .look_bind (fun packet _ => .ite (fun _ => ?_) (fun _ => ?_))
  · exact .bind (.change (fun _ same => same)) (fun _ => .fail _)
  · exact .change (fun _ same => same)

theorem assignAt_command (offset : Nat) (byte : UInt8) :
    Keeps (fun packet => packet.command = command) allowed (assignAt offset byte) :=
  .bind .look (fun _ => .bind (.ofPanic _) (fun _ => .change (fun _ same => same)))

theorem writeByte_command (byte : UInt8) :
    Keeps (fun packet => packet.command = command) allowed (writeByte byte) :=
  .bind .look (fun _ => .bind (.failIf _ _) (fun _ =>
    .bind (assignAt_command 0 byte) (fun _ => .change (fun _ same => same))))

theorem writeEach_command (bytes : List UInt8) :
    Keeps (fun packet => packet.command = command) allowed (writeEach bytes) := by
  induction bytes with
  | nil => exact .pure ()
  | cons byte rest ih =>
    exact .bind (assignAt_command 0 byte) (fun _ =>
      .bind (.change (fun _ same => same)) (fun _ => ih))

theorem writeBytes_command (bytes : List UInt8) :
    Keeps (fun packet => packet.command = command) allowed (writeBytes bytes) :=
  .bind .look (fun _ => .bind (.failIf _ _) (fun _ => writeEach_command bytes))

theorem writeUint16_command (data : UInt16) :
    Keeps (fun packet => packet.command = command) allowed (writeUint16 data) :=
  .bind (writeByte_command _) (fun _ => writeByte_command _)

theorem writeString_command (data : GoString) :
    Keeps (fun packet => packet.command = command) allowed (writeString data) :=
  .bind (writeUint16_command _) (fun _ => writeBytes_command data)

theorem readByte_quiet : Keeps (fun _ => True) allowed readByte :=
  .bind .look (fun _ => .bind (.failIf _ _) (fun _ => .bind (.ofPanic _) (fun _ =>
    .bind (.change (fun _ _ => True.intro)) (fun _ => .pure _))))

theorem readBytes_quiet (count : Nat) : Keeps (fun _ => True) allowed (readBytes count) :=
  .bind .look (fun _ => .bind (.failIf _ _) (fun _ => .bind (.ofPanic _) (fun _ =>
    .bind (.change (fun _ _ => True.intro)) (fun _ => .pure _))))

theorem readUint16_quiet : Keeps (fun _ => True) allowed readUint16 :=
  .bind .look (fun _ => .bind (.failIf _ _) (fun _ => .bind (.ofPanic _) (fun _ =>
    .bind (.change (fun _ _ => True.intro)) (fun _ => .bind (.ofPanic _) (fun _ =>
      .bind (.change (fun _ _ => True.intro)) (fun _ => .pure _))))))

theorem readUint16_remainingLength {length : Nat} :
    Keeps (fun packet => packet.remainingLength = length) allowed readUint16 :=
  .bind .look (fun _ => .bind (.failIf _ _) (fun _ => .bind (.ofPanic _) (fun _ =>
    .bind (.change (fun _ same => same)) (fun _ => .bind (.ofPanic _) (fun _ =>
      .bind (.change (fun _ same => same)) (fun _ => .pure _))))))

theorem readString_quiet : Keeps (fun _ => True) allowed readString :=
  .bind readUint16_quiet (fun _ => .bind .look (fun _ => .bind (.failIf _ _) (fun _ =>
    .bind (.ofPanic _) (fun _ => .bind (.change (fun _ _ => True.intro)) (fun _ => .pure _)))))

end MqttPacket

section Rules

variable {inv : Scene -> Prop} {allowed : Effect -> Prop}

theorem session_keeps : Keeps inv allowed SessionM.session :=
  .bind .look (fun _ => .pure _)

theorem session_bind {Value : Type} {next : MqttSession -> SessionM Value}
    (keeps : forall scene, inv scene -> Keeps inv allowed (next scene.session)) :
    Keeps inv allowed (SessionM.session >>= next) :=
  fun scene holds => keeps scene holds scene holds

theorem broker_keeps : Keeps inv allowed SessionM.broker :=
  .bind .look (fun _ => .pure _)

theorem notify_keeps {event : BrokerEvent}
    (fine : forall brokerId, allowed (.notify (event.setBrokerId brokerId))) :
    Keeps inv allowed (notify event) :=
  .bind broker_keeps (fun _ => .emit (fine _))

theorem publishWill_keeps (publishes : forall event, allowed (.notify (.topicPublish event)))
    (reason : Option GoString) (session : MqttSession) :
    Keeps inv allowed (publishWill reason session) := by
  unfold publishWill
  split
  · exact notify_keeps (fun _ => publishes _)
  · exact .pure ()

theorem useQueue_keeps (fine : allowed .accessQueue) : Keeps inv allowed useQueue := by
  refine .bind session_keeps (fun session => ?_)
  cases session.queue with
  | none => exact .crash _
  | some ref => exact .bind (.emit fine) (fun _ => .pure _)

theorem setSession_keeps {update : MqttSession -> MqttSession}
    (kept : forall scene, inv scene -> inv { scene with session := update scene.session }) :
    Keeps inv allowed (setSession update) :=
  .change kept

/-! ## Reading -/

section Reading

variable (moves : forall scene packet, inv scene -> inv { scene with packet := packet })

include moves

theorem reading_keeps {Value : Type} {read : PacketM Effect Value}
    (quiet : Keeps (fun _ => True) allowed read) :
    Keeps inv allowed (reading read) :=
  .within (fun packet scene holds => moves scene packet holds) quiet

theorem readingOr_keeps {Value : Type} {read : PacketM Effect Value}
    (quiet : Keeps (fun _ => True) allowed read) :
    Keeps inv allowed (readingOr read) := by
  refine .bind (.attempt (reading_keeps moves quiet)) (fun answer => ?_)
  cases answer with
  | ok value => exact .pure value
  | error reason => exact .fail _

theorem readFilter_keeps : Keeps inv allowed readFilter :=
  .bind (reading_keeps moves readString_quiet) (fun _ =>
    .bind (reading_keeps moves readByte_quiet) (fun _ =>
      .bind (.failIf _ _) (fun _ => .pure _)))

theorem readPublish_keeps (host : Host) : Keeps inv allowed (readPublish host) := by
  refine .bind .look (fun scene => .bind (.failIf _ _) (fun _ => .bind ?_ (fun topic =>
    .bind (.ite (fun _ => ?_) (fun _ => .pure _)) (fun pid => .bind ?_ (fun _ => .pure _)))))
  · refine .bind (.attempt (reading_keeps moves readString_quiet)) (fun answer => ?_)
    cases answer with
    | ok topic => exact .pure topic
    | error reason => exact .fail _
  · exact reading_keeps moves readUint16_quiet
  · exact .bind .look (fun _ => .ite
      (fun _ => .bind (.failIf _ _) (fun _ =>
        reading_keeps moves (readBytes_quiet _)))
      (fun _ => .pure _))

end Reading

/-! ## Sending -/

variable (stable : Stable inv)

include stable

theorem connWrite_keeps {command : UInt8} (fine : forall bytes, allowed (.write command bytes))
    (bytes : List UInt8) : Keeps inv allowed (connWrite command bytes) := by
  intro scene holds
  rw [connWrite, session_bind_apply]
  cases opened : scene.session.conn with
  | none => exact Keeps.crash _ scene holds
  | some conn =>
    have answers : Keeps inv allowed (do
        when (conn.next.1.accepts bytes ≠ [])
          (emit (Effect.write command (conn.next.1.accepts bytes)))
        failWith conn.next.1.failure
        return (conn.next.1.accepts bytes).length : SessionM Nat) :=
      .bind (.when (fun _ => .emit (fine _))) (fun _ => .bind (.failWith _) (fun _ => .pure _))
    exact answers _ (stable.conn scene conn opened holds)

theorem writeRounds_keeps (rounds : Nat) (packet : MqttPacket)
    (fine : forall bytes, allowed (.write packet.command bytes)) :
    Keeps inv allowed (writeRounds rounds packet) := by
  induction rounds generalizing packet with
  | zero => exact .pure ()
  | succ rounds ih =>
    refine .ite (fun _ => .bind (.ofPanic _) (fun bytes => ?_)) (fun _ => .pure ())
    refine .bind (connWrite_keeps stable fine bytes) (fun len => .ite (fun _ => ?_) (fun _ => ?_))
    · exact ih _ fine
    · exact .bind session_keeps (fun _ => .fail _)

theorem sendPacket_keeps {packet : MqttPacket} {fill : PacketM Effect Unit}
    (fine : forall bytes, allowed (.write packet.command bytes))
    (filling : Keeps (fun filled => filled.command = packet.command) allowed fill) :
    Keeps inv allowed (sendPacket packet fill) := by
  have built : Keeps (fun filled => filled.command = packet.command) allowed
      (do ignore initializePacket; fill) :=
    .bind (.ignore initializePacket_command) (fun _ => filling)
  refine .bind_returning (.building built rfl)
    (fun state filled _ returned => Keeps.building_returns built rfl returned) ?_
  intro filled same
  apply writeRounds_keeps stable
  rw [same]
  exact fine

theorem sendSimpleCommand_keeps {cmd : UInt8} (fine : forall bytes, allowed (.write cmd bytes)) :
    Keeps inv allowed (sendSimpleCommand cmd) :=
  sendPacket_keeps stable fine (.pure ())

theorem sendConnAck_keeps (fine : forall bytes, allowed (.write CONNACK bytes))
    (ack result : UInt8) : Keeps inv allowed (sendConnAck ack result) :=
  sendPacket_keeps stable fine
    (.bind (assignAt_command 0 ack) (fun _ => assignAt_command 1 result))

theorem sendSubAck_keeps (fine : forall bytes, allowed (.write SUBACK bytes)) (pid : UInt16)
    (payload : List UInt8) : Keeps inv allowed (sendSubAck pid payload) :=
  sendPacket_keeps stable fine
    (.bind (.ignore (writeUint16_command pid)) (fun _ =>
      .when (fun _ => .ignore (writeBytes_command payload))))

theorem sendCommandWithPacketID_keeps {command : UInt8}
    (fine : forall bytes, allowed (.write command bytes)) (pid : UInt16) :
    Keeps inv allowed (sendCommandWithPacketID command pid false) :=
  sendPacket_keeps stable fine
    (.bind (assignAt_command 0 _) (fun _ => assignAt_command 1 _))

theorem makePacketID_keeps : Keeps inv allowed makePacketID :=
  .bind session_keeps (fun _ => .ite
    (fun _ => .bind (setSession_keeps (fun scene holds => stable.nextPacketID scene _ holds))
      (fun _ => .pure _))
    (fun _ => .bind (setSession_keeps (fun scene holds => stable.nextPacketID scene _ holds))
      (fun _ => .pure _)))

theorem sendPublish_keeps (fine : forall bytes, allowed (.write PUBLISH bytes)) (msg : Message) :
    Keeps inv allowed (sendPublish msg) := by
  refine .bind (.ite (fun _ => makePacketID_keeps stable) (fun _ => .pure _)) (fun pid => ?_)
  exact sendPacket_keeps stable fine
    (.bind (.ignore (writeString_command _)) (fun _ =>
      .bind (.when (fun _ => .ignore (writeUint16_command pid))) (fun _ =>
        .ignore (writeBytes_command _))))

/-! ## Connecting and disconnecting -/

section Connecting

variable (connacks : forall bytes, allowed (.write CONNACK bytes))

include connacks

theorem refuse_keeps {Value : Type} (result : UInt8) (reason : GoString) :
    Keeps inv allowed (refuse result reason : SessionM Value) :=
  .bind (.ignore (sendConnAck_keeps stable connacks 0 result)) (fun _ => .fail reason)

theorem checkProtocol_keeps (name : GoString) (version cflags : UInt8) :
    Keeps inv allowed (checkProtocol name version cflags) := by
  refine .ite (fun _ => ?_) (fun _ => .ite (fun _ => ?_) (fun _ => .fail _))
  · exact .bind (.when (fun _ => refuse_keeps stable connacks _ _)) (fun _ =>
      setSession_keeps (fun scene holds => stable.protocol scene _ holds))
  · exact .bind (.when (fun _ => refuse_keeps stable connacks _ _)) (fun _ =>
      .bind .look (fun _ => .bind (.failIf _ _) (fun _ =>
        .bind (setSession_keeps (fun scene holds => stable.protocol scene _ holds)) (fun _ =>
          .failIf _ _))))

theorem readClientID_keeps : Keeps inv allowed readClientID := by
  refine .bind (.attempt (reading_keeps stable.packet readString_quiet)) (fun answer => ?_)
  cases answer with
  | ok text => exact .ite (fun _ => refuse_keeps stable connacks _ _) (fun _ => .pure _)
  | error reason => exact refuse_keeps stable connacks _ _

omit connacks in
theorem readWill_keeps (will willQos : UInt8) (willRetain : Bool) :
    Keeps inv allowed (readWill will willQos willRetain) := by
  refine .ite (fun _ => ?_) (fun _ => ?_)
  · refine .bind (readingOr_keeps stable.packet readString_quiet) (fun topic =>
      .bind (.failIf _ _) (fun _ => .bind session_keeps (fun _ =>
        .bind (readingOr_keeps stable.packet readUint16_quiet) (fun length =>
          .bind (.ite (fun _ => ?_) (fun _ => .pure _)) (fun _ => .pure _)))))
    exact readingOr_keeps stable.packet (readBytes_quiet _)
  · exact .bind session_keeps (fun _ => .bind (.failIf _ _) (fun _ => .pure _))

theorem readCredentials_keeps (cflags : UInt8) :
    Keeps inv allowed (readCredentials cflags) := by
  have string : Keeps inv allowed (reading readString) :=
    reading_keeps stable.packet readString_quiet
  refine .bind (.when (fun _ => refuse_keeps stable connacks _ _)) (fun _ =>
    .bind (.attempt string) (fun username => .bind (.attempt string) (fun password => ?_)))
  cases username with
  | error reason => exact refuse_keeps stable connacks _ _
  | ok username =>
    cases password with
    | error reason => exact refuse_keeps stable connacks _ _
    | ok password => exact .pure _

theorem readConnect_keeps : Keeps inv allowed readConnect := by
  have byte : Keeps inv allowed (reading readByte) :=
    reading_keeps stable.packet readByte_quiet
  refine .bind (.bind session_keeps (fun _ => .failIf _ _)) (fun _ =>
    .bind (reading_keeps stable.packet readString_quiet) (fun name =>
      .bind byte (fun version => .bind byte (fun cflags =>
        .bind (checkProtocol_keeps stable connacks name version cflags) (fun _ => ?_)))))
  refine .bind session_keeps (fun _ => .bind (.failIf _ _) (fun _ => .bind (.failIf _ _) (fun _ =>
    .bind (reading_keeps stable.packet readUint16_quiet) (fun keepalive => ?_))))
  exact .bind (setSession_keeps (fun scene holds => stable.keepalive scene _ holds)) (fun _ =>
    .bind (readClientID_keeps stable connacks) (fun _ =>
      .bind (readWill_keeps stable _ _ _) (fun _ =>
        .bind (readCredentials_keeps stable connacks cflags) (fun _ => .pure _))))

end Connecting

def Ending : Effect -> Prop
  | .notify (.sessionDestroy _) => True
  | .stopTimer => True
  | .closeConn => True
  | .closeAvailableChan => True
  | .closePacketChan => True
  | _ => False

section Disconnecting

variable (disconnected : forall scene, inv scene ->
    inv { scene with session := { scene.session with sessionState := .disconnected } })
  (closed : forall scene, inv scene ->
    inv { scene with session := { scene.session with conn := none } })

omit stable

include disconnected closed

theorem disconnect_keepsReports (closes : forall effect, Ending effect -> Silent effect -> allowed effect)
    (reason : Option GoString) (reports : forall scene, inv scene ->
      Keeps inv allowed (publishWill reason scene.session) ∧
        Keeps inv allowed (notify (.sessionDestroy { clientId := scene.session.clientID }))) :
    Keeps inv allowed (disconnect reason) := by
  refine session_bind (fun scene holds => .ite (fun _ => ?_) (fun _ => .pure ()))
  rcases reports scene holds with ⟨will, destroyed⟩
  refine .bind will (fun _ => .bind destroyed (fun _ => .bind (setSession_keeps disconnected)
    (fun _ => .bind (.when (fun _ => .emit (closes _ True.intro (fun _ => nofun)))) (fun _ =>
      .bind ?_ (fun _ => ?_)))))
  · unfold closeConn
    cases scene.session.conn with
    | none => exact .crash _
    | some conn => exact .emit (closes _ True.intro (fun _ => nofun))
  · exact .bind (setSession_keeps closed) (fun _ =>
      .bind (.emit (closes _ True.intro (fun _ => nofun))) (fun _ =>
        .emit (closes _ True.intro (fun _ => nofun))))

theorem disconnect_keeps (ends : forall effect, Ending effect -> allowed effect)
    (reason : Option GoString)
    (will : forall scene, inv scene -> Keeps inv allowed (publishWill reason scene.session)) :
    Keeps inv allowed (disconnect reason) :=
  disconnect_keepsReports disconnected closed (fun effect ending _ => ends effect ending) reason
    (fun scene holds => ⟨will scene holds, notify_keeps (fun _ => ends _ True.intro)⟩)

omit disconnected closed

include stable in
theorem checkAuthentication_keeps (connacks : forall bytes, allowed (.write CONNACK bytes))
    (closing : forall reason, Keeps inv allowed (disconnect reason))
    (answer : Except AuthError Unit) : Keeps inv allowed (checkAuthentication answer) := by
  cases answer with
  | ok value => exact .pure ()
  | error failure =>
    cases failure with
    | unauthorized =>
      exact .bind (.ignore (sendConnAck_keeps stable connacks 0 _)) (fun _ =>
        .bind (closing _) (fun _ => .fail _))
    | other reason => exact .bind (closing _) (fun _ => .fail _)

end Disconnecting

end Rules

/-! ## Serving the queue -/

section Queue

variable {inv : Scene -> Prop} {allowed : Effect -> Prop} (stable : QueueStable inv)
  (writes : forall bytes, allowed (.write PUBLISH bytes)) (accesses : allowed .accessQueue)

include writes accesses

theorem resendEach_keeps (stable : Stable inv) (indices : List Nat) :
    Keeps inv allowed (resendEach indices) := by
  induction indices with
  | nil => exact .pure ()
  | cons index later ih =>
    refine .bind (useQueue_keeps accesses) (fun ref => .bind broker_keeps (fun broker => ?_))
    refine .bind ?_ (fun _ => ih)
    cases (broker.queueService.getRetainList ref).get index with
    | none => exact .pure ()
    | some msg => exact .ignore (sendPublish_keeps stable writes msg)

include stable

theorem drainQueue_keeps (rounds : Nat) : Keeps inv allowed (drainQueue rounds) := by
  induction rounds with
  | zero => exact .spin
  | succ rounds ih =>
    refine .bind (useQueue_keeps accesses) (fun ref => .bind broker_keeps (fun broker =>
      .ite (fun _ => ?_) (fun _ => .pure ())))
    cases broker.queueService.front ref with
    | none => exact ih
    | some msg =>
      refine .bind (.attempt (sendPublish_keeps stable.toStable writes msg)) (fun answer => ?_)
      cases answer with
      | error reason => exact ih
      | ok sent =>
        refine .bind (.change (fun scene holds => stable.setContents scene ref _ holds))
          (fun _ => .bind (.when (fun _ => ?_)) (fun _ => ih))
        exact .bind broker_keeps (fun _ => .bind (.ofPanic _) (fun list =>
          .change (fun scene holds => stable.setRetainList scene ref list holds)))

theorem handleDataAvailableNotification_keeps (t : UInt16) :
    Keeps inv allowed (handleDataAvailableNotification t) := by
  refine .bind (.when (fun _ => ?_)) (fun _ => .when (fun _ => ?_))
  · exact .bind (useQueue_keeps accesses) (fun _ => .bind broker_keeps (fun _ =>
      resendEach_keeps writes accesses stable.toStable _))
  · exact .bind .look (fun _ => drainQueue_keeps stable writes accesses _)

end Queue

/-! ## The handlers of a session -/

section Finished

variable {scene : Scene} (noMore : ¬ scene.packet.pos < scene.packet.remainingLength)
include noMore

theorem subscribeEach_done (rounds : Nat) (payload : List UInt8) :
    subscribeEach rounds payload scene = ⟨[], .ok payload, scene⟩ := by
  cases rounds with
  | zero => rfl
  | succ rounds =>
    rw [subscribeEach, look_bind_apply, if_neg noMore]
    rfl

theorem unsubscribeEach_done (rounds : Nat) :
    unsubscribeEach rounds scene = ⟨[], .ok (), scene⟩ := by
  cases rounds with
  | zero => rfl
  | succ rounds =>
    rw [unsubscribeEach, look_bind_apply, if_neg noMore]
    rfl

end Finished

section Serving

variable {inv : Scene -> Prop} {allowed : Effect -> Prop} (stable : QueueStable inv)
  (writes : forall command bytes, allowed (.write command bytes))

include stable

theorem subscribeEach_keeps
    (subscribes : forall event, allowed (.notify (.topicSubscribe event))) (rounds : Nat)
    (payload : List UInt8) : Keeps inv allowed (subscribeEach rounds payload) := by
  induction rounds generalizing payload with
  | zero => exact .pure _
  | succ rounds ih =>
    exact .bind .look (fun _ => .ite
      (fun _ => .bind (readFilter_keeps stable.packet) (fun _ => .bind session_keeps (fun _ =>
        .bind (.when (fun _ => notify_keeps (fun _ => subscribes _))) (fun _ => ih _))))
      (fun _ => .pure _))

theorem unsubscribeEach_keeps
    (unsubscribes : forall event, allowed (.notify (.topicUnsubscribe event))) (rounds : Nat) :
    Keeps inv allowed (unsubscribeEach rounds) := by
  induction rounds with
  | zero => exact .pure _
  | succ rounds ih =>
    exact .bind .look (fun _ => .ite
      (fun _ => .bind (readingOr_keeps stable.packet readString_quiet) (fun _ =>
        .bind session_keeps (fun _ => .bind (notify_keeps (fun _ => unsubscribes _)) (fun _ => ih))))
      (fun _ => .pure _))

theorem handlePubAck_keeps (accesses : allowed .accessQueue) :
    Keeps inv allowed handlePubAck :=
  .bind .look (fun _ => .bind (.failIf _ _) (fun _ =>
    .bind (reading_keeps stable.packet readUint16_quiet) (fun _ =>
      .bind (useQueue_keeps accesses) (fun ref =>
        .change (fun scene holds => stable.setRetainList scene ref _ holds)))))

include writes

theorem handleSubscribe_keeps
    (subscribes : forall event, allowed (.notify (.topicSubscribe event))) :
    Keeps inv allowed handleSubscribe :=
  .bind .look (fun _ => .bind (.failIf _ _) (fun _ =>
    .bind (reading_keeps stable.packet readUint16_quiet) (fun _ =>
      .bind (subscribeEach_keeps stable subscribes _ _) (fun _ => .bind (.failIf _ _) (fun _ =>
        sendSubAck_keeps stable.toStable (writes _) _ _)))))

theorem handleUnsubscribe_keeps
    (unsubscribes : forall event, allowed (.notify (.topicUnsubscribe event))) :
    Keeps inv allowed handleUnsubscribe :=
  .bind .look (fun _ => .bind (.failIf _ _) (fun _ =>
    .bind (reading_keeps stable.packet readUint16_quiet) (fun _ =>
      .bind (unsubscribeEach_keeps stable unsubscribes _) (fun _ =>
        sendCommandWithPacketID_keeps stable.toStable (writes _) _))))

theorem handlePublish_keeps (host : Host)
    (publishes : forall event, allowed (.notify (.topicPublish event))) :
    Keeps inv allowed (handlePublish host) := by
  refine .bind (readPublish_keeps stable.packet host) (fun received => .bind session_keeps (fun _ =>
    .bind (.failIf _ _) (fun _ => .ite (fun _ => notify_keeps (fun _ => publishes _)) (fun _ =>
      .ite (fun _ => ?_) (fun _ => .ite (fun _ => .fail _) (fun _ => .fail _))))))
  exact .bind (notify_keeps (fun _ => publishes _)) (fun _ =>
    sendCommandWithPacketID_keeps stable.toStable (writes _) _)

theorem handlePubRel_keeps : Keeps inv allowed handlePubRel :=
  .bind .look (fun _ => .bind (.failIf _ _) (fun _ =>
    .bind (reading_keeps stable.packet readUint16_quiet) (fun _ =>
      sendCommandWithPacketID_keeps stable.toStable (writes _) _)))

theorem handleMqttPacket_serves (host : Host) {scene : Scene}
    (other : packetType scene.packet ≠ CONNECT) (stays : packetType scene.packet ≠ DISCONNECT)
    (subscribes : forall event, allowed (.notify (.topicSubscribe event)))
    (unsubscribes : forall event, allowed (.notify (.topicUnsubscribe event)))
    (publishes : packetType scene.packet = PUBLISH ->
      forall event, allowed (.notify (.topicPublish event)))
    (accesses : allowed .accessQueue) (holds : inv scene) :
    (forall effect, effect ∈ (handleMqttPacket host scene).effects -> allowed effect) ∧
      inv (handleMqttPacket host scene).state := by
  rw [handleMqttPacket, look_bind_apply, if_neg other, if_neg stays]
  have keeps : Keeps inv allowed (if packetType scene.packet = PINGREQ then handlePingReq
    else if packetType scene.packet = PUBLISH then handlePublish host
    else if packetType scene.packet = PUBREL then handlePubRel
    else if packetType scene.packet = SUBSCRIBE then handleSubscribe
    else if packetType scene.packet = UNSUBSCRIBE then handleUnsubscribe
    else if packetType scene.packet = PUBACK then handlePubAck
    else fail
      (ascii "Unrecognized protocol command:" ++ decimal (packetType scene.packet).toNat)) :=
    .ite (fun _ => sendSimpleCommand_keeps stable.toStable (writes _)) (fun _ =>
    .ite (fun publish => handlePublish_keeps stable writes host (publishes publish)) (fun _ =>
    .ite (fun _ => handlePubRel_keeps stable writes) (fun _ =>
    .ite (fun _ => handleSubscribe_keeps stable writes subscribes) (fun _ =>
    .ite (fun _ => handleUnsubscribe_keeps stable writes unsubscribes) (fun _ =>
    .ite (fun _ => handlePubAck_keeps stable accesses) (fun _ => .fail _))))))
  exact keeps scene holds

end Serving

section Rounds

variable {host : Host} {input : Input} {scene : Scene}

theorem handleInput_returned (returned : (receive host input scene).outcome = .ok ()) :
    handleInput host input scene =
      ⟨(receive host input scene).effects, .ok none, (receive host input scene).state⟩ := by
  rw [handleInput, bind_of_ok (attempt_of_ok returned)]
  simp [precede]

theorem handleInput_failed {reason : GoString}
    (failed : (receive host input scene).outcome = .error reason) :
    handleInput host input scene =
      precede (receive host input scene).effects
        ((do disconnect (some reason); return some reason : SessionM (Option GoString))
          (receive host input scene).state) := by
  rw [handleInput, bind_of_ok (attempt_of_error failed)]

theorem handleInput_stopped (notOk : (receive host input scene).outcome ≠ .ok ())
    (notError : forall reason, (receive host input scene).outcome ≠ .error reason) :
    (handleInput host input scene).effects = (receive host input scene).effects ∧
      (handleInput host input scene).state = (receive host input scene).state ∧
      forall answer, (handleInput host input scene).outcome ≠ .ok answer := by
  have caught := attempt_of_stuck (fun _ => notOk) notError
  rw [handleInput]
  refine ⟨?effects, ?state, (bind_of_stopped _ caught.2.2).2.2.1⟩
  case effects => rw [(bind_of_stopped _ caught.2.2).1, caught.1]
  case state => rw [(bind_of_stopped _ caught.2.2).2.1, caught.2.1]

end Rounds

/-! ## The dispatch on the kind of a packet -/

theorem handleMqttPacket_connect (connect : packetType scene.packet = CONNECT) :
    handleMqttPacket host scene = handleConnect host scene := by
  have notPing : packetType scene.packet ≠ PINGREQ := by
    rw [connect]
    decide
  rw [handleMqttPacket, look_bind_apply, if_neg notPing, if_pos connect]

theorem handleMqttPacket_disconnect (leaves : packetType scene.packet = DISCONNECT) :
    handleMqttPacket host scene = handleDisconnect scene := by
  have notPing : packetType scene.packet ≠ PINGREQ := by
    rw [leaves]
    decide
  have notConnect : packetType scene.packet ≠ CONNECT := by
    rw [leaves]
    decide
  rw [handleMqttPacket, look_bind_apply, if_neg notPing, if_neg notConnect, if_pos leaves]

theorem handleMqttPacket_subscribe (subscribes : packetType scene.packet = SUBSCRIBE) :
    handleMqttPacket host scene = handleSubscribe scene := by
  rw [handleMqttPacket, look_bind_apply, subscribes]
  rfl

theorem handleMqttPacket_unsubscribe (unsubscribes : packetType scene.packet = UNSUBSCRIBE) :
    handleMqttPacket host scene = handleUnsubscribe scene := by
  rw [handleMqttPacket, look_bind_apply, unsubscribes]
  rfl

structure LifeStable (inv : Scene -> Prop) : Prop extends QueueStable inv where
  willMsg : forall scene willMsg, inv scene ->
    inv { scene with session := { scene.session with willMsg := willMsg } }
  disconnecting : forall scene, inv scene ->
    inv { scene with session := { scene.session with sessionState := .disconnecting } }
  disconnected : forall scene, inv scene ->
    inv { scene with session := { scene.session with sessionState := .disconnected } }
  closed : forall scene, inv scene ->
    inv { scene with session := { scene.session with conn := none } }

section Handlers

variable {inv : Scene -> Prop} (stable : LifeStable inv)

include stable

theorem disconnect_keepsAny (reason : Option GoString) :
    Keeps inv (fun _ => True) (disconnect reason) :=
  disconnect_keeps stable.disconnected stable.closed (fun _ _ => True.intro) reason
    (fun _ _ => publishWill_keeps (fun _ => True.intro) _ _)

theorem handleDisconnect_keeps : Keeps inv (fun _ => True) handleDisconnect :=
  .bind .look (fun _ => .bind (.failIf _ _) (fun _ => .bind (.failIf _ _) (fun _ =>
    .bind (setSession_keeps (fun scene holds => stable.willMsg scene _ holds)) (fun _ =>
      .bind (setSession_keeps stable.disconnecting) (fun _ => disconnect_keepsAny stable none)))))

theorem handleMqttPacket_keeps (host : Host) {scene : Scene} (holds : inv scene)
    (other : packetType scene.packet ≠ CONNECT) :
    inv (handleMqttPacket host scene).state := by
  by_cases leaves : packetType scene.packet = DISCONNECT
  · rw [handleMqttPacket_disconnect leaves]
    exact (handleDisconnect_keeps stable scene holds).2
  · exact (@handleMqttPacket_serves inv (fun _ => True) stable.toQueueStable
      (fun _ _ => True.intro) host scene other leaves (fun _ => True.intro) (fun _ => True.intro)
      (fun _ _ => True.intro) True.intro holds).2

theorem handleInput_keeps {host : Host} {input : Input} {scene : Scene}
    (received : inv (receive host input scene).state) :
    inv (handleInput host input scene).state := by
  by_cases failed : exists reason, (receive host input scene).outcome = .error reason
  · rcases failed with ⟨reason, failed⟩
    have closing : Keeps inv (fun _ => True)
        (do disconnect (some reason); return some reason : SessionM (Option GoString)) :=
      .bind (disconnect_keepsAny stable _) (fun _ => .pure _)
    rw [handleInput_failed failed]
    exact (closing _ received).2
  · by_cases returned : (receive host input scene).outcome = .ok ()
    · rw [handleInput_returned returned]
      exact received
    · rw [(handleInput_stopped returned (fun reason error => failed ⟨reason, error⟩)).2.1]
      exact received

end Handlers

end Mqtt
end Sentel
