import Sentel.Mqtt.Filters
import Sentel.Mqtt.PublishRoundTrip

namespace Sentel
namespace Mqtt

open Library Handler Base Queue Event SessionMgr Auth SessionM

/-!
# Replies

SUBSCRIBE, UNSUBSCRIBE, PUBLISH with quality of service 1, PUBREL and PINGREQ
are each answered by one frame.  The reply repeats the packet identifier of the
request, and the one to SUBSCRIBE also lists a return code for every filter.

The replies are assembled in three ways.  UNSUBACK, PUBACK and PUBCOMP assign
the two bytes of the identifier, SUBACK writes it with `writeUint16`, which
drops bits, and PINGRESP has a remaining length of 1 instead of 0.
-/

/-- A request that is answered by one frame. -/
inductive Request
  | subscribe (pid : UInt16) (filters : List (GoString × UInt8))
  | unsubscribe (pid : UInt16) (topics : List GoString)
  | publish (dup retain : Bool) (pid : UInt16) (topic : GoString) (payload : List UInt8)
  | pubrel (pid : UInt16)
  | pingreq

def stringField (text : GoString) : List UInt8 := bigEndian text.length.toUInt16 ++ text

namespace Request

/-- The first byte of the packet. -/
def command : Request -> UInt8
  | .subscribe _ _ => SUBSCRIBE ||| 2
  | .unsubscribe _ _ => UNSUBSCRIBE ||| 2
  | .publish dup retain _ _ _ => PUBLISH ||| (if dup then 8 else 0) ||| 2 ||| (if retain then 1 else 0)
  | .pubrel _ => PUBREL ||| 2
  | .pingreq => PINGREQ

/-- What follows the fixed header of the packet. -/
def body : Request -> List UInt8
  | .subscribe pid filters =>
    bigEndian pid ++ filters.flatMap (fun filter => stringField filter.1 ++ [filter.2])
  | .unsubscribe pid topics => bigEndian pid ++ topics.flatMap stringField
  | .publish _ _ pid topic payload => stringField topic ++ (bigEndian pid ++ payload)
  | .pubrel pid => bigEndian pid
  | .pingreq => []

/-- The fields have the sizes and values that the format allows. -/
def WellFormed (request : Request) : Prop :=
  request.body.length ≤ maxRemainingLength ∧ match request with
    | .subscribe _ filters =>
      filters ≠ [] ∧ forall filter, filter ∈ filters -> filter.1.length < 65536 ∧ filter.2 ≤ 2
    | .unsubscribe _ topics =>
      topics ≠ [] ∧ forall topic, topic ∈ topics -> topic.length < 65536
    | .publish _ _ _ topic _ => topic.length < 65536
    | .pubrel _ => True
    | .pingreq => True

/-- The checks of `handlePublish` let the message through: the size limit and
the right to publish. -/
def Permitted (host : Host) (session : MqttSession) : Request -> Prop
  | .publish _ _ _ topic payload =>
    host.Admits payload ∧ host.refusesPublish session (session.mountpoint ++ topic) = false
  | _ => True

/-- The reply: its type, its remaining length and what follows its header. -/
def reply : Request -> UInt8 × Nat × List UInt8
  | .subscribe pid filters =>
    (SUBACK, 2 + filters.length, bigEndian pid ++ filters.map Prod.snd)
  | .unsubscribe pid _ => (UNSUBACK, 2, bigEndian pid)
  | .publish _ _ pid _ _ => (PUBACK, 2, bigEndian pid)
  | .pubrel pid => (PUBCOMP, 2, bigEndian pid)
  | .pingreq => (PINGRESP, 0, [])

/-- The reply is assembled without loss. -/
def Repeatable : Request -> Prop
  | .subscribe pid _ => NibbleBytes pid
  | .pingreq => False
  | _ => True

end Request

def frameContent (frame : List UInt8) : Option (UInt8 × Nat × List UInt8) :=
  (fixedHeader frame).map (fun header => (header.1, header.2.1, frame.drop header.2.2))

/-- Handling the packet writes exactly one frame, and it is the reply. -/
def Answers (host : Host) (scene : Scene) (packet : MqttPacket) (request : Request) : Prop :=
  exists frame, written (receive host (.packet packet) scene).effects = [frame] ∧
    frameContent frame = some request.reply

/-! ## Frames of replies -/

theorem frameContent_frame (command : UInt8) {size : Nat} (positive : 0 < size)
    (fits : size ≤ maxRemainingLength) (body : List UInt8) :
    frameContent (command :: (MqttPacket.remainingBytes 5 size ++ body)) =
      some (command, size, body) := by
  rw [frameContent, fixedHeader_frame command positive fits body, Option.map_some,
    List.drop_succ_cons, List.drop_left]

theorem headerByte_plain (command : UInt8) (size : Nat) :
    MqttPacket.headerByte { command := command, remainingLength := size } = command := by
  change command ||| 0 ||| 0 ||| 0 = command
  rw [UInt8.or_zero, UInt8.or_zero, UInt8.or_zero]

theorem assigned_bigEndian (pid : UInt16) :
    [((pid &&& 0xFF00) >>> 8).toUInt8, (pid &&& 0xFF).toUInt8] = bigEndian pid := by
  have bound := pid.toNat_lt
  have high : ((pid &&& 0xFF00) >>> 8).toUInt8.toNat = pid.toNat / 256 := by
    have split := @Nat.shiftRight_and_distrib 8 pid.toNat 0xFF00
    have low := Nat.and_two_pow_sub_one_eq_mod (pid.toNat >>> 8) 8
    rw [UInt16.toNat_toUInt8, UInt16.toNat_shiftRight, UInt16.toNat_and]
    change ((pid.toNat &&& 0xFF00) >>> 8) % 256 = _
    rw [split]
    change (pid.toNat >>> 8 &&& 2 ^ 8 - 1) % 256 = _
    rw [low, Nat.shiftRight_eq_div_pow]
    omega
  have low : (pid &&& 0xFF).toUInt8.toNat = pid.toNat % 256 := by
    have low := Nat.and_two_pow_sub_one_eq_mod pid.toNat 8
    rw [UInt16.toNat_toUInt8, UInt16.toNat_and]
    change (pid.toNat &&& 2 ^ 8 - 1) % 256 = _
    rw [low]
    omega
  rw [bigEndian_eq_iff, ← UInt16.toNat_inj, toNat_uint16Of, high, low]
  omega

section Sending

variable {scene : Scene} (opened : scene.session.conn = some reliableConn)

include opened

theorem sendCommandWithPacketID_reliable (command : UInt8) (pid : UInt16) :
    sendCommandWithPacketID command pid false scene =
      ⟨[.write command (command :: 2 :: bigEndian pid)], .ok (), scene⟩ := by
  have sent := @sendPacket_reliable { command := command, remainingLength := 2 } _ _ _ _ scene
    (by rw [remainingBytes_two]; decide)
    (assignTwo_filling _ _ ((pid &&& 0xFF00) >>> 8).toUInt8 (pid &&& 0xFF).toUInt8)
    (List.cons_ne_nil _ _) opened
  rw [remainingBytes_two, headerByte_plain, assigned_bigEndian] at sent
  exact sent

theorem sendPingRsp_reliable :
    sendPingRsp scene = ⟨[.write PINGRESP [PINGRESP, 1, 0]], .ok (), scene⟩ :=
  @sendPacket_reliable { command := PINGRESP, remainingLength := 1 } _ _ _ _ scene
    (by rw [remainingBytes_one]; decide) (pure_apply ()) (List.cons_ne_nil _ _) opened

theorem sendSubAck_reliable (pid : UInt16) {payload : List UInt8}
    (fits : 2 + payload.length ≤ maxRemainingLength) :
    sendSubAck pid payload scene = ⟨[.write SUBACK (SUBACK ::
      (MqttPacket.remainingBytes 5 (2 + payload.length) ++
        (MqttPacket.uint16Bytes pid ++ payload)))], .ok (), scene⟩ := by
  have sent := @sendPacket_reliable { command := SUBACK, remainingLength := 2 + payload.length }
    _ _ _ _ scene ((remainingBytes_fits_iff _).mp fits) (fillSubAck_filling _ _ pid payload)
    (List.cons_ne_nil _ _) opened
  rw [headerByte_plain, List.append_nil, List.append_assoc, List.cons_append] at sent
  exact sent

end Sending

/-! ## Reading the filters -/

theorem length_le_fields {Item : Type} (field : Item -> List UInt8)
    (nonempty : forall item, field item ≠ []) (items : List Item) :
    items.length ≤ (items.flatMap field).length := by
  induction items with
  | nil => exact Nat.le_refl 0
  | cons item items ih =>
    have positive := List.length_pos_iff.mpr (nonempty item)
    rw [List.flatMap_cons, List.length_cons, List.length_append]
    omega

theorem written_notices (events : List BrokerEvent) : written (notices events) = [] := by
  rw [written, notices, List.filterMap_map]
  exact List.filterMap_none events

theorem scanString_field {text : GoString} (short : text.length < 65536) (rest : List UInt8) :
    MqttPacket.scanString (stringField text ++ rest) = some (text, rest) := by
  have length : text.length.toUInt16.toNat = text.length := UInt16.toNat_ofNat_of_lt' short
  have sized := congrArg UInt16.toNat (uint16Of_bigEndian text.length.toUInt16)
  rw [stringField, List.append_assoc]
  exact MqttPacket.scanString_append (sized.trans length) rest

theorem scanFilter_field {filter : GoString × UInt8} (short : filter.1.length < 65536)
    (small : filter.2 ≤ 2) (rest : List UInt8) :
    scanFilter (stringField filter.1 ++ [filter.2] ++ rest) = some (filter, rest) := by
  rw [List.append_assoc, scanFilter, scanString_field short]
  exact if_neg (UInt8.not_lt.mpr small)

theorem bodyEntries_fields {Entry : Type} {one : List UInt8 -> Option (Entry × List UInt8)}
    {field : Entry -> List UInt8} (nonempty : forall entry, field entry ≠ [])
    {entries : List Entry} (scans : forall entry, entry ∈ entries -> forall rest,
      one (field entry ++ rest) = some (entry, rest)) (pid : UInt16) :
    bodyEntries one (bigEndian pid ++ entries.flatMap field) = (entries, true) := by
  have scanned (rounds : Nat) (enough : (entries.flatMap field).length ≤ rounds) :
      scanEntries one rounds (entries.flatMap field) = (entries, true) := by
    induction entries generalizing rounds with
    | nil => exact scanEntries_nil one rounds
    | cons entry entries ih =>
      have positive := List.length_pos_iff.mpr (nonempty entry)
      rw [List.flatMap_cons, List.length_append] at enough
      obtain ⟨rounds, rfl⟩ : exists smaller, rounds = smaller + 1 := ⟨rounds - 1, by omega⟩
      rw [List.flatMap_cons, scanEntries_found (List.append_ne_nil_of_left_ne_nil (nonempty entry) _)
        (scans entry List.mem_cons_self _),
        ih (fun other member => scans other (List.mem_cons_of_mem _ member)) _ (by omega)]
  exact scanned _ (Nat.le_add_right _ 2)

/-! ## The handlers -/

section Handling

variable {scene : Scene}

theorem readIdentifier (pid : UInt16) {rest : List UInt8} (complete : scene.packet.Complete)
    (unread : scene.packet.unread = bigEndian pid ++ rest) :
    reading MqttPacket.readUint16 scene = ⟨[], .ok pid, scene.advance 2⟩ := by
  have read := reading_apply (MqttPacket.readUint16_unread complete unread)
  rw [uint16Of_bigEndian] at read
  exact read

theorem flags_pass {command : UInt8} (same : scene.packet.command = command)
    (flags : command &&& 0x0F = 0x02) :
    ¬ (scene.session.protocol = .mqtt311 ∧ scene.packet.command &&& 0x0F ≠ 0x02) := by
  rw [same]
  exact fun both => both.2 flags

theorem handleSubscribe_replies {pid : UInt16} {filters : List (GoString × UInt8)}
    (holds : scene.packet.Holds (Request.subscribe pid filters).command
      (Request.subscribe pid filters).body)
    (wellFormed : (Request.subscribe pid filters).WellFormed) :
    exists effects count, written effects = [] ∧ handleSubscribe scene =
      precede effects (sendSubAck pid (filters.map Prod.snd) (scene.advance count)) := by
  rcases wellFormed with ⟨_, nonempty, valid⟩
  have flags := @flags_pass scene _ holds.command (by rw [Request.command]; decide)
  have some : ¬ (scene.session.protocol = .mqtt311 ∧ filters.map Prod.snd = []) :=
    fun both => nonempty (List.map_eq_nil_iff.mp both.2)
  have entries : bodyEntries scanFilter (Request.subscribe pid filters).body = (filters, true) :=
    bodyEntries_fields (fun _ => List.cons_ne_nil _ _) (fun filter member rest =>
      scanFilter_field (valid filter member).1 (valid filter member).2 rest) pid
  rcases (subscribeEach_loop.packet holds [] (fun pid payload => do
    failIf (scene.session.protocol = .mqtt311 ∧ payload = []) mqttErrorInvalidProtocol
    sendSubAck pid payload)).1 (congrArg Prod.snd entries)
      with ⟨first, second, rest, count, same, run⟩
  cases same
  rw [entries, collected_eq, uint16Of_bigEndian, failIf_neg_bind_apply some] at run
  rw [handleSubscribe, look_bind_apply, failIf_neg_bind_apply flags]
  exact ⟨_, count, written_notices _, run⟩

theorem handleUnsubscribe_replies {pid : UInt16} {topics : List GoString}
    (holds : scene.packet.Holds (Request.unsubscribe pid topics).command
      (Request.unsubscribe pid topics).body)
    (wellFormed : (Request.unsubscribe pid topics).WellFormed) :
    exists effects count, written effects = [] ∧ handleUnsubscribe scene =
      precede effects
        (sendCommandWithPacketID UNSUBACK pid false (scene.advance count)) := by
  rcases wellFormed with ⟨_, _, valid⟩
  have flags := @flags_pass scene _ holds.command (by rw [Request.command]; decide)
  have entries : bodyEntries MqttPacket.scanString (Request.unsubscribe pid topics).body =
      (topics, true) :=
    bodyEntries_fields (fun _ => List.cons_ne_nil _ _)
      (fun topic member rest => scanString_field (valid topic member) rest) pid
  rcases (unsubscribeEach_loop.packet holds ()
    (fun pid _ => sendCommandWithPacketID UNSUBACK pid false)).1 (congrArg Prod.snd entries)
      with ⟨first, second, rest, count, same, run⟩
  cases same
  rw [entries, uint16Of_bigEndian] at run
  rw [handleUnsubscribe, look_bind_apply, failIf_neg_bind_apply flags]
  exact ⟨_, count, written_notices _, run⟩

theorem handlePubRel_replies {pid : UInt16}
    (holds : scene.packet.Holds (Request.pubrel pid).command (Request.pubrel pid).body) :
    handlePubRel scene = precede [] (sendPubComp pid (scene.advance 2)) := by
  have flags := @flags_pass scene _ holds.command (by rw [Request.command]; decide)
  have unread : scene.packet.unread = bigEndian pid ++ [] := holds.unread
  rw [handlePubRel, look_bind_apply, failIf_neg_bind_apply flags,
    bind_of_ok (readIdentifier pid holds.complete unread)]

theorem handlePublish_accepted {host : Host} {after : Scene} {event : TopicPublishEvent}
    {pid : UInt16} (read : readPublish host scene = ⟨[], .ok (event, pid), after⟩)
    (allowed : host.refusesPublish after.session event.topic = false) (once : event.qos = 1) :
    handlePublish host scene =
      precede [.notify (BrokerEvent.setBrokerId after.broker.brokerId (.topicPublish event))]
        (sendPubAck pid after) := by
  have passes : ¬ (host.refusesPublish after.session event.topic = true) := by
    rw [allowed]
    exact Bool.false_ne_true
  have notZero : ¬ event.qos = 0 := by
    rw [once]
    decide
  rw [handlePublish, bind_of_ok read, precede_nil, session_bind_apply,
    failIf_neg_bind_apply passes, if_neg notZero, if_pos once,
    bind_of_ok (notify_apply _ _)]

theorem handlePublish_barred {host : Host} {after : Scene} {event : TopicPublishEvent}
    {pid : UInt16} (read : readPublish host scene = ⟨[], .ok (event, pid), after⟩)
    (barred : host.refusesPublish after.session event.topic = true) :
    (handlePublish host scene).effects = [] := by
  rw [handlePublish, bind_of_ok read, precede_nil, session_bind_apply, failIf_pos_bind_apply barred]

section Publish

variable (host : Host) {dup retain : Bool} {pid : UInt16} {topic : GoString} {payload : List UInt8}
  (holds : scene.packet.Holds (Request.publish dup retain pid topic payload).command
    (Request.publish dup retain pid topic payload).body)
  (wellFormed : (Request.publish dup retain pid topic payload).WellFormed)

include wellFormed

theorem publish_fields :
    ((Request.publish dup retain pid topic payload).command &&& 0x06) >>> 1 = 1 ∧
      topic.length.toUInt16.toNat = topic.length := by
  refine ⟨?_, UInt16.toNat_ofNat_of_lt' wellFormed.2⟩
  rw [Request.command]
  cases dup <;> cases retain <;> decide

include holds

theorem handlePublish_replies
    (permitted : (Request.publish dup retain pid topic payload).Permitted host scene.session) :
    exists effects count, written effects = [] ∧ handlePublish host scene =
      precede effects (sendPubAck pid (scene.advance count)) := by
  rcases permitted with ⟨admitted, allowed⟩
  rcases publish_fields wellFormed with ⟨flags, sized⟩
  have length := congrArg UInt16.toNat (uint16Of_bigEndian topic.length.toUInt16)
  rcases @readPublish_body host scene _ 1 _ _ _ _ topic payload holds
    (length.trans sized) flags (by decide) admitted with ⟨count, read⟩
  rw [if_pos (by decide), uint16Of_bigEndian] at read
  exact ⟨_, count, rfl, handlePublish_accepted read allowed rfl⟩

theorem handlePublish_refused
    (refused : ¬ (Request.publish dup retain pid topic payload).Permitted host scene.session) :
    (handlePublish host scene).effects = [] := by
  rcases publish_fields wellFormed with ⟨flags, sized⟩
  have length := congrArg UInt16.toNat (uint16Of_bigEndian topic.length.toUInt16)
  by_cases admitted : host.Admits payload
  · rcases @readPublish_body host scene _ 1 _ _ _ _ topic payload holds
      (length.trans sized) flags (by decide) admitted with ⟨count, read⟩
    have barred : host.refusesPublish scene.session (scene.session.mountpoint ++ topic) = true := by
      by_contra allowed
      exact refused ⟨admitted, Bool.eq_false_of_not_eq_true allowed⟩
    exact handlePublish_barred read barred
  · rcases @readPublish_refused host scene _ 1 _ _ _ _ topic payload holds
      (length.trans sized) flags (by decide) (by decide) admitted with ⟨after, failed⟩
    rw [handlePublish, bind_of_error (congrArg Run.outcome failed), failed]

end Publish

end Handling

def Request.handler (host : Host) : Request -> SessionM Unit
  | .subscribe _ _ => handleSubscribe
  | .unsubscribe _ _ => handleUnsubscribe
  | .publish _ _ _ _ _ => handlePublish host
  | .pubrel _ => handlePubRel
  | .pingreq => handlePingReq

def Request.kind : Request -> UInt8
  | .subscribe _ _ => SUBSCRIBE
  | .unsubscribe _ _ => UNSUBSCRIBE
  | .publish _ _ _ _ _ => PUBLISH
  | .pubrel _ => PUBREL
  | .pingreq => PINGREQ

theorem Request.command_kind (request : Request) : request.command &&& 0xF0 = request.kind := by
  cases request with
  | subscribe pid filters => exact (by decide : (SUBSCRIBE ||| 2) &&& 0xF0 = SUBSCRIBE)
  | unsubscribe pid topics => exact (by decide : (UNSUBSCRIBE ||| 2) &&& 0xF0 = UNSUBSCRIBE)
  | publish dup retain pid topic payload =>
    rw [Request.command, Request.kind]
    cases dup <;> cases retain <;> decide
  | pubrel pid => exact (by decide : (PUBREL ||| 2) &&& 0xF0 = PUBREL)
  | pingreq => exact (by decide : PINGREQ &&& 0xF0 = PINGREQ)

theorem handleMqttPacket_request (host : Host) {scene : Scene} {request : Request}
    (command : scene.packet.command = request.command) :
    handleMqttPacket host scene = request.handler host scene := by
  have kind : packetType scene.packet = request.kind := by
    rw [packetType, command, request.command_kind]
  rw [handleMqttPacket, look_bind_apply]
  simp only [kind]
  cases request <;> rfl

/-! ## The replies -/

section Replying

variable (host : Host) {scene : Scene} {packet : MqttPacket} {request : Request}

theorem answers_iff_frame {effects : List Effect} {command : UInt8} {frame : List UInt8}
    {after : Scene} (kind : packet.command = request.command) (quiet : written effects = [])
    (run : request.handler host { scene with packet := packet } =
      precede effects ⟨[.write command frame], .ok (), after⟩) :
    Answers host scene packet request ↔ frameContent frame = some request.reply := by
  have received : receive host (.packet packet) scene =
      precede effects ⟨[.write command frame], .ok (), after⟩ :=
    (@handleMqttPacket_request host { scene with packet := packet } request kind).trans run
  have frames : written (receive host (.packet packet) scene).effects = [frame] := by
    rw [received, precede_effects, written, List.filterMap_append]
    change written effects ++ _ = _
    rw [quiet]
    rfl
  rw [Answers, frames]
  constructor
  · rintro ⟨_, same, content⟩
    cases same
    exact content
  · exact fun content => ⟨frame, rfl, content⟩

theorem frameContent_identifier (command : UInt8) (pid : UInt16) :
    frameContent (command :: 2 :: bigEndian pid) = some (command, 2, bigEndian pid) := by
  have content := @frameContent_frame command 2 (by decide) (by decide) (bigEndian pid)
  rw [remainingBytes_two] at content
  exact content

theorem uint16Bytes_eq_iff (pid : UInt16) :
    MqttPacket.uint16Bytes pid = bigEndian pid ↔ NibbleBytes pid :=
  (bigEndian_eq_iff _ _ pid).trans (uint16Of_uint16Bytes_iff pid)

theorem answers_subscribe_iff (opened : scene.session.conn = some reliableConn) {pid : UInt16}
    {filters : List (GoString × UInt8)} (wellFormed : (Request.subscribe pid filters).WellFormed)
    (holds : packet.Holds (Request.subscribe pid filters).command
      (Request.subscribe pid filters).body) :
    Answers host scene packet (.subscribe pid filters) ↔ NibbleBytes pid := by
  rcases @handleSubscribe_replies { scene with packet := packet } pid filters holds wellFormed
      with ⟨effects, count, quiet, run⟩
  have fits : 2 + (filters.map Prod.snd).length ≤ maxRemainingLength := by
    have each := length_le_fields
      (fun filter : GoString × UInt8 => stringField filter.1 ++ [filter.2])
      (fun _ => List.cons_ne_nil _ _) filters
    have bound := wellFormed.1
    change (bigEndian pid ++ _).length ≤ _ at bound
    rw [List.length_append] at bound
    change 2 + _ ≤ _ at bound
    rw [List.length_map]
    omega
  rw [@sendSubAck_reliable (Scene.advance { scene with packet := packet } count) opened pid _
    fits] at run
  rw [answers_iff_frame host holds.command quiet run, frameContent_frame SUBACK (by omega) fits,
    Request.reply, List.length_map]
  simp only [Option.some.injEq, Prod.mk.injEq, true_and, List.append_cancel_right_eq,
    uint16Bytes_eq_iff]

theorem not_answers_pingreq (opened : scene.session.conn = some reliableConn)
    (kind : packet.command = PINGREQ) : ¬ Answers host scene packet .pingreq := by
  have run := @sendPingRsp_reliable { scene with packet := packet } opened
  rw [@answers_iff_frame host scene packet .pingreq [] _ _ _ kind rfl run]
  decide

theorem answers_identifier {effects : List Effect} {command : UInt8} {pid : UInt16} {count : Nat}
    (opened : scene.session.conn = some reliableConn)
    (kind : packet.command = request.command) (quiet : written effects = [])
    (run : request.handler host { scene with packet := packet } =
      precede effects (sendCommandWithPacketID command pid false
        (Scene.advance { scene with packet := packet } count)))
    (reply : request.reply = (command, 2, bigEndian pid)) :
    Answers host scene packet request := by
  rw [@sendCommandWithPacketID_reliable (Scene.advance { scene with packet := packet } count)
    opened command pid] at run
  rw [answers_iff_frame host kind quiet run, reply]
  exact frameContent_identifier command pid

theorem not_answers_of_effects (kind : packet.command = request.command)
    (silent : (request.handler host { scene with packet := packet }).effects = []) :
    ¬ Answers host scene packet request := by
  have received : receive host (.packet packet) scene =
      request.handler host { scene with packet := packet } :=
    @handleMqttPacket_request host { scene with packet := packet } request kind
  rintro ⟨frame, frames, _⟩
  rw [received, silent] at frames
  cases frames

/-- A request is answered by its reply exactly when it is permitted and the reply
is assembled without loss: never for PINGREQ, and for SUBSCRIBE when both bytes of
the identifier are below 16. -/
theorem answers_iff (opened : scene.session.conn = some reliableConn)
    (holds : packet.Holds request.command request.body) (wellFormed : request.WellFormed) :
    Answers host scene packet request ↔
      request.Permitted host scene.session ∧ request.Repeatable := by
  cases request with
  | subscribe pid filters =>
    exact (answers_subscribe_iff host opened wellFormed holds).trans (and_iff_right True.intro).symm
  | unsubscribe pid topics =>
    rcases @handleUnsubscribe_replies { scene with packet := packet } pid topics holds wellFormed
        with ⟨effects, count, quiet, run⟩
    exact iff_of_true (answers_identifier host opened holds.command quiet run rfl)
      ⟨True.intro, True.intro⟩
  | publish dup retain pid topic payload =>
    by_cases permitted : (Request.publish dup retain pid topic payload).Permitted host scene.session
    · rcases @handlePublish_replies { scene with packet := packet } host dup retain pid topic
          payload holds wellFormed permitted with ⟨effects, count, quiet, run⟩
      exact iff_of_true (answers_identifier host opened holds.command quiet run rfl)
        ⟨permitted, True.intro⟩
    · have silent := @handlePublish_refused { scene with packet := packet } host dup retain pid
        topic payload holds wellFormed permitted
      exact iff_of_false (not_answers_of_effects host holds.command silent)
        (fun both => permitted both.1)
  | pubrel pid =>
    have run := @handlePubRel_replies { scene with packet := packet } pid holds
    exact iff_of_true (answers_identifier host opened holds.command rfl run rfl)
      ⟨True.intro, True.intro⟩
  | pingreq =>
    exact iff_of_false (not_answers_pingreq host opened holds.command) (fun both => both.2)

end Replying

def Request.packet (request : Request) : MqttPacket :=
  { newMqttPacket with
    command := request.command
    remainingLength := request.body.length
    payload := ⟨request.body, []⟩ }

theorem Request.packet_holds (request : Request) :
    request.packet.Holds request.command request.body :=
  ⟨rfl, rfl, rfl, rfl⟩

def smallSubscribe : Request := .subscribe 7 [(ascii "a", 1), (ascii "b/#", 0)]

theorem small_subscribe_answered :
    Answers quietHost idleScene smallSubscribe.packet smallSubscribe :=
  (@answers_iff quietHost idleScene smallSubscribe.packet smallSubscribe rfl
    smallSubscribe.packet_holds ⟨by decide, by decide, by decide⟩).mpr
      ⟨True.intro, (by decide : NibbleBytes 7)⟩

/-- The SUBACK frame for identifier 300 carries identifier 268. -/
theorem ping_and_subscribe_unanswered :
    ¬ Answers quietHost idleScene Request.pingreq.packet .pingreq ∧
      ¬ Answers quietHost idleScene (Request.subscribe 300 [(ascii "a", 1)]).packet
        (.subscribe 300 [(ascii "a", 1)]) := by
  refine ⟨not_answers_pingreq quietHost rfl rfl, ?_⟩
  rw [answers_subscribe_iff quietHost rfl ⟨by decide, by decide, by decide⟩
    (Request.packet_holds _)]
  decide

end Mqtt
end Sentel
