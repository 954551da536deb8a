import Sentel.Mqtt.ConnectFrame
import Sentel.Mqtt.Filters
import Sentel.Mqtt.Replies

namespace Sentel
namespace Mqtt

open Library Handler Base SessionM MqttPacket

/-!
# CONNECT packets are parsed exactly

The body of a CONNECT packet is the encoding of a tuple of fields: the name and
the level of the protocol, the flags, the keep-alive, the client identifier,
the will if the flags announce one, and the credentials.  A tuple carries the
conditions that its fields meet.

`handleConnect` reads these fields one after the other and refuses a packet at
the first one that it does not like.  What it accepts is exactly what the
tuples encode: it gets as far as the credentials of every encoded tuple,
whatever follows them, and a body with which it gets there is the encoding of
one tuple.
-/

/-! ## Exact readers -/

theorem stringField_of_length {text : List UInt8} {length : UInt16}
    (sized : text.length = length.toNat) : stringField text = bigEndian length ++ text := by
  rw [stringField, sized]
  exact congrArg (fun size => bigEndian size ++ text) UInt16.ofNat_toNat

variable {bytes rest trailing rest' : List UInt8} {scene : Scene} {flags : UInt8}

theorem scanString_eq_some_iff {text : GoString} :
    scanString bytes = some (text, rest) ↔
      text.length < 65536 ∧ bytes = stringField text ++ rest := by
  constructor
  · intro scanned
    rcases scanString_eq_some scanned with ⟨first, second, rfl, sized⟩
    have small := (uint16Of first second).toNat_lt
    refine ⟨by omega, ?_⟩
    rw [stringField_of_length sized.symm, ← (bigEndian_eq_iff first second _).mpr rfl]
    rfl
  · rintro ⟨short, rfl⟩
    exact scanString_field short rest

theorem Scene.advance_session (scene : Scene) (session : MqttSession) (count more : Nat) :
    ({ scene.advance count with session := session } : Scene).advance more =
      { scene.advance (count + more) with session := session } := by
  rw [← Scene.advance_advance]
  rfl

theorem leaves_advance {front back : List UInt8} (leaves : scene.packet.Leaves (front ++ back)) :
    (scene.advance front.length).packet.Leaves back :=
  leaves.advance

structure Exact {Field Value : Type} (valid : Field -> Prop) (encode : Field -> List UInt8)
    (value : Scene -> Field -> Value) (call : SessionM Value) : Prop where
  complete : forall {scene field rest}, valid field ->
    scene.packet.Leaves (encode field ++ rest) ->
      call scene = ⟨[], .ok (value scene field), scene.advance (encode field).length⟩
  sound : forall {scene bytes result}, scene.packet.Leaves bytes ->
    (call scene).outcome = .ok result ->
      exists field rest, valid field ∧ bytes = encode field ++ rest

namespace Exact

variable {Field Value Next : Type} {valid : Field -> Prop} {encode : Field -> List UInt8}
  {value : Scene -> Field -> Value} {call : SessionM Value} {next : Value -> SessionM Next}
  {scene : Scene}

theorem run (exact : Exact valid encode value call) (field : Field) {rest : List UInt8}
    (fits : valid field) (leaves : scene.packet.Leaves (encode field ++ rest)) :
    (call >>= next) scene = next (value scene field) (scene.advance (encode field).length) := by
  rw [bind_of_ok (exact.complete fits leaves), precede_nil]

theorem peel (exact : Exact valid encode value call) {bytes : List UInt8} {result : Next}
    (leaves : scene.packet.Leaves bytes) (returned : ((call >>= next) scene).outcome = .ok result) :
    exists field rest, valid field ∧ bytes = encode field ++ rest ∧
      (scene.advance (encode field).length).packet.Leaves rest ∧
      (next (value scene field) (scene.advance (encode field).length)).outcome = .ok result := by
  rcases returned_of_bind returned with ⟨_, first, _⟩
  rcases exact.sound leaves first with ⟨field, rest, fits, rfl⟩
  rw [exact.run field fits leaves] at returned
  exact ⟨field, rest, fits, rfl, leaves_advance leaves, returned⟩

end Exact

theorem reading_not_returned {Value : Type} {read : PacketM Effect Value} {reason : GoString}
    (failed : (read scene.packet).outcome = .error reason) {value : Value}
    (returned : (reading read scene).outcome = .ok value) : False := by
  have ended : (reading read scene).outcome = .error reason := failed
  rw [ended] at returned
  cases returned

theorem readByte_exact :
    Exact (fun _ => True) (fun byte => [byte]) (fun _ byte => byte)
      (reading readByte) where
  complete := by
    intro scene byte rest _ leaves
    exact reading_apply leaves.readByte
  sound := by
    intro scene bytes result leaves returned
    cases bytes with
    | nil => exact (reading_not_returned (congrArg Run.outcome leaves.readByte_nil) returned).elim
    | cons byte rest => exact ⟨byte, rest, trivial, rfl⟩

theorem readUint16_exact :
    Exact (fun _ => True) bigEndian (fun _ data => data) (reading readUint16) where
  complete := by
    intro scene data rest _ leaves
    have read := @MqttPacket.Leaves.readUint16 Effect _ _ _ _ leaves
    rw [uint16Of_bigEndian] at read
    exact reading_apply read
  sound := by
    intro scene bytes result leaves returned
    by_cases short : bytes.length < 2
    · have missing := @MqttPacket.Leaves.readUint16_short Effect _ _ leaves short
      exact (reading_not_returned (congrArg Run.outcome missing) returned).elim
    rcases bytes with _ | ⟨first, _ | ⟨second, rest⟩⟩
    · exact absurd Nat.two_pos short
    · exact absurd Nat.one_lt_two short
    · refine ⟨uint16Of first second, rest, trivial, ?_⟩
      rw [← (bigEndian_eq_iff first second _).mpr rfl]
      rfl

def Short (text : GoString) : Prop := text.length < 65536

instance : DecidablePred Short := fun _ => inferInstanceAs (Decidable (_ < _))

theorem readString_exact :
    Exact Short stringField (fun _ text => text) (reading readString) where
  complete := by
    intro scene text rest short leaves
    rw [stringField, List.length_append]
    exact reading_apply (leaves.readString_found (scanString_field short rest)).1
  sound := by
    intro scene bytes result leaves returned
    cases scanned : scanString bytes with
    | none =>
      have broken := (@MqttPacket.Leaves.readString_broken Effect _ _ leaves scanned).2
      exact (reading_not_returned broken returned).elim
    | some parts => exact ⟨parts.1, parts.2, scanString_eq_some_iff.mp scanned⟩

theorem Exact.readingOr {Field Value : Type} {valid : Field -> Prop} {encode : Field -> List UInt8}
    {value : Scene -> Field -> Value} {read : PacketM Effect Value}
    (exact : Exact valid encode value (reading read)) :
    Exact valid encode value (Mqtt.readingOr read) where
  complete := by
    intro scene field rest fits leaves
    have read := attempt_of_returned (exact.complete fits leaves)
    rw [Mqtt.readingOr, bind_of_ok read]
    rfl
  sound := by
    intro scene bytes result leaves returned
    rcases returned_of_bind returned with ⟨answer, tried, later⟩
    cases answer with
    | ok value => exact exact.sound leaves (returned_of_attempt tried)
    | error reason => cases later

theorem readClientID_exact :
    Exact (fun text => text ≠ [] ∧ Short text) stringField (fun _ text => text)
      readClientID where
  complete := by
    intro scene text rest fits leaves
    rw [readClientID, bind_of_ok
      (attempt_of_returned (readString_exact.complete fits.2 leaves))]
    change precede [] ((if text = [] then _ else pure text : SessionM GoString) _) = _
    rw [if_neg fits.1]
    rfl
  sound := by
    intro scene bytes result leaves returned
    rcases returned_of_bind returned with ⟨answer, tried, later⟩
    cases answer with
    | ok text =>
      have read := returned_of_attempt tried
      rcases readString_exact.sound leaves read with ⟨field, rest, short, rfl⟩
      rw [readString_exact.complete short leaves] at read
      cases read
      refine ⟨text, rest, ⟨fun empty => ?_, short⟩, rfl⟩
      change ((if text = [] then _ else _ : SessionM GoString) _).outcome = _ at later
      rw [if_pos empty] at later
      exact refuse_never _ _ _ _ later
    | error reason => exact absurd later (refuse_never _ _ _ _)

/-! ## The flags -/

namespace ConnectFlags

def cleanSession (flags : UInt8) : UInt8 := (flags &&& 0x02) >>> 1

def will (flags : UInt8) : UInt8 := flags &&& 0x04

def willQos (flags : UInt8) : UInt8 := (flags &&& 0x18) >>> 3

def willRetain (flags : UInt8) : Bool := flags &&& 0x20 == 0x20

def Credentials (flags : UInt8) : Prop := flags &&& 0x40 ≠ 0 ∧ flags &&& 0x80 ≠ 0

end ConnectFlags

/-! ## The will -/

/-- The will of a CONNECT packet. -/
@[ext] structure Will where
  topic : GoString
  payload : List UInt8
  named : topic ≠ []
  short : Short topic ∧ Short payload

namespace Will

def encoded (will : Will) : List UInt8 :=
  stringField will.topic ++ stringField will.payload

def message (mountpoint : GoString) (flags : UInt8) (will : Will) : Message :=
  { topic := mountpoint ++ will.topic
    qos := ConnectFlags.willQos flags
    retain := ConnectFlags.willRetain flags
    payload := will.payload }

end Will

def willField : Option Will -> List UInt8
  | none => []
  | some will => will.encoded

/-- The flags announce a will exactly if there is one, and say nothing about a
will that is missing. -/
structure WillFlags (flags : UInt8) (will : Option Will) : Prop where
  announced : ConnectFlags.will flags ≠ 0 ↔ will.isSome
  unused : will = none -> ConnectFlags.willQos flags = 0 ∧ ConnectFlags.willRetain flags = false

theorem pos_iff_ne_zero {byte : UInt8} : 0 < byte ↔ byte ≠ 0 := by
  rw [UInt8.lt_iff_toNat_lt, Ne, ← UInt8.toNat_inj]
  exact Nat.pos_iff_ne_zero

theorem readBytes_exact (count : Nat) :
    Exact (fun bytes => bytes.length = count) (fun bytes => bytes) (fun _ bytes => bytes)
      (reading (readBytes count)) where
  complete := by
    intro scene bytes rest sized leaves
    have size := leaves.size
    have read := @MqttPacket.readBytes_unread Effect _ leaves.complete bytes rest leaves.unread
      (by omega)
    rw [sized] at read
    rw [sized]
    exact reading_apply read
  sound := by
    intro scene bytes result leaves returned
    by_cases beyond : scene.packet.remainingLength < scene.packet.pos + count
    · have failed : (readBytes count scene.packet :
          Run MqttPacket Effect GoString (List UInt8)).outcome =
            .error mqttErrorInvalidProtocol := by
        rw [readBytes, look_bind_apply, failIf_pos_bind_apply beyond]
      exact (reading_not_returned failed returned).elim
    · have size := leaves.size
      refine ⟨bytes.take count, bytes.drop count, ?_, (List.take_append_drop count bytes).symm⟩
      rw [List.length_take]
      omega

theorem readWillPayload_exact (length : UInt16) :
    Exact (fun bytes => bytes.length = length.toNat) (fun bytes => bytes) (fun _ bytes => bytes)
      (if 0 < length then readingOr (readBytes length.toNat) else pure []) := by
  by_cases some_bytes : 0 < length
  · rw [if_pos some_bytes]
    exact (readBytes_exact length.toNat).readingOr
  · have none_left : length.toNat = 0 := by
      rw [UInt16.lt_iff_toNat_lt] at some_bytes
      exact Nat.eq_zero_of_not_pos some_bytes
    rw [if_neg some_bytes, none_left]
    constructor
    · intro scene bytes rest empty leaves
      rw [List.length_eq_zero_iff.mp empty]
      rfl
    · intro scene bytes result leaves returned
      exact ⟨[], bytes, rfl, rfl⟩

theorem readWill_announced (announced : 0 < ConnectFlags.will flags) :
    Exact (fun _ => True) Will.encoded
      (fun scene will => some (will.message scene.session.mountpoint flags))
      (readWill (ConnectFlags.will flags) (ConnectFlags.willQos flags)
        (ConnectFlags.willRetain flags)) where
  complete := by
    intro scene will rest _ leaves
    have sized : will.payload.length = will.payload.length.toUInt16.toNat :=
      (UInt16.toNat_ofNat_of_lt' will.short.2).symm
    rw [Will.encoded, stringField_of_length sized, List.append_assoc, List.append_assoc] at leaves
    rw [readWill, if_pos announced, readString_exact.readingOr.run _ will.short.1 leaves,
      failIf_neg_bind_apply will.named, session_bind_apply,
      readUint16_exact.readingOr.run _ trivial (leaves_advance leaves),
      (readWillPayload_exact _).run _ sized (leaves_advance (leaves_advance leaves)),
      Scene.advance_advance, Scene.advance_advance]
    rw [Will.encoded, stringField_of_length sized, List.length_append, List.length_append]
    rfl
  sound := by
    intro scene bytes result leaves returned
    rw [readWill, if_pos announced] at returned
    rcases readString_exact.readingOr.peel leaves returned with
      ⟨topic, rest, shortTopic, rfl, leaves, returned⟩
    have named := passed_of_failIf returned
    have returned := returned_of_failIf returned
    rw [session_bind_apply] at returned
    rcases readUint16_exact.readingOr.peel leaves returned with
      ⟨length, rest, _, rfl, leaves, returned⟩
    rcases (readWillPayload_exact length).peel leaves returned with
      ⟨payload, rest, sized, rfl, _, _⟩
    have shortPayload : Short payload := by
      rw [Short, sized]
      exact length.toNat_lt
    refine ⟨⟨topic, payload, named, shortTopic, shortPayload⟩, rest, trivial, ?_⟩
    rw [Will.encoded, stringField_of_length sized, List.append_assoc, List.append_assoc]

theorem readWill_unannounced (missing : ConnectFlags.will flags = 0)
    (unused : ConnectFlags.willQos flags = 0 ∧ ConnectFlags.willRetain flags = false)
    (scene : Scene) :
    readWill (ConnectFlags.will flags) (ConnectFlags.willQos flags) (ConnectFlags.willRetain flags)
      scene = ⟨[], .ok none, scene⟩ := by
  have absent : ¬ 0 < ConnectFlags.will flags := fun present => pos_iff_ne_zero.mp present missing
  rw [readWill, if_neg absent, session_bind_apply, failIf_neg_bind_apply]
  · rfl
  · rw [unused.1, unused.2]
    simp

theorem readWill_exact (plain : ConnectFlags.will flags = 0 ->
      ConnectFlags.willQos flags = 0 ∧ ConnectFlags.willRetain flags = false) :
    Exact (WillFlags flags) willField
      (fun scene will => will.map (Will.message scene.session.mountpoint flags))
      (readWill (ConnectFlags.will flags) (ConnectFlags.willQos flags)
        (ConnectFlags.willRetain flags)) where
  complete := by
    intro scene will rest fits leaves
    cases will with
    | none =>
      have missing : ConnectFlags.will flags = 0 := by
        by_contra announced
        cases fits.announced.mp announced
      exact readWill_unannounced missing (plain missing) scene
    | some will =>
      have announced := pos_iff_ne_zero.mpr (fits.announced.mpr rfl)
      exact (readWill_announced announced).complete trivial leaves
  sound := by
    intro scene bytes result leaves returned
    by_cases missing : ConnectFlags.will flags = 0
    · exact ⟨none, bytes, ⟨⟨fun present => absurd missing present, fun present => nomatch present⟩,
        fun _ => plain missing⟩, rfl⟩
    · have announced := pos_iff_ne_zero.mpr missing
      rcases (readWill_announced announced).sound leaves returned with ⟨will, rest, _, shape⟩
      exact ⟨some will, rest, ⟨⟨fun _ => rfl, fun _ => missing⟩, fun absent => nomatch absent⟩,
        shape⟩

/-! ## The credentials -/

theorem readCredentials_exact (flags : UInt8) :
    Exact (fun credentials => ConnectFlags.Credentials flags ∧ Short credentials.1 ∧
        Short credentials.2)
      (fun credentials => stringField credentials.1 ++ stringField credentials.2)
      (fun _ credentials => credentials) (readCredentials flags) where
  complete := by
    intro scene credentials rest fits leaves
    have both : ¬ (flags &&& 0x40 = 0 ∨ flags &&& 0x80 = 0) :=
      not_or.mpr fits.1
    rw [List.append_assoc] at leaves
    have username := readString_exact.complete fits.2.1 leaves
    have password := readString_exact.complete fits.2.2 (leaves_advance leaves)
    rw [readCredentials, when_neg_bind_apply both,
      bind_of_ok (attempt_of_returned username), precede_nil,
      bind_of_ok (attempt_of_returned password), precede_nil,
      Scene.advance_advance, List.length_append]
    rfl
  sound := by
    intro scene bytes result leaves returned
    rw [readCredentials] at returned
    by_cases missing : flags &&& 0x40 = 0 ∨ flags &&& 0x80 = 0
    · rw [when_pos missing] at returned
      rcases returned_of_bind returned with ⟨_, refused, _⟩
      exact absurd refused (refuse_never _ _ _ _)
    rw [when_neg_bind_apply missing] at returned
    rcases returned_of_bind returned with ⟨username, triedUsername, returned⟩
    rcases returned_of_bind returned with ⟨password, triedPassword, returned⟩
    cases username with
    | error reason => exact absurd returned (refuse_never _ _ _ _)
    | ok username =>
      cases password with
      | error reason => exact absurd returned (refuse_never _ _ _ _)
      | ok password =>
        rcases readString_exact.sound leaves (returned_of_attempt triedUsername) with
          ⟨username, rest, shortUsername, rfl⟩
        have read := returned_of_attempt triedPassword
        rw [attempt_state, readString_exact.complete shortUsername leaves] at read
        rcases readString_exact.sound (leaves_advance leaves) read with
          ⟨password, rest, shortPassword, rfl⟩
        refine ⟨(username, password), rest,
          ⟨not_or.mp missing, shortUsername, shortPassword⟩, ?_⟩
        rw [List.append_assoc]

/-! ## The tuples -/

/-- The fields of a CONNECT packet. -/
@[ext] structure ConnectTuple where
  name : GoString
  level : UInt8
  flags : UInt8
  keepalive : UInt16
  clientID : GoString
  will : Option Will
  username : GoString
  password : GoString
  protocol : (name = PROTOCOL_NAME_V31 ∧ level &&& 0x7F = PROTOCOL_VERSION_V31) ∨
    (name = PROTOCOL_NAME_V311 ∧ level &&& 0x7F = PROTOCOL_VERSION_V311 ∧ flags &&& 0x01 = 0)
  willFlags : WillFlags flags will
  willQos : ConnectFlags.willQos flags ≤ 2
  credentials : ConnectFlags.Credentials flags
  identified : clientID ≠ []
  short : Short clientID ∧ Short username ∧ Short password

namespace ConnectTuple

/-- The reserved bits of the command, which the newer protocol wants clear. -/
def Allows (tuple : ConnectTuple) (command : UInt8) : Prop :=
  tuple.name = PROTOCOL_NAME_V311 -> command &&& 0x0F = 0

def behindFlags (tuple : ConnectTuple) : List UInt8 :=
  bigEndian tuple.keepalive ++ (stringField tuple.clientID ++ (willField tuple.will ++
    (stringField tuple.username ++ stringField tuple.password)))

def encoded (tuple : ConnectTuple) : List UInt8 :=
  stringField tuple.name ++ ([tuple.level] ++ ([tuple.flags] ++ tuple.behindFlags))

/-- The request that the fields stand for. -/
def request (tuple : ConnectTuple) (mountpoint : GoString) : ConnectRequest where
  cleanSession := ConnectFlags.cleanSession tuple.flags
  willMsg := tuple.will.map (Will.message mountpoint tuple.flags)
  rawClientID := tuple.clientID
  username := tuple.username
  password := tuple.password

/-- The scene when the fields have been read. -/
def finished (tuple : ConnectTuple) (scene : Scene) : Scene :=
  { scene.advance tuple.encoded.length with
    session := { scene.session with
      protocol := protocolOf tuple.name
      keepalive := tuple.keepalive } }

theorem fits (tuple : ConnectTuple) {command : UInt8} (allowed : tuple.Allows command) :
    ProtocolFits command tuple.name tuple.level tuple.flags := by
  rcases tuple.protocol with ⟨named, leveled⟩ | ⟨named, leveled, flags⟩
  · exact .v31 named leveled
  · exact .v311 named leveled (allowed named) flags

theorem short_name (tuple : ConnectTuple) : Short tuple.name := by
  rcases tuple.protocol with ⟨named, _⟩ | ⟨named, _⟩
  · rw [named]
    decide
  · rw [named]
    decide

end ConnectTuple

theorem le_two_iff {byte : UInt8} : byte ≤ 2 ↔ ¬ byte ≥ 3 := by
  rw [ge_iff_le, UInt8.le_iff_toNat_le, UInt8.le_iff_toNat_le]
  change byte.toNat ≤ 2 ↔ ¬ 3 ≤ byte.toNat
  omega

/-! ## The parse phase -/

def readBehindFlags (flags : UInt8) : SessionM ConnectRequest := do
  let session ← session
  failIf (ConnectFlags.willQos flags ≥ 3)
    (ascii "Invalid Will Qos in CONNECT from " ++ session.clientID)
  failIf (ConnectFlags.will flags = 0 ∧
      (ConnectFlags.willQos flags ≠ 0 ∨ ConnectFlags.willRetain flags))
    (ascii "Invalid Will Qos or Will Retain in CONNECT from " ++ session.clientID)
  let keepalive ← reading readUint16
  setSession (fun session => { session with keepalive := keepalive })
  let rawClientID ← readClientID
  let willMsg ← readWill (ConnectFlags.will flags) (ConnectFlags.willQos flags)
    (ConnectFlags.willRetain flags)
  let credentials ← readCredentials flags
  return {
    cleanSession := ConnectFlags.cleanSession flags
    willMsg := willMsg
    rawClientID := rawClientID
    username := credentials.1
    password := credentials.2 }

theorem readConnect_eq : readConnect = (do
    checkSessionState .new
    let protocolName ← reading readString
    let protocolVersion ← reading readByte
    let cflags ← reading readByte
    checkProtocol protocolName protocolVersion cflags
    readBehindFlags cflags) := rfl

theorem plain_iff :
    (¬ (ConnectFlags.will flags = 0 ∧
        (ConnectFlags.willQos flags ≠ 0 ∨ ConnectFlags.willRetain flags = true))) ↔
      (ConnectFlags.will flags = 0 ->
        ConnectFlags.willQos flags = 0 ∧ ConnectFlags.willRetain flags = false) := by
  rw [not_and, not_or, not_not, Bool.not_eq_true]

theorem ConnectTuple.plain (tuple : ConnectTuple) (missing : ConnectFlags.will tuple.flags = 0) :
    ConnectFlags.willQos tuple.flags = 0 ∧ ConnectFlags.willRetain tuple.flags = false := by
  apply tuple.willFlags.unused
  cases present : tuple.will with
  | none => rfl
  | some will =>
    have announced := tuple.willFlags.announced.mpr (present ▸ rfl)
    exact absurd missing announced

theorem readBehindFlags_complete (tuple : ConnectTuple)
    (leaves : scene.packet.Leaves (tuple.behindFlags ++ trailing)) :
    readBehindFlags tuple.flags scene =
      ⟨[], .ok (tuple.request scene.session.mountpoint),
        { scene.advance tuple.behindFlags.length with
          session := { scene.session with keepalive := tuple.keepalive } }⟩ := by
  rw [ConnectTuple.behindFlags] at leaves
  simp only [List.append_assoc] at leaves
  let kept : Scene :=
    { scene.advance (bigEndian tuple.keepalive).length with
      session := { scene.session with keepalive := tuple.keepalive } }
  have identifier : kept.packet.Leaves _ := leaves_advance leaves
  have will := leaves_advance identifier
  have credentials := leaves_advance will
  rw [← List.append_assoc] at credentials
  rw [readBehindFlags, session_bind_apply,
    failIf_neg_bind_apply (le_two_iff.mp tuple.willQos),
    failIf_neg_bind_apply (plain_iff.mpr tuple.plain),
    readUint16_exact.run _ trivial leaves, setSession_bind_apply]
  change (readClientID >>= _) kept = _
  rw [readClientID_exact.run _ ⟨tuple.identified, tuple.short.1⟩ identifier,
    (readWill_exact tuple.plain).run _ tuple.willFlags will,
    (readCredentials_exact tuple.flags).run (tuple.username, tuple.password)
      ⟨tuple.credentials, tuple.short.2⟩ credentials,
    Scene.advance_advance, Scene.advance_advance]
  have length : tuple.behindFlags.length = (bigEndian tuple.keepalive).length +
      ((stringField tuple.clientID).length + ((willField tuple.will).length +
        (stringField tuple.username ++ stringField tuple.password).length)) := by
    simp only [ConnectTuple.behindFlags, List.length_append]
  rw [length]
  exact congrArg (Run.mk [] (.ok (tuple.request scene.session.mountpoint)))
    (Scene.advance_session scene _ _ _)

theorem readConnect_encoded (fresh : scene.session.sessionState = .new) (tuple : ConnectTuple)
    (allowed : tuple.Allows scene.packet.command)
    (leaves : scene.packet.Leaves (tuple.encoded ++ trailing)) :
    readConnect scene =
      ⟨[], .ok (tuple.request scene.session.mountpoint), tuple.finished scene⟩ := by
  rw [ConnectTuple.encoded] at leaves
  simp only [List.append_assoc] at leaves
  have named := leaves_advance leaves
  have leveled := leaves_advance named
  let flagged : Scene := ((scene.advance (stringField tuple.name).length).advance
    [tuple.level].length).advance [tuple.flags].length
  have fits : ProtocolFits flagged.packet.command tuple.name tuple.level tuple.flags :=
    tuple.fits allowed
  let checked : Scene :=
    { flagged with session := { flagged.session with protocol := protocolOf tuple.name } }
  have behind : checked.packet.Leaves (tuple.behindFlags ++ trailing) := leaves_advance leveled
  rw [readConnect_eq, bind_of_ok (checkSessionState_of_eq fresh), precede_nil,
    readString_exact.run _ tuple.short_name leaves, readByte_exact.run _ trivial named,
    readByte_exact.run _ trivial leveled, bind_of_ok (checkProtocol_fits fits),
    precede_nil]
  change readBehindFlags tuple.flags checked = _
  rw [readBehindFlags_complete tuple behind, ConnectTuple.finished, ConnectTuple.encoded]
  simp only [List.length_append, ← Scene.advance_advance]
  rfl

theorem readBehindFlags_sound (leaves : scene.packet.Leaves bytes) {request : ConnectRequest}
    (returned : (readBehindFlags flags scene).outcome = .ok request) {name : GoString}
    {level : UInt8} (protocol : (name = PROTOCOL_NAME_V31 ∧ level &&& 0x7F = PROTOCOL_VERSION_V31) ∨
      (name = PROTOCOL_NAME_V311 ∧ level &&& 0x7F = PROTOCOL_VERSION_V311 ∧ flags &&& 0x01 = 0)) :
    exists (tuple : ConnectTuple) (trailing : List UInt8), tuple.name = name ∧
      tuple.level = level ∧ tuple.flags = flags ∧ bytes = tuple.behindFlags ++ trailing := by
  rw [readBehindFlags, session_bind_apply] at returned
  have small := passed_of_failIf returned
  have returned := returned_of_failIf returned
  have plain := plain_iff.mp (passed_of_failIf returned)
  rcases readUint16_exact.peel leaves (returned_of_failIf returned) with
    ⟨keepalive, rest, _, rfl, leaves, returned⟩
  rw [setSession_bind_apply] at returned
  let kept : Scene := { scene.advance (bigEndian keepalive).length with
    session := { scene.session with keepalive := keepalive } }
  have identifier : kept.packet.Leaves rest := leaves
  rcases readClientID_exact.peel identifier returned with
    ⟨clientID, rest, ⟨identified, shortID⟩, rfl, leaves, returned⟩
  rcases (readWill_exact plain).peel leaves returned with
    ⟨will, rest, willFlags, rfl, leaves, returned⟩
  rcases (readCredentials_exact flags).peel leaves returned with
    ⟨⟨username, password⟩, trailing, ⟨credentials, shortCredentials⟩, rfl, _, _⟩
  refine ⟨{
    name := name, level := level, flags := flags, keepalive := keepalive
    clientID := clientID, will := will, username := username, password := password
    protocol := protocol, willFlags := willFlags, willQos := le_two_iff.mpr small
    credentials := credentials, identified := identified, short := ⟨shortID, shortCredentials⟩ },
    trailing, rfl, rfl, rfl, ?_⟩
  simp only [ConnectTuple.behindFlags, List.append_assoc]

theorem encoded_of_readConnect (fresh : scene.session.sessionState = .new)
    (leaves : scene.packet.Leaves bytes) {request : ConnectRequest}
    (returned : (readConnect scene).outcome = .ok request) :
    exists tuple : ConnectTuple, tuple.Allows scene.packet.command ∧
      exists trailing, bytes = tuple.encoded ++ trailing := by
  rw [readConnect_eq, bind_of_ok (checkSessionState_of_eq fresh), precede_nil]
    at returned
  rcases readString_exact.peel leaves returned with ⟨name, rest, _, rfl, leaves, returned⟩
  rcases readByte_exact.peel leaves returned with ⟨level, rest, _, rfl, leaves, returned⟩
  rcases readByte_exact.peel leaves returned with ⟨flags, rest, _, rfl, leaves, returned⟩
  rcases returned_of_bind returned with ⟨_, accepted, _⟩
  have fits := fits_of_checkProtocol accepted
  rw [bind_of_ok (checkProtocol_fits fits), precede_nil] at returned
  let flagged : Scene := ((scene.advance (stringField name).length).advance [level].length).advance
    [flags].length
  let checked : Scene :=
    { flagged with session := { flagged.session with protocol := protocolOf name } }
  have behind : checked.packet.Leaves rest := leaves
  have protocol : (name = PROTOCOL_NAME_V31 ∧ level &&& 0x7F = PROTOCOL_VERSION_V31) ∨
      (name = PROTOCOL_NAME_V311 ∧ level &&& 0x7F = PROTOCOL_VERSION_V311 ∧
        flags &&& 0x01 = 0) := by
    cases fits with
    | v31 named leveled => exact .inl ⟨named, leveled⟩
    | v311 named leveled _ clear => exact .inr ⟨named, leveled, clear⟩
  rcases readBehindFlags_sound behind returned protocol with ⟨tuple, trailing, rfl, rfl, rfl, rfl⟩
  refine ⟨tuple, fun v311 => ?_, trailing, ?_⟩
  · cases fits with
    | v31 named _ => exact absurd (v311.symm.trans named) name_v31_ne_v311
    | v311 _ _ clear _ => exact clear
  · simp only [ConnectTuple.encoded, List.append_assoc]

theorem stringField_append_inj {text text' : GoString} (short : Short text) (short' : Short text')
    (same : stringField text ++ rest = stringField text' ++ rest') :
    text = text' ∧ rest = rest' := by
  have scanned := scanString_eq_some_iff.mpr ⟨short, same.symm⟩
  rw [scanString_eq_some_iff.mpr ⟨short', rfl⟩] at scanned
  cases scanned
  exact ⟨rfl, rfl⟩

theorem bigEndian_append_inj {data data' : UInt16}
    (same : bigEndian data ++ rest = bigEndian data' ++ rest') : data = data' ∧ rest = rest' := by
  rcases List.append_inj same rfl with ⟨bytes, same⟩
  have value := (bigEndian_eq_iff _ _ data').mp bytes
  rw [uint16Of_bigEndian] at value
  exact ⟨value, same⟩

theorem willField_append_inj {will will' : Option Will} (fits : WillFlags flags will)
    (fits' : WillFlags flags will') (same : willField will ++ rest = willField will' ++ rest') :
    will = will' ∧ rest = rest' := by
  have both : will.isSome ↔ will'.isSome := fits.announced.symm.trans fits'.announced
  cases will with
  | none =>
    cases will' with
    | none => exact ⟨rfl, same⟩
    | some other => cases both.mpr rfl
  | some will =>
    cases will' with
    | none => cases both.mp rfl
    | some other =>
      change will.encoded ++ rest = other.encoded ++ rest' at same
      rw [Will.encoded, Will.encoded, List.append_assoc, List.append_assoc] at same
      rcases stringField_append_inj will.short.1 other.short.1 same with ⟨topic, same⟩
      rcases stringField_append_inj will.short.2 other.short.2 same with ⟨payload, same⟩
      exact ⟨congrArg some (Will.ext topic payload), same⟩

theorem ConnectTuple.unique {tuple tuple' : ConnectTuple} {trailing' : List UInt8}
    (same : tuple.encoded ++ trailing = tuple'.encoded ++ trailing') : tuple = tuple' := by
  simp only [encoded, behindFlags, List.append_assoc] at same
  rcases stringField_append_inj tuple.short_name tuple'.short_name same with ⟨name, same⟩
  rcases List.cons_eq_cons.mp same with ⟨level, same⟩
  rcases List.cons_eq_cons.mp same with ⟨flags, same⟩
  rcases bigEndian_append_inj same with ⟨keepalive, same⟩
  rcases stringField_append_inj tuple.short.1 tuple'.short.1 same with ⟨clientID, same⟩
  rcases willField_append_inj tuple.willFlags (flags ▸ tuple'.willFlags) same with ⟨will, same⟩
  rcases stringField_append_inj tuple.short.2.1 tuple'.short.2.1 same with ⟨username, same⟩
  rcases stringField_append_inj tuple.short.2.2 tuple'.short.2.2 same with ⟨password, _⟩
  exact ConnectTuple.ext name level flags keepalive clientID will username password

theorem ConnectFields.protocol_eq (fields : ConnectFields) :
    exists name level, Short name ∧ fields.protocol = stringField name ++ [level] := by
  rw [protocol]
  cases fields.v311 with
  | true => exact ⟨PROTOCOL_NAME_V311, PROTOCOL_VERSION_V311, by decide, by decide⟩
  | false => exact ⟨PROTOCOL_NAME_V31, PROTOCOL_VERSION_V31, by decide, by decide⟩

theorem readConnect_clientID {fields : ConnectFields} {command : UInt8}
    (holds : scene.packet.Holds command fields.body) {request : ConnectRequest}
    (read : (readConnect scene).outcome = .ok request) : request.rawClientID = fields.clientId := by
  have fresh := readConnect_new read
  have leaves := holds.leaves
  rcases encoded_of_readConnect fresh leaves read with ⟨tuple, allowed, trailing, same⟩
  rw [same] at leaves
  rw [readConnect_encoded fresh tuple allowed leaves] at read
  cases read
  rcases fields.protocol_eq with ⟨name, level, short, protocol⟩
  simp only [ConnectFields.body, ConnectFields.head, protocol, ConnectTuple.encoded,
    ConnectTuple.behindFlags, List.append_assoc] at same
  rcases stringField_append_inj short tuple.short_name same with ⟨_, same⟩
  have identifier : fields.idMsb :: fields.idLsb :: (fields.clientId ++ fields.later) =
      stringField tuple.clientID ++ _ := congrArg (List.drop 4) same
  have scanned := scanString_append fields.sized fields.later
  rw [identifier, scanString_field tuple.short.1] at scanned
  exact congrArg Prod.fst (Option.some.inj scanned)

/-- In a new session the fields of every encoded tuple are read as they are, and
the rest of the handler goes on with them.  A body with which it gets that far
begins with the encoding of one tuple. -/
theorem connect_parsing_exact {scene : Scene} {command : UInt8} {body : List UInt8}
    (fresh : scene.session.sessionState = .new) (holds : scene.packet.Holds command body) :
    (forall (tuple : ConnectTuple) trailing, tuple.Allows command ->
      body = tuple.encoded ++ trailing ->
        let request := tuple.request scene.session.mountpoint
        readConnect scene = ⟨[], .ok request, tuple.finished scene⟩ ∧
          forall host, handleConnect host scene = (do
            identify host request
            openSession host request.cleanSession request.willMsg) (tuple.finished scene)) ∧
    (forall request, (readConnect scene).outcome = .ok request ->
      ∃! tuple : ConnectTuple, tuple.Allows command ∧
        exists trailing, body = tuple.encoded ++ trailing) := by
  constructor
  · intro tuple trailing allowed shape
    rw [← holds.command] at allowed
    have leaves := holds.leaves
    rw [shape] at leaves
    have parsed := readConnect_encoded fresh tuple allowed leaves
    refine ⟨parsed, fun host => ?_⟩
    rw [handleConnect, bind_of_ok parsed, precede_nil]
  · intro request returned
    rcases encoded_of_readConnect fresh holds.leaves returned with
      ⟨tuple, allowed, trailing, shape⟩
    rw [holds.command] at allowed
    refine ⟨tuple, ⟨allowed, trailing, shape⟩, ?_⟩
    rintro other ⟨_, behind, same⟩
    exact ConnectTuple.unique (same.symm.trans shape)

def plainTuple : ConnectTuple where
  name := PROTOCOL_NAME_V311
  level := 4
  flags := 0xC2
  keepalive := 60
  clientID := ascii "c"
  will := none
  username := ascii "u"
  password := ascii "p"
  protocol := .inr (by decide)
  willFlags := ⟨by decide, fun _ => by decide⟩
  willQos := by decide
  credentials := ⟨by decide, by decide⟩
  identified := by decide
  short := by decide

theorem plainTuple_parsed :
    (readConnect (receiving CONNECT (plainTuple.encoded ++ [7]))).outcome =
      .ok { cleanSession := 1, willMsg := none, rawClientID := ascii "c", username := ascii "u",
            password := ascii "p" } :=
  congrArg Run.outcome ((connect_parsing_exact rfl (receiving_holds CONNECT
    (plainTuple.encoded ++ [7]))).1 plainTuple [7] (fun _ => by decide) rfl).1

end Mqtt
end Sentel
