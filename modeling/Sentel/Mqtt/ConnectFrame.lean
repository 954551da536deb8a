import Sentel.Mqtt.Authentication
import Sentel.Mqtt.Decode
import Sentel.Mqtt.Fields

namespace Sentel
namespace Mqtt

open Library Handler Auth SessionM

/-!
# CONNECT frames

The bytes of a CONNECT frame of either protocol version, and what the session
makes of them.  The frame is decoded, its variable header is read field by
field, and the client identifier is cut at its separator.
-/

/-- The fields of a CONNECT packet.  `later` holds the will and the
credentials. -/
structure ConnectFields where
  v311 : Bool
  cflags : UInt8
  keepaliveMsb : UInt8
  keepaliveLsb : UInt8
  idMsb : UInt8
  idLsb : UInt8
  clientId : GoString
  later : List UInt8
  sized : (uint16Of idMsb idLsb).toNat = clientId.length

namespace ConnectFields

def protocol (fields : ConnectFields) : List UInt8 :=
  if fields.v311 then [0, 4, 77, 81, 84, 84, 4] else [0, 6, 77, 81, 73, 115, 100, 112, 3]

def head (fields : ConnectFields) : List UInt8 :=
  fields.protocol ++ [fields.cflags, fields.keepaliveMsb, fields.keepaliveLsb, fields.idMsb,
    fields.idLsb]

def body (fields : ConnectFields) : List UInt8 :=
  fields.head ++ (fields.clientId ++ fields.later)

theorem body_starts (fields : ConnectFields) : exists rest, fields.body = 0 :: rest := by
  rw [body, head, protocol]
  cases fields.v311 with
  | true | false => exact ⟨_, rfl⟩

end ConnectFields

/-- A frame announces the length of its body in one to four bytes. -/
structure ConnectFrame extends ConnectFields where
  command : UInt8
  lengthBytes : List UInt8
  typed : 16 ≤ command ∧ command < 32
  announced : lengthField 4 (lengthBytes ++ toConnectFields.body) =
    some (toConnectFields.body.length, lengthBytes.length)

namespace ConnectFrame

def bytes (frame : ConnectFrame) : List UInt8 :=
  frame.command :: (frame.lengthBytes ++ frame.body)

/-- The length field ends with a zero byte that it does not need. -/
def Padded (frame : ConnectFrame) : Prop :=
  0 ∈ frame.lengthBytes

instance (frame : ConnectFrame) : Decidable frame.Padded :=
  inferInstanceAs (Decidable (0 ∈ frame.lengthBytes))

theorem drop_bytes (frame : ConnectFrame) (count : Nat) :
    frame.bytes.drop (frame.lengthBytes.length + 1 + count) = frame.body.drop count := by
  rw [bytes, Nat.add_right_comm, List.drop_succ_cons, ← List.drop_drop, List.drop_left]

theorem fixedHeader_bytes (frame : ConnectFrame) :
    fixedHeader frame.bytes =
      some (frame.command, frame.body.length, frame.lengthBytes.length + 1) := by
  rw [bytes, fixedHeader, frame.announced]
  rfl

theorem decoded_holds (frame : ConnectFrame) {stream : ByteStream}
    (arrives : stream.bytes = frame.bytes) (whole : BodyArrivesWhole stream) {packet : MqttPacket}
    (decoded : (newMqttPacket.decodeFromReader stream).1 = .ok packet) :
    packet.Holds frame.command frame.body := by
  have header := frame.fixedHeader_bytes
  rw [← arrives] at header
  have complete : frame.lengthBytes.length + 1 + frame.body.length ≤ stream.bytes.length := by
    rw [arrives, bytes, List.length_cons, List.length_append]
    omega
  have positive : 0 < frame.body.length := by
    rcases frame.body_starts with ⟨rest, starts⟩
    rw [starts]
    exact Nat.succ_pos _
  have starts := MqttPacket.decodeThrough_header copyBufferSize_pos stream
  rw [header] at starts
  rcases starts with ⟨started, same, command, announced, _, _⟩
  rcases whole _ _ _ header complete with empty | ⟨fits, together⟩
  · omega
  rcases MqttPacket.decodeBody_whole copyBufferSize_pos announced positive fits together
    with ⟨count, spare, body⟩
  rw [MqttPacket.decodeFromReader, same, body] at decoded
  cases decoded
  have rest : (stream.skip (frame.lengthBytes.length + 1)).bytes = frame.body := by
    rw [ByteStream.bytes_skip, arrives, bytes, List.drop_succ_cons]
    exact List.drop_left
  refine ⟨command, rfl, announced, ?_⟩
  change (stream.skip (frame.lengthBytes.length + 1)).bytes.take frame.body.length = frame.body
  rw [rest, List.take_length]

end ConnectFrame

/-! ## Reading the fields -/

variable {scene : Scene} {name : GoString}

theorem checkSessionState_of_eq {state : SessionState} (same : scene.session.sessionState = state) :
    checkSessionState state scene = ⟨[], .ok (), scene⟩ := by
  change failIf (scene.session.sessionState ≠ state) _ scene = _
  rw [failIf, when, if_neg (not_not.mpr same)]
  rfl

theorem refuse_never {Value : Type} (result : UInt8) (reason : GoString) :
    NeverReturns (refuse result reason : SessionM Value) :=
  .bind (fun _ => .fail _)

inductive ProtocolFits (command : UInt8) (name : GoString) (level flags : UInt8) : Prop
  | v31 (named : name = PROTOCOL_NAME_V31) (leveled : level &&& 0x7F = PROTOCOL_VERSION_V31)
  | v311 (named : name = PROTOCOL_NAME_V311) (leveled : level &&& 0x7F = PROTOCOL_VERSION_V311)
      (command : command &&& 0x0F = 0) (flags : flags &&& 0x01 = 0)

def protocolOf (name : GoString) : Protocol :=
  if name = PROTOCOL_NAME_V31 then .mqtt31 else .mqtt311

theorem name_v31_ne_v311 : PROTOCOL_NAME_V311 ≠ PROTOCOL_NAME_V31 := by decide

theorem checkProtocol_fits {level flags : UInt8}
    (fits : ProtocolFits scene.packet.command name level flags) :
    checkProtocol name level flags scene =
      ⟨[], .ok (),
        { scene with session := { scene.session with protocol := protocolOf name } }⟩ := by
  rw [checkProtocol, protocolOf]
  cases fits with
  | v31 named leveled =>
    rw [if_pos named, if_pos named, when_neg_bind_apply (not_not.mpr leveled)]
    rfl
  | v311 named leveled command flags =>
    have other : name ≠ PROTOCOL_NAME_V31 := named ▸ name_v31_ne_v311
    rw [if_neg other, if_neg other, if_pos named,
      when_neg_bind_apply (not_not.mpr leveled), look_bind_apply,
      failIf_neg_bind_apply (not_not.mpr command), setSession_bind_apply, failIf,
      when_neg (not_not.mpr flags)]
    rfl

theorem fits_of_checkProtocol {level flags : UInt8}
    (accepted : (checkProtocol name level flags scene).outcome = .ok ()) :
    ProtocolFits scene.packet.command name level flags := by
  rw [checkProtocol] at accepted
  by_cases v31 : name = PROTOCOL_NAME_V31
  · rw [if_pos v31] at accepted
    by_cases other : level &&& 0x7F ≠ PROTOCOL_VERSION_V31
    · rw [when_pos other] at accepted
      rcases returned_of_bind accepted with ⟨_, refused, _⟩
      exact absurd refused (refuse_never _ _ _ _)
    · exact .v31 v31 (not_not.mp other)
  rw [if_neg v31] at accepted
  by_cases v311 : name = PROTOCOL_NAME_V311
  · rw [if_pos v311] at accepted
    by_cases other : level &&& 0x7F ≠ PROTOCOL_VERSION_V311
    · rw [when_pos other] at accepted
      rcases returned_of_bind accepted with ⟨_, refused, _⟩
      exact absurd refused (refuse_never _ _ _ _)
    rw [when_neg_bind_apply other, look_bind_apply] at accepted
    have command := passed_of_failIf accepted
    have accepted := returned_of_failIf accepted
    rw [setSession_bind_apply] at accepted
    by_cases reserved : flags &&& 0x01 ≠ 0x00
    · rw [failIf, when_pos reserved] at accepted
      cases accepted
    · exact .v311 v311 (not_not.mp other) (not_not.mp command) (not_not.mp reserved)
  · rw [if_neg v311] at accepted
    cases accepted

theorem parseRequestOptions_clientID {clientID userName password : GoString} {ctx : Context}
    (parsed : parseRequestOptions clientID userName password = (ctx, none)) :
    exists options, split 0x7C clientID = [ctx.clientID, options] := by
  rw [parseRequestOptions] at parsed
  split at parsed
  · split at parsed
    · rename_i deviceName productID _ _ name options parts
      have kept := (parseOptions_client (split 0x2C options)
        { deviceName := deviceName, productID := productID, clientID := name }).1
      rw [parsed] at kept
      exact ⟨options, by rw [parts, kept]⟩
    · cases parsed
  · cases parsed

end Mqtt
end Sentel
