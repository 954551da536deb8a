import Sentel.Library.ByteStream
import Sentel.Library.GoString

namespace Sentel
namespace Mqtt

open Library Handler

/-!
# MQTT packets

A packet is read from a connection into a buffer, and its fields are then read
from that buffer at a moving position.  The reading functions check the
position against the announced remaining length and not against the buffer, so
a packet whose buffer is shorter than announced can make them panic.  A packet
to be sent is assembled in a buffer that is allocated by `initializePacket`.
-/

def PROTOCOL_NAME_V31 : GoString := ascii "MQIsdp"
def PROTOCOL_VERSION_V31 : UInt8 := 3
def PROTOCOL_NAME_V311 : GoString := ascii "MQTT"
def PROTOCOL_VERSION_V311 : UInt8 := 4

def CONNECT : UInt8 := 0x10
def CONNACK : UInt8 := 0x20
def PUBLISH : UInt8 := 0x30
def PUBACK : UInt8 := 0x40
def PUBREC : UInt8 := 0x50
def PUBREL : UInt8 := 0x60
def PUBCOMP : UInt8 := 0x70
def SUBSCRIBE : UInt8 := 0x80
def SUBACK : UInt8 := 0x90
def UNSUBSCRIBE : UInt8 := 0xA0
def UNSUBACK : UInt8 := 0xB0
def PINGREQ : UInt8 := 0xC0
def PINGRESP : UInt8 := 0xD0
def DISCONNECT : UInt8 := 0xE0

def CONNACK_ACCEPTED : UInt8 := 0
def CONNACK_REFUSED_PROTOCOL_VERSION : UInt8 := 1
def CONNACK_REFUSED_IDENTIFIER_REJECTED : UInt8 := 2
def CONNACK_REFUSED_BAD_USERNAME_PASSWORD : UInt8 := 4
def CONNACK_REFUSED_NOT_AUTHORIZED : UInt8 := 5

def mqttErrorInvalidProtocol : GoString := ascii "Invalid protocol"
def mqttErrorConnectRefused : GoString := ascii "Connection Refused"

/-- `mqttPacket`.  The defaults are the zero values of the source. -/
structure MqttPacket where
  command : UInt8 := 0
  dup : Bool := false
  qos : UInt8 := 0
  retain : Bool := false
  pos : Nat := 0
  toprocess : Nat := 0
  length : Nat := 0
  remainingCount : Int := 0
  remainingMult : Nat := 0
  remainingLength : Nat := 0
  payload : GoSlice := {}
  buf : GoSlice := {}
  deriving DecidableEq, Repr

def newMqttPacket : MqttPacket where
  remainingMult := 1

abbrev PacketM (Effect Value : Type) := Handler MqttPacket Effect GoString Value

namespace MqttPacket

variable {Effect : Type}

/-! ## Assembling -/

/-- The loop of `initializePacket`: at most `rounds` bytes of the variable
length encoding. -/
def remainingBytes : Nat -> Nat -> List UInt8
  | 0, _ => []
  | rounds + 1, remaining =>
    if remaining = 0 then []
    else
      let low := (remaining % 128).toUInt8
      (if remaining / 128 = 0 then low else low ||| 0x80) :: remainingBytes rounds (remaining / 128)

def headerByte (packet : MqttPacket) : UInt8 :=
  let dup : UInt8 := if packet.dup then 8 else 0
  let qos : UInt8 := if 0 < packet.qos then packet.qos <<< 1 else 0
  let retain : UInt8 := if packet.retain then 1 else 0
  packet.command ||| dup ||| qos ||| retain

def initializePacket : PacketM Effect Unit := do
  let packet ← look
  let encoded := remainingBytes 5 packet.remainingLength
  if encoded.length = 5 then
    change (fun packet => { packet with remainingCount := 5 })
    fail (ascii "Invalid packet payload size")
  else
    let length := packet.remainingLength + 1 + encoded.length
    change (fun packet => { packet with
      remainingCount := encoded.length
      length := length
      payload := ⟨packet.headerByte :: encoded ++ List.replicate packet.remainingLength 0, []⟩
      pos := 1 + encoded.length })

def assignAt (offset : Nat) (byte : UInt8) : PacketM Effect Unit := do
  let packet ← look
  let payload ← ofPanic (packet.payload.assign (packet.pos + offset) byte)
  change (fun packet => { packet with payload := payload })

def writeByte (byte : UInt8) : PacketM Effect Unit := do
  let packet ← look
  failIf (packet.length < packet.pos + 1) mqttErrorInvalidProtocol
  assignAt 0 byte
  change (fun packet => { packet with pos := packet.pos + 1 })

def writeEach : List UInt8 -> PacketM Effect Unit
  | [] => pure ()
  | byte :: rest => do
    assignAt 0 byte
    change (fun packet => { packet with pos := packet.pos + 1 })
    writeEach rest

def writeBytes (bytes : List UInt8) : PacketM Effect Unit := do
  let packet ← look
  failIf (packet.length < packet.pos + bytes.length) mqttErrorInvalidProtocol
  writeEach bytes

def writeUint16 (data : UInt16) : PacketM Effect Unit := do
  let msb := ((data >>> 8) &&& 0xF).toUInt8
  let lsb := (data &&& 0xF).toUInt8
  writeByte msb
  writeByte lsb

def writeString (data : GoString) : PacketM Effect Unit := do
  writeUint16 data.length.toUInt16
  writeBytes data

/-! ## Reading fields -/

def readByte : PacketM Effect UInt8 := do
  let packet ← look
  failIf (packet.remainingLength < packet.pos + 1) mqttErrorInvalidProtocol
  let byte ← ofPanic (packet.payload.index packet.pos)
  change (fun packet => { packet with pos := packet.pos + 1 })
  return byte

def readBytes (count : Nat) : PacketM Effect (List UInt8) := do
  let packet ← look
  failIf (packet.remainingLength < packet.pos + count) mqttErrorInvalidProtocol
  let bytes ← ofPanic (packet.payload.subslice packet.pos (packet.pos + count))
  change (fun packet => { packet with pos := packet.pos + count })
  return bytes

def readUint16 : PacketM Effect UInt16 := do
  let packet ← look
  failIf (packet.remainingLength < packet.pos + 2) mqttErrorInvalidProtocol
  let msb ← ofPanic (packet.payload.index packet.pos)
  change (fun packet => { packet with pos := packet.pos + 1 })
  let lsb ← ofPanic (packet.payload.index (packet.pos + 1))
  change (fun packet => { packet with pos := packet.pos + 1 })
  return (msb.toUInt16 <<< 8) + lsb.toUInt16

def readString : PacketM Effect GoString := do
  let len ← readUint16
  let packet ← look
  failIf (packet.remainingLength < packet.pos + len.toNat) mqttErrorInvalidProtocol
  let text ← ofPanic
    (packet.payload.subslice packet.pos (packet.pos + len.toNat))
  change (fun packet => { packet with pos := packet.pos + len.toNat })
  return text

end MqttPacket

end Mqtt
end Sentel
