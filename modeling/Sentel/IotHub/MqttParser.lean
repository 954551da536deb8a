import Mathlib.Data.List.TakeDrop
import Sentel.Mqtt.ConnectExact

namespace Sentel
namespace IotHub

open Library Auth Mqtt

/-!
# The pre-read parser

The gateway in front of the brokers reads the first bytes of a connection to
find the tenant, whose name it takes from the client identifier of the CONNECT
frame.  The broker behind it decodes the same frame.  This module compares the
two names.
-/

/-! ## Values of the script -/

def charCodeAt (buffer : List UInt8) (index : Nat) : Option UInt8 :=
  buffer[index]?

def toHex : Option UInt8 -> GoString
  | none => ascii "NaN"
  | some code =>
    if code.toNat < 16 then [hexDigit code.toNat]
    else [hexDigit (code.toNat / 16), hexDigit (code.toNat % 16)]

def digitValue (letter : UInt8) : Option Nat :=
  if 48 ≤ letter ∧ letter ≤ 57 then some (letter.toNat - 48)
  else if 65 ≤ letter ∧ letter ≤ 70 then some (letter.toNat - 55)
  else if 97 ≤ letter ∧ letter ≤ 102 then some (letter.toNat - 87)
  else none

def readDigits : Option Nat -> GoString -> Option Nat
  | sum, [] => sum
  | sum, letter :: rest =>
    match digitValue letter with
    | none => sum
    | some digit => readDigits (some (16 * sum.getD 0 + digit)) rest

def parseHex (text : GoString) : Option Nat :=
  readDigits none text

def substr (buffer : List UInt8) (start : Nat) (length : Option Nat) : GoString :=
  (buffer.drop start).take (length.getD 0)

/-! ## The script -/

/-- The session that the gateway passes to the script. -/
structure StreamSession where
  fromUpstream : Bool
  buffer : List UInt8

/-- The global variables of the script. -/
structure Script where
  clientMessages : Nat := 1
  tenant : GoString := ascii "-"

inductive Answer where
  | AGAIN
  | OK
deriving DecidableEq

/-- The loop over the remaining length.  It stops at a zero byte; the length it
sums up is not used afterwards. -/
def remainingLenPos (buffer : List UInt8) : Nat -> Nat -> Nat
  | 0, position => position
  | limit + 1, position =>
    if charCodeAt buffer position = some 0 then position
    else remainingLenPos buffer limit (position + 1)

def clientIdLen (buffer : List UInt8) (offset : Nat) : Option Nat :=
  let msb := toHex (charCodeAt buffer offset)
  let lsb := toHex (charCodeAt buffer (offset + 1))
  parseHex (msb ++ if lsb.length < 2 then 48 :: lsb else lsb)

def clientIdStr (buffer : List UInt8) : GoString :=
  let payloadOffset := remainingLenPos buffer 4 1 + 12
  substr buffer payloadOffset (clientIdLen buffer payloadOffset)

def parserTenant (s : StreamSession) (script : Script) : Answer × Script :=
  if s.fromUpstream then (.OK, script)
  else
    match s.buffer with
    | [] => (.AGAIN, script)
    | packetTypeFlagsByte :: _ =>
      if script.clientMessages = 1 then
        if 16 ≤ packetTypeFlagsByte ∧ packetTypeFlagsByte < 32 then
          let tenant :=
            match split 0x7C (clientIdStr s.buffer) with
            | [] => script.tenant
            | first :: _ => first ++ ascii "_Broker"
          (.OK, { clientMessages := script.clientMessages + 1, tenant := tenant })
        else (.AGAIN, script)
      else (.OK, { script with clientMessages := script.clientMessages + 1 })

def getTenant (script : Script) : GoString :=
  script.tenant

/-- The tenant that a new script finds in the first bytes of a client. -/
def tenantOf (buffer : List UInt8) : GoString :=
  getTenant (parserTenant { fromUpstream := false, buffer := buffer } {}).2

/-! ## Two bytes in hexadecimal -/

theorem digitValue_hexDigit : ∀ value < 16, digitValue (hexDigit value) = some value := by
  decide

theorem readDigits_hexDigit (sum : Option Nat) {value : Nat} (small : value < 16)
    (rest : GoString) :
    readDigits sum (hexDigit value :: rest) = readDigits (some (16 * sum.getD 0 + value)) rest := by
  rw [readDigits, digitValue_hexDigit value small]

/-- The number that the two bytes at the head of a text announce. -/
def announcedLength : List UInt8 -> Nat
  | msb :: lsb :: _ => msb.toNat * 256 + lsb.toNat
  | [msb] => msb.toNat
  | [] => 0

theorem readDigits_toHex (code : UInt8) (rest : GoString) :
    readDigits none (toHex (some code) ++ rest) = readDigits (some code.toNat) rest := by
  have bound : code.toNat < 256 := UInt8.toNat_lt code
  rw [toHex]
  by_cases small : code.toNat < 16
  · rw [if_pos small, List.cons_append, readDigits_hexDigit _ small]
    simp
  · rw [if_neg small, List.cons_append, readDigits_hexDigit _ (by omega), List.cons_append,
      readDigits_hexDigit _ (by omega)]
    congr 2
    simp only [Option.getD_none, Option.getD_some]
    omega

theorem readDigits_padded (sum : Nat) (code : UInt8) :
    readDigits (some sum)
        (if (toHex (some code)).length < 2 then 48 :: toHex (some code) else toHex (some code)) =
      some (sum * 256 + code.toNat) := by
  have bound : code.toNat < 256 := UInt8.toNat_lt code
  rw [toHex]
  by_cases small : code.toNat < 16
  · rw [if_pos small, if_pos (by simp)]
    change readDigits (some sum) (hexDigit 0 :: [hexDigit code.toNat]) = _
    rw [readDigits_hexDigit _ (by decide), readDigits_hexDigit _ small, readDigits]
    simp only [Option.getD_some]
    congr 1
    omega
  · rw [if_neg small, if_neg (by simp), readDigits_hexDigit _ (by omega),
      readDigits_hexDigit _ (by omega), readDigits]
    simp only [Option.getD_some]
    congr 1
    omega

theorem clientIdLen_eq (buffer : List UInt8) (offset : Nat) :
    (clientIdLen buffer offset).getD 0 = announcedLength (buffer.drop offset) := by
  have first : charCodeAt buffer offset = (buffer.drop offset)[0]? := by
    rw [List.getElem?_drop]
    rfl
  have second : charCodeAt buffer (offset + 1) = (buffer.drop offset)[1]? := by
    rw [List.getElem?_drop]
    rfl
  rw [clientIdLen, parseHex, first, second]
  rcases buffer.drop offset with _ | ⟨msb, _ | ⟨lsb, rest⟩⟩
  · rfl
  · change (readDigits none (toHex (some msb) ++ ascii "NaN")).getD 0 = msb.toNat
    rw [readDigits_toHex]
    rfl
  · change (readDigits none (toHex (some msb) ++ if (toHex (some lsb)).length < 2 then
      48 :: toHex (some lsb) else toHex (some lsb))).getD 0 = _
    rw [readDigits_toHex, readDigits_padded]
    rfl

theorem tenantOf_connect {command : UInt8} (typed : 16 ≤ command ∧ command < 32)
    (rest : List UInt8) :
    tenantOf (command :: rest) =
      (clientIdStr (command :: rest)).takeWhile (· != 0x7C) ++ ascii "_Broker" := by
  have head := split_head 0x7C (clientIdStr (command :: rest))
  rw [tenantOf, parserTenant, if_neg Bool.false_ne_true]
  change getTenant (if 16 ≤ command ∧ command < 32 then _ else _ : Answer × Script).2 = _
  rw [if_pos typed]
  rcases parts : split 0x7C (clientIdStr (command :: rest)) with _ | ⟨first, later⟩
  · exact absurd parts (split_ne_nil _ _)
  · rw [parts] at head
    cases head
    rfl

/-! ## Where the script finds the identifier -/

theorem remainingLenPos_zero {buffer : List UInt8} {position : Nat}
    (zero : charCodeAt buffer position = some 0) (limit : Nat) :
    remainingLenPos buffer limit position = position := by
  cases limit with
  | zero => rfl
  | succ limit => rw [remainingLenPos, if_pos zero]

theorem charCodeAt_front (front rest : List UInt8) (byte : UInt8) :
    charCodeAt (front ++ byte :: rest) front.length = some byte := by
  rw [charCodeAt, List.getElem?_append_right (Nat.le_refl _), Nat.sub_self]
  rfl

theorem remainingLenPos_field {limit : Nat} {front bytes rest : List UInt8} {value : Nat}
    (field : lengthField limit (bytes ++ 0 :: rest) = some (value, bytes.length)) :
    remainingLenPos (front ++ (bytes ++ 0 :: rest)) limit front.length =
      if 0 ∈ bytes then front.length + bytes.length - 1 else front.length + bytes.length := by
  induction limit generalizing front bytes value with
  | zero => cases field
  | succ limit ih =>
    rcases bytes with _ | ⟨byte, more⟩
    · cases field
    have shift : front ++ (byte :: more ++ 0 :: rest) =
        (front ++ [byte]) ++ (more ++ 0 :: rest) := by
      rw [List.append_assoc]
      rfl
    have size : front.length + 1 = (front ++ [byte]).length := by
      rw [List.length_append]
      rfl
    rw [List.cons_append, remainingLenPos, charCodeAt_front]
    rw [List.cons_append, lengthField] at field
    by_cases last : byte < 128
    · -- The last byte of the field is followed by the zero of the protocol name.
      rw [if_pos last] at field
      have alone : more = [] := by
        have sizes := congrArg (fun field => field.map Prod.snd) field
        exact List.length_eq_zero_iff.mp (Nat.succ.inj (Option.some.inj sizes)).symm
      subst alone
      by_cases zero : byte = 0
      · rw [if_pos (congrArg some zero), if_pos (by simp [zero])]
        rfl
      · rw [if_neg (fun same => zero (Option.some.inj same)), if_neg (by simp [Ne.symm zero])]
        apply remainingLenPos_zero
        rw [← List.cons_append, shift, size]
        exact charCodeAt_front _ _ _
    · have nonzero : byte ≠ 0 := by
        rintro rfl
        exact last (by decide)
      rw [if_neg last] at field
      rcases Option.map_eq_some_iff.mp field with ⟨⟨later, count⟩, behind, same⟩
      have counts : count = more.length := Nat.succ.inj (Prod.ext_iff.mp same).2
      rw [counts] at behind
      have rest := @ih (front ++ [byte]) more _ behind
      rw [if_neg (fun same => nonzero (Option.some.inj same)), ← List.cons_append, shift, size,
        rest, ← size, List.length_cons]
      have member : 0 ∈ byte :: more ↔ 0 ∈ more := by
        rw [List.mem_cons]
        exact or_iff_right (Ne.symm nonzero)
      by_cases padded : 0 ∈ more
      · rw [if_pos padded, if_pos (member.mpr padded)]
        omega
      · rw [if_neg padded, if_neg (fun found => padded (member.mp found))]
        omega

theorem remainingLenPos_bytes (frame : ConnectFrame) :
    remainingLenPos frame.bytes 4 1 =
      if frame.Padded then frame.lengthBytes.length else frame.lengthBytes.length + 1 := by
  rcases frame.body_starts with ⟨rest, starts⟩
  have field := frame.announced
  rw [starts] at field
  have found := @remainingLenPos_field 4 [frame.command] frame.lengthBytes rest _ field
  rw [ConnectFrame.bytes, starts]
  by_cases padded : frame.Padded
  · refine (found.trans (if_pos padded)).trans ?_
    rw [if_pos padded, List.length_singleton, Nat.add_sub_cancel_left]
  · refine (found.trans (if_neg padded)).trans ?_
    rw [if_neg padded, List.length_singleton, Nat.add_comm]

/-- The bytes in front of the client identifier that the script takes for a part
of it. -/
def skipped (frame : ConnectFrame) : List UInt8 :=
  if frame.v311 then
    if frame.Padded then [frame.idLsb] else []
  else if frame.Padded then [frame.keepaliveLsb, frame.idMsb, frame.idLsb]
  else [frame.idMsb, frame.idLsb]

/-- The bytes from which the script cuts the client identifier. -/
def candidate (frame : ConnectFrame) : List UInt8 :=
  skipped frame ++ (frame.clientId ++ frame.later)

theorem drop_offset (frame : ConnectFrame) :
    frame.bytes.drop (remainingLenPos frame.bytes 4 1 + 12) = candidate frame := by
  rw [remainingLenPos_bytes, candidate, skipped]
  by_cases padded : frame.Padded
  · rw [if_pos padded, if_pos padded, if_pos padded]
    refine (frame.drop_bytes 11).trans ?_
    rw [ConnectFields.body, ConnectFields.head, ConnectFields.protocol]
    cases frame.v311 with
    | true | false => rfl
  · rw [if_neg padded, if_neg padded, if_neg padded]
    refine (frame.drop_bytes 12).trans ?_
    rw [ConnectFields.body, ConnectFields.head, ConnectFields.protocol]
    cases frame.v311 with
    | true | false => rfl

theorem tenantOf_bytes (frame : ConnectFrame) :
    tenantOf frame.bytes =
      ((candidate frame).takeWhile (· != 0x7C)).take (announcedLength (candidate frame)) ++
        ascii "_Broker" := by
  have text : clientIdStr frame.bytes =
      (candidate frame).take (announcedLength (candidate frame)) := by
    rw [clientIdStr, substr, clientIdLen_eq, drop_offset]
  rw [List.take_takeWhile, ← text]
  exact tenantOf_connect frame.typed _

/-! ## The broker behind the gateway -/

/-- A request that the broker makes of the bytes of a connection. -/
structure Identified (stream : ByteStream) where
  scene : Scene
  packet : MqttPacket
  request : ConnectRequest
  ctx : Context
  decoded : (newMqttPacket.decodeFromReader stream).1 = .ok packet
  read : (readConnect { scene with packet := packet }).outcome = .ok request
  parsed : parseRequestOptions request.rawClientID request.username request.password = (ctx, none)

theorem Identified.clientId_eq {frame : ConnectFrame} {stream : ByteStream}
    (arrives : stream.bytes = frame.bytes) (whole : BodyArrivesWhole stream)
    (identified : Identified stream) :
    exists options, frame.clientId = identified.ctx.clientID ++ 0x7C :: options ∧
      ∀ byte ∈ identified.ctx.clientID, (byte != 0x7C) = true := by
  have holds := frame.decoded_holds arrives whole identified.decoded
  have raw := readConnect_clientID holds identified.read
  rcases parseRequestOptions_clientID identified.parsed with ⟨options, parts⟩
  rw [raw] at parts
  exact ⟨options, split_pair parts⟩

/-- When the name that the script cuts is the name of the client. -/
def NamesClient (frame : ConnectFrame) (name : GoString) : Prop :=
  if frame.Padded then
    ((skipped frame ++ name).takeWhile (· != 0x7C)).take (announcedLength (candidate frame)) = name
  else if frame.v311 then name.length ≤ announcedLength frame.clientId
  else
    frame.idMsb = 0x7C ∧ name = [] ∨
      frame.idMsb ≠ 0x7C ∧ frame.idLsb = 0x7C ∧ name = [frame.idMsb]

instance (frame : ConnectFrame) (name : GoString) : Decidable (NamesClient frame name) :=
  inferInstanceAs (Decidable (ite _ _ (ite _ _ _)))

section Names

variable {frame : ConnectFrame} {name options : GoString}

theorem candidate_takeWhile (cut : frame.clientId = name ++ 0x7C :: options) :
    (candidate frame).takeWhile (· != 0x7C) = (skipped frame ++ name).takeWhile (· != 0x7C) := by
  have shape : candidate frame = (skipped frame ++ name) ++ 0x7C :: (options ++ frame.later) := by
    rw [candidate, cut]
    simp
  rw [shape, takeWhile_separator]

theorem names_v311 (cut : frame.clientId = name ++ 0x7C :: options)
    (plain : ∀ byte ∈ name, (byte != 0x7C) = true) (later : List UInt8) :
    (name.takeWhile (· != 0x7C)).take (announcedLength (frame.clientId ++ later)) = name ↔
      name.length ≤ announcedLength frame.clientId := by
  have all : name.takeWhile (· != 0x7C) = name := List.takeWhile_eq_self_iff.mpr plain
  rw [all, List.take_eq_self_iff]
  rcases name with _ | ⟨first, _ | ⟨second, rest⟩⟩
  · exact iff_of_true (Nat.zero_le _) (Nat.zero_le _)
  · rw [cut]
    rfl
  · rw [cut]
    rfl

theorem names_v31 (cut : frame.clientId = name ++ 0x7C :: options)
    (plain : ∀ byte ∈ name, (byte != 0x7C) = true) (rest : List UInt8) :
    (([frame.idMsb, frame.idLsb] ++ name).takeWhile (· != 0x7C)).take
        (announcedLength (frame.idMsb :: frame.idLsb :: rest)) = name ↔
      frame.idMsb = 0x7C ∧ name = [] ∨
        frame.idMsb ≠ 0x7C ∧ frame.idLsb = 0x7C ∧ name = [frame.idMsb] := by
  have size : announcedLength (frame.idMsb :: frame.idLsb :: rest) =
      name.length + (options.length + 1) := by
    have sized := frame.sized
    rw [toNat_uint16Of, cut, List.length_append, List.length_cons] at sized
    exact sized
  have all : name.takeWhile (· != 0x7C) = name := List.takeWhile_eq_self_iff.mpr plain
  rw [size]
  by_cases msb : frame.idMsb = 0x7C
  · rw [List.cons_append, List.takeWhile_cons_of_neg (by simp [msb]), List.take_nil]
    constructor
    · intro same
      exact .inl ⟨msb, same.symm⟩
    · rintro (⟨_, empty⟩ | ⟨other, _⟩)
      · exact empty.symm
      · exact absurd msb other
  rw [List.cons_append, List.takeWhile_cons_of_pos (by simp [msb]), List.cons_append,
    List.nil_append, ← Nat.add_assoc, List.take_succ_cons]
  by_cases lsb : frame.idLsb = 0x7C
  · rw [List.takeWhile_cons_of_neg (by simp [lsb]), List.take_nil]
    constructor
    · intro same
      exact .inr ⟨msb, lsb, same.symm⟩
    · rintro (⟨bar, _⟩ | ⟨_, _, same⟩)
      · exact absurd bar msb
      · exact same.symm
  · rw [List.takeWhile_cons_of_pos (by simp [lsb]), all]
    constructor
    · intro same
      -- The two letters make the name too long.
      have lengths := congrArg List.length same
      rw [List.length_cons, List.length_take, List.length_cons] at lengths
      omega
    · rintro (⟨bar, _⟩ | ⟨_, bar, _⟩)
      · exact absurd bar msb
      · exact absurd bar lsb

end Names

/-! ## A client of either version -/

def plainFrame (v311 : Bool) : ConnectFrame where
  v311 := v311
  cflags := 0xC2
  keepaliveMsb := 0
  keepaliveLsb := 60
  idMsb := 0
  idLsb := 14
  clientId := ascii "c|signmethod=s"
  later := shortField (ascii "d&p") ++ shortField (ascii "w")
  sized := by decide
  command := 0x10
  lengthBytes := [if v311 then 34 else 36]
  typed := by decide
  announced := by cases v311 <;> decide

def plainStream (v311 : Bool) : ByteStream :=
  [⟨(plainFrame v311).bytes, by cases v311 <;> decide⟩]

theorem plainStream_whole (v311 : Bool) : BodyArrivesWhole (plainStream v311) := by
  intro command size header found _
  have known := (plainFrame v311).fixedHeader_bytes
  have bytes : (plainStream v311).bytes = (plainFrame v311).bytes := by
    cases v311 <;> decide
  rw [bytes, known] at found
  cases found
  cases v311 <;> decide

def plainIdentified (v311 : Bool) : Identified (plainStream v311) where
  scene :=
    { session := newMqttSession 0 ⟨[], {}⟩ true
      packet := newMqttPacket
      broker := SessionMgr.newBroker (ascii "b") }
  packet :=
    { newMqttPacket with
      command := 0x10
      toprocess := (plainFrame v311).body.length
      remainingCount := 1
      remainingMult := 128
      remainingLength := (plainFrame v311).body.length
      payload := ⟨(plainFrame v311).body, []⟩
      buf := ⟨(plainFrame v311).body, []⟩ }
  request :=
    { cleanSession := 1
      willMsg := none
      rawClientID := ascii "c|signmethod=s"
      username := ascii "d&p"
      password := ascii "w" }
  ctx :=
    { clientID := ascii "c"
      deviceName := ascii "d"
      productID := ascii "p"
      signMethod := ascii "s" }
  decoded := by cases v311 <;> rfl
  read := by cases v311 <;> decide
  parsed := by decide

/-- The gateway and the broker agree on the client exactly for these frames. -/
theorem tenantOf_clientID_iff {frame : ConnectFrame} {stream : ByteStream}
    (arrives : stream.bytes = frame.bytes) (whole : BodyArrivesWhole stream)
    (identified : Identified stream) :
    tenantOf frame.bytes = identified.ctx.clientID ++ ascii "_Broker" ↔
      NamesClient frame identified.ctx.clientID := by
  rcases identified.clientId_eq arrives whole with ⟨options, cut, plain⟩
  rw [tenantOf_bytes, List.append_left_inj, candidate_takeWhile cut, NamesClient]
  by_cases padded : frame.Padded
  · rw [if_pos padded]
  rw [if_neg padded, candidate, skipped]
  cases version : frame.v311 with
  | true =>
    rw [if_pos rfl, if_neg padded]
    exact names_v311 cut plain frame.later
  | false =>
    rw [if_neg Bool.false_ne_true, if_neg padded]
    exact names_v31 cut plain (frame.clientId ++ frame.later)

/-- A client of the newer version gets the tenant of its name. -/
theorem plain_v311_named :
    tenantOf (plainFrame true).bytes = ascii "c" ++ ascii "_Broker" :=
  (tenantOf_clientID_iff rfl (plainStream_whole true) (plainIdentified true)).mpr (by decide)

/-- A client of the older version gets a tenant with the length of its
identifier in front. -/
theorem plain_v31_misnamed :
    (plainStream false).bytes = (plainFrame false).bytes ∧
      BodyArrivesWhole (plainStream false) ∧
      (plainIdentified false).ctx.clientID = ascii "c" ∧
      tenantOf (plainFrame false).bytes = [0, 14] ++ ascii "c" ++ ascii "_Broker" :=
  ⟨rfl, plainStream_whole false, rfl, by decide⟩

end IotHub
end Sentel
