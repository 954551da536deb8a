import Sentel.Library.GoString

namespace Sentel
namespace Library

/-!
JSON texts as the trees they denote.

A text is written by `Marshal` and read back by `Unmarshal` field by field.  A
field that is missing or null leaves the zero value, a field that is not known
is skipped, and a field of the wrong kind is an error.  The names of the fields
are compared as they stand, and the first of two equal names counts; in a text
that was written by `Marshal` every name stands once.  A byte slice is written
as one string; when its bytes are themselves a JSON text, the tree of that text
is kept.

`Marshal` writes a string in UTF-8: a byte that does not begin a character is
replaced by U+FFFD.
-/

def replaceInvalid : Nat -> GoString -> GoString
  | 0, _ => []
  | _ + 1, [] => []
  | rounds + 1, byte :: rest =>
    match (byte :: rest).toByteArray.utf8DecodeChar? 0 with
    | some char =>
      String.utf8EncodeChar char ++ replaceInvalid rounds ((byte :: rest).drop char.utf8Size)
    | none => String.utf8EncodeChar '\uFFFD' ++ replaceInvalid rounds rest

def toValidUtf8 (text : GoString) : GoString := replaceInvalid text.length text

def ValidUtf8 (text : GoString) : Prop := exists chars : List Char,
  text = chars.flatMap String.utf8EncodeChar

theorem replaceInvalid_encoded (chars : List Char) {rounds : Nat}
    (enough : (chars.flatMap String.utf8EncodeChar).length ≤ rounds) :
    replaceInvalid rounds (chars.flatMap String.utf8EncodeChar) =
      chars.flatMap String.utf8EncodeChar := by
  induction chars generalizing rounds with
  | nil => cases rounds <;> rfl
  | cons char later ih =>
    have size := String.length_utf8EncodeChar char
    have positive := char.utf8Size_pos
    have first := @ByteArray.utf8DecodeChar?_utf8EncodeChar_append
      (later.flatMap String.utf8EncodeChar).toByteArray char
    rw [← List.toByteArray_append] at first
    rw [List.flatMap_cons, List.length_append] at enough
    rw [List.flatMap_cons]
    rcases rounds with _ | rounds
    · omega
    · rcases encoded : String.utf8EncodeChar char with _ | ⟨byte, bytes⟩
      · rw [encoded, List.length_nil] at size
        omega
      · rw [encoded, List.cons_append] at first
        rw [List.cons_append, replaceInvalid, first, ← List.cons_append, ← encoded]
        dsimp only
        rw [← size, List.drop_left, ih (by omega)]

theorem toValidUtf8_of_valid {text : GoString} (valid : ValidUtf8 text) :
    toValidUtf8 text = text := by
  rcases valid with ⟨chars, rfl⟩
  exact replaceInvalid_encoded chars (Nat.le_refl _)

example : toValidUtf8 [0x61, 0xFF] = [0x61, 0xEF, 0xBF, 0xBD] := by decide

inductive JsonText
  | null
  | bool (value : Bool)
  | number (value : Int)
  | string (value : GoString)
  | bytes (value : List UInt8)
  | document (inner : JsonText)
  | object (fields : List (String × JsonText))

namespace JsonText

def ofString (value : GoString) : JsonText := .string (toValidUtf8 value)

theorem ofString_of_valid {value : GoString} (valid : ValidUtf8 value) :
    ofString value = .string value := congrArg JsonText.string (toValidUtf8_of_valid valid)

def fields : JsonText -> Option (List (String × JsonText))
  | .object fields => some fields
  | .null => some []
  | _ => none

def field {Value : Type} (name : String) (zero : Value) (convert : JsonText -> Option Value)
    (fields : List (String × JsonText)) : Option Value :=
  match fields.lookup name with
  | none => some zero
  | some .null => some zero
  | some inner => convert inner

def asString : JsonText -> Option GoString
  | .string value => some value
  | _ => none

def asBool : JsonText -> Option Bool
  | .bool value => some value
  | _ => none

def asBytes : JsonText -> Option (List UInt8)
  | .bytes value => some value
  | _ => none

def asDocument : JsonText -> Option JsonText
  | .document inner => some inner
  | _ => none

/-- A number that fits an unsigned integer of the given size. -/
def asUInt8 : JsonText -> Option UInt8
  | .number (.ofNat value) => if value < 2 ^ 8 then some value.toUInt8 else none
  | _ => none

@[inherit_doc asUInt8]
def asUInt16 : JsonText -> Option UInt16
  | .number (.ofNat value) => if value < 2 ^ 16 then some value.toUInt16 else none
  | _ => none

@[inherit_doc asUInt8]
def asUInt32 : JsonText -> Option UInt32
  | .number (.ofNat value) => if value < 2 ^ 32 then some value.toUInt32 else none
  | _ => none

@[simp] theorem asUInt8_toNat (value : UInt8) :
    asUInt8 (.number value.toNat) = some value := by
  change (if value.toNat < 2 ^ 8 then some value.toNat.toUInt8 else none) = _
  rw [if_pos (UInt8.toNat_lt value), Nat.toUInt8, UInt8.ofNat_toNat]

@[simp] theorem asUInt16_toNat (value : UInt16) :
    asUInt16 (.number value.toNat) = some value := by
  change (if value.toNat < 2 ^ 16 then some value.toNat.toUInt16 else none) = _
  rw [if_pos (UInt16.toNat_lt value), Nat.toUInt16, UInt16.ofNat_toNat]

@[simp] theorem asUInt32_toNat (value : UInt32) :
    asUInt32 (.number value.toNat) = some value := by
  change (if value.toNat < 2 ^ 32 then some value.toNat.toUInt32 else none) = _
  rw [if_pos (UInt32.toNat_lt value), Nat.toUInt32, UInt32.ofNat_toNat]

def asInt32 : JsonText -> Option Int32
  | .number value =>
    if -2147483648 ≤ value ∧ value < 2147483648 then some (Int32.ofInt value) else none
  | _ => none

@[simp] theorem asInt32_toInt (value : Int32) : asInt32 (.number value.toInt) = some value := by
  rw [asInt32, if_pos ⟨Int32.le_toInt value, Int32.toInt_lt value⟩, Int32.ofInt_toInt]

def omitEmpty (zero : Bool) (name : String) (text : JsonText) : List (String × JsonText) :=
  if zero then [] else [(name, text)]

end JsonText

end Library
end Sentel
