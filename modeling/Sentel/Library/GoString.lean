import Mathlib.Algebra.Group.Nat.Defs
import Mathlib.Data.List.Basic
import Mathlib.Data.List.TakeWhile

namespace Sentel
namespace Library

/-!
Byte strings and their separators.

A string of the source language is a finite sequence of bytes and carries no
encoding.  Text that arrives on a connection is therefore compared, split and
joined byte by byte.  Splitting on a one-byte separator is the operation that
every textual format of the broker rests on, so its two inverse laws are
stated once here and used by name afterwards.
-/

/-- A string is the sequence of its bytes. -/
abbrev GoString := List UInt8

/-- The bytes of an ASCII literal. -/
def ascii (text : String) : GoString :=
  text.toList.map (fun letter => letter.toNat.toUInt8)

/-- `strings.Split` with a separator of one byte.  The empty string has one
empty part, so the result is never empty. -/
def split (separator : UInt8) (text : GoString) : List GoString :=
  text.splitOn separator

theorem split_ne_nil (separator : UInt8) (text : GoString) :
    split separator text ≠ [] :=
  List.splitOn_ne_nil separator text

theorem intercalate_split (separator : UInt8) (text : GoString) :
    [separator].intercalate (split separator text) = text :=
  List.intercalate_splitOn separator

theorem split_injective (separator : UInt8) {left right : GoString}
    (same : split separator left = split separator right) : left = right := by
  rw [← intercalate_split separator left, same, intercalate_split]

variable {separator : UInt8} {text first second : GoString}

theorem split_intercalate {parts : List GoString} (plain : ∀ part ∈ parts, separator ∉ part)
    (nonempty : parts ≠ []) : split separator ([separator].intercalate parts) = parts :=
  List.splitOn_intercalate separator plain nonempty

theorem mem_intercalate {byte : UInt8} {parts : List GoString}
    (member : byte ∈ [separator].intercalate parts) :
    byte = separator ∨ ∃ part ∈ parts, byte ∈ part := by
  induction parts with
  | nil => cases member
  | cons first rest ih =>
    cases rest with
    | nil => exact .inr ⟨first, List.mem_cons_self, by simpa [List.intercalate] using member⟩
    | cons second later =>
      have cases : byte ∈ first ∨ byte = separator ∨
          byte ∈ [separator].intercalate (second :: later) := by
        simpa [List.intercalate] using member
      rcases cases with found | same | found
      · exact .inr ⟨first, List.mem_cons_self, found⟩
      · exact .inl same
      · refine (ih found).imp_right ?_
        rintro ⟨part, listed, inside⟩
        exact ⟨part, List.mem_cons_of_mem first listed, inside⟩

theorem split_plain (plain : separator ∉ text) : split separator text = [text] := by
  apply List.splitOnP_eq_singleton
  intro byte member
  rw [beq_eq_false_iff_ne]
  rintro rfl
  exact plain member

theorem split_first (plain : separator ∉ first) (rest : GoString) :
    split separator (first ++ separator :: rest) = first :: split separator rest := by
  apply List.splitOnP_append_cons_of_forall_mem
  · intro byte member
    rw [beq_eq_false_iff_ne]
    rintro rfl
    exact plain member
  · exact beq_self_eq_true separator

theorem split_head (separator : UInt8) (text : GoString) :
    (split separator text).head? = some (text.takeWhile (· != separator)) := by
  induction text with
  | nil => rfl
  | cons byte rest ih =>
    rw [split, List.splitOn, List.splitOnP_cons_eq_if_modifyHead]
    by_cases same : byte = separator
    · rw [if_pos (beq_iff_eq.mpr same), List.takeWhile_cons_of_neg (by simp [same])]
      rfl
    · rw [if_neg (fun equal => same (beq_iff_eq.mp equal)),
        List.takeWhile_cons_of_pos (by simp [same]), List.head?_modifyHead]
      exact congrArg (Option.map (List.cons byte)) ih

theorem takeWhile_separator (separator : UInt8) (front back : GoString) :
    (front ++ separator :: back).takeWhile (· != separator) =
      front.takeWhile (· != separator) := by
  induction front with
  | nil => exact List.takeWhile_cons_of_neg (by simp)
  | cons byte rest ih =>
    rw [List.cons_append, List.takeWhile_cons, List.takeWhile_cons, ih]

theorem cut_unique {rest other : GoString} (plainFirst : separator ∉ first)
    (plainSecond : separator ∉ second)
    (same : first ++ separator :: rest = second ++ separator :: other) :
    first = second ∧ rest = other := by
  induction first generalizing second with
  | nil =>
    cases second with
    | nil => exact ⟨rfl, (List.cons.inj same).2⟩
    | cons byte later => exact absurd ((List.cons.inj same).1 ▸ List.mem_cons_self) plainSecond
  | cons byte later ih =>
    cases second with
    | nil => exact absurd ((List.cons.inj same).1 ▸ List.mem_cons_self) plainFirst
    | cons letter more =>
      rcases List.cons.inj same with ⟨rfl, tails⟩
      rcases ih (fun found => plainFirst (List.mem_cons_of_mem _ found))
        (fun found => plainSecond (List.mem_cons_of_mem _ found)) tails with ⟨rfl, rests⟩
      exact ⟨rfl, rests⟩

theorem cut_last_unique {rest other : GoString} (plainRest : separator ∉ rest)
    (plainOther : separator ∉ other)
    (same : first ++ separator :: rest = second ++ separator :: other) :
    first = second ∧ rest = other := by
  have turned : rest.reverse ++ separator :: first.reverse =
      other.reverse ++ separator :: second.reverse := by
    have reversed := congrArg List.reverse same
    simpa using reversed
  rcases cut_unique (fun found => plainRest (List.mem_reverse.mp found))
    (fun found => plainOther (List.mem_reverse.mp found)) turned with ⟨rests, fronts⟩
  exact ⟨List.reverse_injective fronts, List.reverse_injective rests⟩

theorem split_pair (parts : split separator text = [first, second]) :
    text = first ++ separator :: second ∧ ∀ byte ∈ first, (byte != separator) = true := by
  have joined := intercalate_split separator text
  have head := split_head separator text
  rw [parts] at joined head
  refine ⟨by rw [← joined]; simp [List.intercalate], fun byte found => ?_⟩
  rw [Option.some.inj head] at found
  have differs := List.mem_takeWhile_imp found
  exact differs

/-! ## Numerals -/

def hexDigit (value : Nat) : UInt8 :=
  if value < 10 then 48 + value.toUInt8 else 87 + value.toUInt8

def decimal (value : Nat) : GoString := ascii (toString value)

theorem decimal_eq (value : Nat) :
    decimal value = (Nat.toDigits 10 value).map (fun letter => letter.toNat.toUInt8) := by
  rw [decimal, ascii, Nat.toString_eq_ofList_toDigits, String.toList_ofList]

theorem decimal_ne_nil (value : Nat) : decimal value ≠ [] := by
  rw [decimal_eq]
  intro empty
  exact Nat.toDigits_ne_nil (List.map_eq_nil_iff.mp empty)

theorem byte_of_digit {letter : Char} (digit : letter.isDigit = true) :
    letter.toNat.toUInt8.toNat = letter.toNat ∧ 0x30 ≤ letter.toNat ∧ letter.toNat ≤ 0x39 := by
  rw [Char.isDigit, Bool.and_eq_true, decide_eq_true_eq, decide_eq_true_eq] at digit
  have upper : letter.toNat ≤ 0x39 := digit.2
  exact ⟨UInt8.toNat_ofNat_of_lt' (Nat.lt_of_le_of_lt upper (by decide)), digit.1, upper⟩

theorem digit_of_byte {letter : Char} (digit : letter.isDigit = true) :
    Char.ofNat letter.toNat.toUInt8.toNat = letter := by
  rw [(byte_of_digit digit).1, Char.ofNat_toNat]

theorem decimal_injective : Function.Injective decimal := by
  -- the bytes of a numeral are the code points of its digits, so the digits are read off them
  have digits : forall value, (decimal value).map (fun byte => Char.ofNat byte.toNat) =
      Nat.toDigits 10 value := by
    intro value
    rw [decimal_eq, List.map_map]
    conv_rhs => rw [← List.map_id (Nat.toDigits 10 value)]
    apply List.map_congr_left
    intro letter member
    exact digit_of_byte (Nat.isDigit_of_mem_toDigits (by decide) (by decide) member)
  intro first second same
  have read : Nat.toDigits 10 first = Nat.toDigits 10 second := by
    rw [← digits, same, digits]
  rw [← @Nat.ofDigitChars_ten_toDigits first, read, Nat.ofDigitChars_ten_toDigits]

def Digits (text : GoString) : Prop :=
  ∀ byte ∈ text, 0x30 ≤ byte ∧ byte ≤ 0x39

theorem decimal_digits (value : Nat) : Digits (decimal value) := by
  intro byte member
  rw [decimal_eq] at member
  rcases List.mem_map.mp member with ⟨letter, listed, rfl⟩
  rcases byte_of_digit (Nat.isDigit_of_mem_toDigits (by decide) (by decide) listed) with
    ⟨same, lower, upper⟩
  rw [UInt8.le_iff_toNat_le, UInt8.le_iff_toNat_le, same]
  exact ⟨lower, upper⟩

def parseDigits (text : GoString) : Option Nat :=
  if text ≠ [] ∧ text.all (fun byte => 0x30 ≤ byte && byte ≤ 0x39) then
    some (text.foldl (fun value byte => 10 * value + (byte.toNat - 0x30)) 0)
  else none

theorem parseDigits_eq_some {value : Nat} (read : parseDigits text = some value) :
    text ≠ [] ∧ Digits text := by
  rw [parseDigits] at read
  split at read
  · rename_i digits
    refine ⟨digits.1, fun byte member => ?_⟩
    have digit := List.all_eq_true.mp digits.2 byte member
    rw [Bool.and_eq_true, decide_eq_true_eq, decide_eq_true_eq] at digit
    exact digit
  · cases read

theorem parseDigits_decimal (value : Nat) : parseDigits (decimal value) = some value := by
  have digits : (decimal value).all (fun byte => 0x30 ≤ byte && byte ≤ 0x39) = true := by
    rw [List.all_eq_true]
    intro byte member
    rw [Bool.and_eq_true, decide_eq_true_eq, decide_eq_true_eq]
    exact decimal_digits value byte member
  -- reading the bytes is reading the digits
  have each : forall (letters : List Char) (start : Nat),
      (∀ letter ∈ letters, letter.isDigit = true) ->
      letters.foldl (fun value letter => 10 * value + (letter.toNat.toUInt8.toNat - 0x30)) start =
        Nat.ofDigitChars 10 letters start := by
    intro letters
    induction letters with
    | nil => exact fun _ _ => rfl
    | cons letter rest ih =>
      intro start all
      rw [List.foldl_cons, (byte_of_digit (all letter List.mem_cons_self)).1,
        ih _ (fun other member => all other (List.mem_cons_of_mem _ member))]
      rfl
  rw [parseDigits, if_pos ⟨decimal_ne_nil value, digits⟩, decimal_eq, List.foldl_map,
    each _ _ (fun letter member => Nat.isDigit_of_mem_toDigits (by decide) (by decide) member),
    Nat.ofDigitChars_ten_toDigits]

/-- `strconv.ParseUint` in base 10 with 64 bits. -/
def parseUint (text : GoString) : Option Nat :=
  (parseDigits text).filter (fun value => value < 2 ^ 64)

/-- `strconv.Atoi`: an optional sign and digits, in the range of `int`. -/
def atoi : GoString -> Option Int
  | 0x2D :: digits =>
    ((parseDigits digits).filter (fun value => value ≤ 2 ^ 63)).map (fun value => -value)
  | 0x2B :: digits =>
    ((parseDigits digits).filter (fun value => value < 2 ^ 63)).map Int.ofNat
  | digits => ((parseDigits digits).filter (fun value => value < 2 ^ 63)).map Int.ofNat

def itoa : Int -> GoString
  | .ofNat value => decimal value
  | .negSucc value => 0x2D :: decimal (value + 1)

/-- The range of `int`. -/
def IsInt (value : Int) : Prop :=
  -((2 ^ 63 : Nat) : Int) ≤ value ∧ value < ((2 ^ 63 : Nat) : Int)

instance (value : Int) : Decidable (IsInt value) :=
  inferInstanceAs (Decidable (_ ∧ _))

theorem atoi_of_digits (digits : Digits text) :
    atoi text = ((parseDigits text).filter (fun value => value < 2 ^ 63)).map Int.ofNat := by
  unfold atoi
  split
  · exact absurd (digits 0x2D List.mem_cons_self).1 (by decide)
  · exact absurd (digits 0x2B List.mem_cons_self).1 (by decide)
  · rfl

theorem atoi_itoa (value : Int) :
    atoi (itoa value) = if IsInt value then some value else none := by
  cases value with
  | ofNat value =>
    rw [itoa, atoi_of_digits (decimal_digits value), parseDigits_decimal, Option.filter_some]
    have fits : IsInt (Int.ofNat value) ↔ value < 2 ^ 63 := by
      rw [IsInt, Int.ofNat_eq_natCast]
      omega
    by_cases small : value < 2 ^ 63
    · rw [if_pos (fits.mpr small), if_pos (decide_eq_true small)]
      rfl
    · rw [if_neg (fun inside => small (fits.mp inside)), if_neg (by simpa using small)]
      rfl
  | negSucc value =>
    rw [itoa, atoi, parseDigits_decimal, Option.filter_some]
    have fits : IsInt (Int.negSucc value) ↔ value + 1 ≤ 2 ^ 63 := by
      rw [IsInt, Int.negSucc_eq]
      omega
    by_cases small : value + 1 ≤ 2 ^ 63
    · rw [if_pos (fits.mpr small), if_pos (decide_eq_true small)]
      rfl
    · rw [if_neg (fun inside => small (fits.mp inside)), if_neg (by simpa using small)]
      rfl

theorem itoa_bytes {value : Int} {byte : UInt8} (member : byte ∈ itoa value) :
    byte = 0x2D ∨ 0x30 ≤ byte ∧ byte ≤ 0x39 := by
  cases value with
  | ofNat value => exact .inr (decimal_digits value byte member)
  | negSucc value =>
    rcases List.mem_cons.mp member with sign | digit
    · exact .inl sign
    · exact .inr (decimal_digits _ byte digit)

end Library
end Sentel
