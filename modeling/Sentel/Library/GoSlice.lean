import Sentel.Library.Handler

namespace Sentel
namespace Library

/-!
Byte slices with their spare capacity.

A slice shows a part of an array.  Indexing is limited by the length of the
slice, but taking a subslice is limited by its capacity only: it may reach
bytes of the array behind the end of the slice.  A slice is therefore modelled
by the bytes it shows and by the bytes of the array that follow them.
-/

structure GoSlice where
  elems : List UInt8 := []
  spare : List UInt8 := []
  deriving DecidableEq, Repr

namespace GoSlice

def length (slice : GoSlice) : Nat := slice.elems.length

def capacity (slice : GoSlice) : Nat := slice.elems.length + slice.spare.length

def index (slice : GoSlice) (index : Nat) : Except Panic UInt8 :=
  match slice.elems[index]? with
  | some byte => .ok byte
  | none => .error .indexOutOfRange

/-- The expression `slice[low:high]`. -/
def subslice (slice : GoSlice) (low high : Nat) : Except Panic (List UInt8) :=
  if low ≤ high ∧ high ≤ slice.capacity then
    .ok (((slice.elems ++ slice.spare).drop low).take (high - low))
  else .error .sliceOutOfRange

def assign (slice : GoSlice) (index : Nat) (byte : UInt8) : Except Panic GoSlice :=
  if index < slice.length then .ok { slice with elems := slice.elems.set index byte }
  else .error .indexOutOfRange

end GoSlice

end Library
end Sentel
