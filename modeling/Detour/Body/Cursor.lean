import Detour.Body.Error
import Detour.Body.LittleEndian

/-!
# Reading bytes in order

A cursor is the rest of a byte string together with the count of bytes already read. Every read
takes its bytes off the front or fails with the position where it began.
-/

namespace Detour.Body

/-- The unread bytes and how many were read before them. -/
structure Cursor where
  rest : List UInt8
  position : Nat
  deriving DecidableEq, Repr, Inhabited

abbrev Reader := StateT Cursor (Except BodyError)

namespace Cursor

def start (bytes : List UInt8) : Cursor :=
  ⟨bytes, 0⟩

/-- Takes exactly `count` bytes. -/
def take (count : Nat) : Reader (List UInt8) := fun cursor =>
  let taken := cursor.rest.take count
  if taken.length = count then
    .ok (taken, ⟨cursor.rest.drop count, cursor.position + count⟩)
  else
    .error (.unexpectedEnd cursor.position)

/-- Takes a little-endian word of `width` bytes. -/
def word (width : Nat) : Reader Nat := do
  return ofLittleEndian (← take width)

def byte : Reader UInt8 := do
  return UInt8.ofNat (← word 1)

def signedByte : Reader Int8 := do
  return (← byte).toInt8

def word16 : Reader UInt16 := do
  return UInt16.ofNat (← word 2)

def word32 : Reader UInt32 := do
  return UInt32.ofNat (← word 4)

def signedWord32 : Reader Int32 := do
  return (← word32).toInt32

def word64 : Reader UInt64 := do
  return UInt64.ofNat (← word 8)

def signedWords32 : Nat → Reader (List Int32)
  | 0 => return []
  | count + 1 => do
    let first ← signedWord32
    return first :: (← signedWords32 count)

theorem take_append (bytes rest : List UInt8) (position : Nat) :
    take bytes.length ⟨bytes ++ rest, position⟩ =
      .ok (bytes, ⟨rest, position + bytes.length⟩) := by
  simp [take]

theorem take_eq_error {count : Nat} {cursor : Cursor} (short : cursor.rest.length < count) :
    take count cursor = .error (.unexpectedEnd cursor.position) := by
  have differs : (cursor.rest.take count).length ≠ count := by
    rw [List.length_take]
    omega
  unfold take
  rw [if_neg differs]

end Cursor

end Detour.Body
