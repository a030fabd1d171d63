import Detour.Token

/-!
# Method headers

A tiny header is one byte and fixes all but the code size. A fat header has at least three words of
four bytes, of which the code size is not kept: it follows from the instructions.
-/

namespace Detour.Body

/-- The kept fields of a fat header. -/
structure FatHeader where
  /-- Twelve flag bits; the two lowest ones mark the format. -/
  flags : UInt16
  /-- The size of the header in words of four bytes. -/
  dwords : UInt8
  maxStack : UInt16
  /-- The signature of the local variables. -/
  locals : Token
  /-- The words behind the third, verbatim. -/
  extra : List UInt8
  deriving DecidableEq, Repr, Inhabited

inductive MethodHeader where
  | tiny
  | fat (header : FatHeader)
  deriving DecidableEq, Repr, Inhabited

namespace MethodHeader

/-- The stack depth of every method with a tiny header. -/
def tinyMaxStack : UInt16 := 8

/-- The largest code size that a tiny header can state. -/
def tinyMaxCodeSize : Nat := 0x3F

/-- The flag of a body with data sections behind the code. -/
def moreSectionsFlag : UInt16 := 0x0008

/-- The low bits of the first byte of a tiny header. -/
def tinyFormat : UInt8 := 0x02

/-- The low bits of the first byte of a fat header. -/
def fatFormat : UInt8 := 0x03

/-- The number of words that every fat header has. -/
def fatDwords : Nat := 3

def maxStack : MethodHeader → UInt16
  | tiny => tinyMaxStack
  | fat header => header.maxStack

def hasMoreSections : MethodHeader → Bool
  | tiny => false
  | fat header => header.flags &&& moreSectionsFlag != 0

end MethodHeader

end Detour.Body
