import Detour.Text.Hex

/-!
# Host status codes

The host reports and expects signed 32-bit status codes. A code that is not negative is a success.
-/

namespace Detour

abbrev HResult := Int32

namespace HResult

/-- The code whose bits are `bits`. -/
def ofBits (bits : UInt32) : HResult :=
  bits.toInt32

def bits (hr : HResult) : UInt32 :=
  hr.toUInt32

def ok : HResult := 0

def fail : HResult := ofBits 0x80004005

/-- An argument is not acceptable. -/
def invalidArgument : HResult := ofBits 0x80070057

/-- A metadata row does not exist. -/
def recordNotFound : HResult := ofBits 0x80131130

def succeeded (hr : HResult) : Bool :=
  decide (0 ≤ hr)

def failed (hr : HResult) : Bool :=
  decide (hr < 0)

/-- The bits of a code in eight hexadecimal digits. -/
def render (hr : HResult) : String :=
  Hex.fixed 8 hr.bits.toNat

end HResult

end Detour
