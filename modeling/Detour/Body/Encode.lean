import Detour.Body.Basic
import Detour.Body.Error

/-!
# Encoding method bodies

The header is written with the code size that follows from the instructions, then every instruction,
then the trailer as it is. The only fault is a code size that the header has no room for.
-/

namespace Detour.Body

/-- The bytes of a fat header for code of a given size. Flags above the twelfth bit and header sizes
above fifteen words do not fit and are cut off. -/
def FatHeader.encode (header : FatHeader) (codeSize : Nat) : List UInt8 :=
  let word := (header.dwords.toUInt16 <<< 12) ||| (header.flags &&& 0x0FFF)
  littleEndian 2 word.toNat ++ littleEndian 2 header.maxStack.toNat ++ littleEndian 4 codeSize ++
    littleEndian 4 header.locals.raw.toNat ++ header.extra

/-- The bytes of a header for code of a given size, if the header can state that size. -/
def MethodHeader.encode (header : MethodHeader) (codeSize : Nat) :
    Except BodyError (List UInt8) :=
  match header with
  | .tiny =>
    if codeSize > tinyMaxCodeSize then
      .error (.codeTooLarge codeSize)
    else
      .ok [(UInt8.ofNat codeSize <<< 2) ||| tinyFormat]
  | .fat header =>
    if codeSize < UInt32.size then
      .ok (header.encode codeSize)
    else
      .error (.codeTooLarge codeSize)

def MethodBody.encode (body : MethodBody) : Except BodyError (List UInt8) := do
  let header ← body.header.encode body.codeSize
  return header ++ body.code ++ body.trailer

end Detour.Body
