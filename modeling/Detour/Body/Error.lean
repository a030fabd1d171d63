import Detour.Text.Hex

/-!
# Faults of method bodies
-/

namespace Detour.Body

inductive BodyError where
  /-- The bytes end inside the item that starts at `offset`. -/
  | unexpectedEnd (offset : Nat)
  /-- The first byte of the body starts no valid header. -/
  | invalidHeader (byte : UInt8)
  /-- The opcode at `offset` of the code is not defined. -/
  | invalidOpcode (opcode : UInt16) (offset : Nat)
  /-- The header cannot state the code size. -/
  | codeTooLarge (size : Nat)
  deriving DecidableEq, Repr, Inhabited

namespace BodyError

def message : BodyError → String
  | unexpectedEnd offset => "unexpected end of method body at offset " ++ offset.repr
  | invalidHeader byte => "invalid method header byte " ++ Hex.fixed 2 byte.toNat
  | invalidOpcode opcode offset =>
    "invalid opcode " ++ Hex.fixed 4 opcode.toNat ++ " at offset " ++ offset.repr
  | codeTooLarge size => "code size " ++ size.repr ++ " does not fit the method header"

end BodyError

end Detour.Body
