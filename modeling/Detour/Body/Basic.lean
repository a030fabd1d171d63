import Detour.Body.Header
import Detour.Body.Instruction

/-!
# Method bodies

A body is a header, the instructions in stream order, and the bytes behind the code, which are
alignment and data sections and are kept verbatim. Branches and data sections refer to byte offsets,
so a body may be changed only in ways that keep the size of every instruction.
-/

namespace Detour.Body

structure MethodBody where
  header : MethodHeader
  instructions : List Instruction
  /-- Everything behind the code. -/
  trailer : List UInt8
  deriving DecidableEq, Repr, Inhabited

namespace MethodBody

def codeSize (body : MethodBody) : Nat :=
  body.instructions.foldr (fun instruction size => instruction.size + size) 0

def code (body : MethodBody) : List UInt8 :=
  body.instructions.flatMap Instruction.encode

/-- The body with the instruction at one index redirected to `target`. -/
def redirectAt (body : MethodBody) (index : Nat) (target : Token) : MethodBody :=
  { body with instructions := body.instructions.modify index (·.redirect target) }

theorem length_code (body : MethodBody) : body.code.length = body.codeSize := by
  unfold code codeSize
  induction body.instructions with
  | nil => rfl
  | cons instruction rest ih =>
    rw [List.flatMap_cons, List.length_append, Instruction.length_encode, ih, List.foldr_cons]

end MethodBody

end Detour.Body
