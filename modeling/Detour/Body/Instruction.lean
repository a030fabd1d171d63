import Detour.Token
import Detour.Body.Opcode
import Detour.Body.LittleEndian

/-!
# Instructions

An instruction is an opcode with an operand, at a byte offset from the start of the code. The
operand of a hand-made instruction need not have the shape that its opcode prescribes; sizes and
bytes follow the operand as it is.

The only change ever made to an instruction is `redirect`. A call and its redirection have the same
size, so nothing behind it moves.
-/

namespace Detour.Body

/-- An inline operand. Floating-point constants are kept as their bits. -/
inductive Operand where
  | none
  | shortVar (index : UInt8)
  | var (index : UInt16)
  | shortInt (value : Int8)
  | int (value : Int32)
  | long (value : Int64)
  | single (bits : UInt32)
  | double (bits : UInt64)
  | shortBranch (distance : Int8)
  | branch (distance : Int32)
  | switch (distances : List Int32)
  | token (target : Token)
  deriving DecidableEq, Repr, Inhabited

namespace Operand

def shape : Operand → OperandShape
  | none => .none
  | shortVar _ => .shortVar
  | var _ => .var
  | shortInt _ => .shortInt
  | int _ => .int
  | long _ => .long
  | single _ => .single
  | double _ => .double
  | shortBranch _ => .shortBranch
  | branch _ => .branch
  | switch _ => .switch
  | token _ => .token

def size : Operand → Nat
  | none => 0
  | shortVar _ | shortInt _ | shortBranch _ => 1
  | var _ => 2
  | int _ | single _ | branch _ | token _ => 4
  | long _ | double _ => 8
  | switch distances => 4 + 4 * distances.length

def encode : Operand → List UInt8
  | none => []
  | shortVar index => [index]
  | var index => littleEndian 2 index.toNat
  | shortInt value => [value.toUInt8]
  | int value => littleEndian 4 value.toUInt32.toNat
  | long value => littleEndian 8 value.toUInt64.toNat
  | single bits => littleEndian 4 bits.toNat
  | double bits => littleEndian 8 bits.toNat
  | shortBranch distance => [distance.toUInt8]
  | branch distance => littleEndian 4 distance.toUInt32.toNat
  | switch distances =>
    littleEndian 4 distances.length ++
      distances.flatMap fun distance => littleEndian 4 distance.toUInt32.toNat
  | token target => littleEndian 4 target.raw.toNat

theorem length_encode (operand : Operand) : operand.encode.length = operand.size := by
  cases operand with
  | none => rfl
  | shortVar _ => rfl
  | shortInt _ => rfl
  | shortBranch _ => rfl
  | var _ => exact length_littleEndian _ _
  | int _ => exact length_littleEndian _ _
  | long _ => exact length_littleEndian _ _
  | single _ => exact length_littleEndian _ _
  | double _ => exact length_littleEndian _ _
  | branch _ => exact length_littleEndian _ _
  | token _ => exact length_littleEndian _ _
  | switch distances =>
    have targets :
        (distances.flatMap fun distance => littleEndian 4 distance.toUInt32.toNat).length =
          4 * distances.length := by
      induction distances with
      | nil => rfl
      | cons distance rest ih =>
        rw [List.flatMap_cons, List.length_append, length_littleEndian, ih, List.length_cons]
        omega
    rw [encode, size, List.length_append, length_littleEndian, targets]

end Operand

/-- An instruction in its place. -/
structure Instruction where
  /-- The byte offset from the start of the code. -/
  offset : UInt32
  opcode : Opcode
  operand : Operand
  deriving DecidableEq, Repr, Inhabited

namespace Instruction

/-- An instruction that has no place yet. -/
def unplaced (opcode : Opcode) (operand : Operand) : Instruction :=
  ⟨0, opcode, operand⟩

def size (instruction : Instruction) : Nat :=
  instruction.opcode.size + instruction.operand.size

def encode (instruction : Instruction) : List UInt8 :=
  instruction.opcode.encode ++ instruction.operand.encode

/-- Whether an instruction is a call, direct or dispatched. -/
def isCall (instruction : Instruction) : Bool :=
  instruction.opcode == Opcode.call || instruction.opcode == Opcode.callvirt

def token? (instruction : Instruction) : Option Token :=
  match instruction.operand with
  | .token target => some target
  | _ => none

/-- The method that a call names, if the operand is a reference to a member or a method defined in
the module. Instantiations of generic methods are no candidates. -/
def callee? (instruction : Instruction) : Option Token :=
  if instruction.isCall then
    instruction.token?.filter fun token =>
      token.kind == TokenKind.memberRef || token.kind == TokenKind.methodDef
  else
    none

/-- The direct call to `target` in the place of an instruction. -/
def redirect (instruction : Instruction) (target : Token) : Instruction :=
  { instruction with opcode := Opcode.call, operand := .token target }

theorem length_encode (instruction : Instruction) :
    instruction.encode.length = instruction.size := by
  rw [encode, List.length_append, Opcode.length_encode, Operand.length_encode]
  rfl

/-- Exactly the calls of a member reference or a method definition have a target. -/
theorem callee?_eq_some_iff {instruction : Instruction} {target : Token} :
    instruction.callee? = some target ↔
      (instruction.opcode = Opcode.call ∨ instruction.opcode = Opcode.callvirt) ∧
        instruction.operand = .token target ∧
        (target.kind = .memberRef ∨ target.kind = .methodDef) := by
  have isCall_iff : instruction.isCall = true ↔
      instruction.opcode = Opcode.call ∨ instruction.opcode = Opcode.callvirt := by
    simp [isCall]
  have token_iff : instruction.token? = some target ↔ instruction.operand = .token target := by
    unfold token?
    cases instruction.operand <;> simp
  by_cases call : instruction.isCall = true
  · rw [callee?, if_pos call, Option.filter_eq_some_iff, token_iff]
    constructor
    · rintro ⟨operand, kind⟩
      exact ⟨isCall_iff.mp call, operand, by simpa using kind⟩
    · rintro ⟨_, operand, kind⟩
      exact ⟨operand, by simpa using kind⟩
  · rw [callee?, if_neg call]
    constructor
    · intro impossible
      cases impossible
    · rintro ⟨opcode, _⟩
      exact absurd (isCall_iff.mpr opcode) call

/-- A call and its redirection have the same size. -/
theorem size_redirect {instruction : Instruction} {operand : Token} (target : Token)
    (isTarget : instruction.callee? = some operand) :
    (instruction.redirect target).size = instruction.size := by
  obtain ⟨isCall, isToken, _⟩ := callee?_eq_some_iff.mp isTarget
  unfold redirect size
  rw [isToken]
  rcases isCall with isCall | isCall
  · rw [isCall]
    rfl
  · rw [isCall]
    rfl

end Instruction

end Detour.Body
