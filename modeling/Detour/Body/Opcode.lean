/-!
# Opcodes

An opcode is one byte, or the lead byte `0xFE` and a second one. Both fit one 16-bit word: the byte
itself, or `0xFE00` plus the second byte. Each defined opcode prescribes the shape of the operand
behind it; `operandTable` lists the defined ranges.
-/

namespace Detour.Body

abbrev Opcode := UInt16

inductive OperandShape where
  | none
  | shortVar
  | shortInt
  | shortBranch
  | var
  | int
  | long
  | single
  | double
  | branch
  | switch
  /-- A metadata token of any kind, in four bytes. -/
  | token
  deriving DecidableEq, Repr, Inhabited

namespace OperandShape

/-- The name of a shape in the instruction set's own tables. -/
def name : OperandShape → String
  | none => "InlineNone"
  | shortVar => "ShortInlineVar"
  | shortInt => "ShortInlineI"
  | shortBranch => "ShortInlineBrTarget"
  | var => "InlineVar"
  | int => "InlineI"
  | long => "InlineI8"
  | single => "ShortInlineR"
  | double => "InlineR"
  | branch => "InlineBrTarget"
  | switch => "InlineSwitch"
  | token => "InlineToken"

end OperandShape

/-- A range of opcodes, ends included, with operands of one shape. -/
structure OpcodeRange where
  first : Opcode
  last : Opcode
  shape : OperandShape

def operandTable : List OpcodeRange := [
  ⟨0x00, 0x0D, .none⟩,
  ⟨0x0E, 0x13, .shortVar⟩,
  ⟨0x14, 0x1E, .none⟩,
  ⟨0x1F, 0x1F, .shortInt⟩,
  ⟨0x20, 0x20, .int⟩,
  ⟨0x21, 0x21, .long⟩,
  ⟨0x22, 0x22, .single⟩,
  ⟨0x23, 0x23, .double⟩,
  ⟨0x25, 0x26, .none⟩,
  ⟨0x27, 0x29, .token⟩,
  ⟨0x2A, 0x2A, .none⟩,
  ⟨0x2B, 0x37, .shortBranch⟩,
  ⟨0x38, 0x44, .branch⟩,
  ⟨0x45, 0x45, .switch⟩,
  ⟨0x46, 0x6E, .none⟩,
  ⟨0x6F, 0x75, .token⟩,
  ⟨0x76, 0x76, .none⟩,
  ⟨0x79, 0x79, .token⟩,
  ⟨0x7A, 0x7A, .none⟩,
  ⟨0x7B, 0x81, .token⟩,
  ⟨0x82, 0x8B, .none⟩,
  ⟨0x8C, 0x8D, .token⟩,
  ⟨0x8E, 0x8E, .none⟩,
  ⟨0x8F, 0x8F, .token⟩,
  ⟨0x90, 0xA2, .none⟩,
  ⟨0xA3, 0xA5, .token⟩,
  ⟨0xB3, 0xBA, .none⟩,
  ⟨0xC2, 0xC2, .token⟩,
  ⟨0xC3, 0xC3, .none⟩,
  ⟨0xC6, 0xC6, .token⟩,
  ⟨0xD0, 0xD0, .token⟩,
  ⟨0xD1, 0xDC, .none⟩,
  ⟨0xDD, 0xDD, .branch⟩,
  ⟨0xDE, 0xDE, .shortBranch⟩,
  ⟨0xDF, 0xE0, .none⟩,
  ⟨0xFE00, 0xFE05, .none⟩,
  ⟨0xFE06, 0xFE07, .token⟩,
  ⟨0xFE09, 0xFE0E, .var⟩,
  ⟨0xFE0F, 0xFE0F, .none⟩,
  ⟨0xFE11, 0xFE11, .none⟩,
  ⟨0xFE12, 0xFE12, .shortInt⟩,
  ⟨0xFE13, 0xFE14, .none⟩,
  ⟨0xFE15, 0xFE16, .token⟩,
  ⟨0xFE17, 0xFE18, .none⟩,
  ⟨0xFE19, 0xFE19, .shortInt⟩,
  ⟨0xFE1A, 0xFE1A, .none⟩,
  ⟨0xFE1C, 0xFE1C, .token⟩,
  ⟨0xFE1D, 0xFE1E, .none⟩]

namespace Opcode

/-- The byte that announces a two-byte opcode. -/
def leadByte : UInt8 := 0xFE

def call : Opcode := 0x28

/-- A call that is dispatched on the receiver. -/
def callvirt : Opcode := 0x6F

def ofSecondByte (second : UInt8) : Opcode :=
  0xFE00 ||| second.toUInt16

/-- The shape of the operand behind an opcode; none for an undefined opcode. -/
def operandShape? (opcode : Opcode) : Option OperandShape :=
  (operandTable.find? fun range => range.first ≤ opcode && opcode ≤ range.last).map (·.shape)

def size (opcode : Opcode) : Nat :=
  if opcode ≤ 0xFF then 1 else 2

def encode (opcode : Opcode) : List UInt8 :=
  if opcode ≤ 0xFF then [opcode.toUInt8] else [leadByte, opcode.toUInt8]

theorem length_encode (opcode : Opcode) : (encode opcode).length = size opcode := by
  unfold encode size
  by_cases isShort : opcode ≤ 0xFF
  · rw [if_pos isShort, if_pos isShort]
    rfl
  · rw [if_neg isShort, if_neg isShort]
    rfl

end Opcode

end Detour.Body
