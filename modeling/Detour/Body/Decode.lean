import Detour.Body.Basic
import Detour.Body.Cursor

/-!
# Decoding method bodies

The header says how many bytes of code follow. The code is a sequence of instructions without gaps,
and whatever stands behind it is the trailer. Positions in faults of the header count from the start
of the body, and positions in faults of the code count from the start of the code.
-/

namespace Detour.Body

/-- Reads an opcode, undefined ones included. -/
def Opcode.read : Reader Opcode := do
  let first ← Cursor.byte
  if first = leadByte then
    return ofSecondByte (← Cursor.byte)
  else
    return first.toUInt16

/-- Reads the counted targets of a switch. A count that the remaining bytes cannot hold is refused
before any target is read. -/
def Operand.readSwitch : Reader Operand := do
  let count := (← Cursor.word32).toNat
  let cursor ← get
  if count > cursor.rest.length / 4 then
    throw (.unexpectedEnd cursor.position)
  else
    return .switch (← Cursor.signedWords32 count)

def Operand.read : OperandShape → Reader Operand
  | .none => return .none
  | .shortVar => return .shortVar (← Cursor.byte)
  | .shortInt => return .shortInt (← Cursor.signedByte)
  | .shortBranch => return .shortBranch (← Cursor.signedByte)
  | .var => return .var (← Cursor.word16)
  | .int => return .int (← Cursor.signedWord32)
  | .long => return .long (← Cursor.word64).toInt64
  | .single => return .single (← Cursor.word32)
  | .double => return .double (← Cursor.word64)
  | .branch => return .branch (← Cursor.signedWord32)
  | .switch => Operand.readSwitch
  | .token => return .token ⟨← Cursor.word32⟩

def Instruction.read : Reader Instruction := do
  let offset := (← get).position
  let opcode ← Opcode.read
  match opcode.operandShape? with
  | none => throw (.invalidOpcode opcode offset)
  | some shape => return ⟨UInt32.ofNat offset, opcode, ← Operand.read shape⟩

/-- Reads instructions to the end of the bytes, at most `fuel` of them. Every instruction takes at
least one byte, so the count of bytes is fuel enough. -/
def readInstructions : Nat → Cursor → Except BodyError (List Instruction)
  | 0, _ => return []
  | fuel + 1, cursor =>
    if cursor.rest.isEmpty then
      return []
    else do
      let (instruction, next) ← Instruction.read.run cursor
      return instruction :: (← readInstructions fuel next)

def decodeInstructions (code : List UInt8) : Except BodyError (List Instruction) :=
  readInstructions code.length (Cursor.start code)

/-- Reads the rest of a fat header behind its first byte, together with the code size. -/
def FatHeader.read (first : UInt8) : Reader (FatHeader × Nat) := do
  let second ← Cursor.byte
  let word := first.toUInt16 ||| (second.toUInt16 <<< 8)
  let dwords := (word >>> 12).toUInt8
  if dwords.toNat < MethodHeader.fatDwords then
    throw (.invalidHeader first)
  else
    let maxStack ← Cursor.word16
    let codeSize ← Cursor.word32
    let locals ← Cursor.word32
    let extra ← Cursor.take ((dwords.toNat - MethodHeader.fatDwords) * 4)
    return (⟨word &&& 0x0FFF, dwords, maxStack, ⟨locals⟩, extra⟩, codeSize.toNat)

/-- Reads a header together with the code size that it states. -/
def MethodHeader.read : Reader (MethodHeader × Nat) := do
  let first ← Cursor.byte
  if first &&& 0x03 = tinyFormat then
    return (.tiny, (first >>> 2).toNat)
  else if first &&& 0x03 = fatFormat then
    let (header, codeSize) ← FatHeader.read first
    return (.fat header, codeSize)
  else
    throw (.invalidHeader first)

def MethodBody.decode (bytes : List UInt8) : Except BodyError MethodBody := do
  let ((header, codeSize), afterHeader) ← MethodHeader.read.run (Cursor.start bytes)
  let (code, afterCode) ← (Cursor.take codeSize).run afterHeader
  let instructions ← decodeInstructions code
  return ⟨header, instructions, afterCode.rest⟩

end Detour.Body
