import Detour.Proofs.Body.RoundTrip

/-!
# Stated lengths

Encoded bodies state two kinds of lengths: the header states the code size, and every switch states
the count of its targets. Both are written into fewer bits than a length may need. A body is refused
if its header has no room for the code size, and then only; in every other body, however its
operands suit their opcodes, each stated length is the length of what follows.
-/

namespace Detour.Body

namespace MethodHeader

/-- The header has no room for the code size. -/
def IsExceededBy : MethodHeader → Nat → Prop
  | tiny, codeSize => 63 < codeSize
  | fat _, codeSize => Nat.pow 2 32 ≤ codeSize

instance (header : MethodHeader) (codeSize : Nat) : Decidable (header.IsExceededBy codeSize) :=
  match header with
  | tiny => inferInstanceAs (Decidable (63 < codeSize))
  | fat _ => inferInstanceAs (Decidable (Nat.pow 2 32 ≤ codeSize))

/-- The code size that the bytes of a header state: in the six high bits of the only byte, or in the
four bytes behind the stack depth. -/
def statedCodeSize : MethodHeader → List UInt8 → Nat
  | tiny, bytes => (bytes.headD 0).toNat / 4
  | fat _, bytes => ofLittleEndian ((bytes.drop 4).take 4)

theorem encode_of_exceeded {header : MethodHeader} {codeSize : Nat}
    (exceeded : header.IsExceededBy codeSize) :
    header.encode codeSize = .error (.codeTooLarge codeSize) := by
  cases header with
  | tiny => exact if_pos exceeded
  | fat header => exact if_neg (Nat.not_lt_of_le exceeded)

theorem encode_of_not_exceeded {header : MethodHeader} {codeSize : Nat}
    (fits : ¬ header.IsExceededBy codeSize) : ∃ bytes, header.encode codeSize = .ok bytes := by
  cases header with
  | tiny => exact ⟨_, encode_tiny_eq_ok_iff.mpr ⟨Nat.le_of_not_lt fits, rfl⟩⟩
  | fat header => exact ⟨_, encode_fat_eq_ok_iff.mpr ⟨Nat.lt_of_not_le fits, rfl⟩⟩

theorem statedCodeSize_of_encode {header : MethodHeader} {codeSize : Nat} {bytes : List UInt8}
    (encoded : header.encode codeSize = .ok bytes) : header.statedCodeSize bytes = codeSize := by
  cases header with
  | tiny =>
    obtain ⟨fits, rfl⟩ := encode_tiny_eq_ok_iff.mp encoded
    change (tinyByte codeSize).toNat / 4 = codeSize
    rw [toNat_tinyByte fits]
    omega
  | fat header =>
    obtain ⟨fits, rfl⟩ := encode_fat_eq_ok_iff.mp encoded
    have inPlace : ((header.encode codeSize).drop 4).take 4 = littleEndian 4 codeSize := rfl
    rw [statedCodeSize, inPlace]
    exact ofLittleEndian_littleEndian fits

end MethodHeader

/-- The bytes have the size of the instruction. If it is a switch, they state the count of its
targets behind the opcode and hold four more bytes for each target. -/
structure Instruction.IsWrittenAs (instruction : Instruction) (bytes : List UInt8) : Prop where
  length_eq : bytes.length = instruction.size
  counted : ∀ distances, instruction.operand = .switch distances →
    ofLittleEndian ((bytes.drop instruction.opcode.size).take 4) = distances.length ∧
      (bytes.drop (instruction.opcode.size + 4)).length = 4 * distances.length

/-- An instruction is written in full if its size is a word. -/
theorem Instruction.isWrittenAs_encode {instruction : Instruction}
    (small : instruction.size < UInt32.size) : instruction.IsWrittenAs instruction.encode where
  length_eq := length_encode instruction
  counted := by
    intro distances isSwitch
    have sizes : instruction.size = instruction.opcode.size + (4 + 4 * distances.length) := by
      rw [size, isSwitch, Operand.size]
    have fits : distances.length < UInt32.size := by omega
    have behindOpcode : instruction.encode.drop instruction.opcode.size =
        littleEndian 4 distances.length ++
          distances.flatMap fun distance => littleEndian 4 distance.toUInt32.toNat := by
      rw [encode, isSwitch, ← Opcode.length_encode, List.drop_left]
      rfl
    constructor
    · rw [behindOpcode, List.take_left' (length_littleEndian 4 _)]
      exact ofLittleEndian_littleEndian fits
    · rw [List.length_drop, length_encode]
      omega

namespace MethodBody

/-- A body is refused exactly if its header has no room for the code size. Every other body is
written as its header, its instructions in order and its trailer, each in as many bytes as its size
says. The header then states the count of code bytes that follow it, and every switch the count of
its targets. -/
theorem encode_states_lengths (body : MethodBody) :
    (body.encode = .error (.codeTooLarge body.codeSize) ↔
      body.header.IsExceededBy body.codeSize) ∧
    (¬ body.header.IsExceededBy body.codeSize →
      ∃ header, body.encode =
          .ok (header ++ (body.instructions.map Instruction.encode).flatten ++ body.trailer) ∧
        header.length = body.header.size ∧
        body.header.statedCodeSize header =
          (body.instructions.map Instruction.encode).flatten.length ∧
        ∀ instruction ∈ body.instructions, instruction.IsWrittenAs instruction.encode) := by
  have accepted (fits : ¬ body.header.IsExceededBy body.codeSize) :
      ∃ header, body.header.encode body.codeSize = .ok header ∧
        body.encode = .ok (header ++ (body.code ++ body.trailer)) := by
    obtain ⟨header, headerEncoded⟩ := MethodHeader.encode_of_not_exceeded fits
    exact ⟨header, headerEncoded, encode_eq_ok_iff.mpr ⟨header, headerEncoded, rfl⟩⟩
  have code_eq : (body.instructions.map Instruction.encode).flatten = body.code :=
    (List.flatMap_def ..).symm
  constructor
  · constructor
    · intro refused
      refine Decidable.byContradiction fun fits => ?_
      obtain ⟨header, -, encoded⟩ := accepted fits
      cases refused.symm.trans encoded
    · intro exceeded
      have headerRefused := MethodHeader.encode_of_exceeded exceeded
      rw [MethodBody.encode, Except.bind_of_error headerRefused]
  · intro fits
    obtain ⟨header, headerEncoded, encoded⟩ := accepted fits
    rw [← List.append_assoc] at encoded
    rw [code_eq]
    refine ⟨header, encoded, MethodHeader.length_of_encode headerEncoded, ?_, ?_⟩
    · rw [body.length_code]
      exact MethodHeader.statedCodeSize_of_encode headerEncoded
    · intro instruction member
      have whole : instruction.size ≤ body.codeSize := size_le_totalSize member
      have word := MethodHeader.codeSize_lt_of_encode headerEncoded
      exact Instruction.isWrittenAs_encode (Nat.lt_of_le_of_lt whole word)

/-- A body of mismatched operands: a return with a switch behind it, a two-byte opcode with a long
integer, and a header that claims to have more words than there are. -/
def mismatchedBody : MethodBody where
  header := .fat ⟨0xFFFF, 0xFF, 8, ⟨0⟩, [7]⟩
  instructions := [.unplaced 0x2A (.switch [-1, 5]), .unplaced 0xFE16 (.long (-2))]
  trailer := [0xEE]

/-- Thirteen calls, which are two bytes too many for a header of one byte. -/
def crowdedBody : MethodBody where
  header := .tiny
  instructions := List.replicate 13 (.unplaced 0x28 (.token ⟨0x0A000001⟩))
  trailer := []

theorem encode_states_lengths_mismatched :
    ¬ mismatchedBody.header.IsExceededBy mismatchedBody.codeSize ∧
    (∃ bytes, mismatchedBody.encode = .ok bytes ∧ bytes.length = 13 + 23 + 1) ∧
    crowdedBody.header.IsExceededBy crowdedBody.codeSize ∧
    crowdedBody.encode = .error (.codeTooLarge 65) := by
  have fits : ¬ mismatchedBody.header.IsExceededBy mismatchedBody.codeSize := by decide
  have exceeded : crowdedBody.header.IsExceededBy crowdedBody.codeSize := by decide
  obtain ⟨header, encoded, headerLength, -, -⟩ := (encode_states_lengths mismatchedBody).2 fits
  refine ⟨fits, ⟨_, encoded, ?_⟩, exceeded, (encode_states_lengths crowdedBody).1.mpr exceeded⟩
  rw [List.length_append, List.length_append, headerLength]
  rfl

end MethodBody

end Detour.Body
