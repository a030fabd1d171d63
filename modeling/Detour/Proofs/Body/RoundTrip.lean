import Detour.Proofs.Body.Headers
import Detour.Proofs.Body.Instructions

/-!
# Decoding and encoding

A method body is well formed if bytes can spell it. Decoding accepts a byte string exactly as the
encoding of a well-formed body, so each direction undoes the other: no byte of an accepted string is
lost, and no well-formed body is read as another one.
-/

namespace Detour.Body

namespace MethodBody

/-- The bodies that bytes can spell. -/
structure WellFormed (body : MethodBody) : Prop where
  header : body.header.WellFormed
  shaped : ∀ instruction ∈ body.instructions, instruction.IsWellShaped
  /-- Every offset is the count of bytes that the instructions in front take. -/
  placed : ∀ index instruction, body.instructions[index]? = some instruction →
    instruction.offset.toNat = totalSize (body.instructions.take index)

theorem encode_eq_ok_iff {body : MethodBody} {bytes : List UInt8} :
    body.encode = .ok bytes ↔
      ∃ headerBytes, body.header.encode body.codeSize = .ok headerBytes ∧
        bytes = headerBytes ++ (body.code ++ body.trailer) := by
  rw [MethodBody.encode, Except.bind_eq_ok_iff]
  constructor
  · intro encoded
    obtain ⟨headerBytes, headerEncoded, returned⟩ := encoded
    refine ⟨headerBytes, headerEncoded, ?_⟩
    rw [← List.append_assoc]
    exact (Except.pure_eq_ok_iff.mp returned).symm
  · intro encoded
    obtain ⟨headerBytes, headerEncoded, rfl⟩ := encoded
    refine ⟨headerBytes, headerEncoded, ?_⟩
    rw [← List.append_assoc]
    exact Except.pure_eq_ok_iff.mpr rfl

/-- While offsets fit a word, they agree with places. -/
theorem placedFrom_zero_iff {instructions : List Instruction}
    (fits : totalSize instructions < UInt32.size) :
    PlacedFrom 0 instructions ↔
      ∀ index instruction, instructions[index]? = some instruction →
        instruction.offset.toNat = totalSize (instructions.take index) := by
  have bound (index : Nat) : totalSize (instructions.take index) < UInt32.size :=
    Nat.lt_of_le_of_lt (totalSize_take_le instructions index) fits
  rw [placedFrom_iff]
  constructor
  · intro placed index instruction found
    rw [placed index instruction found, Nat.zero_add]
    exact UInt32.toNat_ofNat_of_lt' (bound index)
  · intro placed index instruction found
    apply UInt32.toNat_inj.mp
    rw [placed index instruction found, Nat.zero_add]
    exact (UInt32.toNat_ofNat_of_lt' (bound index)).symm

/-- A body whose code size is a word is well formed if its header is and its code spells its
instructions. -/
theorem wellFormed_iff_spells {body : MethodBody} (fits : body.codeSize < UInt32.size) :
    body.WellFormed ↔
      body.header.WellFormed ∧ (Cursor.start body.code).Spells body.instructions := by
  constructor
  · intro wellFormed
    refine ⟨wellFormed.header, wellFormed.shaped, fun instruction member => ?_,
      (placedFrom_zero_iff fits).mpr wellFormed.placed, rfl⟩
    apply Operand.countFits_of_size_lt
    have whole : instruction.size ≤ body.codeSize := size_le_totalSize member
    rw [Instruction.size] at whole
    omega
  · intro described
    obtain ⟨header, spelled⟩ := described
    exact ⟨header, spelled.shaped, (placedFrom_zero_iff fits).mp spelled.placed⟩

/-- Decoding accepts exactly the encodings of the well-formed bodies. -/
theorem decode_eq_ok_iff {bytes : List UInt8} {body : MethodBody} :
    MethodBody.decode bytes = .ok body ↔ body.WellFormed ∧ body.encode = .ok bytes := by
  rw [MethodBody.decode, Except.bind_eq_ok_iff, encode_eq_ok_iff]
  constructor
  · intro accepted
    obtain ⟨⟨⟨header, codeSize⟩, afterHeader⟩, readHeader, behindHeader⟩ := accepted
    obtain ⟨⟨code, afterCode⟩, readCode, behindCode⟩ := Except.bind_eq_ok_iff.mp behindHeader
    obtain ⟨instructions, decodedCode, returned⟩ := Except.bind_eq_ok_iff.mp behindCode
    obtain rfl := Except.pure_eq_ok_iff.mp returned
    obtain ⟨wellFormed, headerBytes, encoded, crossedHeader⟩ :=
      MethodHeader.read_eq_ok_iff.mp readHeader
    obtain ⟨rfl, crossedCode⟩ := Cursor.take_eq_ok_iff.mp readCode
    have spelled := decodeInstructions_eq_ok_iff.mp decodedCode
    obtain rfl : code = instructions.flatMap Instruction.encode := spelled.rest_eq
    have sizes := length_flatMap_encode instructions
    rw [sizes] at encoded
    have fits : codeSize ⟨header, instructions, afterCode.rest⟩ < UInt32.size :=
      MethodHeader.codeSize_lt_of_encode encoded
    refine ⟨(wellFormed_iff_spells fits).mpr ⟨wellFormed, spelled⟩, headerBytes, encoded, ?_⟩
    have whole := crossedHeader.rest_eq
    rw [crossedCode.rest_eq] at whole
    exact whole
  · intro described
    obtain ⟨wellFormed, headerBytes, encoded, rfl⟩ := described
    have fits := MethodHeader.codeSize_lt_of_encode encoded
    obtain ⟨headerWellFormed, spelled⟩ := (wellFormed_iff_spells fits).mp wellFormed
    have crossedHeader := Cursor.crosses_start headerBytes (body.code ++ body.trailer)
    have crossedCode : Cursor.Crosses ⟨body.code ++ body.trailer, headerBytes.length⟩ body.code
        ⟨body.trailer, headerBytes.length + body.code.length⟩ :=
      ⟨rfl, rfl⟩
    have readHeader :=
      MethodHeader.read_eq_ok_iff.mpr ⟨headerWellFormed, headerBytes, encoded, crossedHeader⟩
    have readCode := Cursor.take_eq_ok_iff.mpr ⟨body.length_code, crossedCode⟩
    have decodedCode := decodeInstructions_eq_ok_iff.mpr spelled
    refine ⟨_, readHeader, Except.bind_eq_ok_iff.mpr ⟨_, readCode, ?_⟩⟩
    exact Except.bind_eq_ok_iff.mpr ⟨body.instructions, decodedCode, rfl⟩

/-- Offsets grow from one instruction to the next. -/
theorem WellFormed.offset_lt {body : MethodBody} {index later : Nat}
    {instruction other : Instruction} (wellFormed : body.WellFormed)
    (found : body.instructions[index]? = some instruction)
    (foundLater : body.instructions[later]? = some other) (inFront : index < later) :
    instruction.offset < other.offset := by
  rw [UInt32.lt_iff_toNat_lt, wellFormed.placed index instruction found,
    wellFormed.placed later other foundLater]
  have ends := totalSize_take_add_size_le found inFront
  have nonempty := instruction.size_pos
  omega

/-! ## The two directions -/

/-- Encoding what was decoded gives the same bytes back. -/
theorem encode_of_decode {bytes : List UInt8} {body : MethodBody}
    (decoded : MethodBody.decode bytes = .ok body) : body.encode = .ok bytes :=
  (decode_eq_ok_iff.mp decoded).2

/-- A body with a fourth header word, a two-byte opcode, a switch and bytes behind the code. -/
def mixedBody : MethodBody where
  header := .fat ⟨0x001B, 4, 2, ⟨0x11000001⟩, [1, 2, 3, 4]⟩
  instructions := [
    ⟨0, 0x1F, .shortInt (-1)⟩,
    ⟨2, 0x45, .switch [-2, 7]⟩,
    ⟨15, 0xFE16, .token ⟨0x1B000002⟩⟩,
    ⟨21, 0x6F, .token ⟨0x0A000003⟩⟩,
    ⟨26, 0x2A, .none⟩]
  trailer := [0, 0xFF]

/-- The bytes of `mixedBody`. -/
def mixedBytes : List UInt8 := [
  0x1B, 0x40, 2, 0, 27, 0, 0, 0, 1, 0, 0, 0x11, 1, 2, 3, 4,
  0x1F, 0xFF, 0x45, 2, 0, 0, 0, 0xFE, 0xFF, 0xFF, 0xFF, 7, 0, 0, 0,
  0xFE, 0x16, 2, 0, 0, 0x1B, 0x6F, 3, 0, 0, 0x0A, 0x2A, 0, 0xFF]

theorem encode_of_decode_mixed :
    MethodBody.decode mixedBytes = .ok mixedBody ∧ mixedBody.encode = .ok mixedBytes := by
  have decoded : MethodBody.decode mixedBytes = .ok mixedBody := rfl
  exact ⟨decoded, encode_of_decode decoded⟩

/-- The bodies that decoding gives are the well-formed ones that can be encoded, and decoding an
encoding gives the body back. -/
theorem decode_image :
    (∀ body bytes, body.WellFormed → body.encode = .ok bytes →
      MethodBody.decode bytes = .ok body) ∧
    (∀ bytes body, MethodBody.decode bytes = .ok body → body.WellFormed) ∧
    ∀ body, (∃ bytes, MethodBody.decode bytes = .ok body) ↔
      body.WellFormed ∧ ∃ bytes, body.encode = .ok bytes := by
  refine ⟨?_, ?_, ?_⟩
  · intro body bytes wellFormed encoded
    exact decode_eq_ok_iff.mpr ⟨wellFormed, encoded⟩
  · intro bytes body decoded
    exact (decode_eq_ok_iff.mp decoded).1
  · intro body
    constructor
    · intro reached
      obtain ⟨bytes, decoded⟩ := reached
      obtain ⟨wellFormed, encoded⟩ := decode_eq_ok_iff.mp decoded
      exact ⟨wellFormed, bytes, encoded⟩
    · intro described
      obtain ⟨wellFormed, bytes, encoded⟩ := described
      exact ⟨bytes, decode_eq_ok_iff.mpr ⟨wellFormed, encoded⟩⟩

theorem wellFormed_mixedBody : mixedBody.WellFormed where
  header := by
    refine ⟨?_, ?_, ?_, ?_, ?_⟩
    all_goals decide
  shaped := by decide
  placed := by
    intro index instruction found
    match index with
    | 0 | 1 | 2 | 3 | 4 =>
      cases found
      rfl
    | _ + 5 => cases found

theorem decode_image_mixed :
    mixedBody.WellFormed ∧ mixedBody.encode = .ok mixedBytes ∧
      MethodBody.decode mixedBytes = .ok mixedBody := by
  have encoded : mixedBody.encode = .ok mixedBytes := rfl
  exact ⟨wellFormed_mixedBody, encoded, decode_image.1 _ _ wellFormed_mixedBody encoded⟩

end MethodBody

end Detour.Body
