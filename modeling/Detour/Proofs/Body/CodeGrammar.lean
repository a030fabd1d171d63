import Detour.Proofs.Body.Incremental
import Detour.Proofs.Body.Instructions

/-!
# The grammar of code

Which bytes are code is said of the bytes alone: they are cut into instructions, each of them a
defined opcode with the complete operand that it prescribes. Reading finds exactly these cuts. Where
it fails it has come to a place at which no instruction begins, because the opcode there is not
defined or because the code ends too early, and the fault tells which.
-/

namespace Detour.Body

/-! ## The grammar -/

/-- The bytes of an opcode, defined or not. -/
inductive Opcode.SpelledBy : Opcode → List UInt8 → Prop where
  | short (byte : UInt8) (notLead : byte ≠ Opcode.leadByte) : SpelledBy byte.toUInt16 [byte]
  | long (second : UInt8) : SpelledBy (Opcode.ofSecondByte second) [Opcode.leadByte, second]

/-- The count of bytes of every operand of a shape; a switch has no fixed one. -/
def OperandShape.width? : OperandShape → Option Nat
  | none => some 0
  | shortVar | shortInt | shortBranch => some 1
  | var => some 2
  | int | single | branch | token => some 4
  | long | double => some 8
  | switch => Option.none

/-- The bytes of a complete operand. -/
inductive OperandShape.SpelledBy : OperandShape → List UInt8 → Prop where
  | fixed {shape : OperandShape} {bytes : List UInt8} (width : shape.width? = some bytes.length) :
    SpelledBy shape bytes
  /-- A switch has exactly the targets that it counts, each in four bytes. -/
  | switch {count targets : List UInt8} (counted : count.length = 4)
      (complete : targets.length = 4 * ofLittleEndian count) :
    SpelledBy .switch (count ++ targets)

inductive IsInstruction : List UInt8 → Prop where
  | mk {opcode : Opcode} {shape : OperandShape} {opcodeBytes operandBytes : List UInt8}
      (spelled : opcode.SpelledBy opcodeBytes) (prescribed : opcode.operandShape? = some shape)
      (complete : shape.SpelledBy operandBytes) : IsInstruction (opcodeBytes ++ operandBytes)

/-- The concatenations of instructions. -/
inductive IsCode : List UInt8 → Prop where
  | nil : IsCode []
  | cons {first rest : List UInt8} (instruction : IsInstruction first) (others : IsCode rest) :
    IsCode (first ++ rest)

/-- The bytes begin with an opcode that is not defined. -/
def StartsUndefined (opcode : Opcode) (bytes : List UInt8) : Prop :=
  opcode.operandShape? = none ∧ ∃ spelled rest, opcode.SpelledBy spelled ∧ bytes = spelled ++ rest

/-- The bytes are an instruction that lacks some bytes at its end. -/
def IsCutOff (bytes : List UInt8) : Prop :=
  ∃ missing, missing ≠ [] ∧ IsInstruction (bytes ++ missing)

/-! ## Words -/

theorem littleEndian_of_length {bytes : List UInt8} {width : Nat} (counted : bytes.length = width) :
    littleEndian width (ofLittleEndian bytes) = bytes := by
  subst counted
  exact littleEndian_ofLittleEndian bytes

namespace Cursor

/-- Four bytes are read as the word that they spell. -/
theorem word32_of_length {bytes : List UInt8} (counted : bytes.length = 4) (rest : List UInt8)
    (position : Nat) :
    ∃ value : UInt32, value.toNat = ofLittleEndian bytes ∧
      word32 ⟨bytes ++ rest, position⟩ = .ok (value, ⟨rest, position + 4⟩) := by
  have bound := ofLittleEndian_lt bytes
  rw [counted] at bound
  have value : (UInt32.ofNat (ofLittleEndian bytes)).toNat = ofLittleEndian bytes :=
    UInt32.toNat_ofNat_of_lt' bound
  refine ⟨_, value, word32_eq_ok_iff.mpr ?_⟩
  rw [value, littleEndian_of_length counted]
  exact ⟨rfl, by rw [counted]⟩

theorem exists_signedWords32 {count : Nat} {bytes : List UInt8}
    (counted : bytes.length = 4 * count) (rest : List UInt8) (position : Nat) :
    ∃ values, signedWords32 count ⟨bytes ++ rest, position⟩ =
      .ok (values, ⟨rest, position + bytes.length⟩) := by
  induction count generalizing bytes position with
  | zero =>
    rw [List.length_eq_zero_iff.mp counted]
    exact ⟨[], rfl⟩
  | succ count ih =>
    have firstCounted : (bytes.take 4).length = 4 := by
      rw [List.length_take]
      omega
    have othersCounted : (bytes.drop 4).length = 4 * count := by
      rw [List.length_drop]
      omega
    obtain ⟨first, _, readWord⟩ := word32_of_length firstCounted (bytes.drop 4 ++ rest) position
    rw [← List.append_assoc, List.take_append_drop] at readWord
    have readFirst : signedWord32 ⟨bytes ++ rest, position⟩ =
        .ok (first.toInt32, ⟨bytes.drop 4 ++ rest, position + 4⟩) :=
      Reader.map_eq_ok_iff.mpr ⟨first, readWord, rfl⟩
    obtain ⟨values, readOthers⟩ := ih othersCounted (position + 4)
    have behind : position + 4 + (bytes.drop 4).length = position + bytes.length := by
      omega
    rw [behind] at readOthers
    refine ⟨first.toInt32 :: values, ?_⟩
    rw [signedWords32, Reader.bind_of_ok readFirst]
    exact Reader.map_eq_ok_iff.mpr ⟨values, readOthers, rfl⟩

end Cursor

/-! ## Opcodes -/

namespace Opcode

theorem spelledBy_iff {opcode : Opcode} {bytes : List UInt8} :
    opcode.SpelledBy bytes ↔ opcode.IsReadable ∧ bytes = opcode.encode := by
  constructor
  · intro spelled
    cases spelled with
    | short byte notLead => exact ⟨.short byte notLead, (encode_toUInt16 byte).symm⟩
    | long second => exact ⟨.long second, (encode_ofSecondByte second).symm⟩
  · rintro ⟨readable, rfl⟩
    cases readable with
    | short byte notLead =>
      rw [encode_toUInt16]
      exact .short byte notLead
    | long second =>
      rw [encode_ofSecondByte]
      exact .long second

/-- Bytes begin with one opcode at most. -/
theorem SpelledBy.eq_of_append {opcode other : Opcode}
    {bytes otherBytes rest otherRest : List UInt8}
    (spelled : opcode.SpelledBy bytes) (otherSpelled : other.SpelledBy otherBytes)
    (same : bytes ++ rest = otherBytes ++ otherRest) : opcode = other := by
  cases spelled with
  | short byte notLead =>
    cases otherSpelled with
    | short otherByte _ => rw [List.head_eq_of_cons_eq same]
    | long second => exact absurd (List.head_eq_of_cons_eq same) notLead
  | long second =>
    cases otherSpelled with
    | short otherByte notLead => exact absurd (List.head_eq_of_cons_eq same).symm notLead
    | long otherSecond =>
      rw [List.head_eq_of_cons_eq (List.tail_eq_of_cons_eq same)]

/-- Of bytes that begin with no opcode, only the lead byte is there. -/
theorem read_eq_error {cursor : Cursor} {fault : BodyError} (something : cursor.rest ≠ [])
    (failed : Opcode.read cursor = .error fault) :
    cursor.rest = [leadByte] ∧ fault = .unexpectedEnd (cursor.position + 1) := by
  obtain ⟨rest, position⟩ := cursor
  cases rest with
  | nil => exact absurd rfl something
  | cons first rest =>
    have readFirst : Cursor.byte ⟨first :: rest, position⟩ = .ok (first, ⟨rest, position + 1⟩) :=
      Cursor.byte_eq_ok_iff.mpr ⟨rfl, rfl⟩
    rw [Opcode.read, Reader.bind_of_ok readFirst] at failed
    by_cases isLead : first = leadByte
    · rw [if_pos isLead] at failed
      cases rest with
      | nil =>
        cases failed
        rw [isLead]
        exact ⟨rfl, rfl⟩
      | cons second rest =>
        have readSecond : Cursor.byte ⟨second :: rest, position + 1⟩ =
            .ok (second, ⟨rest, position + 1 + 1⟩) :=
          Cursor.byte_eq_ok_iff.mpr ⟨rfl, rfl⟩
        rw [Reader.bind_of_ok readSecond] at failed
        cases failed
    · rw [if_neg isLead] at failed
      cases failed

end Opcode

theorem StartsUndefined.unique {opcode other : Opcode} {bytes : List UInt8}
    (starts : StartsUndefined opcode bytes) (otherStarts : StartsUndefined other bytes) :
    opcode = other := by
  obtain ⟨_, spelled, rest, isSpelled, rfl⟩ := starts
  obtain ⟨_, otherSpelled, otherRest, otherIsSpelled, same⟩ := otherStarts
  exact isSpelled.eq_of_append otherIsSpelled same

theorem StartsUndefined.not_isCutOff {opcode : Opcode} {bytes : List UInt8}
    (starts : StartsUndefined opcode bytes) : ¬ IsCutOff bytes := by
  obtain ⟨isUndefined, spelled, rest, isSpelled, rfl⟩ := starts
  rintro ⟨missing, _, instruction⟩
  generalize whole : spelled ++ rest ++ missing = bytes at instruction
  cases instruction with
  | mk otherSpelled prescribed complete =>
    rw [List.append_assoc] at whole
    rw [isSpelled.eq_of_append otherSpelled whole, prescribed] at isUndefined
    cases isUndefined

/-! ## Operands -/

namespace Operand

/-- The operand of fixed width with the given bytes; a switch is none of them. -/
def ofBytes (shape : OperandShape) (bytes : List UInt8) : Operand :=
  match shape with
  | .none => .none
  | .shortVar => .shortVar (UInt8.ofNat (ofLittleEndian bytes))
  | .shortInt => .shortInt (UInt8.ofNat (ofLittleEndian bytes)).toInt8
  | .shortBranch => .shortBranch (UInt8.ofNat (ofLittleEndian bytes)).toInt8
  | .var => .var (UInt16.ofNat (ofLittleEndian bytes))
  | .int => .int (UInt32.ofNat (ofLittleEndian bytes)).toInt32
  | .long => .long (UInt64.ofNat (ofLittleEndian bytes)).toInt64
  | .single => .single (UInt32.ofNat (ofLittleEndian bytes))
  | .double => .double (UInt64.ofNat (ofLittleEndian bytes))
  | .branch => .branch (UInt32.ofNat (ofLittleEndian bytes)).toInt32
  | .switch => .switch []
  | .token => .token ⟨UInt32.ofNat (ofLittleEndian bytes)⟩

/-- An operand of fixed width is read from that many bytes, whatever they are. -/
theorem read_eq_of_width? {shape : OperandShape} {width : Nat} (fixed : shape.width? = some width) :
    Operand.read shape = (do return ofBytes shape (← Cursor.take width)) := by
  cases shape with
  | switch => cases fixed
  | none =>
    cases fixed
    rfl
  | shortVar | shortInt | shortBranch | var | int | long | single | double | branch | token =>
    cases fixed
    simp only [Operand.read, ofBytes, Cursor.signedByte, Cursor.byte, Cursor.word16,
      Cursor.signedWord32, Cursor.word32, Cursor.word64, Cursor.word, bind_assoc, pure_bind]

/-- A switch is read if its count and all the targets that it counts are there. -/
theorem readSwitch_of_complete {count targets : List UInt8} (counted : count.length = 4)
    (complete : targets.length = 4 * ofLittleEndian count) (rest : List UInt8) (position : Nat) :
    ∃ operand, readSwitch ⟨count ++ (targets ++ rest), position⟩ =
      .ok (operand, ⟨rest, position + (count ++ targets).length⟩) := by
  obtain ⟨value, isCount, readCount⟩ := Cursor.word32_of_length counted (targets ++ rest) position
  rw [← isCount] at complete
  have enough : ¬ value.toNat > (targets ++ rest).length / 4 := by
    rw [List.length_append]
    omega
  obtain ⟨distances, readTargets⟩ := Cursor.exists_signedWords32 complete rest (position + 4)
  have behind : position + 4 + targets.length = position + (count ++ targets).length := by
    rw [List.length_append]
    omega
  rw [behind] at readTargets
  refine ⟨.switch distances, ?_⟩
  rw [readSwitch, Reader.bind_of_ok readCount]
  refine Reader.bind_eq_ok_iff.mpr ⟨_, _, rfl, ?_⟩
  rw [if_neg enough]
  exact Reader.map_eq_ok_iff.mpr ⟨distances, readTargets, rfl⟩

theorem spelledBy_switch_encode {distances : List Int32} (fits : distances.length < UInt32.size) :
    OperandShape.switch.SpelledBy (Operand.switch distances).encode := by
  have size := length_encode (.switch distances)
  rw [encode, List.length_append, length_littleEndian, Operand.size] at size
  refine .switch (length_littleEndian 4 _) ?_
  rw [ofLittleEndian_littleEndian fits]
  omega

/-- Of a switch that cannot be read, the count or some of the targets are missing. -/
theorem readSwitch_eq_error {cursor : Cursor} {fault : BodyError}
    (failed : readSwitch cursor = .error fault) :
    ∃ place, fault = .unexpectedEnd place ∧ cursor.position ≤ place ∧
      place ≤ cursor.position + cursor.rest.length ∧
      ∃ missing, OperandShape.switch.SpelledBy (cursor.rest ++ missing) := by
  obtain ⟨rest, position⟩ := cursor
  by_cases countThere : 4 ≤ rest.length
  · have counted : (rest.take 4).length = 4 := by
      rw [List.length_take]
      omega
    obtain ⟨value, isCount, readCount⟩ := Cursor.word32_of_length counted (rest.drop 4) position
    rw [List.take_append_drop] at readCount
    by_cases tooMany : value.toNat > (rest.drop 4).length / 4
    · rw [readSwitch, Reader.bind_of_ok readCount] at failed
      have got : (get : Reader Cursor) ⟨rest.drop 4, position + 4⟩ =
          .ok (⟨rest.drop 4, position + 4⟩, ⟨rest.drop 4, position + 4⟩) := rfl
      rw [Reader.bind_of_ok got, if_pos tooMany] at failed
      cases failed
      refine ⟨position + 4, rfl, Nat.le_add_right _ _, Nat.add_le_add_left countThere position,
        List.replicate (4 * value.toNat - (rest.drop 4).length) 0, ?_⟩
      have whole : rest ++ List.replicate (4 * value.toNat - (rest.drop 4).length) 0 =
          rest.take 4 ++
            (rest.drop 4 ++ List.replicate (4 * value.toNat - (rest.drop 4).length) 0) := by
        rw [← List.append_assoc, List.take_append_drop]
      rw [whole]
      refine .switch counted ?_
      rw [List.length_append, List.length_replicate, ← isCount]
      omega
    · have complete : ((rest.drop 4).take (4 * value.toNat)).length =
          4 * ofLittleEndian (rest.take 4) := by
        rw [List.length_take, ← isCount]
        omega
      obtain ⟨_, read⟩ := readSwitch_of_complete counted complete
        ((rest.drop 4).drop (4 * value.toNat)) position
      rw [List.take_append_drop, List.take_append_drop] at read
      rw [read] at failed
      cases failed
  · have short : rest.length < 4 := Nat.lt_of_not_le countThere
    have noCount : Cursor.word32 ⟨rest, position⟩ = .error (.unexpectedEnd position) :=
      Reader.bind_of_error (Reader.bind_of_error (Cursor.take_eq_error short))
    rw [readSwitch, Reader.bind_of_error noCount] at failed
    cases failed
    refine ⟨position, rfl, Nat.le_refl _, Nat.le_add_right _ _,
      List.replicate (4 - rest.length) 0 ++
        List.replicate (4 * ofLittleEndian (rest ++ List.replicate (4 - rest.length) 0)) 0, ?_⟩
    rw [← List.append_assoc]
    refine .switch ?_ List.length_replicate
    rw [List.length_append, List.length_replicate]
    exact Nat.add_sub_cancel' (Nat.le_of_lt short)

/-- An operand is read exactly where one is spelled. -/
theorem exists_read_iff {shape : OperandShape} {cursor next : Cursor} :
    (∃ operand, Operand.read shape cursor = .ok (operand, next)) ↔
      ∃ bytes, shape.SpelledBy bytes ∧ cursor.Crosses bytes next := by
  constructor
  · rintro ⟨operand, read⟩
    cases fixed : shape.width? with
    | some width =>
      rw [read_eq_of_width? fixed] at read
      obtain ⟨bytes, taken, _⟩ := Reader.map_eq_ok_iff.mp read
      obtain ⟨rfl, crossed⟩ := Cursor.take_eq_ok_iff.mp taken
      exact ⟨bytes, .fixed fixed, crossed⟩
    | none =>
      cases shape with
      | switch =>
        obtain ⟨distances, _, fits, crossed⟩ := readSwitch_eq_ok_iff.mp read
        exact ⟨_, spelledBy_switch_encode fits, crossed⟩
      | none | shortVar | shortInt | shortBranch | var | int | long | single | double | branch
      | token => cases fixed
  · rintro ⟨bytes, spelled, crossed⟩
    cases spelled with
    | fixed width =>
      have taken := Cursor.take_eq_ok_iff.mpr ⟨rfl, crossed⟩
      rw [read_eq_of_width? width]
      exact ⟨_, Reader.map_eq_ok_iff.mpr ⟨bytes, taken, rfl⟩⟩
    | @switch count targets counted complete =>
      obtain ⟨operand, read⟩ :=
        readSwitch_of_complete counted complete next.rest cursor.position
      rw [← List.append_assoc, ← crossed.rest_eq, ← crossed.position_eq] at read
      exact ⟨operand, read⟩

/-- An operand that cannot be read is cut off. -/
theorem read_eq_error {shape : OperandShape} {cursor : Cursor} {fault : BodyError}
    (failed : Operand.read shape cursor = .error fault) :
    ∃ place, fault = .unexpectedEnd place ∧ cursor.position ≤ place ∧
      place ≤ cursor.position + cursor.rest.length ∧
      ∃ missing, shape.SpelledBy (cursor.rest ++ missing) := by
  cases fixed : shape.width? with
  | some width =>
    rw [read_eq_of_width? fixed] at failed
    by_cases enough : width ≤ cursor.rest.length
    · have counted : (cursor.rest.take width).length = width := List.length_take_of_le enough
      have taken : Cursor.take width cursor =
          .ok (cursor.rest.take width, ⟨cursor.rest.drop width, cursor.position + width⟩) :=
        Cursor.take_eq_ok_iff.mpr
          ⟨counted, (List.take_append_drop width cursor.rest).symm, by rw [counted]⟩
      rw [Reader.bind_of_ok taken] at failed
      cases failed
    · rw [Reader.bind_of_error (Cursor.take_eq_error (Nat.lt_of_not_le enough))] at failed
      cases failed
      refine ⟨_, rfl, Nat.le_refl _, Nat.le_add_right _ _,
        List.replicate (width - cursor.rest.length) 0, .fixed ?_⟩
      rw [List.length_append, List.length_replicate, fixed,
        Nat.add_sub_cancel' (Nat.le_of_not_le enough)]
  | none =>
    cases shape with
    | switch => exact readSwitch_eq_error failed
    | none | shortVar | shortInt | shortBranch | var | int | long | single | double | branch
    | token => cases fixed

end Operand

/-! ## Instructions -/

namespace Instruction

/-- An instruction is read exactly where one is spelled. -/
theorem exists_read_iff {cursor next : Cursor} :
    (∃ instruction, Instruction.read cursor = .ok (instruction, next)) ↔
      ∃ bytes, IsInstruction bytes ∧ cursor.Crosses bytes next := by
  constructor
  · rintro ⟨instruction, read⟩
    obtain ⟨_, shaped, fits, crossed⟩ := read_eq_ok_iff.mp read
    obtain ⟨middle, crossedOpcode, crossedOperand⟩ := Cursor.crosses_append_iff.mp crossed
    have readOperand := Operand.read_of_crosses fits crossedOperand
    obtain ⟨operandBytes, complete, crossedBytes⟩ :=
      Operand.exists_read_iff.mp ⟨instruction.operand, readOperand⟩
    have spelled : instruction.opcode.SpelledBy instruction.opcode.encode :=
      Opcode.spelledBy_iff.mpr ⟨Opcode.isReadable_of_operandShape? shaped, rfl⟩
    exact ⟨_, .mk spelled shaped complete,
      Cursor.crosses_append_iff.mpr ⟨middle, crossedOpcode, crossedBytes⟩⟩
  · rintro ⟨bytes, isInstruction, crossed⟩
    cases isInstruction with
    | @mk opcode shape opcodeBytes operandBytes spelled prescribed complete =>
      obtain ⟨middle, crossedOpcode, crossedOperand⟩ := Cursor.crosses_append_iff.mp crossed
      obtain ⟨readable, rfl⟩ := Opcode.spelledBy_iff.mp spelled
      have readOpcode := Opcode.read_eq_ok_iff.mpr ⟨readable, crossedOpcode⟩
      obtain ⟨operand, readOperand⟩ :=
        Operand.exists_read_iff.mpr ⟨operandBytes, complete, crossedOperand⟩
      refine ⟨⟨UInt32.ofNat cursor.position, opcode, operand⟩, ?_⟩
      refine Reader.bind_eq_ok_iff.mpr ⟨cursor, cursor, rfl, ?_⟩
      refine Reader.bind_eq_ok_iff.mpr ⟨opcode, middle, readOpcode, ?_⟩
      rw [prescribed]
      exact Reader.map_eq_ok_iff.mpr ⟨operand, readOperand, rfl⟩

/-- Why bytes at a place of the code begin with no instruction. -/
inductive Fault (bytes : List UInt8) (offset : Nat) : BodyError → Prop where
  | undefined {opcode : Opcode} (starts : StartsUndefined opcode bytes) :
    Fault bytes offset (.invalidOpcode opcode offset)
  | cutOff {place : Nat} (isCutOff : IsCutOff bytes) (behind : offset < place)
      (inside : place ≤ offset + bytes.length) : Fault bytes offset (.unexpectedEnd place)

/-- Bytes that lack some others are not an instruction already. -/
theorem isCutOff_of_read_eq_error {cursor : Cursor} {fault : BodyError} {missing : List UInt8}
    (failed : Instruction.read cursor = .error fault)
    (isInstruction : IsInstruction (cursor.rest ++ missing)) : IsCutOff cursor.rest := by
  refine ⟨missing, ?_, isInstruction⟩
  rintro rfl
  rw [List.append_nil] at isInstruction
  have crossed : cursor.Crosses cursor.rest ⟨[], cursor.position + cursor.rest.length⟩ :=
    ⟨(List.append_nil _).symm, rfl⟩
  obtain ⟨instruction, read⟩ := exists_read_iff.mpr ⟨_, isInstruction, crossed⟩
  rw [read] at failed
  cases failed

theorem fault_of_read {cursor : Cursor} {fault : BodyError} (something : cursor.rest ≠ [])
    (failed : Instruction.read cursor = .error fault) :
    Fault cursor.rest cursor.position fault := by
  have failedParts := failed
  have got : (get : Reader Cursor) cursor = .ok (cursor, cursor) := rfl
  rw [Instruction.read, Reader.bind_of_ok got] at failedParts
  cases readOpcode : Opcode.read cursor with
  | error opcodeFault =>
    rw [Reader.bind_of_error readOpcode] at failedParts
    cases failedParts
    obtain ⟨onlyLead, rfl⟩ := Opcode.read_eq_error something readOpcode
    -- Any defined opcode of the second page shows that one byte is missing.
    have spelled : (Opcode.ofSecondByte 0x00).SpelledBy [Opcode.leadByte, 0x00] := .long 0x00
    have complete : OperandShape.none.SpelledBy [] := .fixed rfl
    have completed : IsInstruction ([Opcode.leadByte, 0x00] ++ []) := .mk spelled rfl complete
    have completed : IsInstruction (cursor.rest ++ [0x00]) := by
      rw [onlyLead]
      exact completed
    refine .cutOff (isCutOff_of_read_eq_error failed completed) (Nat.lt_succ_self _) ?_
    rw [onlyLead]
    exact Nat.le_refl _
  | ok result =>
    obtain ⟨opcode, middle⟩ := result
    rw [Reader.bind_of_ok readOpcode] at failedParts
    obtain ⟨readable, crossed⟩ := Opcode.read_eq_ok_iff.mp readOpcode
    have spelled : opcode.SpelledBy opcode.encode := Opcode.spelledBy_iff.mpr ⟨readable, rfl⟩
    cases prescribed : opcode.operandShape? with
    | none =>
      rw [prescribed] at failedParts
      cases failedParts
      exact .undefined ⟨prescribed, _, _, spelled, crossed.rest_eq⟩
    | some shape =>
      rw [prescribed] at failedParts
      cases readOperand : Operand.read shape middle with
      | ok operand =>
        dsimp only at failedParts
        rw [Reader.bind_of_ok readOperand] at failedParts
        cases failedParts
      | error operandFault =>
        dsimp only at failedParts
        rw [Reader.bind_of_error readOperand] at failedParts
        cases failedParts
        obtain ⟨place, rfl, from_le, le_end, missing, complete⟩ :=
          Operand.read_eq_error readOperand
        have completed : IsInstruction (cursor.rest ++ missing) := by
          rw [crossed.rest_eq, List.append_assoc]
          exact .mk spelled prescribed complete
        have opcodeSize : 0 < opcode.encode.length := by
          rw [Opcode.length_encode, Opcode.size]
          split <;> decide
        have position_eq := crossed.position_eq
        have split := congrArg List.length crossed.rest_eq
        rw [List.length_append] at split
        exact .cutOff (isCutOff_of_read_eq_error failed completed) (by omega) (by omega)

end Instruction

/-! ## Code -/

/-- Reading stops at the first place of the code where no instruction begins. -/
theorem exists_fault_of_readInstructions {fuel : Nat} {cursor : Cursor} {fault : BodyError}
    (failed : readInstructions fuel cursor = .error fault) :
    ∃ front behind, cursor.rest = front ++ behind ∧ behind ≠ [] ∧ IsCode front ∧
      Instruction.Fault behind (cursor.position + front.length) fault := by
  induction fuel generalizing cursor with
  | zero => cases failed
  | succ fuel ih =>
    by_cases empty : cursor.rest = []
    · rw [readInstructions_of_empty empty] at failed
      cases failed
    · cases outcome : Instruction.read cursor with
      | error firstFault =>
        rw [readInstructions_of_fault empty outcome] at failed
        cases failed
        exact ⟨[], cursor.rest, rfl, empty, .nil, Instruction.fault_of_read empty outcome⟩
      | ok result =>
        obtain ⟨first, next⟩ := result
        rw [readInstructions_of_read outcome] at failed
        obtain ⟨bytes, isInstruction, crossed⟩ :=
          Instruction.exists_read_iff.mp ⟨first, outcome⟩
        cases others : readInstructions fuel next with
        | ok rest =>
          rw [others] at failed
          cases failed
        | error otherFault =>
          rw [others] at failed
          cases failed
          obtain ⟨front, behind, split, something, isCode, isFault⟩ := ih others
          refine ⟨bytes ++ front, behind, ?_, something, .cons isInstruction isCode, ?_⟩
          · rw [crossed.rest_eq, split, List.append_assoc]
          · rw [List.length_append, ← Nat.add_assoc, ← crossed.position_eq]
            exact isFault

theorem exists_spells_iff {cursor : Cursor} :
    (∃ instructions, cursor.Spells instructions) ↔ IsCode cursor.rest := by
  constructor
  · rintro ⟨instructions, spelled⟩
    induction instructions generalizing cursor with
    | nil =>
      rw [spelled.rest_eq]
      exact .nil
    | cons first others ih =>
      obtain ⟨next, read, spelledOthers⟩ := spells_cons_iff.mp spelled
      obtain ⟨bytes, isInstruction, crossed⟩ := Instruction.exists_read_iff.mp ⟨first, read⟩
      rw [crossed.rest_eq]
      exact .cons isInstruction (ih spelledOthers)
  · obtain ⟨code, position⟩ := cursor
    intro isCode
    dsimp only at isCode
    induction isCode generalizing position with
    | nil => exact ⟨[], (spells_iff_of_empty rfl).mpr rfl⟩
    | @cons bytes rest isInstruction _ ih =>
      obtain ⟨others, spelledOthers⟩ := ih (position + bytes.length)
      have crossed : Cursor.Crosses ⟨bytes ++ rest, position⟩ bytes
          ⟨rest, position + bytes.length⟩ :=
        ⟨rfl, rfl⟩
      obtain ⟨first, read⟩ := Instruction.exists_read_iff.mpr ⟨bytes, isInstruction, crossed⟩
      exact ⟨first :: others, spells_cons_iff.mpr ⟨_, read, spelledOthers⟩⟩

/-- Code is decoded exactly if it is cut into instructions. -/
theorem exists_decodeInstructions_iff {code : List UInt8} :
    (∃ instructions, decodeInstructions code = .ok instructions) ↔ IsCode code :=
  (exists_congr fun _ => decodeInstructions_eq_ok_iff).trans exists_spells_iff

end Detour.Body
