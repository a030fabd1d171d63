import Detour.Body.Decode
import Detour.Proofs.Body.Reading

/-!
# Instruction streams

An instruction that can be read has a defined opcode and an operand of the prescribed shape, and it
is determined by its bytes and its place. A stream of such instructions is cut at the same
boundaries by which it was put together: reading accepts exactly the concatenations.
-/

namespace Detour.Body

/-! ## Opcodes -/

namespace Opcode

/-- The opcodes that the bytes of a stream can spell, defined or not. -/
inductive IsReadable : Opcode → Prop
  | short (byte : UInt8) (notLead : byte ≠ leadByte) : IsReadable byte.toUInt16
  | long (second : UInt8) : IsReadable (ofSecondByte second)

theorem toNat_ofSecondByte (second : UInt8) :
    (ofSecondByte second).toNat = 0xFE00 + second.toNat := by
  have low : second.toNat < 2 ^ 8 := second.toNat_lt
  rw [ofSecondByte, UInt16.toNat_or, UInt8.toNat_toUInt16]
  change 2 ^ 8 * 0xFE ||| second.toNat = _
  rw [← Nat.two_pow_add_eq_or_of_lt low]

theorem encode_toUInt16 (byte : UInt8) : encode byte.toUInt16 = [byte] := by
  have isShort : byte.toUInt16 ≤ 0xFF := by
    rw [UInt16.le_iff_toNat_le, UInt8.toNat_toUInt16]
    exact Nat.le_of_lt_succ byte.toNat_lt
  rw [encode, if_pos isShort, UInt8.toUInt8_toUInt16]

theorem encode_ofSecondByte (second : UInt8) :
    encode (ofSecondByte second) = [leadByte, second] := by
  have isLong : ¬ ofSecondByte second ≤ 0xFF := by
    rw [UInt16.le_iff_toNat_le, toNat_ofSecondByte]
    change ¬ 0xFE00 + second.toNat ≤ 0xFF
    omega
  have low : (ofSecondByte second).toUInt8 = second := by
    apply UInt8.toNat_inj.mp
    rw [UInt16.toNat_toUInt8, toNat_ofSecondByte]
    have bound := second.toNat_lt
    omega
  rw [encode, if_neg isLong, low]

theorem read_eq_ok_iff {opcode : Opcode} {cursor next : Cursor} :
    Opcode.read cursor = .ok (opcode, next) ↔
      opcode.IsReadable ∧ cursor.Crosses opcode.encode next := by
  rw [Opcode.read, Reader.bind_eq_ok_iff]
  constructor
  · intro accepted
    obtain ⟨first, middle, readFirst, readRest⟩ := accepted
    by_cases isLead : first = leadByte
    · rw [if_pos isLead] at readRest
      obtain ⟨second, readSecond, rfl⟩ := Reader.map_eq_ok_iff.mp readRest
      subst isLead
      have crossedLead := Cursor.byte_eq_ok_iff.mp readFirst
      have crossedSecond := Cursor.byte_eq_ok_iff.mp readSecond
      refine ⟨.long second, ?_⟩
      rw [encode_ofSecondByte]
      exact Cursor.crosses_cons_iff.mpr ⟨middle, crossedLead, crossedSecond⟩
    · rw [if_neg isLead] at readRest
      obtain ⟨rfl, rfl⟩ := Reader.pure_eq_ok_iff.mp readRest
      refine ⟨.short first isLead, ?_⟩
      rw [encode_toUInt16]
      exact Cursor.byte_eq_ok_iff.mp readFirst
  · intro described
    obtain ⟨readable, crossed⟩ := described
    cases readable with
    | short byte notLead =>
      rw [encode_toUInt16] at crossed
      refine ⟨byte, next, Cursor.byte_eq_ok_iff.mpr crossed, ?_⟩
      rw [if_neg notLead]
      exact Reader.pure_eq_ok_iff.mpr ⟨rfl, rfl⟩
    | long second =>
      rw [encode_ofSecondByte] at crossed
      obtain ⟨middle, crossedLead, crossedSecond⟩ := Cursor.crosses_cons_iff.mp crossed
      have readLead := Cursor.byte_eq_ok_iff.mpr crossedLead
      have readSecond := Cursor.byte_eq_ok_iff.mpr crossedSecond
      refine ⟨leadByte, middle, readLead, ?_⟩
      rw [if_pos rfl]
      exact Reader.map_eq_ok_iff.mpr ⟨second, readSecond, rfl⟩

/-- No defined range holds the lead byte or a word above the second opcode page. -/
theorem operandTable_bounds : ∀ range ∈ operandTable,
    range.last.toNat < 0xFE ∨ 0xFE00 ≤ range.first.toNat ∧ range.last.toNat ≤ 0xFEFF := by
  decide

theorem isReadable_of_operandShape? {opcode : Opcode} {shape : OperandShape}
    (isDefined : opcode.operandShape? = some shape) : opcode.IsReadable := by
  obtain ⟨range, found, _⟩ := Option.map_eq_some_iff.mp isDefined
  have inside : range.first ≤ opcode ∧ opcode ≤ range.last := by
    simpa using List.find?_some found
  have above := UInt16.le_iff_toNat_le.mp inside.1
  have below := UInt16.le_iff_toNat_le.mp inside.2
  have bytes := opcode.toUInt8.toNat_lt
  rcases operandTable_bounds range (List.mem_of_find?_eq_some found) with isShort | isLong
  · have same : opcode.toUInt8.toUInt16 = opcode := by
      apply UInt16.toNat_inj.mp
      rw [UInt8.toNat_toUInt16, UInt16.toNat_toUInt8]
      omega
    rw [← same]
    refine .short _ fun isLead => ?_
    have lead : opcode.toUInt8.toNat = 0xFE := congrArg UInt8.toNat isLead
    rw [UInt16.toNat_toUInt8] at lead
    omega
  · have same : ofSecondByte opcode.toUInt8 = opcode := by
      apply UInt16.toNat_inj.mp
      rw [toNat_ofSecondByte, UInt16.toNat_toUInt8]
      omega
    rw [← same]
    exact .long _

end Opcode

/-! ## Operands -/

namespace Operand

/-- Whether the count of switch targets can be written. Other operands have no count. -/
def CountFits : Operand → Prop
  | .switch distances => distances.length < UInt32.size
  | _ => True

theorem countFits_of_size_lt {operand : Operand} (small : operand.size < UInt32.size) :
    operand.CountFits := by
  cases operand with
  | switch distances =>
    change 4 + 4 * distances.length < UInt32.size at small
    change distances.length < UInt32.size
    omega
  | _ => trivial

theorem readSwitch_eq_ok_iff {operand : Operand} {cursor next : Cursor} :
    readSwitch cursor = .ok (operand, next) ↔
      ∃ distances, operand = .switch distances ∧ distances.length < UInt32.size ∧
        cursor.Crosses (Operand.switch distances).encode next := by
  rw [readSwitch, Reader.bind_eq_ok_iff]
  constructor
  · intro accepted
    obtain ⟨count, middle, readCount, readRest⟩ := accepted
    obtain ⟨_, _, got, readTargets⟩ := Reader.bind_eq_ok_iff.mp readRest
    cases got
    by_cases tooMany : count.toNat > middle.rest.length / 4
    · rw [if_pos tooMany] at readTargets
      cases readTargets
    · rw [if_neg tooMany] at readTargets
      obtain ⟨distances, readDistances, rfl⟩ := Reader.map_eq_ok_iff.mp readTargets
      have crossedCount := Cursor.word32_eq_ok_iff.mp readCount
      obtain ⟨counted, crossedTargets⟩ := Cursor.signedWords32_eq_ok_iff.mp readDistances
      refine ⟨distances, rfl, ?_, ?_⟩
      · rw [counted]
        exact count.toNat_lt
      · rw [encode, counted]
        exact Cursor.crosses_append_iff.mpr ⟨middle, crossedCount, crossedTargets⟩
  · intro described
    obtain ⟨distances, rfl, fits, crossed⟩ := described
    obtain ⟨middle, crossedCount, crossedTargets⟩ := Cursor.crosses_append_iff.mp crossed
    have count : (UInt32.ofNat distances.length).toNat = distances.length :=
      UInt32.toNat_ofNat_of_lt' fits
    have enough : ¬ (UInt32.ofNat distances.length).toNat > middle.rest.length / 4 := by
      have targetsSize := length_encode (.switch distances)
      rw [encode, List.length_append, length_littleEndian, size] at targetsSize
      rw [count, crossedTargets.rest_eq, List.length_append]
      omega
    rw [← count] at crossedCount
    have readCount := Cursor.word32_eq_ok_iff.mpr crossedCount
    have readTargets := Cursor.signedWords32_eq_ok_iff.mpr ⟨rfl, crossedTargets⟩
    refine ⟨_, middle, readCount, Reader.bind_eq_ok_iff.mpr ⟨middle, middle, rfl, ?_⟩⟩
    rw [if_neg enough, count]
    exact Reader.map_eq_ok_iff.mpr ⟨distances, readTargets, rfl⟩

theorem crosses_of_read {shape : OperandShape} {operand : Operand} {cursor next : Cursor}
    (accepted : Operand.read shape cursor = .ok (operand, next)) :
    operand.shape = shape ∧ operand.CountFits ∧ cursor.Crosses operand.encode next := by
  cases shape with
  | none =>
    obtain ⟨rfl, rfl⟩ := Reader.pure_eq_ok_iff.mp accepted
    exact ⟨rfl, trivial, Cursor.crosses_nil_iff.mpr rfl⟩
  | shortVar =>
    obtain ⟨index, read, rfl⟩ := Reader.map_eq_ok_iff.mp accepted
    exact ⟨rfl, trivial, Cursor.byte_eq_ok_iff.mp read⟩
  | shortInt =>
    obtain ⟨value, read, rfl⟩ := Reader.map_eq_ok_iff.mp accepted
    exact ⟨rfl, trivial, Cursor.signedByte_eq_ok_iff.mp read⟩
  | shortBranch =>
    obtain ⟨distance, read, rfl⟩ := Reader.map_eq_ok_iff.mp accepted
    exact ⟨rfl, trivial, Cursor.signedByte_eq_ok_iff.mp read⟩
  | var =>
    obtain ⟨index, read, rfl⟩ := Reader.map_eq_ok_iff.mp accepted
    exact ⟨rfl, trivial, Cursor.word16_eq_ok_iff.mp read⟩
  | int =>
    obtain ⟨value, read, rfl⟩ := Reader.map_eq_ok_iff.mp accepted
    exact ⟨rfl, trivial, Cursor.signedWord32_eq_ok_iff.mp read⟩
  | long =>
    obtain ⟨bits, read, rfl⟩ := Reader.map_eq_ok_iff.mp accepted
    exact ⟨rfl, trivial, Cursor.word64_eq_ok_iff.mp read⟩
  | single =>
    obtain ⟨bits, read, rfl⟩ := Reader.map_eq_ok_iff.mp accepted
    exact ⟨rfl, trivial, Cursor.word32_eq_ok_iff.mp read⟩
  | double =>
    obtain ⟨bits, read, rfl⟩ := Reader.map_eq_ok_iff.mp accepted
    exact ⟨rfl, trivial, Cursor.word64_eq_ok_iff.mp read⟩
  | branch =>
    obtain ⟨distance, read, rfl⟩ := Reader.map_eq_ok_iff.mp accepted
    exact ⟨rfl, trivial, Cursor.signedWord32_eq_ok_iff.mp read⟩
  | switch =>
    obtain ⟨distances, rfl, fits, crossed⟩ := readSwitch_eq_ok_iff.mp accepted
    exact ⟨rfl, fits, crossed⟩
  | token =>
    obtain ⟨raw, read, rfl⟩ := Reader.map_eq_ok_iff.mp accepted
    exact ⟨rfl, trivial, Cursor.word32_eq_ok_iff.mp read⟩

theorem read_of_crosses {operand : Operand} {cursor next : Cursor} (fits : operand.CountFits)
    (crossed : cursor.Crosses operand.encode next) :
    Operand.read operand.shape cursor = .ok (operand, next) := by
  cases operand with
  | none => exact Reader.pure_eq_ok_iff.mpr ⟨rfl, Cursor.crosses_nil_iff.mp crossed⟩
  | shortVar index =>
    exact Reader.map_eq_ok_iff.mpr ⟨index, Cursor.byte_eq_ok_iff.mpr crossed, rfl⟩
  | shortInt value =>
    exact Reader.map_eq_ok_iff.mpr ⟨value, Cursor.signedByte_eq_ok_iff.mpr crossed, rfl⟩
  | shortBranch distance =>
    exact Reader.map_eq_ok_iff.mpr ⟨distance, Cursor.signedByte_eq_ok_iff.mpr crossed, rfl⟩
  | var index => exact Reader.map_eq_ok_iff.mpr ⟨index, Cursor.word16_eq_ok_iff.mpr crossed, rfl⟩
  | int value =>
    exact Reader.map_eq_ok_iff.mpr ⟨value, Cursor.signedWord32_eq_ok_iff.mpr crossed, rfl⟩
  | long value =>
    exact Reader.map_eq_ok_iff.mpr ⟨value.toUInt64, Cursor.word64_eq_ok_iff.mpr crossed, rfl⟩
  | single bits =>
    exact Reader.map_eq_ok_iff.mpr ⟨bits, Cursor.word32_eq_ok_iff.mpr crossed, rfl⟩
  | double bits =>
    exact Reader.map_eq_ok_iff.mpr ⟨bits, Cursor.word64_eq_ok_iff.mpr crossed, rfl⟩
  | branch distance =>
    exact Reader.map_eq_ok_iff.mpr ⟨distance, Cursor.signedWord32_eq_ok_iff.mpr crossed, rfl⟩
  | switch distances => exact readSwitch_eq_ok_iff.mpr ⟨distances, rfl, fits, crossed⟩
  | token target =>
    exact Reader.map_eq_ok_iff.mpr ⟨target.raw, Cursor.word32_eq_ok_iff.mpr crossed, rfl⟩

end Operand

/-! ## Single instructions -/

namespace Instruction

/-- Whether an instruction's opcode is defined and its operand has the prescribed shape. -/
def IsWellShaped (instruction : Instruction) : Prop :=
  instruction.opcode.operandShape? = some instruction.operand.shape

instance (instruction : Instruction) : Decidable instruction.IsWellShaped :=
  inferInstanceAs (Decidable (_ = _))

theorem size_pos (instruction : Instruction) : 0 < instruction.size := by
  have opcodeSize : 0 < instruction.opcode.size := by
    unfold Opcode.size
    split <;> decide
  exact Nat.add_pos_left opcodeSize _

theorem read_eq_ok_iff {instruction : Instruction} {cursor next : Cursor} :
    Instruction.read cursor = .ok (instruction, next) ↔
      instruction.offset = UInt32.ofNat cursor.position ∧ instruction.IsWellShaped ∧
        instruction.operand.CountFits ∧ cursor.Crosses instruction.encode next := by
  rw [Instruction.read, Reader.bind_eq_ok_iff]
  constructor
  · intro accepted
    obtain ⟨_, _, got, readParts⟩ := accepted
    cases got
    obtain ⟨opcode, middle, readOpcode, readRest⟩ := Reader.bind_eq_ok_iff.mp readParts
    obtain ⟨_, crossedOpcode⟩ := Opcode.read_eq_ok_iff.mp readOpcode
    cases prescribed : opcode.operandShape? with
    | none =>
      rw [prescribed] at readRest
      cases readRest
    | some shape =>
      rw [prescribed] at readRest
      obtain ⟨operand, readOperand, rfl⟩ := Reader.map_eq_ok_iff.mp readRest
      obtain ⟨sameShape, fits, crossedOperand⟩ := Operand.crosses_of_read readOperand
      refine ⟨rfl, ?_, fits, ?_⟩
      · rw [IsWellShaped, prescribed, sameShape]
      · exact Cursor.crosses_append_iff.mpr ⟨middle, crossedOpcode, crossedOperand⟩
  · intro described
    obtain ⟨placed, shaped, fits, crossed⟩ := described
    obtain ⟨middle, crossedOpcode, crossedOperand⟩ := Cursor.crosses_append_iff.mp crossed
    have readable := Opcode.isReadable_of_operandShape? shaped
    have readOpcode := Opcode.read_eq_ok_iff.mpr ⟨readable, crossedOpcode⟩
    have readOperand := Operand.read_of_crosses fits crossedOperand
    refine ⟨cursor, cursor, rfl, Reader.bind_eq_ok_iff.mpr ⟨_, middle, readOpcode, ?_⟩⟩
    rw [shaped]
    refine Reader.map_eq_ok_iff.mpr ⟨instruction.operand, readOperand, ?_⟩
    rw [← placed]

end Instruction

/-! ## Streams -/

/-- The count of bytes that instructions take. -/
def totalSize (instructions : List Instruction) : Nat :=
  instructions.foldr (fun instruction size => instruction.size + size) 0

theorem length_flatMap_encode (instructions : List Instruction) :
    (instructions.flatMap Instruction.encode).length = totalSize instructions := by
  exact MethodBody.length_code ⟨.tiny, instructions, []⟩

theorem totalSize_cons (first : Instruction) (rest : List Instruction) :
    totalSize (first :: rest) = first.size + totalSize rest :=
  rfl

theorem size_le_totalSize {instructions : List Instruction} {instruction : Instruction}
    (member : instruction ∈ instructions) : instruction.size ≤ totalSize instructions := by
  induction instructions with
  | nil => cases member
  | cons first rest ih =>
    rw [totalSize_cons]
    rcases List.mem_cons.mp member with isFirst | later
    · rw [isFirst]
      exact Nat.le_add_right _ _
    · exact Nat.le_trans (ih later) (Nat.le_add_left _ _)

theorem totalSize_take_le (instructions : List Instruction) (count : Nat) :
    totalSize (instructions.take count) ≤ totalSize instructions := by
  induction instructions generalizing count with
  | nil => simp
  | cons first rest ih =>
    cases count with
    | zero => exact Nat.zero_le _
    | succ count =>
      rw [List.take_succ_cons]
      exact Nat.add_le_add_left (ih count) first.size

/-- An instruction ends where the next one begins. -/
theorem totalSize_take_succ {instructions : List Instruction} {instruction : Instruction}
    {index : Nat} (found : instructions[index]? = some instruction) :
    totalSize (instructions.take (index + 1)) =
      totalSize (instructions.take index) + instruction.size := by
  induction instructions generalizing index with
  | nil => cases found
  | cons first rest ih =>
    rw [List.take_succ_cons, totalSize_cons]
    cases index with
    | zero =>
      cases found
      exact Nat.add_comm _ _
    | succ index => rw [List.take_succ_cons, totalSize_cons, Nat.add_assoc, ih found]

/-- An instruction ends in front of every later one. -/
theorem totalSize_take_add_size_le {instructions : List Instruction} {instruction : Instruction}
    {index later : Nat} (found : instructions[index]? = some instruction)
    (inFront : index < later) :
    totalSize (instructions.take index) + instruction.size ≤
      totalSize (instructions.take later) := by
  have ends := totalSize_take_le (instructions.take later) (index + 1)
  rw [List.take_take, Nat.min_eq_left inFront, totalSize_take_succ found] at ends
  exact ends

/-- Whether instructions follow each other without gaps from a position; offsets are words. -/
def PlacedFrom : Nat → List Instruction → Prop
  | _, [] => True
  | position, instruction :: rest =>
    instruction.offset = UInt32.ofNat position ∧ PlacedFrom (position + instruction.size) rest

theorem placedFrom_iff {position : Nat} {instructions : List Instruction} :
    PlacedFrom position instructions ↔
      ∀ index instruction, instructions[index]? = some instruction →
        instruction.offset = UInt32.ofNat (position + totalSize (instructions.take index)) := by
  induction instructions generalizing position with
  | nil =>
    constructor
    · intro _ index instruction found
      cases found
    · intro _
      trivial
  | cons first rest ih =>
    constructor
    · intro placed index instruction found
      obtain ⟨firstPlaced, restPlaced⟩ := placed
      cases index with
      | zero =>
        cases found
        exact firstPlaced
      | succ index =>
        rw [ih.mp restPlaced index instruction found, List.take_succ_cons, Nat.add_assoc]
        rfl
    · intro placed
      refine ⟨placed 0 first rfl, ih.mpr fun index instruction found => ?_⟩
      rw [placed (index + 1) instruction found, List.take_succ_cons, Nat.add_assoc]
      rfl

/-- Whether the rest of a cursor is put together from `instructions`, each of which can be read in
its place. -/
structure Cursor.Spells (cursor : Cursor) (instructions : List Instruction) : Prop where
  shaped : ∀ instruction ∈ instructions, instruction.IsWellShaped
  counted : ∀ instruction ∈ instructions, instruction.operand.CountFits
  placed : PlacedFrom cursor.position instructions
  rest_eq : cursor.rest = instructions.flatMap Instruction.encode

theorem spells_iff_of_empty {cursor : Cursor} {instructions : List Instruction}
    (empty : cursor.rest = []) : cursor.Spells instructions ↔ [] = instructions := by
  constructor
  · intro spelled
    cases instructions with
    | nil => rfl
    | cons first rest =>
      have positive := first.size_pos
      have counted := congrArg List.length (empty.symm.trans spelled.rest_eq)
      rw [List.flatMap_cons, List.length_append, first.length_encode, List.length_nil] at counted
      omega
  · intro isEmpty
    subst isEmpty
    exact ⟨by simp, by simp, trivial, empty⟩

theorem spells_cons_iff {cursor : Cursor} {first : Instruction} {rest : List Instruction} :
    cursor.Spells (first :: rest) ↔
      ∃ next, Instruction.read cursor = .ok (first, next) ∧ next.Spells rest := by
  constructor
  · intro spelled
    obtain ⟨shaped, counted, ⟨firstPlaced, restPlaced⟩, rest_eq⟩ := spelled
    obtain ⟨firstShaped, restShaped⟩ := List.forall_mem_cons.mp shaped
    obtain ⟨firstCounted, restCounted⟩ := List.forall_mem_cons.mp counted
    have crossed : cursor.Crosses first.encode
        ⟨rest.flatMap Instruction.encode, cursor.position + first.size⟩ := by
      refine ⟨rest_eq, ?_⟩
      rw [first.length_encode]
    have read :=
      Instruction.read_eq_ok_iff.mpr ⟨firstPlaced, firstShaped, firstCounted, crossed⟩
    exact ⟨_, read, restShaped, restCounted, restPlaced, rfl⟩
  · intro continued
    obtain ⟨next, read, shaped, counted, placed, rest_eq⟩ := continued
    obtain ⟨firstPlaced, firstShaped, firstCounted, crossed⟩ := Instruction.read_eq_ok_iff.mp read
    refine ⟨List.forall_mem_cons.mpr ⟨firstShaped, shaped⟩,
      List.forall_mem_cons.mpr ⟨firstCounted, counted⟩, ⟨firstPlaced, ?_⟩, ?_⟩
    · rw [← first.length_encode, ← crossed.position_eq]
      exact placed
    · rw [List.flatMap_cons, ← rest_eq]
      exact crossed.rest_eq

theorem Instruction.length_rest_of_read {instruction : Instruction} {cursor next : Cursor}
    (read : Instruction.read cursor = .ok (instruction, next)) :
    cursor.rest.length = instruction.size + next.rest.length := by
  obtain ⟨_, _, _, crossed⟩ := Instruction.read_eq_ok_iff.mp read
  rw [crossed.rest_eq, List.length_append, instruction.length_encode]

theorem readInstructions_of_empty {cursor : Cursor} (empty : cursor.rest = []) (fuel : Nat) :
    readInstructions fuel cursor = .ok [] := by
  cases fuel with
  | zero => rfl
  | succ fuel => exact if_pos (List.isEmpty_iff.mpr empty)

theorem readInstructions_of_fault {cursor : Cursor} {fault : BodyError}
    (something : cursor.rest ≠ []) (failed : Instruction.read cursor = .error fault) (fuel : Nat) :
    readInstructions (fuel + 1) cursor = .error fault := by
  rw [readInstructions, if_neg fun isEmpty => something (List.isEmpty_iff.mp isEmpty), StateT.run,
    Except.bind_of_error failed]

/-- An instruction stands in front of whatever comes behind it. -/
theorem readInstructions_of_read {cursor next : Cursor} {first : Instruction}
    (read : Instruction.read cursor = .ok (first, next)) (fuel : Nat) :
    readInstructions (fuel + 1) cursor = (readInstructions fuel next).map (first :: ·) := by
  have something : cursor.rest ≠ [] := by
    intro empty
    have positive := first.size_pos
    have split := Instruction.length_rest_of_read read
    rw [empty, List.length_nil] at split
    omega
  rw [readInstructions, if_neg fun isEmpty => something (List.isEmpty_iff.mp isEmpty), StateT.run,
    Except.bind_of_ok read]
  dsimp only
  cases readInstructions fuel next with
  | error fault => rfl
  | ok others => rfl

/-- With fuel for every byte, a stream is read exactly as it was put together. -/
theorem readInstructions_eq_ok_iff {fuel : Nat} {cursor : Cursor} {instructions : List Instruction}
    (enough : cursor.rest.length ≤ fuel) :
    readInstructions fuel cursor = .ok instructions ↔ cursor.Spells instructions := by
  induction fuel generalizing cursor instructions with
  | zero =>
    have empty : cursor.rest = [] := List.length_eq_zero_iff.mp (Nat.le_zero.mp enough)
    rw [spells_iff_of_empty empty]
    exact Except.pure_eq_ok_iff
  | succ fuel ih =>
    by_cases empty : cursor.rest = []
    · rw [spells_iff_of_empty empty, readInstructions_of_empty empty]
      exact Except.pure_eq_ok_iff
    · -- Every instruction takes a byte, so one unit of fuel less is enough for the others.
      have restEnough : ∀ first next, Instruction.read cursor = .ok (first, next) →
          next.rest.length ≤ fuel := by
        intro first next read
        have positive := first.size_pos
        have split := Instruction.length_rest_of_read read
        omega
      constructor
      · intro accepted
        cases outcome : Instruction.read cursor with
        | error fault =>
          rw [readInstructions_of_fault empty outcome] at accepted
          cases accepted
        | ok result =>
          obtain ⟨first, next⟩ := result
          rw [readInstructions_of_read outcome, Except.map_eq_ok_iff] at accepted
          obtain ⟨rest, readRest, rfl⟩ := accepted
          have spelledRest := (ih (restEnough first next outcome)).mp readRest
          exact spells_cons_iff.mpr ⟨next, outcome, spelledRest⟩
      · intro spelled
        cases instructions with
        | nil => exact absurd spelled.rest_eq empty
        | cons first rest =>
          obtain ⟨next, read, spelledRest⟩ := spells_cons_iff.mp spelled
          have readRest := (ih (restEnough first next read)).mpr spelledRest
          rw [readInstructions_of_read read, readRest]
          rfl

theorem decodeInstructions_eq_ok_iff {code : List UInt8} {instructions : List Instruction} :
    decodeInstructions code = .ok instructions ↔ (Cursor.start code).Spells instructions :=
  readInstructions_eq_ok_iff (Nat.le_refl _)

end Detour.Body
