import Detour.Proofs.Body.Grammar
import Detour.Proofs.Body.Relocation
import Mathlib.Logic.ExistsUnique

/-!
# Where instructions stand

The instructions of decoded code fill it. Each of them is written as exactly the bytes of its range,
every range begins where the one in front of it ends, and every byte of the code lies in one range.
The ranges begin at the offsets of the instructions as long as the places of the code are words. In
a method body they always are, because the header states the code size in a word. So pieces of code
can be joined and taken apart at these places: the main statement says both.
-/

namespace Detour.Body

/-- The byte at a place belongs to the instruction with an index. -/
def Covers (instructions : List Instruction) (start : Nat → Instruction → Nat)
    (index place : Nat) : Prop :=
  ∃ instruction, instructions[index]? = some instruction ∧
    start index instruction ≤ place ∧ place < start index instruction + instruction.size

/-- The instructions fill the code without gaps and overlaps; `start` tells where the instruction
with an index begins. -/
structure Tiles (code : List UInt8) (instructions : List Instruction)
    (start : Nat → Instruction → Nat) : Prop where
  written : ∀ index instruction, instructions[index]? = some instruction →
    (code.drop (start index instruction)).take instruction.size = instruction.encode
  inside : ∀ index instruction, instructions[index]? = some instruction →
    start index instruction + instruction.size ≤ code.length
  adjacent : ∀ index instruction next, instructions[index]? = some instruction →
    instructions[index + 1]? = some next →
    start (index + 1) next = start index instruction + instruction.size
  coveredOnce : ∀ place, place < code.length → ∃! index, Covers instructions start index place

/-- Only the starts of the instructions that there are matter. -/
theorem Tiles.congr {code : List UInt8} {instructions : List Instruction}
    {start other : Nat → Instruction → Nat} (tiles : Tiles code instructions start)
    (agree : ∀ index instruction, instructions[index]? = some instruction →
      start index instruction = other index instruction) : Tiles code instructions other where
  written := by
    intro index instruction found
    rw [← agree index instruction found]
    exact tiles.written index instruction found
  inside := by
    intro index instruction found
    rw [← agree index instruction found]
    exact tiles.inside index instruction found
  adjacent := by
    intro index instruction next found foundNext
    rw [← agree index instruction found, ← agree (index + 1) next foundNext]
    exact tiles.adjacent index instruction next found foundNext
  coveredOnce := by
    have covers_iff (index place : Nat) :
        Covers instructions start index place ↔ Covers instructions other index place := by
      refine exists_congr fun instruction => and_congr_right fun found => ?_
      rw [agree index instruction found]
    intro place inCode
    exact (existsUnique_congr fun index => covers_iff index place).mp
      (tiles.coveredOnce place inCode)

/-! ## Ranges -/

/-- The instructions in front take the bytes in front, and the instruction takes the next ones. -/
theorem take_drop_flatMap_encode {instructions : List Instruction} {instruction : Instruction}
    {index : Nat} (found : instructions[index]? = some instruction) :
    ((instructions.flatMap Instruction.encode).drop
      (totalSize (instructions.take index))).take instruction.size = instruction.encode := by
  obtain ⟨inList, rfl⟩ := List.getElem?_eq_some_iff.mp found
  have split : instructions.flatMap Instruction.encode =
      (instructions.take index).flatMap Instruction.encode ++
        (instructions[index].encode ++
          (instructions.drop (index + 1)).flatMap Instruction.encode) := by
    rw [← List.flatMap_cons, ← List.flatMap_append, ← List.drop_eq_getElem_cons inList,
      List.take_append_drop]
  rw [split, List.drop_left' (length_flatMap_encode _),
    List.take_left' (Instruction.length_encode _)]

/-- Every byte belongs to some instruction. -/
theorem exists_covers {instructions : List Instruction} {place : Nat}
    (inCode : place < totalSize instructions) :
    ∃ index, Covers instructions (fun index _ => totalSize (instructions.take index)) index
      place := by
  induction instructions generalizing place with
  | nil => cases inCode
  | cons first rest ih =>
    rw [totalSize_cons] at inCode
    by_cases inFirst : place < first.size
    · refine ⟨0, first, rfl, Nat.zero_le _, ?_⟩
      exact Nat.lt_of_lt_of_le inFirst (Nat.le_add_left _ _)
    · have inRest : place - first.size < totalSize rest := by omega
      obtain ⟨index, instruction, found, begins, ends⟩ := ih inRest
      have front : totalSize ((first :: rest).take (index + 1)) =
          first.size + totalSize (rest.take index) := rfl
      refine ⟨index + 1, instruction, found, ?_⟩
      dsimp only at begins ends ⊢
      omega

/-- No byte belongs to an instruction and to a later one. -/
theorem le_of_covers {instructions : List Instruction} {index other place : Nat}
    (covers : Covers instructions (fun index _ => totalSize (instructions.take index)) index place)
    (otherCovers : Covers instructions (fun index _ => totalSize (instructions.take index)) other
      place) : other ≤ index := by
  obtain ⟨instruction, found, _, ends⟩ := covers
  obtain ⟨_, _, begins, _⟩ := otherCovers
  refine Nat.le_of_not_lt fun inFront => ?_
  have behind := totalSize_take_add_size_le found inFront
  dsimp only at begins ends
  omega

/-- Instructions fill the bytes that they are written as, each behind those in front of it. -/
theorem tiles_flatMap_encode (instructions : List Instruction) :
    Tiles (instructions.flatMap Instruction.encode) instructions
      fun index _ => totalSize (instructions.take index) where
  written _ _ found := take_drop_flatMap_encode found
  inside := by
    intro index instruction found
    rw [length_flatMap_encode, ← totalSize_take_succ found]
    exact totalSize_take_le instructions (index + 1)
  adjacent _ _ _ found _ := totalSize_take_succ found
  coveredOnce := by
    intro place inCode
    rw [length_flatMap_encode] at inCode
    obtain ⟨index, covers⟩ := exists_covers inCode
    refine ⟨index, covers, fun other otherCovers => ?_⟩
    exact Nat.le_antisymm (le_of_covers covers otherCovers) (le_of_covers otherCovers covers)

/-! ## Decoded code -/

theorem tiles_of_decode {code : List UInt8} {instructions : List Instruction}
    (decoded : decodeInstructions code = .ok instructions) :
    Tiles code instructions fun index _ => totalSize (instructions.take index) := by
  have spelled := decodeInstructions_eq_ok_iff.mp decoded
  have written : code = instructions.flatMap Instruction.encode := spelled.rest_eq
  rw [written]
  exact tiles_flatMap_encode instructions

/-- An offset is the place of its instruction, as a word. -/
theorem offset_eq_of_decode {code : List UInt8} {instructions : List Instruction}
    (decoded : decodeInstructions code = .ok instructions) {index : Nat} {instruction : Instruction}
    (found : instructions[index]? = some instruction) :
    instruction.offset = UInt32.ofNat (totalSize (instructions.take index)) := by
  have spelled := decodeInstructions_eq_ok_iff.mp decoded
  have placed := placedFrom_iff.mp spelled.placed index instruction found
  rwa [Cursor.start, Nat.zero_add] at placed

/-- Where all places are words, the ranges begin at the offsets. -/
theorem tiles_offsets_of_decode {code : List UInt8} {instructions : List Instruction}
    (decoded : decodeInstructions code = .ok instructions) (small : code.length ≤ UInt32.size) :
    Tiles code instructions fun _ instruction => instruction.offset.toNat := by
  have tiles := tiles_of_decode decoded
  refine tiles.congr fun index instruction found => ?_
  have ends := tiles.inside index instruction found
  have positive := instruction.size_pos
  rw [offset_eq_of_decode decoded found]
  exact (UInt32.toNat_ofNat_of_lt' (by omega)).symm

/-- In two pieces of code that fit a word together, no offset overflows when it moves. -/
theorem toNat_offset_shift_of_decode {code : List UInt8} {instructions : List Instruction}
    (decoded : decodeInstructions code = .ok instructions) {distance : Nat}
    (small : distance + code.length < UInt32.size) {instruction : Instruction}
    (member : instruction ∈ instructions) :
    (instruction.shift distance).offset.toNat = instruction.offset.toNat + distance := by
  have tiles := tiles_offsets_of_decode decoded (by omega)
  obtain ⟨index, found⟩ := List.mem_iff_getElem?.mp member
  have ends := tiles.inside index instruction found
  have word : (UInt32.ofNat distance).toNat = distance := UInt32.toNat_ofNat_of_lt' (by omega)
  have inside : instruction.offset.toNat + distance ≤ distance + code.length := by omega
  rw [Instruction.shift, UInt32.toNat_add, word]
  exact Nat.mod_eq_of_lt (Nat.lt_of_le_of_lt inside small)

/-- Code behind code that can be decoded comes to what it comes to on its own, instructions or a
fault, moved by the length of the code in front. Conversely the instructions of decoded code fill
it, each written as the bytes of its range. An offset is the beginning of that range as a word: the
beginning itself wherever words can count the code, as they can in every method body. -/
theorem decodeInstructions_joins_and_tiles :
    (∀ front behind instructions, decodeInstructions front = .ok instructions →
      (∀ others, decodeInstructions behind = .ok others →
        decodeInstructions (front ++ behind) =
            .ok (instructions ++ others.map (·.shift front.length)) ∧
          (front.length + behind.length < Nat.pow 2 32 → ∀ other ∈ others,
            (other.shift front.length).offset.toNat = other.offset.toNat + front.length)) ∧
      ∀ fault, decodeInstructions behind = .error fault →
        decodeInstructions (front ++ behind) = .error (fault.shift front.length)) ∧
    (∀ code instructions, decodeInstructions code = .ok instructions →
      (Tiles code instructions fun index _ => totalSize (instructions.take index)) ∧
      (∀ index instruction, instructions[index]? = some instruction →
        instruction.offset = UInt32.ofNat (totalSize (instructions.take index))) ∧
      (code.length ≤ Nat.pow 2 32 →
        Tiles code instructions fun _ instruction => instruction.offset.toNat)) ∧
    ∀ bytes body, MethodBody.decode bytes = .ok body →
      ∃ header code, IsHeader header code.length ∧ bytes = header ++ (code ++ body.trailer) ∧
        decodeInstructions code = .ok body.instructions ∧
        Tiles code body.instructions fun _ instruction => instruction.offset.toNat := by
  refine ⟨?_, ?_, ?_⟩
  · intro front behind instructions decoded
    have joined := decodeInstructions_append decoded behind
    constructor
    · intro others decodedOthers
      rw [decodedOthers] at joined
      exact ⟨joined, fun small _ => toNat_offset_shift_of_decode decodedOthers small⟩
    · intro fault failed
      rw [failed] at joined
      exact joined
  · intro code instructions decoded
    exact ⟨tiles_of_decode decoded, fun _ _ => offset_eq_of_decode decoded,
      tiles_offsets_of_decode decoded⟩
  · intro bytes body decoded
    obtain ⟨header, code, isHeader, split, decodedCode⟩ := MethodBody.exists_code_of_decode decoded
    have tiles := tiles_offsets_of_decode decodedCode (Nat.le_of_lt isHeader.codeSize_lt)
    exact ⟨header, code, isHeader, split, decodedCode, tiles⟩

/-- A constant of two bytes. -/
def constantCode : List UInt8 := [0x1F, 0xFF]

/-- A two-byte opcode with its token, and a switch with one target. -/
def tableCode : List UInt8 := [
  0xFE, 0x16, 2, 0, 0, 0x1B,
  0x45, 1, 0, 0, 0, 0xFE, 0xFF, 0xFF, 0xFF]

/-- The instructions of `tableCode`. -/
def tableInstructions : List Instruction := [
  ⟨0, 0xFE16, .token ⟨0x1B000002⟩⟩,
  ⟨6, 0x45, .switch [-2]⟩]

/-- A constant stands in front of a switch, of the same switch without its target, and of a two-byte
opcode without its second byte. -/
theorem decodeInstructions_joins_and_tiles_table :
    decodeInstructions constantCode = .ok [⟨0, 0x1F, .shortInt (-1)⟩] ∧
    decodeInstructions tableCode = .ok tableInstructions ∧
    decodeInstructions (constantCode ++ tableCode) =
      .ok [⟨0, 0x1F, .shortInt (-1)⟩, ⟨2, 0xFE16, .token ⟨0x1B000002⟩⟩, ⟨8, 0x45, .switch [-2]⟩] ∧
    constantCode.length + tableCode.length < Nat.pow 2 32 ∧
    (∀ instruction ∈ tableInstructions,
      (instruction.shift 2).offset.toNat = instruction.offset.toNat + 2) ∧
    decodeInstructions (tableCode.take 13) = .error (.unexpectedEnd 11) ∧
    decodeInstructions (constantCode ++ tableCode.take 13) = .error (.unexpectedEnd 13) ∧
    decodeInstructions (tableCode.take 1) = .error (.unexpectedEnd 1) ∧
    decodeInstructions (constantCode ++ tableCode.take 1) = .error (.unexpectedEnd 3) ∧
    tableCode.length ≤ Nat.pow 2 32 ∧
    (Tiles tableCode tableInstructions fun _ instruction => instruction.offset.toNat) ∧
    MethodBody.decode MethodBody.mixedBytes = .ok MethodBody.mixedBody ∧
    ∃ header code, MethodBody.mixedBytes = header ++ (code ++ MethodBody.mixedBody.trailer) ∧
      Tiles code MethodBody.mixedBody.instructions
        fun _ instruction => instruction.offset.toNat := by
  have constant : decodeInstructions constantCode = .ok [⟨0, 0x1F, .shortInt (-1)⟩] := rfl
  have table : decodeInstructions tableCode = .ok tableInstructions := rfl
  have noTarget : decodeInstructions (tableCode.take 13) = .error (.unexpectedEnd 11) := rfl
  have onlyLead : decodeInstructions (tableCode.take 1) = .error (.unexpectedEnd 1) := rfl
  have decodedBody : MethodBody.decode MethodBody.mixedBytes = .ok MethodBody.mixedBody := rfl
  have small : constantCode.length + tableCode.length < Nat.pow 2 32 := by decide
  have tableSmall : tableCode.length ≤ Nat.pow 2 32 := by decide
  obtain ⟨joins, tiles, tilesBodies⟩ := decodeInstructions_joins_and_tiles
  obtain ⟨joinsTable, moved⟩ := (joins _ _ _ constant).1 _ table
  have failsWithoutTarget := (joins _ _ _ constant).2 _ noTarget
  have failsWithOnlyLead := (joins _ _ _ constant).2 _ onlyLead
  obtain ⟨header, code, _, split, _, bodyTiles⟩ := tilesBodies _ _ decodedBody
  exact ⟨constant, table, joinsTable, small, moved small, noTarget, failsWithoutTarget, onlyLead,
    failsWithOnlyLead, tableSmall, (tiles _ _ table).2.2 tableSmall, decodedBody, header, code,
    split, bodyTiles⟩

end Detour.Body
