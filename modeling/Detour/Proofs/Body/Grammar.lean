import Detour.Proofs.Body.CodeGrammar
import Detour.Proofs.Body.RoundTrip

/-!
# The grammar of method bodies

A method body is a header in one of two forms, as many bytes of code as the header states, and
anything behind. Decoding accepts exactly the bytes of which the grammar says so. Where only the
code is at fault, the fault of the body is that of the code.
-/

namespace Detour.Body

/-- The bytes of a header that states a code size. -/
inductive IsHeader : List UInt8 → Nat → Prop where
  | tiny {first : UInt8} (format : first &&& 0x03 = MethodHeader.tinyFormat) :
    IsHeader [first] (first >>> 2).toNat
  /-- The high bits of the second byte count the words of the header, and the second of its words is
  the code size. -/
  | fat {first second : UInt8} {rest : List UInt8}
      (format : first &&& 0x03 = MethodHeader.fatFormat)
      (enough : MethodHeader.fatDwords ≤ (second >>> 4).toNat)
      (complete : (first :: second :: rest).length = 4 * (second >>> 4).toNat) :
    IsHeader (first :: second :: rest) (ofLittleEndian ((rest.drop 2).take 4))

inductive IsBody : List UInt8 → Prop where
  | mk {header code trailer : List UInt8} (isHeader : IsHeader header code.length)
      (isCode : IsCode code) : IsBody (header ++ (code ++ trailer))

/-! ## Headers -/

theorem toNat_highFour_pairOfBytes (first second : UInt8) :
    (pairOfBytes first second >>> 12).toUInt8.toNat = (second >>> 4).toNat := by
  have low := first.toNat_lt
  rw [toNat_highFour, toNat_pairOfBytes, UInt8.toNat_shiftRight, Nat.shiftRight_eq_div_pow]
  change _ = second.toNat / 2 ^ 4
  omega

namespace FatHeader

theorem length_behindPacked (header : FatHeader) (codeSize : Nat) :
    (header.behindPacked codeSize).length = 10 + header.extra.length := by
  simp only [behindPacked, List.length_append, length_littleEndian]
  omega

/-- The code size stands behind the stack depth. -/
theorem codeSize_behindPacked (header : FatHeader) {codeSize : Nat}
    (fits : codeSize < UInt32.size) :
    ofLittleEndian (((header.behindPacked codeSize).drop 2).take 4) = codeSize := by
  rw [behindPacked, List.drop_left' (length_littleEndian 2 _),
    List.take_left' (length_littleEndian 4 _)]
  exact ofLittleEndian_littleEndian fits

/-- The header with the given bytes behind its first one. -/
def ofBytes (first second : UInt8) (rest : List UInt8) : FatHeader where
  flags := pairOfBytes first second &&& 0x0FFF
  dwords := (pairOfBytes first second >>> 12).toUInt8
  maxStack := UInt16.ofNat (ofLittleEndian (rest.take 2))
  locals := ⟨UInt32.ofNat (ofLittleEndian ((rest.drop 6).take 4))⟩
  extra := rest.drop 10

theorem behindPacked_ofBytes (first second : UInt8) {rest : List UInt8} (long : 10 ≤ rest.length) :
    (ofBytes first second rest).behindPacked (ofLittleEndian ((rest.drop 2).take 4)) = rest := by
  have stackLength : (rest.take 2).length = 2 := by
    rw [List.length_take]
    omega
  have sizeLength : ((rest.drop 2).take 4).length = 4 := by
    rw [List.length_take, List.length_drop]
    omega
  have localsLength : ((rest.drop 6).take 4).length = 4 := by
    rw [List.length_take, List.length_drop]
    omega
  have stackBound := ofLittleEndian_lt (rest.take 2)
  have localsBound := ofLittleEndian_lt ((rest.drop 6).take 4)
  rw [stackLength] at stackBound
  rw [localsLength] at localsBound
  have behindSize : (rest.drop 6).take 4 ++ rest.drop 10 = rest.drop 6 := by
    have joined := List.take_append_drop 4 (rest.drop 6)
    rw [List.drop_drop] at joined
    exact joined
  have behindStack : (rest.drop 2).take 4 ++ rest.drop 6 = rest.drop 2 := by
    have joined := List.take_append_drop 4 (rest.drop 2)
    rw [List.drop_drop] at joined
    exact joined
  rw [behindPacked, ofBytes]
  dsimp only
  rw [UInt16.toNat_ofNat_of_lt' stackBound, UInt32.toNat_ofNat_of_lt' localsBound,
    littleEndian_of_length stackLength, littleEndian_of_length sizeLength,
    littleEndian_of_length localsLength, behindSize, behindStack, List.take_append_drop]

end FatHeader

/-- A header is read exactly where one is spelled. -/
theorem MethodHeader.exists_read_iff {codeSize : Nat} {cursor next : Cursor} :
    (∃ header, MethodHeader.read cursor = .ok ((header, codeSize), next)) ↔
      ∃ bytes, IsHeader bytes codeSize ∧ cursor.Crosses bytes next := by
  constructor
  · rintro ⟨header, read⟩
    obtain ⟨first, middle, readFirst, readRest⟩ := Reader.bind_eq_ok_iff.mp read
    have crossedFirst := Cursor.byte_eq_ok_iff.mp readFirst
    by_cases isTiny : first &&& 0x03 = tinyFormat
    · rw [if_pos isTiny] at readRest
      obtain ⟨described, rfl⟩ := Reader.pure_eq_ok_iff.mp readRest
      cases described
      exact ⟨[first], .tiny isTiny, crossedFirst⟩
    · rw [if_neg isTiny] at readRest
      by_cases isFat : first &&& 0x03 = fatFormat
      · rw [if_pos isFat] at readRest
        obtain ⟨⟨fields, size⟩, readFat, described⟩ := Reader.map_eq_ok_iff.mp readRest
        cases described
        obtain ⟨second, _, dwords_eq, enough, extraLength, fits, crossedRest⟩ :=
          FatHeader.read_eq_ok_iff_fields.mp readFat
        rw [dwords_eq, toNat_highFour_pairOfBytes] at enough extraLength
        have complete : (first :: second :: fields.behindPacked size).length =
            4 * (second >>> 4).toNat := by
          rw [List.length_cons, List.length_cons, FatHeader.length_behindPacked, extraLength]
          omega
        have isHeader := IsHeader.fat isFat enough complete
        rw [FatHeader.codeSize_behindPacked fields fits] at isHeader
        exact ⟨_, isHeader, Cursor.crosses_cons_iff.mpr ⟨middle, crossedFirst, crossedRest⟩⟩
      · rw [if_neg isFat] at readRest
        cases readRest
  · rintro ⟨bytes, isHeader, crossed⟩
    cases isHeader with
    | @tiny first format =>
      refine ⟨.tiny, Reader.bind_eq_ok_iff.mpr
        ⟨first, next, Cursor.byte_eq_ok_iff.mpr crossed, ?_⟩⟩
      rw [if_pos format]
      rfl
    | @fat first second rest format enough complete =>
      obtain ⟨middle, crossedFirst, crossedRest⟩ := Cursor.crosses_cons_iff.mp crossed
      have three : 3 ≤ (second >>> 4).toNat := enough
      rw [List.length_cons, List.length_cons] at complete
      have long : 10 ≤ rest.length := by omega
      have notTiny : ¬ first &&& 0x03 = tinyFormat := by
        rw [format]
        decide
      have dwords : (FatHeader.ofBytes first second rest).dwords.toNat = (second >>> 4).toNat :=
        toNat_highFour_pairOfBytes first second
      have extraLength : (FatHeader.ofBytes first second rest).extra.length =
          ((FatHeader.ofBytes first second rest).dwords.toNat - 3) * 4 := by
        rw [dwords, FatHeader.ofBytes, List.length_drop]
        omega
      have sizeBound := ofLittleEndian_lt ((rest.drop 2).take 4)
      have sizeLength : ((rest.drop 2).take 4).length = 4 := by
        rw [List.length_take, List.length_drop]
        omega
      rw [sizeLength] at sizeBound
      rw [← FatHeader.behindPacked_ofBytes first second long] at crossedRest
      have readFat := FatHeader.read_eq_ok_iff_fields.mpr
        ⟨second, rfl, rfl, dwords ▸ three, extraLength, sizeBound, crossedRest⟩
      refine ⟨.fat (FatHeader.ofBytes first second rest), Reader.bind_eq_ok_iff.mpr
        ⟨first, middle, Cursor.byte_eq_ok_iff.mpr crossedFirst, ?_⟩⟩
      rw [if_neg notTiny, if_pos format]
      exact Reader.map_eq_ok_iff.mpr ⟨_, readFat, rfl⟩

/-- A header states the code size in a word. -/
theorem IsHeader.codeSize_lt {header : List UInt8} {codeSize : Nat}
    (isHeader : IsHeader header codeSize) : codeSize < UInt32.size := by
  cases isHeader with
  | @tiny first _ =>
    have byte := (first >>> 2).toNat_lt
    exact Nat.lt_trans byte (by decide)
  | @fat _ _ rest _ _ _ =>
    have word := ofLittleEndian_lt ((rest.drop 2).take 4)
    have width : ((rest.drop 2).take 4).length ≤ 4 := List.length_take_le _ _
    exact Nat.lt_of_lt_of_le word (Nat.pow_le_pow_right (by decide) width)

/-! ## Bodies -/

/-- What stands in front of anything else is read as the same header. -/
theorem IsHeader.exists_reads {header : List UInt8} {codeSize : Nat}
    (isHeader : IsHeader header codeSize) :
    ∃ methodHeader, ∀ more, MethodHeader.read (Cursor.start (header ++ more)) =
      .ok ((methodHeader, codeSize), ⟨more, header.length⟩) := by
  have crossed := Cursor.crosses_start header []
  obtain ⟨methodHeader, read⟩ := MethodHeader.exists_read_iff.mpr ⟨header, isHeader, crossed⟩
  obtain ⟨bytes, taken, again⟩ := MethodHeader.incremental_read.takes read
  have whole : header = bytes := List.append_cancel_right taken.rest_eq
  subst whole
  exact ⟨methodHeader, again⟩

/-- How far bytes go as a method body, whatever their code is. -/
inductive Sections (bytes : List UInt8) : Prop where
  | noHeader {fault : BodyError} (failed : MethodHeader.read (Cursor.start bytes) = .error fault)
  | codeCutOff {header rest : List UInt8} {codeSize : Nat} (isHeader : IsHeader header codeSize)
      (split : bytes = header ++ rest) (short : rest.length < codeSize)
  | whole {header code trailer : List UInt8} (isHeader : IsHeader header code.length)
      (split : bytes = header ++ (code ++ trailer))

theorem sections (bytes : List UInt8) : Sections bytes := by
  cases read : MethodHeader.read (Cursor.start bytes) with
  | error fault => exact .noHeader read
  | ok result =>
    obtain ⟨⟨methodHeader, codeSize⟩, next⟩ := result
    obtain ⟨header, isHeader, crossed⟩ := MethodHeader.exists_read_iff.mp ⟨methodHeader, read⟩
    have split : bytes = header ++ next.rest := crossed.rest_eq
    by_cases enough : codeSize ≤ next.rest.length
    · rw [← List.length_take_of_le enough] at isHeader
      rw [← List.take_append_drop codeSize next.rest] at split
      exact .whole isHeader split
    · exact .codeCutOff isHeader split (Nat.lt_of_not_le enough)

namespace MethodBody

theorem decode_of_noHeader {bytes : List UInt8} {fault : BodyError}
    (failed : MethodHeader.read (Cursor.start bytes) = .error fault) :
    MethodBody.decode bytes = .error fault :=
  Except.bind_of_error failed _

theorem decode_of_codeCutOff {header rest : List UInt8} {codeSize : Nat}
    (isHeader : IsHeader header codeSize) (short : rest.length < codeSize) :
    MethodBody.decode (header ++ rest) = .error (.unexpectedEnd header.length) := by
  obtain ⟨methodHeader, reads⟩ := isHeader.exists_reads
  rw [MethodBody.decode, StateT.run, Except.bind_of_ok (reads rest)]
  exact Except.bind_of_error (Cursor.take_eq_error short) _

/-- Behind a header that states its size, the code alone decides. -/
theorem decode_of_whole {header code : List UInt8} (isHeader : IsHeader header code.length) :
    ∃ methodHeader, ∀ trailer, MethodBody.decode (header ++ (code ++ trailer)) =
      (decodeInstructions code).map fun instructions => ⟨methodHeader, instructions, trailer⟩ := by
  obtain ⟨methodHeader, reads⟩ := isHeader.exists_reads
  refine ⟨methodHeader, fun trailer => ?_⟩
  rw [MethodBody.decode, StateT.run, Except.bind_of_ok (reads (code ++ trailer))]
  refine (Except.bind_of_ok (Cursor.take_append code trailer header.length) _).trans ?_
  dsimp only
  cases decodeInstructions code with
  | error fault => rfl
  | ok instructions => rfl

theorem exists_decode_iff {bytes : List UInt8} :
    (∃ body, MethodBody.decode bytes = .ok body) ↔ IsBody bytes := by
  constructor
  · rintro ⟨body, decoded⟩
    cases sections bytes with
    | noHeader failed =>
      rw [decode_of_noHeader failed] at decoded
      cases decoded
    | codeCutOff isHeader split short =>
      rw [split, decode_of_codeCutOff isHeader short] at decoded
      cases decoded
    | whole isHeader split =>
      obtain ⟨methodHeader, decodes⟩ := decode_of_whole isHeader
      rw [split, decodes, Except.map_eq_ok_iff] at decoded
      obtain ⟨instructions, decodedCode, _⟩ := decoded
      rw [split]
      exact .mk isHeader (exists_decodeInstructions_iff.mp ⟨instructions, decodedCode⟩)
  · rintro ⟨isHeader, isCode⟩
    obtain ⟨methodHeader, decodes⟩ := decode_of_whole isHeader
    obtain ⟨instructions, decodedCode⟩ := exists_decodeInstructions_iff.mpr isCode
    exact ⟨_, (decodes _).trans (congrArg _ decodedCode)⟩

/-- A body's instructions are decoded from the code that its header states. -/
theorem exists_code_of_decode {bytes : List UInt8} {body : MethodBody}
    (decoded : MethodBody.decode bytes = .ok body) :
    ∃ header code, IsHeader header code.length ∧ bytes = header ++ (code ++ body.trailer) ∧
      decodeInstructions code = .ok body.instructions := by
  obtain ⟨isHeader, isCode⟩ := exists_decode_iff.mp ⟨body, decoded⟩
  obtain ⟨methodHeader, decodes⟩ := decode_of_whole isHeader
  rw [decodes, Except.map_eq_ok_iff] at decoded
  obtain ⟨instructions, decodedCode, rfl⟩ := decoded
  exact ⟨_, _, isHeader, rfl, decodedCode⟩

/-- Decoding accepts exactly the bytes that the grammar gives. Behind a header and all of its code,
the code alone is at fault: it can be decoded up to an instruction that has an undefined opcode or
is cut off, and the fault tells which, with a place counted from the start of the code. -/
theorem decode_accepts_grammar (bytes : List UInt8) :
    ((∃ body, MethodBody.decode bytes = .ok body) ↔ IsBody bytes) ∧
    ∀ header code trailer, bytes = header ++ (code ++ trailer) → IsHeader header code.length →
      ¬ IsCode code →
      ∃ offset, offset < code.length ∧
        (∃ instructions, decodeInstructions (code.take offset) = .ok instructions) ∧
        ((∃ opcode, StartsUndefined opcode (code.drop offset)) ∨ IsCutOff (code.drop offset)) ∧
        (∀ opcode, StartsUndefined opcode (code.drop offset) →
          MethodBody.decode bytes = .error (.invalidOpcode opcode offset)) ∧
        (IsCutOff (code.drop offset) → ∃ place, offset < place ∧ place ≤ code.length ∧
          MethodBody.decode bytes = .error (.unexpectedEnd place)) := by
  refine ⟨exists_decode_iff, ?_⟩
  rintro header code trailer rfl isHeader notCode
  obtain ⟨methodHeader, decodes⟩ := decode_of_whole isHeader
  rw [decodes]
  cases outcome : decodeInstructions code with
  | ok instructions => exact absurd (exists_decodeInstructions_iff.mp ⟨_, outcome⟩) notCode
  | error fault =>
    obtain ⟨front, behind, split, something, isCode, isFault⟩ :=
      exists_fault_of_readInstructions outcome
    have whole : code = front ++ behind := split
    have place : (Cursor.start code).position + front.length = front.length := Nat.zero_add _
    rw [place] at isFault
    have sizes := congrArg List.length whole
    rw [List.length_append] at sizes
    have positive := List.length_pos_iff.mpr something
    have isFront : code.take front.length = front := by rw [whole, List.take_left]
    have isBehind : code.drop front.length = behind := by rw [whole, List.drop_left]
    refine ⟨front.length, by omega, ?_, ?_⟩
    · rw [isFront]
      exact exists_decodeInstructions_iff.mpr isCode
    · rw [isBehind]
      cases isFault with
      | @undefined opcode starts =>
        refine ⟨.inl ⟨opcode, starts⟩, ?_, fun isCutOff => absurd isCutOff starts.not_isCutOff⟩
        intro other otherStarts
        rw [starts.unique otherStarts]
        rfl
      | @cutOff place isCutOff after inside =>
        refine ⟨.inr isCutOff, fun opcode starts => absurd isCutOff starts.not_isCutOff, ?_⟩
        intro _
        exact ⟨place, after, by omega, rfl⟩

/-- The code ends inside the token of a call. -/
theorem decode_accepts_grammar_cutCall :
    IsHeader [0x12] 4 ∧ ¬ IsCode [0x00, 0x28, 1, 2] ∧
      ∃ offset place, IsCutOff ([0x00, 0x28, 1, 2].drop offset) ∧ offset < place ∧ place ≤ 4 ∧
        MethodBody.decode [0x12, 0x00, 0x28, 1, 2, 0x2A] = .error (.unexpectedEnd place) := by
  have isHeader : IsHeader [0x12] 4 := .tiny rfl
  have decoded : MethodBody.decode [0x12, 0x00, 0x28, 1, 2, 0x2A] = .error (.unexpectedEnd 2) := rfl
  have notCode : ¬ IsCode [0x00, 0x28, 1, 2] := by
    intro isCode
    obtain ⟨instructions, decodedCode⟩ := exists_decodeInstructions_iff.mpr isCode
    cases decodedCode
  obtain ⟨offset, _, _, cause, ofUndefined, ofCutOff⟩ :=
    (decode_accepts_grammar [0x12, 0x00, 0x28, 1, 2, 0x2A]).2 [0x12] [0x00, 0x28, 1, 2] [0x2A] rfl
      isHeader notCode
  refine ⟨isHeader, notCode, offset, ?_⟩
  rcases cause with ⟨opcode, starts⟩ | isCutOff
  · have refused := ofUndefined opcode starts
    rw [decoded] at refused
    cases refused
  · obtain ⟨place, behind, inside, failed⟩ := ofCutOff isCutOff
    exact ⟨place, isCutOff, behind, inside, failed⟩

end MethodBody

end Detour.Body
