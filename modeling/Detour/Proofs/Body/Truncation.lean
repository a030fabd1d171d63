import Detour.Proofs.Body.Grammar

/-!
# Cut and extended method bodies

The header and the code that it states settle everything that decoding says about bytes, except for
the trailer. Bytes behind the code go to the trailer and change nothing else, and bytes that end in
front of the end of the code are refused because of that end and for no other reason.
-/

namespace Detour.Body.MethodBody

/-- The faults that no further bytes can mend. -/
inductive IsSettled (bytes : List UInt8) : BodyError → Prop where
  | header (byte : UInt8) : IsSettled bytes (.invalidHeader byte)
  | opcode (opcode : UInt16) (offset : Nat) : IsSettled bytes (.invalidOpcode opcode offset)
  /-- The header and all of its code are there, so the fault is one of the code. -/
  | code {header code trailer : List UInt8} {fault : BodyError}
      (isHeader : IsHeader header code.length) (split : bytes = header ++ (code ++ trailer)) :
      IsSettled bytes fault

/-! ## Bodies -/

/-- What is decoded has a header and all of its code, and any trailer goes with them. -/
theorem exists_sections_of_decode {bytes : List UInt8} {body : MethodBody}
    (decoded : MethodBody.decode bytes = .ok body) :
    ∃ header code, IsHeader header code.length ∧ bytes = header ++ (code ++ body.trailer) ∧
      ∀ trailer, MethodBody.decode (header ++ (code ++ trailer)) =
        .ok { body with trailer := trailer } := by
  obtain ⟨header, code, isHeader, split, decodedCode⟩ := exists_code_of_decode decoded
  obtain ⟨methodHeader, decodes⟩ := decode_of_whole isHeader
  rw [split, decodes, decodedCode] at decoded
  refine ⟨header, code, isHeader, split, fun trailer => ?_⟩
  rw [decodes, decodedCode, ← Except.ok.inj decoded]
  rfl

theorem decode_part_of_header {header part : List UInt8} {codeSize : Nat}
    (isHeader : IsHeader header codeSize) (isPart : part <+: header)
    (shorter : part.length < header.length) :
    ∃ place, place ≤ part.length ∧ MethodBody.decode part = .error (.unexpectedEnd place) := by
  obtain ⟨methodHeader, reads⟩ := isHeader.exists_reads
  obtain ⟨place, failed, _, inside⟩ := MethodHeader.incremental_read.cut (reads [])
    (Cursor.crosses_start header []) isPart shorter
  refine ⟨place, ?_, decode_of_noHeader failed⟩
  rwa [Cursor.start, Nat.zero_add] at inside

/-- Bytes that end in front of the end of the code are refused because of that. -/
theorem decode_take_of_short {header code trailer : List UInt8}
    (isHeader : IsHeader header code.length) {count : Nat}
    (short : count < header.length + code.length) :
    ∃ place, place ≤ count ∧
      MethodBody.decode ((header ++ (code ++ trailer)).take count) =
        .error (.unexpectedEnd place) := by
  by_cases inHeader : count < header.length
  · rw [List.take_append_of_le_length (Nat.le_of_lt inHeader)]
    have counted : (header.take count).length = count :=
      List.length_take_of_le (Nat.le_of_lt inHeader)
    obtain ⟨place, inside, failed⟩ := decode_part_of_header isHeader
      (List.take_prefix count header) (by rwa [counted])
    rw [counted] at inside
    exact ⟨place, inside, failed⟩
  · have behindHeader := Nat.le_of_not_lt inHeader
    rw [List.take_append, List.take_of_length_le behindHeader]
    refine ⟨header.length, behindHeader, decode_of_codeCutOff isHeader ?_⟩
    rw [List.length_take]
    omega

theorem decode_append_of_ok {bytes : List UInt8} {body : MethodBody}
    (decoded : MethodBody.decode bytes = .ok body) (more : List UInt8) :
    MethodBody.decode (bytes ++ more) = .ok { body with trailer := body.trailer ++ more } := by
  obtain ⟨header, code, _, split, decodes⟩ := exists_sections_of_decode decoded
  rw [split, List.append_assoc, List.append_assoc]
  exact decodes (body.trailer ++ more)

/-! ## Faults -/

theorem decode_append_of_whole {header code trailer : List UInt8} {fault : BodyError}
    (isHeader : IsHeader header code.length)
    (failed : MethodBody.decode (header ++ (code ++ trailer)) = .error fault)
    (more : List UInt8) :
    MethodBody.decode (header ++ (code ++ trailer) ++ more) = .error fault := by
  obtain ⟨methodHeader, decodes⟩ := decode_of_whole isHeader
  rw [decodes] at failed
  rw [List.append_assoc, List.append_assoc, decodes]
  cases outcome : decodeInstructions code with
  | ok instructions =>
    rw [outcome] at failed
    cases failed
  | error codeFault =>
    rw [outcome] at failed
    cases failed
    rfl

/-- A fault that is not an unexpected end stays when bytes are appended. -/
theorem decode_append_of_lasting {bytes : List UInt8} {fault : BodyError}
    (failed : MethodBody.decode bytes = .error fault)
    (notEnd : ∀ place, fault ≠ .unexpectedEnd place) (more : List UInt8) :
    MethodBody.decode (bytes ++ more) = .error fault := by
  cases sections bytes with
  | noHeader failedHeader =>
    have same := failed.symm.trans (decode_of_noHeader failedHeader)
    cases same
    cases MethodHeader.incremental_read.faults failedHeader with
    | cutOff => exact absurd rfl (notEnd _)
    | lasting _ lasts => exact decode_of_noHeader (lasts more)
  | codeCutOff isHeader split short =>
    rw [split, decode_of_codeCutOff isHeader short] at failed
    cases failed
    exact absurd rfl (notEnd _)
  | whole isHeader split =>
    rw [split] at failed ⊢
    exact decode_append_of_whole isHeader failed more

/-! ## Other lengths -/

/-- More bytes behind a body are more of its trailer, and fewer are less of it, as long as the code
is complete. Without the end of the code, the end of the bytes is at fault. Faults that are not
about missing bytes of the body stay when bytes are appended. -/
theorem decode_cut_or_extended (bytes : List UInt8) :
    (∀ body, MethodBody.decode bytes = .ok body →
      (∀ more, MethodBody.decode (bytes ++ more) =
        .ok { body with trailer := body.trailer ++ more }) ∧
      ∃ codeEnd, codeEnd + body.trailer.length = bytes.length ∧ ∀ count,
        (codeEnd ≤ count → MethodBody.decode (bytes.take count) =
          .ok { body with trailer := body.trailer.take (count - codeEnd) }) ∧
        (count < codeEnd → ∃ place, place ≤ count ∧
          MethodBody.decode (bytes.take count) = .error (.unexpectedEnd place))) ∧
    ∀ fault, MethodBody.decode bytes = .error fault → IsSettled bytes fault →
      ∀ more, MethodBody.decode (bytes ++ more) = .error fault := by
  refine ⟨?_, ?_⟩
  · intro body decoded
    refine ⟨decode_append_of_ok decoded, ?_⟩
    obtain ⟨header, code, isHeader, split, decodes⟩ := exists_sections_of_decode decoded
    refine ⟨header.length + code.length, ?_, fun count => ⟨?_, ?_⟩⟩
    · rw [split, List.length_append, List.length_append, Nat.add_assoc]
    · intro complete
      have inTrailer : count - header.length - code.length =
          count - (header.length + code.length) := Nat.sub_sub _ _ _
      rw [split, List.take_append, List.take_of_length_le (by omega), List.take_append,
        List.take_of_length_le (by omega), inTrailer]
      exact decodes _
    · intro short
      rw [split]
      exact decode_take_of_short isHeader short
  · intro fault failed isSettled more
    cases isSettled with
    | header byte => exact decode_append_of_lasting failed (fun place => nofun) more
    | opcode opcode offset => exact decode_append_of_lasting failed (fun place => nofun) more
    | code isHeader split =>
      rw [split] at failed ⊢
      exact decode_append_of_whole isHeader failed more

/-- A body of 45 bytes with two bytes behind its code, and an undefined opcode in complete code. -/
theorem decode_cut_or_extended_mixed :
    (MethodBody.decode mixedBytes = .ok mixedBody ∧
      MethodBody.decode (mixedBytes ++ [7]) =
        .ok { mixedBody with trailer := mixedBody.trailer ++ [7] } ∧
      MethodBody.decode (mixedBytes.take 44) =
        .ok { mixedBody with trailer := mixedBody.trailer.take 1 } ∧
      ∃ place, place ≤ 19 ∧
        MethodBody.decode (mixedBytes.take 19) = .error (.unexpectedEnd place)) ∧
    IsSettled [0x0A, 0x00, 0x24] (.invalidOpcode 0x24 1) ∧
      MethodBody.decode [0x0A, 0x00, 0x24] = .error (.invalidOpcode 0x24 1) ∧
      MethodBody.decode ([0x0A, 0x00, 0x24] ++ [0x2A]) = .error (.invalidOpcode 0x24 1) := by
  have decoded : MethodBody.decode mixedBytes = .ok mixedBody := rfl
  have failed : MethodBody.decode [0x0A, 0x00, 0x24] = .error (.invalidOpcode 0x24 1) := rfl
  have isSettled : IsSettled [0x0A, 0x00, 0x24] (.invalidOpcode 0x24 1) := .opcode 0x24 1
  obtain ⟨extended, codeEnd, counted, cut⟩ :=
    (decode_cut_or_extended mixedBytes).1 mixedBody decoded
  have places : codeEnd + 2 = 45 := counted
  obtain rfl : codeEnd = 43 := by omega
  refine ⟨⟨decoded, extended [7], (cut 44).1 (by decide), (cut 19).2 (by decide)⟩, isSettled,
    failed, ?_⟩
  exact (decode_cut_or_extended [0x0A, 0x00, 0x24]).2 _ failed isSettled [0x2A]

end Detour.Body.MethodBody
