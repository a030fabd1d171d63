import Detour.Proofs.Body.RoundTrip

/-!
# Redirected bodies

Redirecting calls moves nothing: a body and its redirection have the same header, the same offsets
and the same size, so their encodings differ at most in the five bytes of each redirected call, and
the changed bytes are read back as the redirected body.
-/

namespace Detour.Body

/-! ## Instruction streams -/

/-- `after` is `before` with the calls at `positions` redirected, each to its own target. -/
structure CallsRedirected (positions : List Nat) (targets : Nat → Token)
    (before after : List Instruction) : Prop where
  areCalls : ∀ position ∈ positions, ∃ instruction operand,
    before[position]? = some instruction ∧ instruction.callee? = some operand
  length_eq : after.length = before.length
  instruction_at : ∀ index instruction, before[index]? = some instruction →
    after[index]? = some
      (if index ∈ positions then ⟨instruction.offset, Opcode.call, .token (targets index)⟩
        else instruction)

namespace CallsRedirected

variable {positions : List Nat} {targets : Nat → Token} {before after : List Instruction}

theorem getElem?_eq (redirected : CallsRedirected positions targets before after) (index : Nat) :
    after[index]? = before[index]?.map fun instruction =>
      if index ∈ positions then instruction.redirect (targets index) else instruction := by
  cases found : before[index]? with
  | none =>
    have beyond := List.getElem?_eq_none_iff.mp found
    rw [← redirected.length_eq] at beyond
    exact List.getElem?_eq_none_iff.mpr beyond
  | some instruction => exact redirected.instruction_at index instruction found

/-- No instruction changes its size. -/
theorem map_size_eq (redirected : CallsRedirected positions targets before after) :
    after.map Instruction.size = before.map Instruction.size := by
  apply List.ext_getElem?
  intro index
  rw [List.getElem?_map, List.getElem?_map, redirected.getElem?_eq, Option.map_map]
  cases found : before[index]? with
  | none => rfl
  | some instruction =>
    rw [Option.map_some, Option.map_some, Function.comp_apply]
    by_cases isCall : index ∈ positions
    · obtain ⟨call, operand, foundCall, isTarget⟩ := redirected.areCalls index isCall
      cases found.symm.trans foundCall
      rw [if_pos isCall, Instruction.size_redirect _ isTarget]
    · rw [if_neg isCall]

theorem refl (targets : Nat → Token) (instructions : List Instruction) :
    CallsRedirected [] targets instructions instructions := by
  refine ⟨?_, rfl, ?_⟩
  · intro position member
    cases member
  · intro index instruction found
    rw [if_neg List.not_mem_nil]
    exact found

theorem eq_of_nil (redirected : CallsRedirected [] targets before after) : after = before := by
  apply List.ext_getElem?
  intro index
  rw [redirected.getElem?_eq]
  cases before[index]? with
  | none => rfl
  | some instruction => rw [Option.map_some, if_neg List.not_mem_nil]

/-- An instruction put in front and left alone moves the positions by one. -/
theorem cons_keep {instruction : Instruction}
    (redirected : CallsRedirected positions (fun index => targets (index + 1)) before after) :
    CallsRedirected (positions.map (· + 1)) targets (instruction :: before)
      (instruction :: after) := by
  refine ⟨?_, congrArg (· + 1) redirected.length_eq, ?_⟩
  · intro position member
    obtain ⟨index, isCall, rfl⟩ := List.mem_map.mp member
    exact redirected.areCalls index isCall
  · intro position found atPosition
    cases position with
    | zero => simpa using atPosition
    | succ index => simpa using redirected.instruction_at index found atPosition

/-- A call put in front and redirected takes the first position. -/
theorem cons_redirect {instruction : Instruction} {operand : Token}
    (isTarget : instruction.callee? = some operand)
    (redirected : CallsRedirected positions (fun index => targets (index + 1)) before after) :
    CallsRedirected (0 :: positions.map (· + 1)) targets (instruction :: before)
      (instruction.redirect (targets 0) :: after) := by
  refine ⟨?_, congrArg (· + 1) redirected.length_eq, ?_⟩
  · intro position member
    rcases List.mem_cons.mp member with isFirst | later
    · subst isFirst
      exact ⟨instruction, operand, rfl, isTarget⟩
    · obtain ⟨index, isCall, rfl⟩ := List.mem_map.mp later
      exact redirected.areCalls index isCall
  · intro position found atPosition
    cases position with
    | zero =>
      cases atPosition
      simp [Instruction.redirect]
    | succ index => simpa using redirected.instruction_at index found atPosition

end CallsRedirected

theorem totalSize_eq_of_map_size {before after : List Instruction}
    (sizes : after.map Instruction.size = before.map Instruction.size) :
    totalSize after = totalSize before := by
  have folded (instructions : List Instruction) :
      totalSize instructions = (instructions.map Instruction.size).foldr (· + ·) 0 :=
    List.foldr_map.symm
  rw [folded, folded, sizes]

theorem totalSize_take_eq_of_map_size {before after : List Instruction} (index : Nat)
    (sizes : after.map Instruction.size = before.map Instruction.size) :
    totalSize (after.take index) = totalSize (before.take index) := by
  apply totalSize_eq_of_map_size
  rw [List.map_take, List.map_take, sizes]

/-- Streams of equally sized instructions have the same byte at every place that no differing
instruction takes. -/
theorem getElem?_flatMap_encode_eq {before after : List Instruction} {place : Nat}
    (sizes : after.map Instruction.size = before.map Instruction.size)
    (outside : ∀ index instruction, before[index]? = some instruction →
      after[index]? ≠ some instruction →
      ¬ (totalSize (before.take index) ≤ place ∧
        place < totalSize (before.take index) + instruction.size)) :
    (after.flatMap Instruction.encode)[place]? = (before.flatMap Instruction.encode)[place]? := by
  induction before generalizing after place with
  | nil =>
    rw [List.map_nil, List.map_eq_nil_iff] at sizes
    rw [sizes]
  | cons first rest ih =>
    obtain ⟨newFirst, newRest, rfl, firstSize, restSizes⟩ := List.map_eq_cons_iff.mp sizes
    have newLength := newFirst.length_encode.trans firstSize
    have oldLength := first.length_encode
    rw [List.flatMap_cons, List.flatMap_cons]
    by_cases inFirst : place < first.size
    · have same : newFirst = first := by
        by_cases same : newFirst = first
        · exact same
        · have differs : (newFirst :: newRest)[0]? ≠ some first :=
            fun equal => same (Option.some.inj equal)
          exact absurd ⟨Nat.zero_le _, by rw [List.take_zero]; simpa [totalSize] using inFirst⟩
            (outside 0 first rfl differs)
      rw [same, List.getElem?_append_left (by omega), List.getElem?_append_left (by omega)]
    · rw [List.getElem?_append_right (by omega), List.getElem?_append_right (by omega), newLength,
        oldLength]
      apply ih restSizes
      intro index instruction found differs
      have shifted := outside (index + 1) instruction found differs
      rw [List.take_succ_cons, totalSize_cons] at shifted
      omega

/-! ## Bodies -/

/-- The five bytes of a call that may be redirected. -/
theorem Instruction.size_of_callee? {instruction : Instruction} {operand : Token}
    (isTarget : instruction.callee? = some operand) : instruction.size = 5 := by
  obtain ⟨isCall, isToken, _⟩ := callee?_eq_some_iff.mp isTarget
  rw [size, isToken]
  rcases isCall with isCall | isCall
  · rw [isCall]
    rfl
  · rw [isCall]
    rfl

namespace MethodBody

variable {positions : List Nat} {targets : Nat → Token}

/-- The body with the instructions at several positions redirected, each to its own target. -/
def redirectEach (body : MethodBody) (positions : List Nat) (targets : Nat → Token) : MethodBody :=
  positions.foldl (fun body position => body.redirectAt position (targets position)) body

theorem redirectEach_cons (body : MethodBody) (position : Nat) (positions : List Nat)
    (targets : Nat → Token) :
    body.redirectEach (position :: positions) targets =
      (body.redirectAt position (targets position)).redirectEach positions targets :=
  rfl

theorem redirectEach_eq (body : MethodBody) :
    body.redirectEach positions targets =
      { body with instructions := (body.redirectEach positions targets).instructions } := by
  induction positions generalizing body with
  | nil => rfl
  | cons position positions ih =>
    rw [redirectEach_cons, ih]
    rfl

theorem length_instructions_redirectEach (body : MethodBody) :
    (body.redirectEach positions targets).instructions.length = body.instructions.length := by
  induction positions generalizing body with
  | nil => rfl
  | cons position positions ih =>
    rw [redirectEach_cons, ih, redirectAt, List.length_modify]

theorem getElem?_instructions_redirectEach (body : MethodBody) (index : Nat) :
    (body.redirectEach positions targets).instructions[index]? =
      body.instructions[index]?.map fun instruction =>
        if index ∈ positions then instruction.redirect (targets index) else instruction := by
  induction positions generalizing body with
  | nil => simp [redirectEach]
  | cons position positions ih =>
    rw [redirectEach_cons, ih, redirectAt, List.getElem?_modify]
    cases body.instructions[index]? with
    | none => rfl
    | some instruction =>
      by_cases same : position = index
      · subst same
        by_cases again : position ∈ positions
        · simp [again, Instruction.redirect]
        · simp [again]
      · simp [same, Ne.symm same]

/-- Redirecting calls one after the other redirects exactly them. -/
theorem callsRedirected_redirectEach {body : MethodBody}
    (areCalls : ∀ position ∈ positions, ∃ instruction operand,
      body.instructions[position]? = some instruction ∧ instruction.callee? = some operand) :
    CallsRedirected positions targets body.instructions
      (body.redirectEach positions targets).instructions := by
  refine ⟨areCalls, length_instructions_redirectEach body, ?_⟩
  intro index instruction found
  rw [getElem?_instructions_redirectEach, found]
  rfl

/-- The places of the bytes of the calls at some positions in an encoded body. -/
def Covers (body : MethodBody) (positions : List Nat) (place : Nat) : Prop :=
  ∃ position ∈ positions, ∃ instruction, body.instructions[position]? = some instruction ∧
    body.header.size + instruction.offset.toNat ≤ place ∧
    place < body.header.size + instruction.offset.toNat + 5

/-- How `changed`, the bytes of a redirection of `body`, relate to the bytes of `body`. -/
structure Redirection (positions : List Nat) (targets : Nat → Token) (body : MethodBody)
    (original changed : List UInt8) : Prop where
  length_eq : changed.length = original.length
  outside : ∀ place, ¬ body.Covers positions place → changed[place]? = original[place]?
  decodes : ∃ redirected, MethodBody.decode changed = .ok redirected ∧
    redirected.header = body.header ∧ redirected.trailer = body.trailer ∧
    CallsRedirected positions targets body.instructions redirected.instructions

theorem WellFormed.redirected {body : MethodBody} {instructions : List Instruction}
    (wellFormed : body.WellFormed)
    (redirected : CallsRedirected positions targets body.instructions instructions) :
    WellFormed { body with instructions } := by
  refine ⟨wellFormed.header, ?_, ?_⟩
  · intro changed member
    obtain ⟨index, found⟩ := List.mem_iff_getElem?.mp member
    rw [redirected.getElem?_eq] at found
    obtain ⟨instruction, original, rfl⟩ := Option.map_eq_some_iff.mp found
    by_cases isCall : index ∈ positions
    · rw [if_pos isCall]
      rfl
    · rw [if_neg isCall]
      exact wellFormed.shaped instruction (List.mem_of_getElem? original)
  · intro index changed found
    rw [totalSize_take_eq_of_map_size index redirected.map_size_eq]
    rw [redirected.getElem?_eq] at found
    obtain ⟨instruction, original, rfl⟩ := Option.map_eq_some_iff.mp found
    rw [← wellFormed.placed index instruction original]
    by_cases isCall : index ∈ positions
    · rw [if_pos isCall]
      rfl
    · rw [if_neg isCall]

/-- The code keeps its byte at every place that no redirected call takes. -/
theorem getElem?_code_eq {body : MethodBody} {instructions : List Instruction} {place : Nat}
    (wellFormed : body.WellFormed)
    (redirected : CallsRedirected positions targets body.instructions instructions)
    (notCovered : ¬ body.Covers positions (body.header.size + place)) :
    (code { body with instructions })[place]? = body.code[place]? := by
  apply getElem?_flatMap_encode_eq redirected.map_size_eq
  intro index instruction found differs inside
  by_cases isCall : index ∈ positions
  · obtain ⟨call, operand, foundCall, isTarget⟩ := redirected.areCalls index isCall
    cases found.symm.trans foundCall
    rw [Instruction.size_of_callee? isTarget, ← wellFormed.placed index instruction found] at inside
    exact notCovered ⟨index, isCall, instruction, found, by omega, by omega⟩
  · rw [redirected.instruction_at index instruction found, if_neg isCall] at differs
    exact differs rfl

/-- Every redirection of a decoded body can be encoded. -/
theorem exists_redirection {bytes : List UInt8} {body : MethodBody}
    {instructions : List Instruction} (decoded : MethodBody.decode bytes = .ok body)
    (redirected : CallsRedirected positions targets body.instructions instructions) :
    ∃ changed, MethodBody.encode { body with instructions } = .ok changed ∧
      Redirection positions targets body bytes changed := by
  obtain ⟨wellFormed, encoded⟩ := decode_eq_ok_iff.mp decoded
  obtain ⟨headerBytes, headerEncoded, rfl⟩ := encode_eq_ok_iff.mp encoded
  have sizes := redirected.map_size_eq
  have sameSize : codeSize { body with instructions } = body.codeSize :=
    totalSize_eq_of_map_size sizes
  have sameLength : (code { body with instructions }).length = body.code.length := by
    rw [length_code, length_code, sameSize]
  have changedEncoded : MethodBody.encode { body with instructions } =
      .ok (headerBytes ++ (code { body with instructions } ++ body.trailer)) := by
    refine encode_eq_ok_iff.mpr ⟨headerBytes, ?_, rfl⟩
    rw [sameSize]
    exact headerEncoded
  refine ⟨_, changedEncoded, ?_, ?_, ?_⟩
  · simp only [List.length_append, sameLength]
  · intro place notCovered
    have headerLength := MethodHeader.length_of_encode headerEncoded
    by_cases inHeader : place < headerBytes.length
    · rw [List.getElem?_append_left inHeader, List.getElem?_append_left inHeader]
    · obtain ⟨inside, rfl⟩ := Nat.exists_eq_add_of_le (Nat.le_of_not_lt inHeader)
      rw [headerLength] at notCovered
      have sameCode := getElem?_code_eq wellFormed redirected notCovered
      rw [List.getElem?_append_right (Nat.le_add_right _ _),
        List.getElem?_append_right (Nat.le_add_right _ _), Nat.add_sub_cancel_left]
      by_cases inCode : inside < body.code.length
      · rw [List.getElem?_append_left inCode, List.getElem?_append_left (sameLength ▸ inCode),
          sameCode]
      · rw [List.getElem?_append_right (Nat.le_of_not_lt inCode),
          List.getElem?_append_right (sameLength ▸ Nat.le_of_not_lt inCode), sameLength]
  · exact ⟨_, decode_eq_ok_iff.mpr ⟨wellFormed.redirected redirected, changedEncoded⟩, rfl, rfl,
      redirected⟩

end MethodBody

end Detour.Body
