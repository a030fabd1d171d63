/-!
# Texts cut at a separator

`List.splitOn` cuts a text into its fields, at every occurrence of one character, and `cutFirst?`
cuts it at the first occurrence only. No field holds a separator, and texts with separators between
them have the fields of each of them. Two texts around a separator can be told apart if one of them
is known not to hold it.
-/

namespace Detour.Text

/-- The parts before and after the first separator, if there is one. -/
def cutFirst? (separator : Char) : List Char → Option (List Char × List Char)
  | [] => none
  | c :: rest =>
    if c = separator then
      some ([], rest)
    else
      (cutFirst? separator rest).map fun (before, after) => (c :: before, after)

/-- Whether two texts agree once the letters `A` to `Z` are taken as `a` to `z`. -/
def equalIgnoringCase (left right : List Char) : Bool :=
  left.map Char.toLower == right.map Char.toLower

/-- No field of a text holds the separator. -/
theorem not_mem_of_mem_splitOn {separator : Char} {text field : List Char}
    (isField : field ∈ text.splitOn separator) : separator ∉ field := by
  induction text generalizing field with
  | nil =>
    rw [List.mem_singleton.mp isField]
    exact List.not_mem_nil
  | cons c rest ih =>
    rw [List.splitOn_cons_eq_if_modifyHead] at isField
    by_cases isSeparator : (c == separator) = true
    · rw [if_pos isSeparator] at isField
      rcases List.mem_cons.mp isField with rfl | behind
      · exact List.not_mem_nil
      · exact ih behind
    · rw [if_neg isSeparator] at isField
      have differs : separator ≠ c := fun same => isSeparator (beq_iff_eq.mpr same.symm)
      obtain ⟨first, others, cut⟩ :=
        List.exists_cons_of_ne_nil (List.splitOn_ne_nil separator rest)
      rw [cut] at ih
      rw [cut, List.modifyHead_cons] at isField
      rcases List.mem_cons.mp isField with rfl | behind
      · intro member
        rcases List.mem_cons.mp member with same | inFirst
        · exact differs same
        · exact ih List.mem_cons_self inFirst
      · exact ih (List.mem_cons_of_mem _ behind)

/-- Texts with separators between them have the fields of each of them, also if they hold separators
of their own. -/
theorem splitOn_intercalate_eq_flatMap (separator : Char) {texts : List (List Char)}
    (something : texts ≠ []) :
    ([separator].intercalate texts).splitOn separator =
      texts.flatMap (List.splitOn separator) := by
  induction texts with
  | nil => exact absurd rfl something
  | cons text rest ih =>
    cases rest with
    | nil => rw [List.intercalate_singleton, List.flatMap_singleton]
    | cons next others =>
      rw [List.intercalate_cons_cons, List.append_assoc, List.singleton_append,
        List.splitOn_append_cons_self, ih (List.cons_ne_nil next others), ← List.flatMap_cons]

/-- A text without separators is cut off whole from in front of one. -/
theorem cutFirst?_append {separator : Char} {before : List Char} (absent : separator ∉ before)
    (after : List Char) :
    cutFirst? separator (before ++ separator :: after) = some (before, after) := by
  induction before with
  | nil => exact if_pos rfl
  | cons c rest ih =>
    have differs : c ≠ separator := fun same => absent (same ▸ List.mem_cons_self)
    have absentBehind : separator ∉ rest := fun inRest => absent (List.mem_cons_of_mem _ inRest)
    rw [List.cons_append, cutFirst?, if_neg differs, ih absentBehind]
    rfl

theorem cutFirst?_eq_none {separator : Char} {text : List Char} (absent : separator ∉ text) :
    cutFirst? separator text = none := by
  induction text with
  | nil => rfl
  | cons c rest ih =>
    have differs : c ≠ separator := fun same => absent (same ▸ List.mem_cons_self)
    have absentBehind : separator ∉ rest := fun inRest => absent (List.mem_cons_of_mem _ inRest)
    rw [cutFirst?, if_neg differs, ih absentBehind]
    rfl

theorem append_separator_inj {separator : Char} {left right leftRest rightRest : List Char}
    (absentLeft : separator ∉ left) (absentRight : separator ∉ right) :
    left ++ separator :: leftRest = right ++ separator :: rightRest ↔
      left = right ∧ leftRest = rightRest := by
  constructor
  · intro same
    have cut := congrArg (cutFirst? separator) same
    rw [cutFirst?_append absentLeft, cutFirst?_append absentRight] at cut
    exact Prod.mk.inj (Option.some.inj cut)
  · rintro ⟨rfl, rfl⟩
    rfl

/-- A text can also be cut in front of what holds no separator. -/
theorem append_separator_inj_of_rests {separator : Char} {left right leftRest rightRest : List Char}
    (absentLeft : separator ∉ leftRest) (absentRight : separator ∉ rightRest) :
    left ++ separator :: leftRest = right ++ separator :: rightRest ↔
      left = right ∧ leftRest = rightRest := by
  constructor
  · intro same
    have reversed := congrArg List.reverse same
    simp only [List.reverse_append, List.reverse_cons, List.append_assoc, List.singleton_append]
      at reversed
    obtain ⟨rests, texts⟩ := (append_separator_inj (mt List.mem_reverse.mp absentLeft)
      (mt List.mem_reverse.mp absentRight)).mp reversed
    exact ⟨List.reverse_inj.mp texts, List.reverse_inj.mp rests⟩
  · rintro ⟨rfl, rfl⟩
    rfl

/-- Two texts that are cut at separators are the same if they are cut at the same place, or else the
earlier cut of one is made up for by a separator behind it. -/
theorem append_separator_eq_iff {separator : Char} {left right leftRest rightRest : List Char} :
    left ++ separator :: leftRest = right ++ separator :: rightRest ↔
      (left = right ∧ leftRest = rightRest) ∨
      (∃ piece, left = right ++ separator :: piece ∧
        rightRest = piece ++ separator :: leftRest) ∨
      ∃ piece, right = left ++ separator :: piece ∧
        leftRest = piece ++ separator :: rightRest := by
  constructor
  · intro same
    rcases List.append_eq_append_iff.mp same with ⟨between, rightEq, rest⟩ | ⟨between, leftEq, rest⟩
    · cases between with
      | nil =>
        rw [List.append_nil] at rightEq
        exact .inl ⟨rightEq.symm, (List.cons.inj rest).2⟩
      | cons c piece =>
        obtain ⟨rfl, behind⟩ := List.cons.inj rest
        exact .inr (.inr ⟨piece, rightEq, behind⟩)
    · cases between with
      | nil =>
        rw [List.append_nil] at leftEq
        exact .inl ⟨leftEq, (List.cons.inj rest).2.symm⟩
      | cons c piece =>
        obtain ⟨rfl, behind⟩ := List.cons.inj rest
        exact .inr (.inl ⟨piece, leftEq, behind⟩)
  · rintro (⟨rfl, rfl⟩ | ⟨piece, rfl, rfl⟩ | ⟨piece, rfl, rfl⟩)
    · rfl
    · rw [List.append_assoc, List.cons_append]
    · rw [List.append_assoc, List.cons_append]

theorem mem_of_mem_cutFirst? {separator c : Char} {text before after : List Char}
    (cut : cutFirst? separator text = some (before, after)) (member : c ∈ after) : c ∈ text := by
  induction text generalizing before with
  | nil => cases cut
  | cons first rest ih =>
    unfold cutFirst? at cut
    by_cases isSeparator : first = separator
    · rw [if_pos isSeparator] at cut
      cases cut
      exact List.mem_cons_of_mem first member
    · rw [if_neg isSeparator] at cut
      obtain ⟨⟨front, back⟩, cutRest, same⟩ := Option.map_eq_some_iff.mp cut
      cases same
      exact List.mem_cons_of_mem first (ih cutRest)

end Detour.Text
