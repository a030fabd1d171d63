import Detour.Text.Blank

/-!
# Trimmed texts

A text is trimmed if neither end of it is white space. Trimming gives a trimmed text, and it leaves
exactly the trimmed texts as they are. It does not see white space that is put around a text, and
what it takes off is nothing else.
-/

namespace Detour.Text

/-- Neither end of the text is white space. -/
structure IsTrimmed (text : List Char) : Prop where
  head : ∀ c ∈ text.head?, isBlank c = false
  last : ∀ c ∈ text.getLast?, isBlank c = false

variable {text left right : List Char}

theorem trimLeft_eq_self (head : ∀ c ∈ text.head?, isBlank c = false) : trimLeft text = text := by
  cases text with
  | nil => rfl
  | cons c rest =>
    have notBlank : ¬ isBlank c = true := by simp [head c rfl]
    exact List.dropWhile_cons_of_neg notBlank

theorem trimRight_eq_self (last : ∀ c ∈ text.getLast?, isBlank c = false) :
    trimRight text = text := by
  have reversed : trimLeft text.reverse = text.reverse := by
    apply trimLeft_eq_self
    rw [List.head?_reverse]
    exact last
  change (trimLeft text.reverse).reverse = text
  rw [reversed, List.reverse_reverse]

theorem IsTrimmed.trim_eq (trimmed : IsTrimmed text) : trim text = text := by
  rw [trim, trimLeft_eq_self trimmed.head, trimRight_eq_self trimmed.last]

theorem not_blank_of_mem_head?_trimLeft (text : List Char) {c : Char}
    (first : c ∈ (trimLeft text).head?) : isBlank c = false := by
  have stopped := List.head?_dropWhile_not isBlank text
  rw [show (text.dropWhile isBlank).head? = some c from first] at stopped
  exact stopped

theorem isTrimmed_trim (text : List Char) : IsTrimmed (trim text) where
  head c first := by
    -- What is taken off the right end leaves the first character in its place.
    have isPrefix : trimRight (trimLeft text) <+: trimLeft text := by
      apply List.reverse_suffix.mp
      rw [trimRight, List.reverse_reverse]
      exact List.dropWhile_suffix isBlank
    obtain ⟨behind, whole⟩ := isPrefix
    apply not_blank_of_mem_head?_trimLeft text
    rw [← whole, List.head?_append, show (trimRight (trimLeft text)).head? = some c from first]
    rfl
  last c final := by
    apply not_blank_of_mem_head?_trimLeft (trimLeft text).reverse
    rw [trim, trimRight, List.getLast?_reverse] at final
    exact final

/-- Trimming leaves the trimmed texts as they are, and no others. -/
theorem trim_eq_self_iff : trim text = text ↔ IsTrimmed text := by
  constructor
  · intro same
    rw [← same]
    exact isTrimmed_trim text
  · exact IsTrimmed.trim_eq

theorem trim_cons_of_blank {c : Char} (blank : isBlank c = true) (text : List Char) :
    trim (c :: text) = trim text := by
  rw [trim, trim, trimLeft, List.dropWhile_cons_of_pos blank, trimLeft]

theorem isTrimmed_append (leftTrimmed : IsTrimmed left) (rightTrimmed : IsTrimmed right) :
    IsTrimmed (left ++ right) where
  head c first := by
    rw [List.head?_append, Option.mem_def, Option.or_eq_some_iff] at first
    rcases first with inLeft | ⟨_, inRight⟩
    · exact leftTrimmed.head c inLeft
    · exact rightTrimmed.head c inRight
  last c final := by
    rw [List.getLast?_append, Option.mem_def, Option.or_eq_some_iff] at final
    rcases final with inRight | ⟨_, inLeft⟩
    · exact rightTrimmed.last c inRight
    · exact leftTrimmed.last c inLeft

theorem isTrimmed_of_noBlank (noBlank : ∀ c ∈ text, isBlank c = false) : IsTrimmed text where
  head c first := noBlank c (List.mem_of_mem_head? first)
  last c final := noBlank c (List.mem_of_mem_getLast? final)

/-! ## White space around a text -/

/-- The text is white space from end to end. -/
def IsGap (text : List Char) : Prop :=
  ∀ c ∈ text, isBlank c = true

variable {front back : List Char}

theorem isGap_nil : IsGap [] := by
  intro c member
  cases member

theorem trimLeft_gap_append (gap : IsGap front) (text : List Char) :
    trimLeft (front ++ text) = trimLeft text :=
  List.dropWhile_append_of_pos gap

theorem IsGap.trimLeft_eq (gap : IsGap text) : trimLeft text = [] := by
  have emptied := trimLeft_gap_append gap []
  rw [List.append_nil] at emptied
  exact emptied

theorem trimRight_append_gap (gap : IsGap back) (text : List Char) :
    trimRight (text ++ back) = trimRight text := by
  have reversedGap : IsGap back.reverse := fun c member => gap c (List.mem_reverse.mp member)
  change (trimLeft (text ++ back).reverse).reverse = (trimLeft text.reverse).reverse
  rw [List.reverse_append, trimLeft_gap_append reversedGap]

/-- White space around a text does not matter. -/
theorem trim_between_gaps (frontGap : IsGap front) (backGap : IsGap back) (text : List Char) :
    trim (front ++ text ++ back) = trim text := by
  unfold trim
  rw [List.append_assoc, trimLeft_gap_append frontGap]
  by_cases empty : trimLeft text = []
  · -- The gap behind a text of white space is taken off from the left as well.
    have whole : trimLeft (text ++ back) = trimLeft back := by
      unfold trimLeft at empty ⊢
      rw [List.dropWhile_append, empty]
      rfl
    rw [whole, backGap.trimLeft_eq, empty]
  · have kept : trimLeft (text ++ back) = trimLeft text ++ back := by
      unfold trimLeft at empty ⊢
      rw [List.dropWhile_append, if_neg (by simp [empty])]
    rw [kept, trimRight_append_gap backGap]

theorem IsGap.trim_eq (gap : IsGap text) : trim text = [] := by
  rw [trim, gap.trimLeft_eq]
  rfl

/-- A text is what trimming leaves of it, with white space around. -/
theorem exists_gaps (text : List Char) :
    ∃ front back, IsGap front ∧ IsGap back ∧ text = front ++ trim text ++ back := by
  refine ⟨text.takeWhile isBlank, ((trimLeft text).reverse.takeWhile isBlank).reverse, ?_, ?_, ?_⟩
  · intro c member
    exact List.all_eq_true.mp List.all_takeWhile c member
  · intro c member
    exact List.all_eq_true.mp List.all_takeWhile c (List.mem_reverse.mp member)
  · have atRight : trimRight (trimLeft text) ++
        ((trimLeft text).reverse.takeWhile isBlank).reverse = trimLeft text := by
      rw [trimRight, ← List.reverse_append, List.takeWhile_append_dropWhile, List.reverse_reverse]
    rw [trim, List.append_assoc, atRight]
    exact List.takeWhile_append_dropWhile.symm

/-- The texts differ at most in the white space around them. -/
def SameBetweenGaps (text other : List Char) : Prop :=
  ∃ core front back otherFront otherBack, IsGap front ∧ IsGap back ∧ IsGap otherFront ∧
    IsGap otherBack ∧ text = front ++ core ++ back ∧ other = otherFront ++ core ++ otherBack

/-- Trimming makes the same of two texts exactly if they differ in nothing else. -/
theorem sameBetweenGaps_iff {other : List Char} :
    SameBetweenGaps text other ↔ trim text = trim other := by
  constructor
  · rintro ⟨core, front, back, otherFront, otherBack, frontGap, backGap, otherFrontGap,
      otherBackGap, rfl, rfl⟩
    rw [trim_between_gaps frontGap backGap, trim_between_gaps otherFrontGap otherBackGap]
  · intro same
    obtain ⟨front, back, frontGap, backGap, whole⟩ := exists_gaps text
    obtain ⟨otherFront, otherBack, otherFrontGap, otherBackGap, otherWhole⟩ := exists_gaps other
    rw [← same] at otherWhole
    exact ⟨trim text, front, back, otherFront, otherBack, frontGap, backGap, otherFrontGap,
      otherBackGap, whole, otherWhole⟩

theorem mem_trim_iff {c : Char} (visible : isBlank c = false) : c ∈ trim text ↔ c ∈ text := by
  constructor
  · exact mem_of_mem_trim
  · intro member
    obtain ⟨front, back, frontGap, backGap, whole⟩ := exists_gaps text
    have outside {gap : List Char} (isGap : IsGap gap) : c ∉ gap := by
      intro inGap
      rw [isGap c inGap] at visible
      cases visible
    rw [whole, List.mem_append, List.mem_append] at member
    rcases member with (inFront | inside) | inBack
    · exact absurd inFront (outside frontGap)
    · exact inside
    · exact absurd inBack (outside backGap)

end Detour.Text
