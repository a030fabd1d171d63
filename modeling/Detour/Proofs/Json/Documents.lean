import Detour.Json.Value
import Detour.Proofs.Json.Numbers
import Detour.Proofs.Json.Strings
import Mathlib.Data.List.DropRight

/-!
# Written documents

The grammar of JSON texts, beside the reader and independent of it: which characters spell a value,
with white space wherever it may stand. A value that is spelled has no fault, and the reader finds
it in every text that begins with it, whatever follows, as long as a number is not run into.
-/

namespace Detour.Json

open Detour.Text (isDigit)

/-- White space, if anything. -/
def AreBlanks (text : List Char) : Prop :=
  ∀ c ∈ text, isBlank c = true

theorem areBlanks_nil : AreBlanks [] := by
  intro c member
  cases member

mutual

/-- The characters that spell a value, with no white space around it. -/
inductive Value.SpelledBy : Value → List Char → Prop where
  | null : Value.SpelledBy .null ['n', 'u', 'l', 'l']
  | yes : Value.SpelledBy (.bool true) ['t', 'r', 'u', 'e']
  | no : Value.SpelledBy (.bool false) ['f', 'a', 'l', 's', 'e']
  | number {parts : NumberText} {chars : List Char} (spelled : parts.SpelledBy chars) :
      Value.SpelledBy (.number parts) chars
  | text {raw : RawText} {chars : List Char} (spelled : raw.SpelledBy chars) :
      Value.SpelledBy (.text raw) ('"' :: chars)
  | emptyArray {blanks : List Char} (areBlanks : AreBlanks blanks) :
      Value.SpelledBy (.array .closed) ('[' :: (blanks ++ [']']))
  | array {items : Items} {chars : List Char} (spelled : Items.SpelledBy items chars) :
      Value.SpelledBy (.array items) ('[' :: chars)
  | emptyObject {blanks : List Char} (areBlanks : AreBlanks blanks) :
      Value.SpelledBy (.object .closed) ('\x7b' :: (blanks ++ ['\x7d']))
  | object {members : Members} {chars : List Char} (spelled : Members.SpelledBy members chars) :
      Value.SpelledBy (.object members) ('\x7b' :: chars)

/-- The characters that spell items, at least one, to the bracket that closes them. -/
inductive Items.SpelledBy : Items → List Char → Prop where
  | last {value : Value} {before chars behind : List Char} (blanksBefore : AreBlanks before)
      (spelled : Value.SpelledBy value chars) (blanksBehind : AreBlanks behind) :
      Items.SpelledBy (.item value .closed) (before ++ (chars ++ (behind ++ [']'])))
  | more {value : Value} {rest : Items} {before chars behind others : List Char}
      (blanksBefore : AreBlanks before) (spelled : Value.SpelledBy value chars)
      (blanksBehind : AreBlanks behind) (restSpelled : Items.SpelledBy rest others) :
      Items.SpelledBy (.item value rest) (before ++ (chars ++ (behind ++ ',' :: others)))

/-- The characters that spell members, at least one, to the brace that closes them. -/
inductive Members.SpelledBy : Members → List Char → Prop where
  | last {key : RawText} {value : Value}
      {beforeKey keyChars behindKey before chars behind : List Char}
      (blanksBeforeKey : AreBlanks beforeKey) (keySpelled : key.SpelledBy keyChars)
      (blanksBehindKey : AreBlanks behindKey) (blanksBefore : AreBlanks before)
      (spelled : Value.SpelledBy value chars) (blanksBehind : AreBlanks behind) :
      Members.SpelledBy (.member key value .closed)
        (beforeKey ++ '"' :: (keyChars ++ (behindKey ++ ':' ::
          (before ++ (chars ++ (behind ++ ['\x7d']))))))
  | more {key : RawText} {value : Value} {rest : Members}
      {beforeKey keyChars behindKey before chars behind others : List Char}
      (blanksBeforeKey : AreBlanks beforeKey) (keySpelled : key.SpelledBy keyChars)
      (blanksBehindKey : AreBlanks behindKey) (blanksBefore : AreBlanks before)
      (spelled : Value.SpelledBy value chars) (blanksBehind : AreBlanks behind)
      (restSpelled : Members.SpelledBy rest others) :
      Members.SpelledBy (.member key value rest)
        (beforeKey ++ '"' :: (keyChars ++ (behindKey ++ ':' ::
          (before ++ (chars ++ (behind ++ ',' :: others))))))

end

/-- The text is the value with nothing but white space around it. -/
def Spells (text : String) (value : Value) : Prop :=
  ∃ before chars behind, AreBlanks before ∧ value.SpelledBy chars ∧ AreBlanks behind ∧
    text.toList = before ++ (chars ++ behind)

/-! ## No faults -/

mutual

theorem Value.SpelledBy.fault?_eq {value : Value} {chars : List Char}
    (spelled : value.SpelledBy chars) : value.fault? = none := by
  cases spelled with
  | null => rfl
  | yes => rfl
  | no => rfl
  | number spelled => rfl
  | text spelled => exact spelled.ending_eq
  | emptyArray areBlanks => rfl
  | array spelled => exact spelled.fault?_eq
  | emptyObject areBlanks => rfl
  | object spelled => exact spelled.fault?_eq

theorem Items.SpelledBy.fault?_eq {items : Items} {chars : List Char}
    (spelled : items.SpelledBy chars) : items.fault? = none := by
  cases spelled with
  | last blanksBefore spelled blanksBehind =>
    rw [Items.fault?, spelled.fault?_eq]
    rfl
  | more blanksBefore spelled blanksBehind restSpelled =>
    rw [Items.fault?, spelled.fault?_eq]
    exact restSpelled.fault?_eq

theorem Members.SpelledBy.fault?_eq {members : Members} {chars : List Char}
    (spelled : members.SpelledBy chars) : members.fault? = none := by
  cases spelled with
  | last _ keySpelled _ _ spelled _ =>
    rw [Members.fault?, keySpelled.ending_eq, spelled.fault?_eq]
    rfl
  | more _ keySpelled _ _ spelled _ restSpelled =>
    rw [Members.fault?, keySpelled.ending_eq, spelled.fault?_eq]
    exact restSpelled.fault?_eq

end

/-! ## White space -/

section Blanks

variable {blanks text rest : List Char} {c : Char}

theorem skipBlanks_append (areBlanks : AreBlanks blanks) (text : List Char) :
    skipBlanks (blanks ++ text) = skipBlanks text :=
  List.dropWhile_append_of_pos areBlanks

theorem skipBlanks_cons (notBlank : isBlank c = false) (text : List Char) :
    skipBlanks (c :: text) = c :: text :=
  List.dropWhile_cons_of_neg (by simp [notBlank])

theorem skipBlanks_append_cons (areBlanks : AreBlanks blanks) (notBlank : isBlank c = false)
    (text : List Char) : skipBlanks (blanks ++ c :: text) = c :: text := by
  rw [skipBlanks_append areBlanks, skipBlanks_cons notBlank]

theorem skipBlanks_idem (text : List Char) : skipBlanks (skipBlanks text) = skipBlanks text :=
  List.dropWhile_idempotent isBlank text

/-- White space and the marks behind a value end a number. -/
theorem endsNumber_append (areBlanks : AreBlanks blanks) (ends : EndsNumber rest) :
    EndsNumber (blanks ++ rest) := by
  have every : ∀ c, isBlank c = true → isDigit c = false ∧ c ≠ '.' ∧ c ≠ 'e' ∧ c ≠ 'E' := by
    intro c blank
    simp only [isBlank, Bool.or_eq_true, beq_iff_eq] at blank
    rcases blank with ((rfl | rfl) | rfl) | rfl <;> decide
  intro c isHead
  cases blanks with
  | nil => exact ends c isHead
  | cons first more =>
    cases isHead
    exact every c (areBlanks c List.mem_cons_self)

theorem endsNumber_nil : EndsNumber [] := by
  intro c isHead
  cases isHead

theorem endsNumber_mark {mark : Char} (isMark : mark ∈ [',', ']', '\x7d']) (text : List Char) :
    EndsNumber (mark :: text) := by
  simp only [List.mem_cons, List.not_mem_nil, or_false] at isMark
  intro c isHead
  cases isHead
  rcases isMark with rfl | rfl | rfl <;> decide

end Blanks

/-! ## Reading -/

theorem Value.read_skipBlanks (fuel : Nat) (text : List Char) :
    Value.read fuel (skipBlanks text) = Value.read fuel text := by
  cases fuel with
  | zero => rfl
  | succ fuel => rw [Value.read, Value.read, skipBlanks_idem]

theorem Value.read_append {blanks : List Char} (areBlanks : AreBlanks blanks) (fuel : Nat)
    (text : List Char) : Value.read fuel (blanks ++ text) = Value.read fuel text := by
  rw [← Value.read_skipBlanks, skipBlanks_append areBlanks, Value.read_skipBlanks]

theorem Items.read_skipBlanks (fuel : Nat) (text : List Char) :
    Items.read fuel (skipBlanks text) = Items.read fuel text := by
  cases fuel with
  | zero => rfl
  | succ fuel => rw [Items.read, Items.read, Value.read_skipBlanks]

theorem Members.read_skipBlanks (fuel : Nat) (text : List Char) :
    Members.read fuel (skipBlanks text) = Members.read fuel text := by
  cases fuel with
  | zero => rfl
  | succ fuel => rw [Members.read, Members.read, skipBlanks_idem]

section Steps

variable {fuel : Nat} {text behind more : List Char} {value : Value}

theorem not_mem_marks {c : Char} (starts : c = '-' ∨ isDigit c = true) :
    c ∉ ['n', 't', 'f', '"', '[', ']', '\x7b', ' ', '\t', '\n', '\r'] := by
  have marks : (['n', 't', 'f', '"', '[', ']', '\x7b', ' ', '\t', '\n', '\r'].all
      fun mark => mark != '-' && !isDigit mark) = true := by decide
  intro member
  have unlike := List.all_eq_true.mp marks c member
  simp only [Bool.and_eq_true, bne_iff_ne, Bool.not_eq_true'] at unlike
  obtain ⟨notMinus, notDigit⟩ := unlike
  rcases starts with isMinus | digit
  · exact notMinus isMinus
  · rw [notDigit] at digit
    cases digit

theorem not_blank_of_starts {c : Char} (starts : c = '-' ∨ isDigit c = true) :
    isBlank c = false := by
  have noMark := not_mem_marks starts
  simp only [List.mem_cons, not_or] at noMark
  simp [isBlank, noMark]

theorem Value.read_number {c : Char} (starts : c = '-' ∨ isDigit c = true) :
    Value.read (fuel + 1) (c :: text) = Value.readNumber (c :: text) := by
  have noMark := not_mem_marks starts
  have accepted : (decide (c = '-') || isDigit c) = true := by simpa using starts
  rw [Value.read, skipBlanks_cons (not_blank_of_starts starts)]
  split
  case h_8 same =>
    cases same
    exact if_pos accepted
  all_goals simp_all

theorem Value.read_array {c : Char} (first : skipBlanks text = c :: more) (notClosed : c ≠ ']') :
    Value.read (fuel + 1) ('[' :: text) =
      (.array (Items.read fuel text).1, (Items.read fuel text).2) := by
  rw [← Items.read_skipBlanks fuel text, first, Value.read, skipBlanks_cons (by decide)]
  simp only [first]
  split
  · rename_i closed
    cases closed
    exact absurd rfl notClosed
  · rfl

theorem Value.read_object (first : skipBlanks text = '"' :: more) :
    Value.read (fuel + 1) ('\x7b' :: text) =
      (.object (Members.read fuel text).1, (Members.read fuel text).2) := by
  rw [← Members.read_skipBlanks fuel text, first, Value.read, skipBlanks_cons (by decide)]
  simp only [first]
  rfl

theorem Items.read_last (valueRead : Value.read fuel text = (value, behind))
    (bracket : skipBlanks behind = ']' :: more) :
    Items.read (fuel + 1) text = (.item value .closed, more) := by
  simp only [Items.read, valueRead, bracket]

theorem Items.read_more (valueRead : Value.read fuel text = (value, behind))
    (comma : skipBlanks behind = ',' :: more) :
    Items.read (fuel + 1) text =
      (.item value (Items.read fuel more).1, (Items.read fuel more).2) := by
  simp only [Items.read, valueRead, comma]

variable {key : RawText} {keyText behindKey beforeValue : List Char}

theorem Members.read_last (quote : skipBlanks text = '"' :: keyText)
    (keyRead : RawText.read keyText = (key, behindKey))
    (colon : skipBlanks behindKey = ':' :: beforeValue)
    (valueRead : Value.read fuel beforeValue = (value, behind))
    (brace : skipBlanks behind = '\x7d' :: more) :
    Members.read (fuel + 1) text = (.member key value .closed, more) := by
  simp only [Members.read, quote, keyRead, colon, valueRead, brace]

theorem Members.read_more (quote : skipBlanks text = '"' :: keyText)
    (keyRead : RawText.read keyText = (key, behindKey))
    (colon : skipBlanks behindKey = ':' :: beforeValue)
    (valueRead : Value.read fuel beforeValue = (value, behind))
    (comma : skipBlanks behind = ',' :: more) :
    Members.read (fuel + 1) text =
      (.member key value (Members.read fuel more).1, (Members.read fuel more).2) := by
  simp only [Members.read, quote, keyRead, colon, valueRead, comma]

end Steps

/-- Values begin with neither white space nor a closing bracket. -/
theorem Value.SpelledBy.exists_cons {value : Value} {chars : List Char}
    (spelled : value.SpelledBy chars) :
    ∃ c more, chars = c :: more ∧ isBlank c = false ∧ c ≠ ']' := by
  cases spelled with
  | number spelled =>
    obtain ⟨c, more, rfl, starts⟩ := spelled.exists_cons
    have noMark := not_mem_marks starts
    simp only [List.mem_cons, not_or] at noMark
    exact ⟨c, more, rfl, not_blank_of_starts starts, by simp [noMark]⟩
  | _ => exact ⟨_, _, rfl, rfl, by decide⟩

theorem Items.SpelledBy.exists_cons {items : Items} {chars : List Char}
    (spelled : items.SpelledBy chars) (rest : List Char) :
    ∃ c more, skipBlanks (chars ++ rest) = c :: more ∧ c ≠ ']' := by
  cases spelled with
  | last blanksBefore spelled _ =>
    obtain ⟨c, more, rfl, notBlank, notClosed⟩ := spelled.exists_cons
    rw [List.append_assoc, skipBlanks_append blanksBefore]
    exact ⟨c, _, skipBlanks_cons notBlank _, notClosed⟩
  | more blanksBefore spelled _ _ =>
    obtain ⟨c, more, rfl, notBlank, notClosed⟩ := spelled.exists_cons
    rw [List.append_assoc, skipBlanks_append blanksBefore]
    exact ⟨c, _, skipBlanks_cons notBlank _, notClosed⟩

theorem Members.SpelledBy.exists_cons {members : Members} {chars : List Char}
    (spelled : members.SpelledBy chars) (rest : List Char) :
    ∃ more, skipBlanks (chars ++ rest) = '"' :: more := by
  cases spelled with
  | last blanksBeforeKey _ _ _ _ _ =>
    rw [List.append_assoc]
    exact ⟨_, skipBlanks_append_cons blanksBeforeKey rfl _⟩
  | more blanksBeforeKey _ _ _ _ _ _ =>
    rw [List.append_assoc]
    exact ⟨_, skipBlanks_append_cons blanksBeforeKey rfl _⟩

/-- A value is found between white space if it is found without. -/
theorem Value.read_within {value : Value} {fuel : Nat} {before chars behind : List Char}
    {mark : Char} (blanksBefore : AreBlanks before) (blanksBehind : AreBlanks behind)
    (isMark : mark ∈ [',', ']', '\x7d'])
    (found : ∀ {rest}, EndsNumber rest → Value.read fuel (chars ++ rest) = (value, rest))
    (rest : List Char) :
    Value.read fuel (before ++ (chars ++ (behind ++ mark :: rest))) =
      (value, behind ++ mark :: rest) := by
  rw [Value.read_append blanksBefore]
  exact found (endsNumber_append blanksBehind (endsNumber_mark isMark rest))

mutual

/-- The reader finds what was spelled, and stops behind it. -/
theorem Value.SpelledBy.read_eq {value : Value} {chars : List Char}
    (spelled : value.SpelledBy chars) {fuel : Nat} (enough : chars.length ≤ fuel)
    {rest : List Char} (ends : EndsNumber rest) :
    Value.read fuel (chars ++ rest) = (value, rest) := by
  obtain ⟨first, more, rfl, notBlank, -⟩ := spelled.exists_cons
  obtain ⟨fuel, rfl⟩ : ∃ less, fuel = less + 1 :=
    Nat.exists_eq_succ_of_ne_zero (Nat.ne_of_gt (Nat.lt_of_lt_of_le (Nat.succ_pos _) enough))
  have enoughBehind : more.length ≤ fuel := Nat.le_of_succ_le_succ enough
  cases spelled with
  | null => rfl
  | yes => rfl
  | no => rfl
  | number spelled =>
    obtain ⟨c, others, same, starts⟩ := spelled.exists_cons
    cases same
    rw [List.cons_append, Value.read_number starts, ← List.cons_append, Value.readNumber,
      spelled.read_eq ends]
  | text spelled =>
    rw [List.cons_append, Value.read, skipBlanks_cons notBlank]
    simp only [spelled.read_eq]
  | emptyArray areBlanks =>
    have closed := skipBlanks_append_cons areBlanks (rfl : isBlank ']' = false) rest
    rw [List.cons_append, Value.read, skipBlanks_cons notBlank]
    simp only [List.append_assoc, List.singleton_append, closed]
  | array spelled =>
    obtain ⟨c, others, front, notClosed⟩ := spelled.exists_cons rest
    rw [List.cons_append, Value.read_array front notClosed, spelled.read_eq enoughBehind]
  | emptyObject areBlanks =>
    have closed := skipBlanks_append_cons areBlanks (rfl : isBlank '\x7d' = false) rest
    rw [List.cons_append, Value.read, skipBlanks_cons notBlank]
    simp only [List.append_assoc, List.singleton_append, closed]
  | object spelled =>
    obtain ⟨others, front⟩ := spelled.exists_cons rest
    rw [List.cons_append, Value.read_object front, spelled.read_eq enoughBehind]

theorem Items.SpelledBy.read_eq {items : Items} {chars : List Char}
    (spelled : items.SpelledBy chars) {fuel : Nat} (enough : chars.length ≤ fuel)
    (rest : List Char) : Items.read fuel (chars ++ rest) = (items, rest) := by
  cases spelled with
  | @last value before chars behind blanksBefore spelled blanksBehind =>
    simp only [List.length_append, List.length_singleton] at enough
    obtain ⟨fuel, rfl⟩ : ∃ less, fuel = less + 1 := Nat.exists_eq_succ_of_ne_zero (by omega)
    have valueRead := Value.read_within blanksBefore blanksBehind (by decide : ']' ∈ _)
      (spelled.read_eq (by omega : chars.length ≤ fuel)) rest
    simp only [List.append_assoc, List.singleton_append]
    exact Items.read_last valueRead (skipBlanks_append_cons blanksBehind rfl rest)
  | @more value others before chars behind otherChars blanksBefore spelled blanksBehind
      othersSpelled =>
    simp only [List.length_append, List.length_cons] at enough
    obtain ⟨fuel, rfl⟩ : ∃ less, fuel = less + 1 := Nat.exists_eq_succ_of_ne_zero (by omega)
    have valueRead := Value.read_within blanksBefore blanksBehind (by decide : ',' ∈ _)
      (spelled.read_eq (by omega : chars.length ≤ fuel)) (otherChars ++ rest)
    have othersRead := othersSpelled.read_eq (by omega : otherChars.length ≤ fuel) rest
    simp only [List.append_assoc, List.cons_append]
    rw [Items.read_more valueRead (skipBlanks_append_cons blanksBehind rfl _), othersRead]

theorem Members.SpelledBy.read_eq {members : Members} {chars : List Char}
    (spelled : members.SpelledBy chars) {fuel : Nat} (enough : chars.length ≤ fuel)
    (rest : List Char) : Members.read fuel (chars ++ rest) = (members, rest) := by
  cases spelled with
  | @last key value beforeKey keyChars behindKey before chars behind blanksBeforeKey keySpelled
      blanksBehindKey blanksBefore spelled blanksBehind =>
    simp only [List.length_append, List.length_cons] at enough
    obtain ⟨fuel, rfl⟩ : ∃ less, fuel = less + 1 := Nat.exists_eq_succ_of_ne_zero (by omega)
    have valueRead := Value.read_within blanksBefore blanksBehind (by decide : '\x7d' ∈ _)
      (spelled.read_eq (by omega : chars.length ≤ fuel)) rest
    simp only [List.append_assoc, List.cons_append, List.nil_append]
    exact Members.read_last (skipBlanks_append_cons blanksBeforeKey rfl _) (keySpelled.read_eq _)
      (skipBlanks_append_cons blanksBehindKey rfl _) valueRead
      (skipBlanks_append_cons blanksBehind rfl rest)
  | @more key value others beforeKey keyChars behindKey before chars behind otherChars
      blanksBeforeKey keySpelled blanksBehindKey blanksBefore spelled blanksBehind othersSpelled =>
    simp only [List.length_append, List.length_cons] at enough
    obtain ⟨fuel, rfl⟩ : ∃ less, fuel = less + 1 := Nat.exists_eq_succ_of_ne_zero (by omega)
    have valueRead := Value.read_within blanksBefore blanksBehind (by decide : ',' ∈ _)
      (spelled.read_eq (by omega : chars.length ≤ fuel)) (otherChars ++ rest)
    have othersRead := othersSpelled.read_eq (by omega : otherChars.length ≤ fuel) rest
    simp only [List.append_assoc, List.cons_append]
    rw [Members.read_more (skipBlanks_append_cons blanksBeforeKey rfl _) (keySpelled.read_eq _)
      (skipBlanks_append_cons blanksBehindKey rfl _) valueRead
      (skipBlanks_append_cons blanksBehind rfl _), othersRead]

end

/-- A text that spells a document is read as this document, and nothing but white space is left. -/
theorem Spells.parse_eq {text : String} {document : Value} (spells : Spells text document) :
    ∃ behind, Value.parse text.toList = (document, behind) ∧ skipBlanks behind = [] := by
  obtain ⟨before, chars, behind, blanksBefore, spelled, blanksBehind, isText⟩ := spells
  have ends : EndsNumber (behind ++ []) := endsNumber_append blanksBehind endsNumber_nil
  have nothing : skipBlanks (behind ++ []) = [] := skipBlanks_append blanksBehind []
  rw [List.append_nil] at ends nothing
  refine ⟨behind, ?_, nothing⟩
  rw [Value.parse, isText, Value.read_append blanksBefore]
  refine spelled.read_eq ?_ ends
  simp only [List.length_append]
  omega

theorem Spells.fault?_eq {text : String} {document : Value} (spells : Spells text document) :
    document.fault? = none := by
  obtain ⟨_, _, _, _, spelled, _, _⟩ := spells
  exact spelled.fault?_eq

end Detour.Json
