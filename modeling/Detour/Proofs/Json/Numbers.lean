import Detour.Json.Number
import Detour.Proofs.Sequencing
import Mathlib.Data.List.TakeDrop

/-!
# Written numbers

The whole part of a number has no leading zero, and fraction and exponent are there or not. Reading
stops at the first character that cannot continue the number, so that a number is read back from any
text that it does not run into. Whole numbers in plain digits are read as the integers they are.
-/

namespace Detour.Json

open Detour.Text

/-- At least one digit, and nothing else. -/
structure IsDigitRun (digits : List Char) : Prop where
  something : digits ≠ []
  all : ∀ c ∈ digits, isDigit c = true

/-- The text does not go on as a number. -/
def EndsNumber (rest : List Char) : Prop :=
  ∀ c ∈ rest.head?, isDigit c = false ∧ c ≠ '.' ∧ c ≠ 'e' ∧ c ≠ 'E'

namespace NumberText

/-! ## Spelling -/

inductive FractionSpelledBy : Option (List Char) → List Char → Prop where
  | absent : FractionSpelledBy none []
  | point {digits : List Char} (run : IsDigitRun digits) :
      FractionSpelledBy (some digits) ('.' :: digits)

inductive ExponentSpelledBy : Option (Bool × List Char) → List Char → Prop where
  | absent : ExponentSpelledBy none []
  | plain {mark : Char} {digits : List Char} (isMark : mark = 'e' ∨ mark = 'E')
      (run : IsDigitRun digits) : ExponentSpelledBy (some (false, digits)) (mark :: digits)
  | plus {mark : Char} {digits : List Char} (isMark : mark = 'e' ∨ mark = 'E')
      (run : IsDigitRun digits) : ExponentSpelledBy (some (false, digits)) (mark :: '+' :: digits)
  | minus {mark : Char} {digits : List Char} (isMark : mark = 'e' ∨ mark = 'E')
      (run : IsDigitRun digits) : ExponentSpelledBy (some (true, digits)) (mark :: '-' :: digits)

/-- The characters that spell a number. -/
structure SpelledBy (parts : NumberText) (chars : List Char) : Prop where
  run : IsDigitRun parts.whole
  noLeadingZero : parts.whole.head? = some '0' → parts.whole = ['0']
  chars_eq : ∃ fraction exponent, FractionSpelledBy parts.fraction fraction ∧
    ExponentSpelledBy parts.exponent exponent ∧
    chars = (if parts.isNegative then ['-'] else []) ++ (parts.whole ++ (fraction ++ exponent))

end NumberText

/-! ## Runs of digits -/

section Runs

variable {digits rest : List Char}

theorem IsDigitRun.span_eq (run : IsDigitRun digits) (ends : ∀ c ∈ rest.head?, isDigit c = false) :
    (digits ++ rest).span isDigit = (digits, rest) := by
  have behind : rest.takeWhile isDigit = [] ∧ rest.dropWhile isDigit = rest := by
    cases rest with
    | nil => exact ⟨rfl, rfl⟩
    | cons c more =>
      have noDigit : ¬ isDigit c = true := by simp [ends c rfl]
      exact ⟨List.takeWhile_cons_of_neg noDigit, List.dropWhile_cons_of_neg noDigit⟩
  rw [List.span_eq_takeWhile_dropWhile, List.takeWhile_append_of_pos run.all,
    List.dropWhile_append_of_pos run.all, behind.1, behind.2, List.append_nil]

theorem isDigitRun_of_all (something : digits ≠ []) (all : digits.all isDigit = true) :
    IsDigitRun digits :=
  ⟨something, List.all_eq_true.mp all⟩

theorem IsDigitRun.exists_cons (run : IsDigitRun digits) :
    ∃ first others, digits = first :: others ∧ isDigit first = true := by
  cases digits with
  | nil => exact absurd rfl run.something
  | cons first others => exact ⟨first, others, rfl, run.all first List.mem_cons_self⟩

end Runs

namespace NumberText

variable {chars rest : List Char}

/-! ## Reading -/

theorem ExponentSpelledBy.ends {exponent : Option (Bool × List Char)}
    (spelled : ExponentSpelledBy exponent chars) (ends : EndsNumber rest) :
    ∀ c ∈ (chars ++ rest).head?, isDigit c = false ∧ c ≠ '.' := by
  have marks {mark : Char} (isMark : mark = 'e' ∨ mark = 'E') :
      isDigit mark = false ∧ mark ≠ '.' := by
    rcases isMark with rfl | rfl <;> decide
  intro c isHead
  cases spelled with
  | absent =>
    obtain ⟨noDigit, noPoint, -⟩ := ends c isHead
    exact ⟨noDigit, noPoint⟩
  | plain isMark run =>
    cases isHead
    exact marks isMark
  | plus isMark run =>
    cases isHead
    exact marks isMark
  | minus isMark run =>
    cases isHead
    exact marks isMark

theorem FractionSpelledBy.ends {fraction : Option (List Char)}
    (spelled : FractionSpelledBy fraction chars)
    (ends : ∀ c ∈ rest.head?, isDigit c = false ∧ c ≠ '.') :
    ∀ c ∈ (chars ++ rest).head?, isDigit c = false := by
  intro c isHead
  cases spelled with
  | absent => exact (ends c isHead).1
  | point run =>
    cases isHead
    decide

theorem IsDigitRun.readDigits_eq {digits : List Char} (run : IsDigitRun digits)
    (ends : ∀ c ∈ rest.head?, isDigit c = false) :
    readDigits (digits ++ rest) = .ok (digits, rest) := by
  have something : digits.isEmpty = false := by simp [run.something]
  rw [readDigits, run.span_eq ends]
  simp [something]

theorem IsDigitRun.signs_eq {digits : List Char} (run : IsDigitRun digits) (rest : List Char) :
    readSign (digits ++ rest) = (false, digits ++ rest) ∧
      readExponentSign (digits ++ rest) = (false, digits ++ rest) := by
  obtain ⟨first, others, rfl, digit⟩ := run.exists_cons
  have notMinus : first ≠ '-' := by
    rintro rfl
    cases digit
  have notPlus : first ≠ '+' := by
    rintro rfl
    cases digit
  rw [List.cons_append]
  constructor
  · rw [readSign]
    simp [notMinus]
  · rw [readExponentSign]
    · simp [notMinus]
    · simp [notPlus]

theorem FractionSpelledBy.readFraction_eq {fraction : Option (List Char)}
    (spelled : FractionSpelledBy fraction chars)
    (ends : ∀ c ∈ rest.head?, isDigit c = false ∧ c ≠ '.') :
    readFraction (chars ++ rest) = .ok (fraction, rest) := by
  cases spelled with
  | absent =>
    cases rest with
    | nil => rfl
    | cons c more =>
      rw [List.nil_append, readFraction]
      · rfl
      · simp [(ends c rfl).2]
  | point run =>
    rw [List.cons_append, readFraction,
      IsDigitRun.readDigits_eq run fun c isHead => (ends c isHead).1]
    rfl

theorem readExponent_of_mark {mark : Char} (isMark : mark = 'e' ∨ mark = 'E') {isDown : Bool}
    {text digits : List Char} (sign : readExponentSign text = (isDown, digits ++ rest))
    (run : IsDigitRun digits) (ends : ∀ c ∈ rest.head?, isDigit c = false) :
    readExponent (mark :: text) = .ok (some (isDown, digits), rest) := by
  have marks : (mark == 'e' || mark == 'E') = true := by simp [isMark]
  rw [readExponent, if_pos marks, sign]
  dsimp only
  rw [IsDigitRun.readDigits_eq run ends]
  rfl

theorem ExponentSpelledBy.readExponent_eq {exponent : Option (Bool × List Char)}
    (spelled : ExponentSpelledBy exponent chars) (ends : EndsNumber rest) :
    readExponent (chars ++ rest) = .ok (exponent, rest) := by
  have behind : ∀ c ∈ rest.head?, isDigit c = false := fun c isHead => (ends c isHead).1
  cases spelled with
  | absent =>
    cases rest with
    | nil => rfl
    | cons c more =>
      obtain ⟨-, -, notLower, notUpper⟩ := ends c rfl
      have noMark : ¬ (c == 'e' || c == 'E') = true := by simp [notLower, notUpper]
      rw [List.nil_append, readExponent, if_neg noMark]
      rfl
  | plain isMark run =>
    exact readExponent_of_mark isMark (IsDigitRun.signs_eq run rest).2 run behind
  | plus isMark run => exact readExponent_of_mark isMark rfl run behind
  | minus isMark run => exact readExponent_of_mark isMark rfl run behind

/-- A number is read back from every text that begins with it and does not go on as a number. -/
theorem SpelledBy.read_eq {parts : NumberText} (spelled : parts.SpelledBy chars)
    (ends : EndsNumber rest) : read (chars ++ rest) = .ok (parts, rest) := by
  obtain ⟨isNegative, whole, fraction, exponent⟩ := parts
  obtain ⟨run, noLeadingZero, fractionChars, exponentChars, fractionSpelled, exponentSpelled,
    rfl⟩ := spelled
  dsimp only at run noLeadingZero fractionSpelled exponentSpelled ⊢
  have exponentEnds := exponentSpelled.ends ends
  have sign : readSign ((if isNegative then ['-'] else []) ++
      (whole ++ (fractionChars ++ exponentChars)) ++ rest) =
        (isNegative, whole ++ (fractionChars ++ (exponentChars ++ rest))) := by
    simp only [List.append_assoc]
    cases isNegative with
    | false => exact (IsDigitRun.signs_eq run _).1
    | true => rfl
  have accepted : ¬ (whole.length > 1 && whole.head? == some '0') = true := by
    intro refused
    simp only [Bool.and_eq_true, decide_eq_true_eq, beq_iff_eq] at refused
    obtain ⟨long, isZero⟩ := refused
    rw [noLeadingZero isZero] at long
    exact absurd long (by decide)
  rw [read, sign]
  dsimp only
  rw [Except.bind_of_ok (IsDigitRun.readDigits_eq run (fractionSpelled.ends exponentEnds))]
  dsimp only
  rw [if_neg accepted, Except.bind_of_ok (fractionSpelled.readFraction_eq exponentEnds),
    Except.bind_of_ok (exponentSpelled.readExponent_eq ends)]
  rfl

/-- Numbers begin with a minus sign or a digit. -/
theorem SpelledBy.exists_cons {parts : NumberText} (spelled : parts.SpelledBy chars) :
    ∃ c more, chars = c :: more ∧ (c = '-' ∨ isDigit c = true) := by
  obtain ⟨run, -, fraction, exponent, -, -, rfl⟩ := spelled
  obtain ⟨first, others, isWhole, digit⟩ := run.exists_cons
  rw [isWhole]
  cases parts.isNegative with
  | false => exact ⟨first, _, rfl, .inr digit⟩
  | true => exact ⟨'-', _, rfl, .inl rfl⟩

/-! ## Plain whole numbers -/

/-- The number in plain digits. -/
def ofNat (n : Nat) : NumberText :=
  ⟨false, Nat.toDigits 10 n, none, none⟩

theorem le_foldl_digits (digits : List Char) (value : Nat) :
    value ≤ digits.foldl (fun value c => 10 * value + digitValue c) value := by
  induction digits generalizing value with
  | nil => exact Nat.le_refl value
  | cons c rest ih =>
    have further := ih (10 * value + digitValue c)
    rw [List.foldl_cons]
    omega

/-- Digits that fit all go into the significand. -/
theorem foldl_pushWhole (digits : List Char) (value : Nat)
    (fits : digits.foldl (fun value c => 10 * value + digitValue c) value < UInt64.size) :
    digits.foldl (fun (significand : Significand) c => significand.pushWhole (digitValue c))
        ⟨value, 0, false⟩ =
      ⟨digits.foldl (fun value c => 10 * value + digitValue c) value, 0, false⟩ := by
  induction digits generalizing value with
  | nil => rfl
  | cons c rest ih =>
    rw [List.foldl_cons] at fits
    have small : 10 * value + digitValue c < UInt64.size :=
      Nat.lt_of_le_of_lt (le_foldl_digits rest _) fits
    have pushed : Significand.pushWhole ⟨value, 0, false⟩ (digitValue c) =
        ⟨10 * value + digitValue c, 0, false⟩ := by
      rw [Significand.pushWhole, Significand.extend?]
      simp [Nat.not_le.mpr small]
    rw [List.foldl_cons, List.foldl_cons, pushed]
    exact ih _ fits

theorem value_ofNat {n : Nat} (fits : n < UInt64.size) : (ofNat n).value = .ok (.integer n) := by
  have digits : (Nat.toDigits 10 n).foldl (fun value c => 10 * value + digitValue c) 0 = n :=
    natOfDigits_toDigits n
  have significand : (ofNat n).wholeSignificand = ⟨n, 0, false⟩ := by
    rw [wholeSignificand, ofNat, foldl_pushWhole _ 0 (by rwa [digits]), digits]
  have isInteger : (ofNat n).integer? = some (n : Int) := by
    rw [integer?, significand]
    rfl
  rw [value, isInteger]

end NumberText

end Detour.Json
