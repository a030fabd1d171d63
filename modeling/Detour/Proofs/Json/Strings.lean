import Detour.Json.RawText
import Mathlib.Data.List.Basic

/-!
# Written strings

A string may be written in many ways. Its characters stand for themselves or as escapes of one
letter, and every character may also be given by its 16-bit units in hexadecimal, which are a
surrogate pair above the basic plane. What is written is described without the scanner: first the
pieces that a text spells, then the string that pieces write. Scanning finds the pieces, and
decoding finds the string.
-/

namespace Detour.Json

/-! ## Spelling -/

/-- The letters of the short escapes, each with the character it stands for. -/
def escapeLetters : List (Char × Char) :=
  [('"', '"'), ('\\', '\\'), ('/', '/'), ('b', '\x08'), ('f', '\x0c'), ('n', '\n'), ('r', '\r'),
    ('t', '\t')]

/-- A hexadecimal digit of either case, with its value. -/
def IsHexDigit (c : Char) (value : Nat) : Prop :=
  "0123456789abcdef".toList[value]? = some c ∨ "0123456789ABCDEF".toList[value]? = some c

theorem IsHexDigit.digitValue?_eq {c : Char} {value : Nat} (digit : IsHexDigit c value) :
    Hex.digitValue? c = some value := by
  have every : ∀ index : Fin 16,
      Hex.digitValue? "0123456789abcdef".toList[index] = some index.val ∧
        Hex.digitValue? "0123456789ABCDEF".toList[index] = some index.val := by decide
  rcases digit with lower | upper
  · obtain ⟨small, rfl⟩ := List.getElem?_eq_some_iff.mp lower
    exact (every ⟨value, small⟩).1
  · obtain ⟨small, rfl⟩ := List.getElem?_eq_some_iff.mp upper
    exact (every ⟨value, small⟩).2

namespace RawText

/-- The characters that spell a string, from behind its opening quote to its closing one. -/
inductive SpelledBy : RawText → List Char → Prop where
  | closed : SpelledBy ⟨[], none⟩ ['"']
  | plain {raw : RawText} {chars : List Char} {c : Char} (noQuote : c ≠ '"')
      (noBackslash : c ≠ '\\') (noControl : 0x20 ≤ c.toNat) (spelled : raw.SpelledBy chars) :
      SpelledBy (raw.cons (.char c)) (c :: chars)
  | letter {raw : RawText} {chars : List Char} {letter c : Char}
      (escape : (letter, c) ∈ escapeLetters) (spelled : raw.SpelledBy chars) :
      SpelledBy (raw.cons (.char c)) ('\\' :: letter :: chars)
  | unit {raw : RawText} {chars : List Char} {a b c d : Char} {first second third fourth : Nat}
      (firstDigit : IsHexDigit a first) (secondDigit : IsHexDigit b second)
      (thirdDigit : IsHexDigit c third) (fourthDigit : IsHexDigit d fourth)
      (spelled : raw.SpelledBy chars) :
      SpelledBy (raw.cons (.codeUnit (((16 * first + second) * 16 + third) * 16 + fourth)))
        ('\\' :: 'u' :: a :: b :: c :: d :: chars)

variable {raw : RawText} {chars : List Char}

theorem SpelledBy.ending_eq (spelled : raw.SpelledBy chars) : raw.ending = none := by
  induction spelled with
  | closed => rfl
  | plain _ _ _ _ ih => exact ih
  | letter _ _ ih => exact ih
  | unit _ _ _ _ _ ih => exact ih

theorem read_plain {c : Char} (noQuote : c ≠ '"') (noBackslash : c ≠ '\\')
    (noControl : 0x20 ≤ c.toNat) (text : List Char) :
    read (c :: text) = ((read text).1.cons (.char c), (read text).2) := by
  rw [read, if_neg (Nat.not_lt.mpr noControl)]
  -- What is left says that no other case of the scanner begins with `c`.
  all_goals simp [noQuote, noBackslash]

theorem read_letter {letter c : Char} (escape : (letter, c) ∈ escapeLetters) (text : List Char) :
    read ('\\' :: letter :: text) = ((read text).1.cons (.char c), (read text).2) := by
  have every : ∀ pair ∈ escapeLetters, pair.1 ≠ 'u' ∧ escaped? pair.1 = some pair.2 := by decide
  obtain ⟨notUnit, stands⟩ := every _ escape
  rw [read, stands]
  all_goals simp [notUnit]

theorem read_unit {a b c d : Char} {value : Nat} (unit : codeUnit? a b c d = some value)
    (text : List Char) :
    read ('\\' :: 'u' :: a :: b :: c :: d :: text) =
      ((read text).1.cons (.codeUnit value), (read text).2) := by
  rw [read, unit]

/-- The scanner finds what was spelled, and stops behind it. -/
theorem SpelledBy.read_eq (spelled : raw.SpelledBy chars) (rest : List Char) :
    read (chars ++ rest) = (raw, rest) := by
  induction spelled with
  | closed => rfl
  | plain noQuote noBackslash noControl spelled ih =>
    rw [List.cons_append, read_plain noQuote noBackslash noControl, ih]
  | letter escape spelled ih =>
    rw [List.cons_append, List.cons_append, read_letter escape, ih]
  | @unit _ _ a b c d first second third fourth firstDigit secondDigit thirdDigit fourthDigit
      spelled ih =>
    have unit : codeUnit? a b c d =
        some (((16 * first + second) * 16 + third) * 16 + fourth) := by
      rw [codeUnit?, firstDigit.digitValue?_eq, secondDigit.digitValue?_eq,
        thirdDigit.digitValue?_eq, fourthDigit.digitValue?_eq]
      rfl
    simp only [List.cons_append]
    rw [read_unit unit, ih]

/-- A character that needs no escape. -/
def isPlain (c : Char) : Bool :=
  c != '"' && c != '\\' && 0x20 ≤ c.toNat

/-- The text without any escapes. -/
def plain (string : String) : RawText :=
  ⟨string.toList.map .char, none⟩

theorem spelledBy_plain {string : String} (needsNone : string.toList.all isPlain = true) :
    (plain string).SpelledBy (string.toList ++ ['"']) := by
  unfold plain
  generalize string.toList = text at needsNone
  induction text with
  | nil => exact .closed
  | cons c rest ih =>
    rw [List.all_cons, Bool.and_eq_true] at needsNone
    obtain ⟨plainFirst, plainRest⟩ := needsNone
    simp only [isPlain, Bool.and_eq_true, bne_iff_ne, decide_eq_true_eq] at plainFirst
    obtain ⟨⟨noQuote, noBackslash⟩, noControl⟩ := plainFirst
    exact .plain noQuote noBackslash noControl (ih plainRest)

end RawText

/-! ## Writing -/

/-- Pieces that write characters, each of them as a character or by its units. -/
inductive PiecesWrite : List Piece → List Char → Prop where
  | nil : PiecesWrite [] []
  | char {pieces : List Piece} {chars : List Char} (c : Char) (writes : PiecesWrite pieces chars) :
      PiecesWrite (.char c :: pieces) (c :: chars)
  | unit {pieces : List Piece} {chars : List Char} {c : Char} (basic : c.toNat < 0x10000)
      (writes : PiecesWrite pieces chars) :
      PiecesWrite (.codeUnit c.toNat :: pieces) (c :: chars)
  | pair {pieces : List Piece} {chars : List Char} {c : Char} (above : 0x10000 ≤ c.toNat)
      (writes : PiecesWrite pieces chars) :
      PiecesWrite (.codeUnit (0xD800 + (c.toNat - 0x10000) / 0x400) ::
        .codeUnit (0xDC00 + (c.toNat - 0x10000) % 0x400) :: pieces) (c :: chars)

namespace RawText

/-- The text is complete and writes the string. -/
structure Writes (raw : RawText) (string : String) : Prop where
  ending_eq : raw.ending = none
  pieces : PiecesWrite raw.pieces string.toList

/-- No character is a half of a surrogate pair. -/
theorem not_surrogate (c : Char) : isLeading c.toNat = false ∧ isTrailing c.toNat = false := by
  have valid : c.toNat < 0xD800 ∨ 0xDFFF < c.toNat := by
    rcases c.valid with low | ⟨high, -⟩
    · exact .inl low
    · exact .inr high
  simp only [isLeading, isTrailing, Bool.and_eq_false_iff, decide_eq_false_iff_not]
  omega

theorem decodePieces_unit (c : Char) (pieces : List Piece) :
    decodePieces none (.codeUnit c.toNat :: pieces) = (decodePieces none pieces).map (c :: ·) := by
  obtain ⟨notLeading, notTrailing⟩ := not_surrogate c
  cases pieces with
  | nil => simp [decodePieces, notLeading, notTrailing, Except.map]
  | cons next rest =>
    cases next with
    | char following => simp [decodePieces, notLeading, notTrailing]
    | codeUnit following => simp [decodePieces, notLeading, notTrailing]

theorem decodePieces_pair {c : Char} (above : 0x10000 ≤ c.toNat) (pieces : List Piece) :
    decodePieces none (.codeUnit (0xD800 + (c.toNat - 0x10000) / 0x400) ::
        .codeUnit (0xDC00 + (c.toNat - 0x10000) % 0x400) :: pieces) =
      (decodePieces none pieces).map (c :: ·) := by
  have valid : c.toNat < 0x110000 := by
    rcases c.valid with low | ⟨-, high⟩
    · exact Nat.lt_trans low (by decide)
    · exact high
  have leading : isLeading (0xD800 + (c.toNat - 0x10000) / 0x400) = true := by
    simp only [isLeading, Bool.and_eq_true, decide_eq_true_eq]
    omega
  have notTrailing : isTrailing (0xD800 + (c.toNat - 0x10000) / 0x400) = false := by
    simp only [isTrailing, Bool.and_eq_false_iff, decide_eq_false_iff_not]
    omega
  have trailing : isTrailing (0xDC00 + (c.toNat - 0x10000) % 0x400) = true := by
    simp only [isTrailing, Bool.and_eq_true, decide_eq_true_eq]
    omega
  have joined : joinPair (0xD800 + (c.toNat - 0x10000) / 0x400)
      (0xDC00 + (c.toNat - 0x10000) % 0x400) = c := by
    have sum : 0x10000 + (0xD800 + (c.toNat - 0x10000) / 0x400 - 0xD800) * 0x400 +
        (0xDC00 + (c.toNat - 0x10000) % 0x400 - 0xDC00) = c.toNat := by omega
    rw [joinPair, sum, Char.ofNat_toNat]
  rw [decodePieces, notTrailing, leading, trailing, joined]
  rfl

theorem decodePieces_of_write {pieces : List Piece} {chars : List Char}
    (write : PiecesWrite pieces chars) : decodePieces none pieces = .ok chars := by
  induction write with
  | nil => rfl
  | char c writes ih =>
    rw [decodePieces, ih]
    rfl
  | unit basic writes ih =>
    rw [decodePieces_unit, ih]
    rfl
  | pair above writes ih =>
    rw [decodePieces_pair above, ih]
    rfl

/-- Decoding finds the string that was written. -/
theorem Writes.decode_eq {raw : RawText} {string : String} (writes : raw.Writes string) :
    raw.decode = .ok string := by
  rw [decode, writes.ending_eq, decodePieces_of_write writes.pieces, Except.map,
    String.ofList_toList]

theorem writes_plain (string : String) : (plain string).Writes string where
  ending_eq := rfl
  pieces := by
    unfold plain
    generalize string.toList = text
    induction text with
    | nil => exact .nil
    | cons c rest ih => exact .char c ih

end RawText

end Detour.Json
