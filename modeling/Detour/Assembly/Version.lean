import Detour.Text.Blank
import Detour.Text.Digits
import Detour.Text.Fields

/-!
# Assembly versions

A version has four parts of sixteen bits. Its text may leave out parts from the end, which are then
zero, and may put white space around a part and one plus sign before it.
-/

namespace Detour.Assembly

/-- A four-part version, ordered by the first part that differs. -/
structure Version where
  major : UInt16
  minor : UInt16
  build : UInt16
  revision : UInt16
  deriving DecidableEq, Repr, Inhabited

inductive VersionError where
  | tooManyParts
  | notANumber
  deriving DecidableEq, Repr, Inhabited

def VersionError.message : VersionError → String
  | tooManyParts => "version has more than four parts"
  | notANumber => "version part is not a number"

namespace Version

def zero : Version := ⟨0, 0, 0, 0⟩

/-- The parts from the most significant one. -/
def parts (version : Version) : List UInt16 :=
  [version.major, version.minor, version.build, version.revision]

/-- The version with the given leading parts and zeros behind them. -/
def ofParts (parts : List UInt16) : Version :=
  ⟨parts.getD 0 0, parts.getD 1 0, parts.getD 2 0, parts.getD 3 0⟩

def compare (left right : Version) : Ordering :=
  (Ord.compare left.major right.major).then <|
    (Ord.compare left.minor right.minor).then <|
      (Ord.compare left.build right.build).then <|
        Ord.compare left.revision right.revision

instance : Ord Version := ⟨compare⟩

/-- The four parts with points between them. -/
def render (version : Version) : String :=
  version.major.toNat.repr ++ "." ++ version.minor.toNat.repr ++ "." ++
    version.build.toNat.repr ++ "." ++ version.revision.toNat.repr

/-- The number that a text states without white space: at least one digit, after at most one plus
sign, with a value of sixteen bits. -/
def number? (text : List Char) : Option UInt16 :=
  let digits := match text with
    | '+' :: rest => rest
    | _ => text
  if digits.isEmpty || !digits.all Text.isDigit || Text.natOfDigits digits ≥ UInt16.size then
    none
  else
    some (UInt16.ofNat (Text.natOfDigits digits))

/-- Reads parts from the left, of which there may be `room` at most. A part too many is refused
before it is read. -/
def readParts : Nat → List (List Char) → Except VersionError (List UInt16)
  | _, [] => .ok []
  | 0, _ :: _ => .error .tooManyParts
  | room + 1, part :: rest =>
    match number? (Text.trim part) with
    | none => .error .notANumber
    | some value => (readParts room rest).map (value :: ·)

def parse (text : List Char) : Except VersionError Version :=
  (readParts 4 (text.splitOn '.')).map ofParts

theorem toList_render (version : Version) :
    version.render.toList =
      Nat.toDigits 10 version.major.toNat ++ '.' :: (Nat.toDigits 10 version.minor.toNat ++
        '.' :: (Nat.toDigits 10 version.build.toNat ++
          '.' :: Nat.toDigits 10 version.revision.toNat)) := by
  simp [render]

theorem not_mem_render {c : Char} (noDigit : Text.isDigit c = false) (noPoint : c ≠ '.')
    (version : Version) : c ∉ version.render.toList := by
  have noPart (part : UInt16) : c ∉ Nat.toDigits 10 part.toNat :=
    Text.not_mem_toDigits noDigit part.toNat
  simp [toList_render, noPart, noPoint]

theorem render_injective : Function.Injective render := by
  intro left right same
  have noPoint (part : UInt16) : '.' ∉ Nat.toDigits 10 part.toNat :=
    Text.not_mem_toDigits (by decide) part.toNat
  have part_inj {part other : UInt16}
      (sameDigits : Nat.toDigits 10 part.toNat = Nat.toDigits 10 other.toNat) : part = other :=
    UInt16.toNat_inj.mp (Text.toDigits_injective sameDigits)
  have chars := congrArg String.toList same
  rw [toList_render, toList_render] at chars
  obtain ⟨major, chars⟩ := (Text.append_separator_inj (noPoint _) (noPoint _)).mp chars
  obtain ⟨minor, chars⟩ := (Text.append_separator_inj (noPoint _) (noPoint _)).mp chars
  obtain ⟨build, revision⟩ := (Text.append_separator_inj (noPoint _) (noPoint _)).mp chars
  cases left
  cases right
  rw [mk.injEq]
  exact ⟨part_inj major, part_inj minor, part_inj build, part_inj revision⟩

end Version

end Detour.Assembly
