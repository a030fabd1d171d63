import Detour.Decimal.Shortest
import Detour.Json.Fault
import Detour.Text.Digits

/-!
# JSON numbers

A number without fraction and exponent is an integer if it fits 64 bits, signed or unsigned, and is
not a negative zero. Every other number is a 64-bit floating-point number: the digits that fit an
unsigned 64-bit significand, times or divided by a power of ten. A number too large to be finite is
refused.
-/

namespace Detour.Json

open Detour.Text

structure NumberText where
  isNegative : Bool
  whole : List Char
  fraction : Option (List Char)
  /-- Whether the exponent is negative, and its digits. -/
  exponent : Option (Bool × List Char)
  deriving DecidableEq, Repr

inductive Number where
  | integer (value : Int)
  | float (value : Float)

/-- The significand of a number with the power of ten that goes with it. Once a digit does not fit,
the significand is `full` and takes no more. -/
structure Significand where
  value : Nat
  power : Int
  full : Bool
  deriving DecidableEq, Repr

namespace Significand

/-- The significand with a further digit, if the result fits 64 bits. -/
def extend? (significand : Significand) (digit : Nat) : Option Nat :=
  let next := 10 * significand.value + digit
  if significand.full || next ≥ UInt64.size then none else some next

/-- Takes a digit before the point; one that does not fit still counts for the power. -/
def pushWhole (significand : Significand) (digit : Nat) : Significand :=
  match significand.extend? digit with
  | some next => { significand with value := next }
  | none => { significand with power := significand.power + 1, full := true }

/-- Takes a digit behind the point; one that does not fit is dropped. -/
def pushFraction (significand : Significand) (digit : Nat) : Significand :=
  match significand.extend? digit with
  | some next => { significand with value := next, power := significand.power - 1 }
  | none => { significand with full := true }

end Significand

def powerOfTen (power : Nat) : Float :=
  Float.ofScientific 1 false power

def greatestPower : Nat := 308

/-- A value times a power of ten; powers below the least finite one are divided out in steps, at
most `steps` of them. Nothing if the result is not finite. -/
def scale? (value : Float) (power : Int) : Nat → Option Float
  | 0 => some value
  | steps + 1 =>
    if power.natAbs ≤ greatestPower then
      if 0 ≤ power then
        let scaled := value * powerOfTen power.natAbs
        if scaled.isInf then none else some scaled
      else
        some (value / powerOfTen power.natAbs)
    else if value == 0 then
      some value
    else if 0 ≤ power then
      none
    else
      scale? (value / powerOfTen greatestPower) (power + greatestPower) steps

/-- The value of the highest of 64 bits, which holds the sign. -/
def signBit : Nat := 0x8000000000000000

namespace NumberText

/-- The digits before the point, as far as they fit. -/
def wholeSignificand (text : NumberText) : Significand :=
  text.whole.foldl (fun significand c => significand.pushWhole (digitValue c)) ⟨0, 0, false⟩

/-- All digits, as far as they fit. -/
def significand (text : NumberText) : Significand :=
  match text.fraction with
  | none => text.wholeSignificand
  | some digits =>
    digits.foldl (fun significand c => significand.pushFraction (digitValue c))
      { text.wholeSignificand with full := false }

def writtenPower (text : NumberText) : Int :=
  match text.exponent with
  | none => 0
  | some (true, digits) => -(natOfDigits digits : Int)
  | some (false, digits) => natOfDigits digits

/-- The value as a floating-point number, if it is finite. The first step that divides by the
greatest power leaves less than a second one can keep above zero, so that three steps are enough. -/
def float? (text : NumberText) : Option Float :=
  let significand := text.significand
  let magnitude := scale? (UInt64.ofNat significand.value).toFloat
    (significand.power + text.writtenPower) 4
  magnitude.map fun value => if text.isNegative then -value else value

/-- The value as an integer of 64 bits, if it has the form of one. -/
def integer? (text : NumberText) : Option Int :=
  let significand := text.wholeSignificand
  if text.fraction.isSome || text.exponent.isSome || significand.full then
    none
  else if !text.isNegative then
    some significand.value
  else if 0 < significand.value && significand.value ≤ signBit then
    some (-(significand.value : Int))
  else
    none

/-- The value of a number; one that is not finite is malformed. -/
def value (text : NumberText) : Except Fault Number :=
  match text.integer? with
  | some value => .ok (.integer value)
  | none =>
    match text.float? with
    | some value => .ok (.float value)
    | none => .error .malformed

/-- The sign at the front of a text. -/
def readSign : List Char → Bool × List Char
  | '-' :: rest => (true, rest)
  | text => (false, text)

/-- The digits at the front of a text, which has to begin with one. -/
def readDigits (text : List Char) : Except Fault (List Char × List Char) :=
  let (digits, rest) := text.span isDigit
  if digits.isEmpty then .error (Fault.ofRest .cutNumber rest) else .ok (digits, rest)

def readFraction : List Char → Except Fault (Option (List Char) × List Char)
  | '.' :: rest => do
    let (digits, rest) ← readDigits rest
    return (some digits, rest)
  | text => return (none, text)

def readExponentSign : List Char → Bool × List Char
  | '-' :: rest => (true, rest)
  | '+' :: rest => (false, rest)
  | text => (false, text)

def readExponent : List Char → Except Fault (Option (Bool × List Char) × List Char)
  | [] => return (none, [])
  | c :: rest =>
    if c == 'e' || c == 'E' then do
      let (isDown, rest) := readExponentSign rest
      let (digits, rest) ← readDigits rest
      return (some (isDown, digits), rest)
    else
      return (none, c :: rest)

/-- What can be read at the front of a text whose first character is a digit or a minus sign: a
number and the rest, or a fault. -/
def read (text : List Char) : Except Fault (NumberText × List Char) := do
  let (isNegative, text) := readSign text
  let (whole, text) ← readDigits text
  if whole.length > 1 && whole.head? == some '0' then
    throw .malformed
  let (fraction, text) ← readFraction text
  let (exponent, text) ← readExponent text
  return (⟨isNegative, whole, fraction, exponent⟩, text)

end NumberText

/-- The point of a decimal with `count` digits before it is set among the digits as long as `count`
is in this range; otherwise the exponent is written out. -/
def pointIsPlaced (count : Int) : Bool :=
  -5 < count && count ≤ 16

/-- The exponent after digits with the point behind the first, always with its sign. -/
def renderExponent (exponent : Int) : String :=
  (if exponent < 0 then "e" else "e+") ++ exponent.repr

/-- The text of digits times a power of ten. -/
def renderDecimal (digits : Nat) (power : Int) : String :=
  let text := digits.repr.toList
  let count := (text.length : Int) + power
  if pointIsPlaced count then
    if 0 ≤ power then
      String.ofList (text ++ List.replicate power.toNat '0' ++ ['.', '0'])
    else if 0 < count then
      String.ofList (text.take count.toNat ++ ['.'] ++ text.drop count.toNat)
    else
      String.ofList (['0', '.'] ++ List.replicate (-count).toNat '0' ++ text)
  else
    let exponent := renderExponent (count - 1)
    match text with
    | [] | [_] => String.ofList text ++ exponent
    | first :: rest => String.ofList (first :: '.' :: rest) ++ exponent

/-- The shortest text that reads back as a finite floating-point number. -/
def renderFloat (value : Float) : String :=
  let bits := value.toBits
  let sign := if bits.toNat < signBit then "" else "-"
  if bits.toNat % signBit = 0 then
    sign ++ "0.0"
  else
    let (digits, power) := (Decimal.Binary.ofBits bits).shortest
    sign ++ renderDecimal digits power

end Detour.Json
