/-!
# Hexadecimal text

Numbers and byte strings are shown in lower-case hexadecimal. A number has either a fixed count of
digits or as few as it needs; a byte always has two. Reading back a byte string accepts digits of
either case and nothing else, and gives the bytes that were written.
-/

namespace Detour.Hex

/-- The lower-case digit of a value below sixteen. -/
def digit (value : Nat) : Char :=
  Char.ofNat (if value < 10 then '0'.toNat + value else 'a'.toNat + (value - 10))

/-- The value of a digit of either case. -/
def digitValue? (c : Char) : Option Nat :=
  if '0' ≤ c ∧ c ≤ '9' then some (c.toNat - '0'.toNat)
  else if 'a' ≤ c ∧ c ≤ 'f' then some (c.toNat - 'a'.toNat + 10)
  else if 'A' ≤ c ∧ c ≤ 'F' then some (c.toNat - 'A'.toNat + 10)
  else none

/-- The `width` low digits of a number, most significant first. -/
def fixedDigits : Nat → Nat → List Char
  | 0, _ => []
  | width + 1, n => fixedDigits width (n / 16) ++ [digit (n % 16)]

/-- A number with exactly `width` digits after the mark `0x`. -/
def fixed (width n : Nat) : String :=
  "0x" ++ String.ofList (fixedDigits width n)

/-- The digits of a number without leading zeros. -/
def minimalDigits (n : Nat) : List Char :=
  Nat.toDigits 16 n

/-- A number without leading zeros, after the mark `0x`. -/
def minimal (n : Nat) : String :=
  "0x" ++ String.ofList (minimalDigits n)

/-- The two digits of each byte, in order. -/
def encodeChars : List UInt8 → List Char
  | [] => []
  | byte :: rest => digit (byte.toNat / 16) :: digit (byte.toNat % 16) :: encodeChars rest

def encode (bytes : List UInt8) : String :=
  String.ofList (encodeChars bytes)

/-- Reads a text of digit pairs; an odd count or any other character is refused. -/
def decode? : List Char → Option (List UInt8)
  | [] => some []
  | [_] => none
  | high :: low :: rest => do
    let high ← digitValue? high
    let low ← digitValue? low
    let bytes ← decode? rest
    return UInt8.ofNat (16 * high + low) :: bytes

theorem digitValue?_digit {value : Nat} (small : value < 16) :
    digitValue? (digit value) = some value := by
  have every : ∀ index : Fin 16, digitValue? (digit index.val) = some index.val := by decide
  exact every ⟨value, small⟩

theorem length_encodeChars (bytes : List UInt8) :
    (encodeChars bytes).length = 2 * bytes.length := by
  induction bytes with
  | nil => rfl
  | cons byte rest ih =>
    rw [encodeChars, List.length_cons, List.length_cons, ih, List.length_cons]
    omega

theorem decode?_encodeChars (bytes : List UInt8) : decode? (encodeChars bytes) = some bytes := by
  induction bytes with
  | nil => rfl
  | cons byte rest ih =>
    have bound := byte.toNat_lt
    have high : byte.toNat / 16 < 16 := by omega
    have low : byte.toNat % 16 < 16 := by omega
    have value : UInt8.ofNat (16 * (byte.toNat / 16) + byte.toNat % 16) = byte := by
      rw [Nat.div_add_mod, UInt8.ofNat_toNat]
    rw [encodeChars, decode?, digitValue?_digit high, digitValue?_digit low, ih]
    exact congrArg (fun first => some (first :: rest)) value

theorem encodeChars_injective : Function.Injective encodeChars := by
  intro left right same
  have read := congrArg decode? same
  rw [decode?_encodeChars, decode?_encodeChars] at read
  exact Option.some.inj read

theorem not_mem_encodeChars {c : Char} (noDigit : digitValue? c = none) (bytes : List UInt8) :
    c ∉ encodeChars bytes := by
  have differs {value : Nat} (small : value < 16) : c ≠ digit value := by
    intro same
    rw [same, digitValue?_digit small] at noDigit
    cases noDigit
  induction bytes with
  | nil => exact List.not_mem_nil
  | cons byte rest ih =>
    have bound := byte.toNat_lt
    intro member
    rcases List.mem_cons.mp member with isHigh | behind
    · exact differs (by omega) isHigh
    · rcases List.mem_cons.mp behind with isLow | inRest
      · exact differs (by omega) isLow
      · exact ih inRest

end Detour.Hex
