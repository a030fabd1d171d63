/-!
# Decimal digits

Numbers are read from the digits `0` to `9` alone; digits of other scripts do not count.
-/

namespace Detour.Text

def isDigit (c : Char) : Bool :=
  '0' ≤ c && c ≤ '9'

def digitValue (c : Char) : Nat :=
  c.toNat - '0'.toNat

def natOfDigits (digits : List Char) : Nat :=
  digits.foldl (fun value c => 10 * value + digitValue c) 0

theorem natOfDigits_toDigits (n : Nat) : natOfDigits (Nat.toDigits 10 n) = n :=
  Nat.ofDigitChars_ten_toDigits

theorem toDigits_injective : Function.Injective (Nat.toDigits 10) := by
  intro left right same
  have read := congrArg natOfDigits same
  rw [natOfDigits_toDigits, natOfDigits_toDigits] at read
  exact read

theorem not_mem_toDigits {c : Char} (noDigit : isDigit c = false) (n : Nat) :
    c ∉ Nat.toDigits 10 n := by
  intro member
  have digit : isDigit c = true := Nat.isDigit_of_mem_toDigits (by decide) (by decide) member
  rw [noDigit] at digit
  cases digit

end Detour.Text
