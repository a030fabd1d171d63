import Detour.Json.Fault
import Detour.Text.Hex

/-!
# JSON strings

A string is scanned first and decoded later, because a skipped string may hold escapes that stand
for no character. Scanning gives the characters and the 16-bit units in order and notes the fault
that ends the string too early; decoding joins surrogate pairs.
-/

namespace Detour.Json

/-- One step of a string: a character, or the unit of a numeric escape. -/
inductive Piece where
  | char (c : Char)
  | codeUnit (value : Nat)
  deriving DecidableEq, Repr

structure RawText where
  pieces : List Piece
  /-- The fault before the closing quote, if there is one. -/
  ending : Option Fault
  deriving DecidableEq, Repr

namespace RawText

def cons (piece : Piece) (text : RawText) : RawText :=
  { text with pieces := piece :: text.pieces }

def broken (fault : Fault) : RawText :=
  ⟨[], some fault⟩

/-- The character that a one-letter escape stands for. -/
def escaped? : Char → Option Char
  | '"' => some '"'
  | '\\' => some '\\'
  | '/' => some '/'
  | 'b' => some '\x08'
  | 'f' => some '\x0c'
  | 'n' => some '\n'
  | 'r' => some '\r'
  | 't' => some '\t'
  | _ => none

/-- The unit that four hexadecimal digits state. -/
def codeUnit? (a b c d : Char) : Option Nat := do
  let a ← Hex.digitValue? a
  let b ← Hex.digitValue? b
  let c ← Hex.digitValue? c
  let d ← Hex.digitValue? d
  return ((16 * a + b) * 16 + c) * 16 + d

/-- The fault of a numeric escape whose digits are not all there: the text must end before it has
four more bytes for the escape to count as cut off. -/
def codeUnitFault (text : List Char) : Fault :=
  if (String.ofList (text.take 4)).utf8ByteSize < 4 then .truncated else .malformed

/-- Scans a string from behind its opening quote, and gives the rest behind the closing one. -/
def read : List Char → RawText × List Char
  | [] => (broken .truncated, [])
  | '"' :: rest => (⟨[], none⟩, rest)
  | ['\\'] => (broken .truncated, [])
  | '\\' :: 'u' :: a :: b :: c :: d :: rest =>
    match codeUnit? a b c d with
    | some value =>
      let (text, rest) := read rest
      (text.cons (.codeUnit value), rest)
    | none => (broken (codeUnitFault [a, b, c, d]), [])
  | '\\' :: 'u' :: rest => (broken (codeUnitFault rest), [])
  | '\\' :: c :: rest =>
    match escaped? c with
    | some c =>
      let (text, rest) := read rest
      (text.cons (.char c), rest)
    | none => (broken .malformed, [])
  | c :: rest =>
    if c.toNat < 0x20 then
      (broken .malformed, [])
    else
      let (text, rest) := read rest
      (text.cons (.char c), rest)

/-- Whether a unit is the first half of a surrogate pair. -/
def isLeading (unit : Nat) : Bool :=
  0xD800 ≤ unit && unit ≤ 0xDBFF

/-- Whether a unit is the second half of a surrogate pair. -/
def isTrailing (unit : Nat) : Bool :=
  0xDC00 ≤ unit && unit ≤ 0xDFFF

def joinPair (leading trailing : Nat) : Char :=
  Char.ofNat (0x10000 + (leading - 0xD800) * 0x400 + (trailing - 0xDC00))

/-- The characters of pieces that are followed by `ending`. A half of a pair that stands alone is
malformed, unless the text ends where the other half should come. -/
def decodePieces (ending : Option Fault) : List Piece → Except Fault (List Char)
  | [] =>
    match ending with
    | none => .ok []
    | some fault => .error fault
  | .char c :: rest => (decodePieces ending rest).map (c :: ·)
  | [.codeUnit value] =>
    if isTrailing value then
      .error .malformed
    else if isLeading value then
      .error (ending.getD .malformed)
    else
      match ending with
      | none => .ok [Char.ofNat value]
      | some fault => .error fault
  | .codeUnit value :: .codeUnit next :: rest =>
    if isTrailing value then
      .error .malformed
    else if isLeading value then
      if isTrailing next then
        (decodePieces ending rest).map (joinPair value next :: ·)
      else
        .error .malformed
    else
      (decodePieces ending (.codeUnit next :: rest)).map (Char.ofNat value :: ·)
  | .codeUnit value :: .char c :: rest =>
    if isTrailing value || isLeading value then
      .error .malformed
    else
      (decodePieces ending (.char c :: rest)).map (Char.ofNat value :: ·)

def decode (text : RawText) : Except Fault String :=
  (decodePieces text.ending text.pieces).map String.ofList

end RawText

end Detour.Json
