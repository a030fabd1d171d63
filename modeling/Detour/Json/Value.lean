import Detour.Json.Number
import Detour.Json.RawText

/-!
# JSON values

A value keeps the place of the first fault of its text, so that a reader who stops before it never
sees it. A sequence of items or members ends where it is closed or where the text breaks off.
-/

namespace Detour.Json

mutual

/-- A value, or the fault that stands in the place of one. -/
inductive Value where
  | null
  | bool (value : Bool)
  | number (parts : NumberText)
  | text (raw : RawText)
  | array (items : Items)
  | object (members : Members)
  | broken (fault : Fault)

inductive Items where
  | closed
  | broken (fault : Fault)
  | item (value : Value) (rest : Items)

/-- The members of an object, in order and with repeated keys. -/
inductive Members where
  | closed
  | broken (fault : Fault)
  | member (key : RawText) (value : Value) (rest : Members)

end

mutual

/-- The first fault of a value that is skipped. -/
def Value.fault? : Value → Option Fault
  | .null | .bool _ | .number _ => none
  | .text raw => raw.ending
  | .array items => items.fault?
  | .object members => members.fault?
  | .broken fault => some fault

def Items.fault? : Items → Option Fault
  | .closed => none
  | .broken fault => some fault
  | .item value rest =>
    match value.fault? with
    | some fault => some fault
    | none => rest.fault?

def Members.fault? : Members → Option Fault
  | .closed => none
  | .broken fault => some fault
  | .member key value rest =>
    match key.ending with
    | some fault => some fault
    | none =>
      match value.fault? with
      | some fault => some fault
      | none => rest.fault?

end

def isBlank (c : Char) : Bool :=
  c == ' ' || c == '\t' || c == '\n' || c == '\r'

def skipBlanks (text : List Char) : List Char :=
  text.dropWhile isBlank

/-- A value that is written as a word, of which `word` is still to come. -/
def Value.readWord (value : Value) : List Char → List Char → Value × List Char
  | [], rest => (value, rest)
  | _ :: _, [] => (.broken .truncated, [])
  | expected :: word, c :: rest =>
    if c = expected then value.readWord word rest else (.broken .malformed, [])

def Value.readNumber (text : List Char) : Value × List Char :=
  match NumberText.read text with
  | .ok (parts, rest) => (.number parts, rest)
  | .error fault => (.broken fault, [])

mutual

/-- The value at the front of a text and the rest behind it. Behind a fault there is no rest. Of two
nested calls at least one takes a character, so that `fuel` need not exceed twice the length. -/
def Value.read : Nat → List Char → Value × List Char
  | 0, _ => (.broken .truncated, [])
  | fuel + 1, text =>
    match skipBlanks text with
    | [] => (.broken .truncated, [])
    | 'n' :: rest => Value.null.readWord ['u', 'l', 'l'] rest
    | 't' :: rest => (Value.bool true).readWord ['r', 'u', 'e'] rest
    | 'f' :: rest => (Value.bool false).readWord ['a', 'l', 's', 'e'] rest
    | '"' :: rest =>
      let (raw, rest) := RawText.read rest
      (.text raw, rest)
    | '[' :: rest =>
      match skipBlanks rest with
      | ']' :: rest => (.array .closed, rest)
      | rest =>
        let (items, rest) := Items.read fuel rest
        (.array items, rest)
    | '\x7b' :: rest =>
      match skipBlanks rest with
      | '\x7d' :: rest => (.object .closed, rest)
      | rest =>
        let (members, rest) := Members.read fuel rest
        (.object members, rest)
    | c :: rest =>
      if c = '-' || Text.isDigit c then Value.readNumber (c :: rest) else (.broken .malformed, [])

/-- An item at the front of a text, with the items behind it. -/
def Items.read : Nat → List Char → Items × List Char
  | 0, _ => (.broken .truncated, [])
  | fuel + 1, text =>
    let (value, rest) := Value.read fuel text
    match skipBlanks rest with
    | ',' :: rest =>
      let (items, rest) := Items.read fuel rest
      (.item value items, rest)
    | ']' :: rest => (.item value .closed, rest)
    | rest => (.item value (.broken (Fault.ofRest .truncated rest)), [])

/-- A member at the front of a text, with the members behind it. -/
def Members.read : Nat → List Char → Members × List Char
  | 0, _ => (.broken .truncated, [])
  | fuel + 1, text =>
    match skipBlanks text with
    | '"' :: rest =>
      let (key, rest) := RawText.read rest
      match skipBlanks rest with
      | ':' :: rest =>
        let (value, rest) := Value.read fuel rest
        match skipBlanks rest with
        | ',' :: rest =>
          let (members, rest) := Members.read fuel rest
          (.member key value members, rest)
        | '\x7d' :: rest => (.member key value .closed, rest)
        | rest => (.member key value (.broken (Fault.ofRest .truncated rest)), [])
      | rest => (.member key (.broken (Fault.ofRest .truncated rest)) .closed, [])
    | rest => (.broken (Fault.ofRest .truncated rest), [])

end

/-- The value that a whole text begins with, and the rest behind it. -/
def Value.parse (text : List Char) : Value × List Char :=
  Value.read (2 * text.length + 2) text

end Detour.Json
