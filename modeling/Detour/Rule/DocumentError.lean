import Detour.Json.Value
import Detour.Rule.Wrapper

/-!
# Faults of catalog documents

A document is refused because its text is not JSON or because its content describes no catalog.
-/

namespace Detour.Rule

open Detour.Json

/-- What stands where something else is expected. -/
inductive Found where
  | null
  | bool (value : Bool)
  | integer (value : Int)
  | float (value : Float)
  | text (value : String)
  | array
  | object

/-- What a place of a document calls for. -/
inductive Expected where
  | sequence
  | text
  | byte
  | integration
  | replacement
  | pattern
  | wrapper
  deriving DecidableEq, Repr, Inhabited

inductive ContentError where
  /-- A value of the wrong type. -/
  | wrongType (found : Found) (expected : Expected)
  /-- An integer that is no byte. -/
  | notAByte (value : Int)
  | missingField (name : String)
  | duplicateField (name : String)
  /-- An array that stands for a record ends before a required field. -/
  | missingItem (index : Nat) (expected : Expected)
  /-- A complete definition that describes no wrapper. -/
  | definition (error : DefinitionError)

inductive DocumentError where
  | malformed
  | truncated
  | content (error : ContentError)

def Found.phrase : Found → String
  | null => "null"
  | bool value => "boolean `" ++ (if value then "true" else "false") ++ "`"
  | integer value => "integer `" ++ value.repr ++ "`"
  | float value => "floating point `" ++ renderFloat value ++ "`"
  | text value => "string " ++ Text.quoted value
  | array => "sequence"
  | object => "map"

namespace Expected

def phrase : Expected → String
  | sequence => "a sequence"
  | text => "a string"
  | byte => "u8"
  | integration => "struct Integration"
  | replacement => "struct MethodReplacement"
  | pattern => "struct MethodPattern"
  | wrapper => "struct WrapperDef"

def fieldCount : Expected → Nat
  | integration => 2
  | replacement => 3
  | pattern => 3
  | wrapper => 4
  | _ => 0

end Expected

def ContentError.message : ContentError → String
  | wrongType found expected => "invalid type: " ++ found.phrase ++ ", expected " ++ expected.phrase
  | notAByte value =>
    "invalid value: " ++ (Found.integer value).phrase ++ ", expected " ++ Expected.byte.phrase
  | missingField name => "missing field `" ++ name ++ "`"
  | duplicateField name => "duplicate field `" ++ name ++ "`"
  | missingItem index expected =>
    "invalid length " ++ index.repr ++ ", expected " ++ expected.phrase ++ " with " ++
      expected.fieldCount.repr ++ " elements"
  | definition error => error.message

def DocumentError.message : DocumentError → String
  | malformed => "the text is not JSON"
  | truncated => "the text ends too early"
  | content error => error.message

/-- The fault of a text that is read for its content. -/
def DocumentError.ofFault (fault : Fault) : DocumentError :=
  match fault.whenRead with
  | .malformed => .malformed
  | _ => .truncated

/-- The fault of a text that is skipped. -/
def DocumentError.ofSkippedFault (fault : Fault) : DocumentError :=
  match fault.whenSkipped with
  | .malformed => .malformed
  | _ => .truncated

end Detour.Rule
