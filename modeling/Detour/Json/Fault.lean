/-!
# Faults of JSON texts

Reading stops at the first fault of the text. What kind of fault it is may depend on whether the
value is read for its content or only skipped.
-/

namespace Detour.Json

/-- Where a text stops being JSON. -/
inductive Fault where
  /-- A character that cannot stand in its place. -/
  | malformed
  /-- The text ends inside a document. -/
  | truncated
  /-- The text ends inside a number. A skipped number is then malformed. -/
  | cutNumber
  deriving DecidableEq, Repr, Inhabited

namespace Fault

/-- The fault of a missing part: `atEnd` if the text is used up, and malformed otherwise. -/
def ofRest (atEnd : Fault) : List Char → Fault
  | [] => atEnd
  | _ :: _ => .malformed

/-- The fault as it is found by reading for content. -/
def whenRead : Fault → Fault
  | cutNumber => truncated
  | fault => fault

/-- The fault as it is found by skipping. -/
def whenSkipped : Fault → Fault
  | cutNumber => malformed
  | fault => fault

end Fault

end Detour.Json
