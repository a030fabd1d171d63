/-!
# Method patterns

A pattern states parts of a method's identity: its assembly, its declaring type, its name. A part
that is absent or empty is left open.
-/

namespace Detour.Rule

structure MethodPattern where
  assembly : Option String
  typeName : Option String
  methodName : Option String
  deriving DecidableEq, Repr, Inhabited

namespace MethodPattern

/-- The pattern that leaves everything open. -/
def any : MethodPattern := ⟨none, none, none⟩

/-- A part of a pattern, if it is stated. -/
def stated? (part : Option String) : Option String :=
  part.filter fun text => !text.isEmpty

theorem stated?_eq_some_iff {part : Option String} {text : String} :
    stated? part = some text ↔ part = some text ∧ text ≠ "" := by
  simp [stated?, Option.filter_eq_some_iff]

theorem stated?_eq_none_iff {part : Option String} :
    stated? part = none ↔ part = none ∨ part = some "" := by
  cases part with
  | none => simp [stated?]
  | some text => simp [stated?, Option.filter]

def assembly? (pattern : MethodPattern) : Option String :=
  stated? pattern.assembly

def typeName? (pattern : MethodPattern) : Option String :=
  stated? pattern.typeName

def methodName? (pattern : MethodPattern) : Option String :=
  stated? pattern.methodName

/-- Whether a part is left open or equal to a value. -/
def partMatches (part : Option String) (value : String) : Bool :=
  match stated? part with
  | none => true
  | some expected => expected == value

def matchesAssembly (pattern : MethodPattern) (assembly : String) : Bool :=
  partMatches pattern.assembly assembly

def matchesMethod (pattern : MethodPattern) (assembly typeName methodName : String) : Bool :=
  partMatches pattern.assembly assembly && partMatches pattern.typeName typeName &&
    partMatches pattern.methodName methodName

end MethodPattern

end Detour.Rule
