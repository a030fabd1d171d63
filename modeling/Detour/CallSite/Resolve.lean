import Detour.CallSite.Scan

/-!
# The method behind a call

A call operand is resolved to the declaring type and the name of the method it calls, but only if
that name is the expected one. The cheap reads come first: the operand's own name is compared before
anything is read about its parent, so that an unrelated call costs one read.
-/

namespace Detour.CallSite

open Detour.Host

structure MethodIdentity where
  typeName : String
  methodName : String
  deriving DecidableEq, Repr, Inhabited

variable {S : Type}

def currentIdentity : Scanning S MethodIdentity := do
  let scan ← get
  return ⟨scan.buffers.typeName, scan.buffers.methodName⟩

def holdsMethodName (name : String) : Scanning S Bool := do
  return (← get).buffers.methodName == name

/-- Reads the declaring type and then gives the identity in the buffers. -/
def resolveType (readType : NameRead S Unit) : Scanning S (Option MethodIdentity) := do
  Scan.readName .typeName readType
  return some (← currentIdentity)

/-- The identity of a method that the module defines, if the method has the expected name. -/
def resolveDefinition (metadata : Metadata S) (definition : Token) (expected : String) :
    Scanning S (Option MethodIdentity) := do
  let owner ← Scan.readName .methodName (metadata.methodDef definition)
  if ← holdsMethodName expected then
    resolveType (metadata.typeDef owner)
  else
    return none

/-- The identity of a referenced member with the expected name, from its parent. A parent that is
itself a method definition decides with its own name and owner; parents of other kinds name no
concrete type. -/
def resolveParent (metadata : Metadata S) (parent : Token) (expected : String) :
    Scanning S (Option MethodIdentity) :=
  match parent.kind with
  | .typeRef => resolveType (metadata.typeRef parent)
  | .typeDef => resolveType (metadata.typeDef parent)
  | .methodDef => resolveDefinition metadata parent expected
  | _ => return none

/-- The identity of a referenced member, if it has the expected name. -/
def resolveReference (metadata : Metadata S) (reference : Token) (expected : String) :
    Scanning S (Option MethodIdentity) := do
  let parent ← Scan.readName .methodName (metadata.memberRef reference)
  if ← holdsMethodName expected then
    resolveParent metadata parent expected
  else
    return none

/-- The identity of the method that a call operand names, if it has the expected name. -/
def resolve (metadata : Metadata S) (operand : Token) (expected : String) :
    Scanning S (Option MethodIdentity) :=
  match operand.kind with
  | .memberRef => resolveReference metadata operand expected
  | .methodDef => resolveDefinition metadata operand expected
  | _ => return none

def identify (metadata : Metadata S) (definition : Token) : Scanning S MethodIdentity := do
  let owner ← Scan.readName .methodName (metadata.methodDef definition)
  Scan.readName .typeName (metadata.typeDef owner)
  currentIdentity

end Detour.CallSite
