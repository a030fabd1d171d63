import Detour.Assembly.Name
import Detour.Text.Quoted

/-!
# Wrapper methods

A wrapper is the concrete method that is called in the place of a target. All four of its parts are
required, and it carries a key text that names it where references are remembered. A definition
gives the assembly by its display name.
-/

namespace Detour.Rule

open Detour.Assembly

/-- The text under which the reference to a wrapper is remembered. -/
structure WrapperKey where
  text : String
  deriving DecidableEq, Repr, Inhabited

namespace WrapperKey

/-- The key of a wrapper with the given parts. -/
def ofParts (assembly : AssemblyName) (typeName methodName : String) (signature : List UInt8) :
    WrapperKey :=
  ⟨"[" ++ assembly.render ++ "]" ++ typeName ++ "." ++ methodName ++ "(" ++
    Hex.encode signature ++ ")"⟩

/-- Whether a key does not come after another in the order of their texts. -/
def le (left right : WrapperKey) : Bool :=
  decide (left.text ≤ right.text)

end WrapperKey

/-- The parts of a wrapper that may be found missing. -/
inductive WrapperPart where
  | assembly
  | typeName
  | methodName
  | signature
  deriving DecidableEq, Repr, Inhabited

def WrapperPart.name : WrapperPart → String
  | assembly => "assembly"
  | typeName => "type"
  | methodName => "method"
  | signature => "signature"

structure Wrapper where
  assembly : AssemblyName
  typeName : String
  methodName : String
  /-- The signature blob, verbatim. -/
  signature : List UInt8
  key : WrapperKey
  deriving DecidableEq

namespace Wrapper

/-- The wrapper with the given parts, or the first part that is missing. -/
def make (assembly : AssemblyName) (typeName methodName : String) (signature : List UInt8) :
    Except WrapperPart Wrapper :=
  if assembly.name.isEmpty then
    .error .assembly
  else if typeName.isEmpty then
    .error .typeName
  else if methodName.isEmpty then
    .error .methodName
  else if signature.isEmpty then
    .error .signature
  else
    .ok ⟨assembly, typeName, methodName, signature,
      WrapperKey.ofParts assembly typeName methodName signature⟩

end Wrapper

inductive DefinitionError where
  /-- The assembly is given by a text that is no display name. -/
  | assemblyName (text : String) (error : NameError)
  | incomplete (part : WrapperPart)
  deriving DecidableEq, Repr, Inhabited

namespace DefinitionError

def message : DefinitionError → String
  | assemblyName text error =>
    "invalid assembly name " ++ Text.quoted text ++ ": " ++ error.reason
  | incomplete part => "wrapper method is missing its " ++ part.name

end DefinitionError

def readAssembly (text : String) : Except DefinitionError AssemblyName :=
  match AssemblyName.parse text with
  | .ok assembly => .ok assembly
  | .error error => .error (.assemblyName text error)

def Wrapper.define (assembly typeName methodName : String) (signature : List UInt8) :
    Except DefinitionError Wrapper :=
  match readAssembly assembly with
  | .error error => .error error
  | .ok assembly =>
    match Wrapper.make assembly typeName methodName signature with
    | .ok wrapper => .ok wrapper
    | .error part => .error (.incomplete part)

end Detour.Rule
