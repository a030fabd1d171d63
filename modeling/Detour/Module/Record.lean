import Detour.Host.World
import Detour.Rule.Catalog

/-!
# Module records

A record holds what is known about an instrumented module: the replacements that are enabled in it
and the references that were emitted into its metadata. Every reference is remembered, so that a
wrapper, its assembly or its type never gets a second row.
-/

namespace Detour

open Detour.Assembly
open Detour.Host
open Detour.Rule

structure ModuleRecord (S : Type) where
  moduleId : ModuleId
  /-- The simple name of the module's assembly. -/
  assembly : String
  metadata : Metadata S
  /-- The enabled replacements, in the order in which they are tried. -/
  replacements : List Replacement
  /-- The emitted member references, latest first. -/
  wrapperRefs : List (WrapperKey × Token)
  /-- The emitted assembly references, latest first. -/
  assemblyRefs : List (AssemblyName × Token)
  /-- The emitted type references by scope and name, latest first. -/
  typeRefs : List ((Token × String) × Token)

/-- A record that is being filled, and the world around it. -/
structure Emission (S : Type) where
  record : ModuleRecord S
  world : World S

/-- A step of an emission, which the host may refuse. -/
abbrev Emitting (S : Type) := EStateM EmissionError (Emission S)

namespace ModuleRecord

variable {S : Type}

/-- The record of a module into which nothing was emitted. -/
def fresh (moduleId : ModuleId) (assembly : String) (metadata : Metadata S) : ModuleRecord S :=
  ⟨moduleId, assembly, metadata, [], [], [], []⟩

/-- The member reference of a wrapper, if it was emitted. -/
def wrapperRef? (record : ModuleRecord S) (wrapper : Wrapper) : Option Token :=
  record.wrapperRefs.lookup wrapper.key

/-- The record with one more enabled replacement, whether its wrapper has a reference or not. -/
def enable (record : ModuleRecord S) (replacement : Replacement) : ModuleRecord S :=
  { record with replacements := record.replacements ++ [replacement] }

def describe (record : ModuleRecord S) : String :=
  let entry := fun (key, token) =>
    "WrapperKey(" ++ Text.quoted key.text ++ "): " ++ Token.describe token
  "ModuleRecord \x7b module_id: ModuleId(" ++ record.moduleId.value.toNat.repr ++
    "), assembly_name: " ++ Text.quoted record.assembly ++
    ", replacements: " ++ record.replacements.length.repr ++
    ", wrapper_refs: \x7b" ++ ", ".intercalate (record.wrapperRefs.map entry) ++ "\x7d, .. \x7d"

end ModuleRecord

namespace Emission

variable {S : Type}

def onHost (refuse : Refusal → EmissionError) (call : EStateM Refusal S Token) :
    Emitting S Token := fun emission =>
  match World.onHost call emission.world with
  | .ok token world => .ok token { emission with world }
  | .error error world => .error (refuse error) { emission with world }

/-- The reference to an assembly, emitted on first use. -/
def assemblyRef (assembly : AssemblyName) : Emitting S Token := do
  let record := (← get).record
  match record.assemblyRefs.lookup assembly with
  | some token => return token
  | none =>
    let token ← onHost (.assemblyRef assembly.render) (record.metadata.defineAssemblyRef assembly)
    modify fun emission =>
      { emission with record.assemblyRefs := (assembly, token) :: emission.record.assemblyRefs }
    return token

/-- The reference to a type in a scope, emitted on first use. -/
def typeRef (scope : Token) (typeName : String) : Emitting S Token := do
  let record := (← get).record
  match record.typeRefs.lookup (scope, typeName) with
  | some token => return token
  | none =>
    let token ← onHost (.typeRef typeName) (record.metadata.defineTypeRef scope typeName)
    modify fun emission =>
      { emission with record.typeRefs := ((scope, typeName), token) :: emission.record.typeRefs }
    return token

/-- Emits the reference to a wrapper. Rows that were emitted before a refusal stay remembered. -/
def emitWrapper (wrapper : Wrapper) : Emitting S Token := do
  let assemblyRef ← assemblyRef wrapper.assembly
  let typeRef ← typeRef assemblyRef wrapper.typeName
  let record := (← get).record
  let token ← onHost (.memberRef wrapper.typeName wrapper.methodName)
    (record.metadata.defineMemberRef typeRef wrapper.methodName wrapper.signature)
  modify fun emission =>
    { emission with
      record.wrapperRefs := (wrapper.key, token) :: emission.record.wrapperRefs
      world := emission.world.log (.wrapperEmitted record.moduleId wrapper.key token) }
  return token

/-- The reference to a wrapper, emitted on first use. -/
def wrapperRef (wrapper : Wrapper) : Emitting S Token := do
  match (← get).record.wrapperRef? wrapper with
  | some token => return token
  | none => emitWrapper wrapper

end Emission

end Detour
