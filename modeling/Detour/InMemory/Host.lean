import Detour.Agent.Compile
import Detour.InMemory.Tables

/-!
# A host in memory

The host keeps the metadata of several modules by name, one method body, and a record of the calls
made to it. It serves to run the library without a process, and to plan refusals and interruptions.
-/

namespace Detour.InMemory

open Detour.Assembly
open Detour.Host

structure StoredBody where
  bytes : List UInt8
  /-- How often the body was read, refused reads included. -/
  reads : Nat
  /-- How often the body was replaced. -/
  commits : Nat
  deriving DecidableEq, Repr, Inhabited

structure Host where
  modules : List (String × Tables)
  /-- The calls so far, each with the name of the metadata it went to. -/
  calls : Array (String × Call)
  body : StoredBody

namespace Host

def ofModules (modules : List (String × Tables)) : Host :=
  ⟨modules, #[], ⟨[], 0, 0⟩⟩

/-- The metadata of a given name; a name that is not known stands for empty tables. -/
def tables (host : Host) (name : String) : Tables :=
  (host.modules.lookup name).getD Tables.empty

/-- The host with the metadata of a given name replaced. -/
def setTables (host : Host) (name : String) (tables : Tables) : Host :=
  { host with
    modules := host.modules.map fun (other, old) =>
      (other, if other == name then tables else old) }

def record (host : Host) (name : String) (call : Call) : Host :=
  { host with calls := host.calls.push (name, call) }

/-- Reads the row that a token names into the caller's buffer. A refused read leaves the buffer. -/
def readRow {α : Type} (name : String) (operation : Operation) (rows : Tables → List (Row α))
    (token : Token) : NameRead Host α := fun slot =>
  let host := slot.host.record name (.read operation token)
  match Tables.readRow operation (rows (host.tables name)) token with
  | .ok (text, content) => .ok content ⟨text, host⟩
  | .error error => .error error { slot with host }

def write (name : String) (call : Call) (append : EStateM Refusal Tables Token) :
    EStateM Refusal Host Token := fun host =>
  let host := host.record name call
  match append (host.tables name) with
  | .ok token tables => .ok token (host.setTables name tables)
  | .error error tables => .error error (host.setTables name tables)

def metadata (name : String) : Metadata Host where
  memberRef := readRow name .memberRefProps Tables.memberRefs
  methodDef := readRow name .methodProps Tables.methodDefs
  typeRef := readRow name .typeRefProps Tables.typeRefs
  typeDef := readRow name .typeDefProps Tables.typeDefs
  defineAssemblyRef assembly :=
    write name (.defineAssemblyRef assembly) (Tables.defineAssemblyRef assembly)
  defineTypeRef scope typeName :=
    write name (.defineTypeRef scope typeName) (Tables.defineTypeRef scope typeName)
  defineMemberRef parent methodName signature :=
    write name (.defineMemberRef parent methodName signature)
      (Tables.defineMemberRef parent methodName)

end Host

structure BodyPlan where
  /-- The status code with which reads are refused. -/
  readFailure : Option HResult
  /-- The status code with which writes are refused. -/
  writeFailure : Option HResult
  /-- A module whose unloading is noticed whenever the body is read. -/
  unloadOnRead : Option ModuleId
  deriving DecidableEq, Repr, Inhabited

/-- Runs an action that cannot fail as a call to the host. -/
def asCall {σ α : Type} (action : StateM σ α) : EStateM Refusal σ α := fun state =>
  let (value, state) := action.run state
  .ok value state

/-- A session whose host keeps its body in memory, with that body changed. -/
def changeBody (change : StoredBody → StoredBody) (session : Session Host) : Session Host :=
  { session with world.host.body := change session.world.host.body }

/-- The handle to the stored body, as the body of a function. -/
def bodyHandle (function : Token) (plan : BodyPlan) : BodyHandle (Session Host) where
  read := do
    modify (changeBody fun body => { body with reads := body.reads + 1 })
    match plan.unloadOnRead with
    | some moduleId => let _ ← asCall (Session.unloadModule moduleId)
    | none => pure ()
    match plan.readFailure with
    | some hr => throw ⟨"GetILFunctionBody", function, hr⟩
    | none => return (← get).world.host.body.bytes
  write bytes := do
    match plan.writeFailure with
    | some hr => throw ⟨"SetILFunctionBody", function, hr⟩
    | none => modify (changeBody fun body => { body with bytes, commits := body.commits + 1 })

end Detour.InMemory
