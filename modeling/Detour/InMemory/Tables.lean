import Detour.Host.Metadata

/-!
# Metadata tables in memory

The tables of one module as lists of rows, of which the first one has the number one. A read looks
at the row number of its token alone. A write appends a row, unless a planned rejection stands
against it; rejections are used up in order.
-/

namespace Detour.InMemory

open Detour.Assembly
open Detour.Host

inductive Operation where
  | memberRefProps
  | methodProps
  | typeRefProps
  | typeDefProps
  | defineAssemblyRef
  | defineTypeRef
  | defineMemberRef
  deriving DecidableEq, Repr, Inhabited

def Operation.name : Operation → String
  | memberRefProps => "GetMemberRefProps"
  | methodProps => "GetMethodProps"
  | typeRefProps => "GetTypeRefProps"
  | typeDefProps => "GetTypeDefProps"
  | defineAssemblyRef => "DefineAssemblyRef"
  | defineTypeRef => "DefineTypeRefByName"
  | defineMemberRef => "DefineMemberRef"

inductive Call where
  | read (operation : Operation) (token : Token)
  | defineAssemblyRef (assembly : AssemblyName)
  | defineTypeRef (scope : Token) (typeName : String)
  | defineMemberRef (parent : Token) (methodName : String) (signature : List UInt8)

def Call.render : Call → String
  | read operation token => operation.name ++ " " ++ token.render
  | defineAssemblyRef assembly => Operation.defineAssemblyRef.name ++ " " ++ assembly.render
  | defineTypeRef scope typeName =>
    Operation.defineTypeRef.name ++ " " ++ scope.render ++ " " ++ typeName
  | defineMemberRef parent methodName signature =>
    Operation.defineMemberRef.name ++ " " ++ parent.render ++ " " ++ methodName ++ " " ++
      Hex.encode signature

/-- A row of a table: a name with the row's other content, or the status code of its reads. -/
inductive Row (α : Type) where
  | present (name : String) (content : α)
  | failing (hr : HResult)
  deriving Repr, Inhabited

structure Rejection where
  /-- The host's name for the operation. -/
  operation : String
  /-- The name that is rejected; any if absent. -/
  name : Option String
  hr : HResult
  /-- How often it still applies; always if absent. -/
  uses : Option Nat
  deriving DecidableEq, Repr, Inhabited

namespace Rejection

/-- Whether a rejection stands against a write. -/
def appliesTo (rejection : Rejection) (operation : Operation) (name : String) : Bool :=
  rejection.operation == operation.name && rejection.uses != some 0 &&
    (rejection.name.isNone || rejection.name == some name)

def useUp (rejection : Rejection) : Rejection :=
  { rejection with uses := rejection.uses.map (· - 1) }

/-- Uses up the first rejection that stands against a write, and gives its status code. -/
def consume (operation : Operation) (name : String) :
    List Rejection → Option HResult × List Rejection
  | [] => (none, [])
  | rejection :: rest =>
    if rejection.appliesTo operation name then
      (some rejection.hr, rejection.useUp :: rest)
    else
      let (hr, rest) := consume operation name rest
      (hr, rejection :: rest)

end Rejection

structure Tables where
  typeRefs : List (Row Unit)
  typeDefs : List (Row Unit)
  methodDefs : List (Row Token)
  memberRefs : List (Row Token)
  /-- Rows of assembly references are only counted. -/
  assemblyRefCount : Nat
  /-- The token of every assembly reference, if it is always the same. -/
  fixedAssemblyRef : Option Token
  rejections : List Rejection
  deriving Inhabited

namespace Tables

def empty : Tables := ⟨[], [], [], [], 0, none, []⟩

/-- The row that a token names, in the table of an operation. -/
def readRow {α : Type} (operation : Operation) (rows : List (Row α)) (token : Token) :
    Except Refusal (String × α) :=
  if token.isNil then
    .error (.notFound operation.name token)
  else
    match rows[token.row.toNat - 1]? with
    | none => .error (.notFound operation.name token)
    | some (.failing hr) => .error ⟨operation.name, token, hr⟩
    | some (.present name content) => .ok (name, content)

/-- Runs a write unless it is rejected. A rejection concerns `subject`. -/
def write (operation : Operation) (name : String) (subject : Token)
    (append : Tables → Token × Tables) : EStateM Refusal Tables Token := fun tables =>
  match Rejection.consume operation name tables.rejections with
  | (some hr, rejections) => .error ⟨operation.name, subject, hr⟩ { tables with rejections }
  | (none, _) =>
    let (token, tables) := append tables
    .ok token tables

def defineAssemblyRef (assembly : AssemblyName) : EStateM Refusal Tables Token :=
  write .defineAssemblyRef assembly.name Token.nil fun tables =>
    let count := tables.assemblyRefCount + 1
    (tables.fixedAssemblyRef.getD (Token.ofRow .assemblyRef (UInt32.ofNat count)),
      { tables with assemblyRefCount := count })

def defineTypeRef (scope : Token) (typeName : String) : EStateM Refusal Tables Token :=
  write .defineTypeRef typeName scope fun tables =>
    let rows := tables.typeRefs ++ [.present typeName ()]
    (Token.ofRow .typeRef (UInt32.ofNat rows.length), { tables with typeRefs := rows })

def defineMemberRef (parent : Token) (methodName : String) : EStateM Refusal Tables Token :=
  write .defineMemberRef methodName parent fun tables =>
    let rows := tables.memberRefs ++ [.present methodName parent]
    (Token.ofRow .memberRef (UInt32.ofNat rows.length), { tables with memberRefs := rows })

end Tables

end Detour.InMemory
