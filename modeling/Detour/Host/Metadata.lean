import Detour.Assembly.Name
import Detour.Host.Error

/-!
# Access to a module's metadata

The host keeps the metadata tables of every loaded module and acts on a state of its own, `S`. A
handle offers the reads and the writes that redirection needs. A read puts a name into a buffer of
the caller and returns a token beside it; what it leaves in the buffer when it is refused is the
host's affair.
-/

namespace Detour.Host

open Detour.Assembly

/-- The caller's buffer together with the state of the host. -/
structure NameSlot (S : Type) where
  name : String
  host : S

/-- A call to the host that may put a name into a buffer. -/
abbrev NameRead (S : Type) := EStateM Refusal (NameSlot S)

structure Metadata (S : Type) where
  /-- Reads the name of a member reference and its parent. -/
  memberRef (token : Token) : NameRead S Token
  /-- Reads the name of a method definition and the type that owns it. -/
  methodDef (token : Token) : NameRead S Token
  /-- Reads the qualified name of a type reference. -/
  typeRef (token : Token) : NameRead S Unit
  /-- Reads the qualified name of a type definition. -/
  typeDef (token : Token) : NameRead S Unit
  defineAssemblyRef (assembly : AssemblyName) : EStateM Refusal S Token
  defineTypeRef (scope : Token) (typeName : String) : EStateM Refusal S Token
  defineMemberRef (parent : Token) (methodName : String) (signature : List UInt8) :
    EStateM Refusal S Token

/-- The handle of a host that refuses every call. -/
def Metadata.refusing {S : Type} : Metadata S where
  memberRef token := throw (.notFound "GetMemberRefProps" token)
  methodDef token := throw (.notFound "GetMethodProps" token)
  typeRef token := throw (.notFound "GetTypeRefProps" token)
  typeDef token := throw (.notFound "GetTypeDefProps" token)
  defineAssemblyRef _ := throw (.notFound "DefineAssemblyRef" Token.nil)
  defineTypeRef scope _ := throw (.notFound "DefineTypeRefByName" scope)
  defineMemberRef parent _ _ := throw (.notFound "DefineMemberRef" parent)

end Detour.Host
