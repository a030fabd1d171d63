import Detour.Assembly.Version
import Detour.Text.Hex

/-!
# Assembly names

An assembly is identified by its simple name, version, culture and public key token. The display
name is the simple name with attributes `Key=value` behind it, all separated by commas:
`Wrap, Version=1.0.0.0, Culture=neutral, PublicKeyToken=0123456789abcdef`. Attributes may come in
any order, may be left out, and may be repeated, in which case the last one counts.
-/

namespace Detour.Assembly

/-- The eight bytes that abbreviate a public key. -/
structure KeyToken where
  bytes : List UInt8
  length_eq : bytes.length = 8
  deriving DecidableEq

namespace KeyToken

/-- The key token with the given bytes, if there are eight. -/
def ofBytes? (bytes : List UInt8) : Option KeyToken :=
  if h : bytes.length = 8 then some ⟨bytes, h⟩ else none

def parse? (text : List Char) : Option KeyToken :=
  (Hex.decode? text).bind ofBytes?

def render (token : KeyToken) : String :=
  Hex.encode token.bytes

end KeyToken

/-- The identity of a referenced assembly. -/
structure AssemblyName where
  name : String
  version : Version
  /-- The culture; empty for a neutral assembly. -/
  culture : String
  keyToken : Option KeyToken
  deriving DecidableEq

inductive NameError where
  | missingSimpleName
  | expectedKeyValue
  | version (error : VersionError)
  | keyToken
  | unknownAttribute
  deriving DecidableEq, Repr, Inhabited

def NameError.reason : NameError → String
  | missingSimpleName => "missing simple name"
  | expectedKeyValue => "expected key=value"
  | version error => error.message
  | keyToken => "PublicKeyToken must be 16 hex digits"
  | unknownAttribute => "unknown assembly name attribute"

inductive Attribute where
  | version
  | culture
  | keyToken
  deriving DecidableEq, Repr, Inhabited

namespace Attribute

def key : Attribute → String
  | version => "Version"
  | culture => "Culture"
  | keyToken => "PublicKeyToken"

/-- The attribute with a given key, in letters of either case. -/
def ofKey? (key : List Char) : Option Attribute :=
  [version, culture, keyToken].find? fun candidate =>
    Text.equalIgnoringCase key candidate.key.toList

end Attribute

namespace AssemblyName

/-- The assembly of a given simple name about which nothing else is said. -/
def ofSimpleName (name : String) : AssemblyName :=
  ⟨name, Version.zero, "", none⟩

def neutralCulture : String := "neutral"

def absentKeyToken : String := "null"

/-- The display name, with every attribute. -/
def render (assembly : AssemblyName) : String :=
  let culture := if assembly.culture.isEmpty then neutralCulture else assembly.culture
  let keyToken := match assembly.keyToken with
    | some token => token.render
    | none => absentKeyToken
  assembly.name ++ ", Version=" ++ assembly.version.render ++ ", Culture=" ++ culture ++
    ", PublicKeyToken=" ++ keyToken

/-- The assembly with one attribute set from its text. -/
def setAttribute (assembly : AssemblyName) (value : List Char) :
    Attribute → Except NameError AssemblyName
  | .version =>
    match Version.parse value with
    | .ok version => .ok { assembly with version }
    | .error error => .error (.version error)
  | .culture =>
    if Text.equalIgnoringCase value neutralCulture.toList then
      .ok { assembly with culture := "" }
    else
      .ok { assembly with culture := String.ofList value }
  | .keyToken =>
    if Text.equalIgnoringCase value absentKeyToken.toList then
      .ok { assembly with keyToken := none }
    else
      match KeyToken.parse? value with
      | some token => .ok { assembly with keyToken := some token }
      | none => .error .keyToken

def readAttribute (assembly : AssemblyName) (text : List Char) : Except NameError AssemblyName :=
  match Text.cutFirst? '=' text with
  | none => .error .expectedKeyValue
  | some (key, value) =>
    match Attribute.ofKey? (Text.trim key) with
    | none => .error .unknownAttribute
    | some found => assembly.setAttribute (Text.trim value) found

def readAttributes (assembly : AssemblyName) : List (List Char) → Except NameError AssemblyName
  | [] => .ok assembly
  | text :: rest =>
    match assembly.readAttribute text with
    | .ok next => next.readAttributes rest
    | .error error => .error error

def parse (text : String) : Except NameError AssemblyName :=
  match (text.toList.splitOn ',').map Text.trim with
  | [] => .error .missingSimpleName
  | name :: attributes =>
    if name.isEmpty then
      .error .missingSimpleName
    else
      (ofSimpleName (String.ofList name)).readAttributes attributes

end AssemblyName

end Detour.Assembly
