import Detour.Text.Hex

/-!
# Metadata tokens

A token is a 32-bit word that names one row of one metadata table: the table in the high byte, the
one-based row below it. Row zero is the nil row of its table.
-/

namespace Detour

/-- The metadata tables that matter for call operands and references. -/
inductive TokenKind where
  | moduleDef
  | typeRef
  | typeDef
  | fieldDef
  | methodDef
  | memberRef
  | signature
  | moduleRef
  | typeSpec
  | assemblyRef
  | methodSpec
  | userString
  /-- Every table not listed above. -/
  | other
  deriving DecidableEq, Repr, Inhabited

namespace TokenKind

/-- The kinds that stand for one table each. -/
def tables : List TokenKind :=
  [.moduleDef, .typeRef, .typeDef, .fieldDef, .methodDef, .memberRef, .signature, .moduleRef,
    .typeSpec, .assemblyRef, .methodSpec, .userString]

/-- The high byte of the tokens of a kind; unlisted tables share the highest one. -/
def table : TokenKind → UInt8
  | moduleDef => 0x00
  | typeRef => 0x01
  | typeDef => 0x02
  | fieldDef => 0x04
  | methodDef => 0x06
  | memberRef => 0x0A
  | signature => 0x11
  | moduleRef => 0x1A
  | typeSpec => 0x1B
  | assemblyRef => 0x23
  | methodSpec => 0x2B
  | userString => 0x70
  | other => 0xFF

/-- The kind of the tokens with a given high byte. -/
def ofTable (table : UInt8) : TokenKind :=
  (tables.find? fun kind => kind.table == table).getD .other

def name : TokenKind → String
  | moduleDef => "Module"
  | typeRef => "TypeRef"
  | typeDef => "TypeDef"
  | fieldDef => "FieldDef"
  | methodDef => "MethodDef"
  | memberRef => "MemberRef"
  | signature => "Signature"
  | moduleRef => "ModuleRef"
  | typeSpec => "TypeSpec"
  | assemblyRef => "AssemblyRef"
  | methodSpec => "MethodSpec"
  | userString => "String"
  | other => "Other"

def ofName? (name : String) : Option TokenKind :=
  (tables ++ [TokenKind.other]).find? fun kind => kind.name == name

end TokenKind

structure Token where
  raw : UInt32
  deriving DecidableEq, Hashable, Repr, Inhabited

namespace Token

def nil : Token := ⟨0⟩

/-- The token of a row of a table. Row bits above the low 24 are kept and may alter the table. -/
def ofRow (kind : TokenKind) (row : UInt32) : Token :=
  ⟨row ||| (kind.table.toUInt32 <<< 24)⟩

def row (token : Token) : UInt32 :=
  token.raw &&& 0x00FFFFFF

def kind (token : Token) : TokenKind :=
  TokenKind.ofTable (token.raw >>> 24).toUInt8

def isNil (token : Token) : Bool :=
  token.row == 0

/-- The whole word in eight hexadecimal digits. -/
def render (token : Token) : String :=
  Hex.fixed 8 token.raw.toNat

def describe (token : Token) : String :=
  "Token(" ++ token.kind.name ++ ", " ++ Hex.minimal token.row.toNat ++ ")"

end Token

end Detour
