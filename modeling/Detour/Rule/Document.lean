import Detour.Rule.Catalog
import Detour.Rule.DocumentError

/-!
# Catalog documents

A catalog is written as a JSON array of integrations. A record is an object whose members may come
in any order, or an array of its fields in their order of declaration. Unknown members are skipped.
Fields with a default may be missing; a repeated field is refused.

A document is read from left to right, and its first fault is the answer. The members of an object
are checked for completeness where it closes, and a wrapper's definition is checked once it is
complete.
-/

namespace Detour.Rule

open Detour.Json

abbrev Reading := Except DocumentError

namespace Reading

/-- Stops at a fault of the content. -/
def refuse {α : Type} (error : ContentError) : Reading α :=
  .error (.content error)

/-- Stops at a fault of the text, if there is one. -/
def ofText {α : Type} : Except Fault α → Reading α
  | .ok value => .ok value
  | .error fault => .error (.ofFault fault)

def skip (value : Value) : Reading Unit :=
  match value.fault? with
  | none => .ok ()
  | some fault => .error (.ofSkippedFault fault)

/-- Refuses a value of the wrong type. A string or number is read to its end before. -/
def wrongType {α : Type} (expected : Expected) : Value → Reading α
  | .null => refuse (.wrongType .null expected)
  | .bool value => refuse (.wrongType (.bool value) expected)
  | .number parts => do
    match ← ofText parts.value with
    | .integer value => refuse (.wrongType (.integer value) expected)
    | .float value => refuse (.wrongType (.float value) expected)
  | .text raw => do refuse (.wrongType (.text (← ofText raw.decode)) expected)
  | .array _ => refuse (.wrongType .array expected)
  | .object _ => refuse (.wrongType .object expected)
  | .broken fault => .error (.ofFault fault)

def text : Value → Reading String
  | .text raw => ofText raw.decode
  | value => wrongType .text value

def text? : Value → Reading (Option String)
  | .null => .ok none
  | value => (text value).map some

def byte : Value → Reading UInt8
  | .number parts => do
    match ← ofText parts.value with
    | .integer value =>
      if 0 ≤ value ∧ value < UInt8.size then
        return UInt8.ofNat value.toNat
      else
        refuse (.notAByte value)
    | .float value => refuse (.wrongType (.float value) .byte)
  | value => wrongType .byte value

def items {α : Type} (read : Value → Reading α) : Items → Reading (List α)
  | .closed => .ok []
  | .broken fault => .error (.ofFault fault)
  | .item value rest => do
    let first ← read value
    return first :: (← items read rest)

def sequence {α : Type} (read : Value → Reading α) : Value → Reading (List α)
  | .array values => items read values
  | value => wrongType .sequence value

/-! ## Records written as arrays -/

/-- The next field, or nothing where the array closes. -/
def nextField? {α : Type} (read : Value → Reading α) : StateT Items Reading (Option α) := fun
  | .closed => .ok (none, .closed)
  | .broken fault => .error (.ofFault fault)
  | .item value rest => do return (some (← read value), rest)

/-- The next field, which is the one at `index`. -/
def nextField {α : Type} (expected : Expected) (index : Nat) (read : Value → Reading α) :
    StateT Items Reading α := do
  match ← nextField? read with
  | some value => return value
  | none => refuse (.missingItem index expected)

/-- Closes a record. A further item is out of place, whatever it is. -/
def close : Items → Reading Unit
  | .closed => .ok ()
  | .broken fault => .error (.ofFault fault)
  | .item _ _ => .error .malformed

/-- A record whose fields are the items of an array. -/
def fromItems {α : Type} (fields : StateT Items Reading α) (values : Items) : Reading α := do
  let (value, rest) ← fields.run values
  close rest
  return value

/-! ## Records written as objects -/

/-- Sets a field that was not seen before. -/
def setOnce {α : Type} (name : String) (seen : Option α) (read : Value → Reading α)
    (value : Value) : Reading (Option α) :=
  match seen with
  | some _ => refuse (.duplicateField name)
  | none => (read value).map some

/-- A field that has to be there. -/
def required {α : Type} (name : String) : Option α → Reading α
  | some value => .ok value
  | none => refuse (.missingField name)

/-- Adds every member to a draft of a record. -/
def members {σ : Type} (add : σ → String → Value → Reading σ) (draft : σ) :
    Members → Reading σ
  | .closed => .ok draft
  | .broken fault => .error (.ofFault fault)
  | .member key value rest => do
    let key ← ofText key.decode
    let draft ← add draft key value
    members add draft rest

end Reading

/-- A record written in either way. -/
def Reading.record {α : Type} (expected : Expected) (fromArray : Items → Reading α)
    (fromObject : Members → Reading α) : Value → Reading α
  | .array values => fromArray values
  | .object fields => fromObject fields
  | value => wrongType expected value

/-! ## Patterns -/

/-- The members of a pattern seen so far. -/
structure PatternDraft where
  assembly : Option (Option String)
  typeName : Option (Option String)
  methodName : Option (Option String)

namespace PatternDraft

def empty : PatternDraft := ⟨none, none, none⟩

def add (draft : PatternDraft) (key : String) (value : Value) : Reading PatternDraft := do
  match key with
  | "assembly" =>
    return { draft with assembly := ← Reading.setOnce key draft.assembly Reading.text? value }
  | "type" =>
    return { draft with typeName := ← Reading.setOnce key draft.typeName Reading.text? value }
  | "method" =>
    return { draft with methodName := ← Reading.setOnce key draft.methodName Reading.text? value }
  | _ =>
    Reading.skip value
    return draft

/-- The pattern with the members seen. -/
def complete (draft : PatternDraft) : MethodPattern :=
  ⟨draft.assembly.join, draft.typeName.join, draft.methodName.join⟩

end PatternDraft

def MethodPattern.read : Value → Reading MethodPattern :=
  Reading.record .pattern
    (Reading.fromItems do
      let assembly ← Reading.nextField? Reading.text?
      let typeName ← Reading.nextField? Reading.text?
      let methodName ← Reading.nextField? Reading.text?
      return ⟨assembly.join, typeName.join, methodName.join⟩)
    fun fields => do
      let draft ← Reading.members PatternDraft.add PatternDraft.empty fields
      return draft.complete

/-! ## Wrappers -/

/-- The members of a wrapper's definition seen so far. -/
structure WrapperDraft where
  assembly : Option String
  typeName : Option String
  methodName : Option String
  signature : Option (List UInt8)

namespace WrapperDraft

def empty : WrapperDraft := ⟨none, none, none, none⟩

def add (draft : WrapperDraft) (key : String) (value : Value) : Reading WrapperDraft := do
  match key with
  | "assembly" =>
    return { draft with assembly := ← Reading.setOnce key draft.assembly Reading.text value }
  | "type" =>
    return { draft with typeName := ← Reading.setOnce key draft.typeName Reading.text value }
  | "method" =>
    return { draft with methodName := ← Reading.setOnce key draft.methodName Reading.text value }
  | "signature" =>
    return { draft with
      signature := ← Reading.setOnce key draft.signature (Reading.sequence Reading.byte) value }
  | _ =>
    Reading.skip value
    return draft

end WrapperDraft

/-- The wrapper that a complete definition describes. -/
def Reading.define (assembly typeName methodName : String) (signature : List UInt8) :
    Reading Wrapper :=
  match Wrapper.define assembly typeName methodName signature with
  | .ok wrapper => .ok wrapper
  | .error error => refuse (.definition error)

/-- Reads a wrapper. An array is closed before the definition is looked at. -/
def Wrapper.read : Value → Reading Wrapper :=
  Reading.record .wrapper
    (fun values => do
      let (assembly, typeName, methodName, signature) ← Reading.fromItems (do
        let assembly ← Reading.nextField .wrapper 0 Reading.text
        let typeName ← Reading.nextField .wrapper 1 Reading.text
        let methodName ← Reading.nextField .wrapper 2 Reading.text
        let signature ← Reading.nextField? (Reading.sequence Reading.byte)
        return (assembly, typeName, methodName, signature)) values
      Reading.define assembly typeName methodName (signature.getD []))
    fun fields => do
      let draft ← Reading.members WrapperDraft.add WrapperDraft.empty fields
      let assembly ← Reading.required "assembly" draft.assembly
      let typeName ← Reading.required "type" draft.typeName
      let methodName ← Reading.required "method" draft.methodName
      Reading.define assembly typeName methodName (draft.signature.getD [])

/-! ## Replacements -/

/-- The members of a replacement seen so far. -/
structure ReplacementDraft where
  caller : Option MethodPattern
  target : Option MethodPattern
  wrapper : Option Wrapper

namespace ReplacementDraft

def empty : ReplacementDraft := ⟨none, none, none⟩

def add (draft : ReplacementDraft) (key : String) (value : Value) : Reading ReplacementDraft := do
  match key with
  | "caller" =>
    return { draft with caller := ← Reading.setOnce key draft.caller MethodPattern.read value }
  | "target" =>
    return { draft with target := ← Reading.setOnce key draft.target MethodPattern.read value }
  | "wrapper" =>
    return { draft with wrapper := ← Reading.setOnce key draft.wrapper Wrapper.read value }
  | _ =>
    Reading.skip value
    return draft

end ReplacementDraft

def Replacement.read : Value → Reading Replacement :=
  Reading.record .replacement
    (Reading.fromItems do
      let caller ← Reading.nextField? MethodPattern.read
      let target ← Reading.nextField .replacement 1 MethodPattern.read
      let wrapper ← Reading.nextField .replacement 2 Wrapper.read
      return ⟨caller.getD .any, target, wrapper⟩)
    fun fields => do
      let draft ← Reading.members ReplacementDraft.add ReplacementDraft.empty fields
      let target ← Reading.required "target" draft.target
      let wrapper ← Reading.required "wrapper" draft.wrapper
      return ⟨draft.caller.getD .any, target, wrapper⟩

/-! ## Integrations -/

/-- The members of an integration seen so far. -/
structure IntegrationDraft where
  name : Option String
  replacements : Option (List Replacement)

namespace IntegrationDraft

def empty : IntegrationDraft := ⟨none, none⟩

def add (draft : IntegrationDraft) (key : String) (value : Value) : Reading IntegrationDraft := do
  match key with
  | "name" =>
    return { draft with name := ← Reading.setOnce key draft.name Reading.text value }
  | "method_replacements" =>
    return { draft with
      replacements :=
        ← Reading.setOnce key draft.replacements (Reading.sequence Replacement.read) value }
  | _ =>
    Reading.skip value
    return draft

end IntegrationDraft

def Integration.read : Value → Reading Integration :=
  Reading.record .integration
    (Reading.fromItems do
      let name ← Reading.nextField .integration 0 Reading.text
      let replacements ← Reading.nextField? (Reading.sequence Replacement.read)
      return ⟨name, replacements.getD []⟩)
    fun fields => do
      let draft ← Reading.members IntegrationDraft.add IntegrationDraft.empty fields
      let name ← Reading.required "name" draft.name
      return ⟨name, draft.replacements.getD []⟩

/-! ## Documents -/

/-- Reads a whole document. Only white space may follow the catalog. -/
def Catalog.parse (text : String) : Reading Catalog := do
  let (value, rest) := Value.parse text.toList
  let catalog ← Reading.sequence Integration.read value
  if (skipBlanks rest).isEmpty then
    return catalog
  else
    throw .malformed

end Detour.Rule
