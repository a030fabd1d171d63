import Detour.Proofs.Rule.RecordFields
import Detour.Proofs.Rule.WrapperKeys

/-!
# Laid out catalogs

The same catalog may be laid out in many ways: members in any order, white space between them,
characters escaped, fields with a default left out, and members that no record knows of. All of
them are loaded as this catalog. A layout is described without the reader, first as values and then
as characters.
-/

namespace Detour

open Detour.Json

namespace Json

/-- The value is a string. -/
def Value.Writes (value : Value) (string : String) : Prop :=
  ∃ raw, value = .text raw ∧ raw.Writes string

/-- The value is an object with these members. -/
def Value.HasFields (value : Value) (fields : List (String × Value)) : Prop :=
  ∃ members, value = .object members ∧ members.Lists fields

/-- The value is an array with these items. -/
def Value.HasItems (value : Value) (values : List Value) : Prop :=
  ∃ items, value = .array items ∧ items.Lists values

end Json

namespace Rule

open Detour.Assembly

/-! ## Layouts -/

/-- One value is there, and it is laid out. -/
def Once (layout : Value → Prop) (values : List Value) : Prop :=
  ∃ value, values = [value] ∧ layout value

/-- One value is there and laid out, but the default may be left out. -/
def OnceUnless (isDefault : Prop) (layout : Value → Prop) (values : List Value) : Prop :=
  Once layout values ∨ isDefault ∧ values = []

/-- Every content is laid out by an item of its own, in order. -/
def LaysOutEach {α : Type} (layout : α → Value → Prop) (contents : List α) (value : Value) : Prop :=
  ∃ values, value.HasItems values ∧
    List.Forall₂ (fun item content => layout content item) values contents

/-- A part of a pattern is a string, or null if it is absent. -/
def LaysOutPart (part : Option String) (value : Value) : Prop :=
  match part with
  | none => value = .null
  | some string => value.Writes string

def MethodPattern.LaidOutBy (pattern : MethodPattern) (value : Value) : Prop :=
  ∃ fields, value.HasFields fields ∧
    OnceUnless (pattern.assembly = none) (LaysOutPart pattern.assembly)
      (valuesUnder "assembly" fields) ∧
    OnceUnless (pattern.typeName = none) (LaysOutPart pattern.typeName)
      (valuesUnder "type" fields) ∧
    OnceUnless (pattern.methodName = none) (LaysOutPart pattern.methodName)
      (valuesUnder "method" fields)

/-- The bytes of a signature are numbers in plain digits. -/
def LaysOutByte (byte : UInt8) (value : Value) : Prop :=
  value = .number (.ofNat byte.toNat)

/-- The assembly is given by its display name. -/
def Wrapper.LaidOutBy (wrapper : Wrapper) (value : Value) : Prop :=
  ∃ fields, value.HasFields fields ∧
    Once (·.Writes wrapper.assembly.render) (valuesUnder "assembly" fields) ∧
    Once (·.Writes wrapper.typeName) (valuesUnder "type" fields) ∧
    Once (·.Writes wrapper.methodName) (valuesUnder "method" fields) ∧
    Once (LaysOutEach LaysOutByte wrapper.signature) (valuesUnder "signature" fields)

def Replacement.LaidOutBy (replacement : Replacement) (value : Value) : Prop :=
  ∃ fields, value.HasFields fields ∧
    OnceUnless (replacement.caller = .any) replacement.caller.LaidOutBy
      (valuesUnder "caller" fields) ∧
    Once replacement.target.LaidOutBy (valuesUnder "target" fields) ∧
    Once replacement.wrapper.LaidOutBy (valuesUnder "wrapper" fields)

def Integration.LaidOutBy (integration : Integration) (value : Value) : Prop :=
  ∃ fields, value.HasFields fields ∧
    Once (·.Writes integration.name) (valuesUnder "name" fields) ∧
    OnceUnless (integration.replacements = [])
      (LaysOutEach Replacement.LaidOutBy integration.replacements)
      (valuesUnder "method_replacements" fields)

/-- The text spells a document that lays out the catalog. -/
def Catalog.LaidOutBy (catalog : Catalog) (text : String) : Prop :=
  ∃ document, Spells text document ∧ LaysOutEach Integration.LaidOutBy catalog document

end Rule

/-! ## Sound parts of sound values -/

namespace Json

theorem Members.Lists.sound {members : Members} {fields : List (String × Value)}
    (lists : members.Lists fields) (sound : members.fault? = none) :
    ∀ field ∈ fields, field.2.fault? = none := by
  induction lists with
  | nil => exact List.forall_mem_nil _
  | cons writes value restLists ih =>
    rw [Members.fault?, writes.ending_eq] at sound
    dsimp only at sound
    cases soundValue : value.fault? with
    | some fault =>
      rw [soundValue] at sound
      cases sound
    | none =>
      rw [soundValue] at sound
      exact List.forall_mem_cons.mpr ⟨soundValue, ih sound⟩

theorem Items.Lists.sound {items : Items} {values : List Value} (lists : items.Lists values)
    (sound : items.fault? = none) : ∀ value ∈ values, value.fault? = none := by
  induction lists with
  | nil => exact List.forall_mem_nil _
  | cons value restLists ih =>
    rw [Items.fault?] at sound
    cases soundValue : value.fault? with
    | some fault =>
      rw [soundValue] at sound
      cases sound
    | none =>
      rw [soundValue] at sound
      exact List.forall_mem_cons.mpr ⟨soundValue, ih sound⟩

theorem fault?_of_mem_valuesUnder {fields : List (String × Value)}
    (sound : ∀ field ∈ fields, field.2.fault? = none) {name : String} {value : Value}
    (member : value ∈ valuesUnder name fields) : value.fault? = none := by
  obtain ⟨field, isField, rfl⟩ := List.mem_map.mp member
  exact sound field (List.mem_filter.mp isField).1

end Json

namespace Rule

open Detour.Assembly

variable {α : Type}

/-! ## Reading laid out values -/

section Fields

variable {layout : Value → Prop} {read : Value → Reading α} {content : α}
  {fields : List (String × Value)} {name : String}

theorem Once.fills (once : Once layout (valuesUnder name fields))
    (sound : ∀ field ∈ fields, field.2.fault? = none)
    (reads : ∀ value, layout value → value.fault? = none → read value = .ok content) :
    Fills read none (valuesUnder name fields) (some content) := by
  obtain ⟨value, isValue, laidOut⟩ := once
  have member : value ∈ valuesUnder name fields := by
    rw [isValue]
    exact List.mem_singleton_self value
  rw [isValue]
  exact .filled (reads value laidOut (fault?_of_mem_valuesUnder sound member))

theorem OnceUnless.fills {isDefault : Prop} {default : α}
    (once : OnceUnless isDefault layout (valuesUnder name fields))
    (sound : ∀ field ∈ fields, field.2.fault? = none)
    (reads : ∀ value, layout value → value.fault? = none → read value = .ok content)
    (eq_default : isDefault → content = default) :
    ∃ seen, Fills read none (valuesUnder name fields) seen ∧ seen.getD default = content := by
  rcases once with once | ⟨isDefault, nothing⟩
  · exact ⟨some content, once.fills sound reads, rfl⟩
  · rw [nothing]
    exact ⟨none, .kept none, (eq_default isDefault).symm⟩

end Fields

theorem LaysOutEach.sequence_eq {layout : α → Value → Prop} {read : Value → Reading α}
    {contents : List α} {value : Value} (laidOut : LaysOutEach layout contents value)
    (sound : value.fault? = none)
    (reads : ∀ content ∈ contents, ∀ item, layout content item → item.fault? = none →
      read item = .ok content) : Reading.sequence read value = .ok contents := by
  obtain ⟨values, ⟨items, rfl, lists⟩, laidOutEach⟩ := laidOut
  refine Reading.sequence_eq_ok_iff.mpr ⟨items, values, rfl, lists, ?_⟩
  have soundValues := lists.sound sound
  clear lists sound
  induction laidOutEach with
  | nil => exact .nil
  | @cons item content others contents laidOutFirst _ ih =>
    obtain ⟨soundItem, soundOthers⟩ := List.forall_mem_cons.mp soundValues
    obtain ⟨readsFirst, readsOthers⟩ := List.forall_mem_cons.mp reads
    exact .cons (readsFirst item laidOutFirst soundItem) (ih readsOthers soundOthers)

theorem text_of_writes {value : Value} {string : String} (writes : value.Writes string) :
    Reading.text value = .ok string := by
  obtain ⟨raw, rfl, rawWrites⟩ := writes
  exact Reading.text_eq_ok_iff.mpr ⟨raw, rfl, rawWrites.decode_eq⟩

theorem text?_of_laysOutPart {part : Option String} {value : Value}
    (laidOut : LaysOutPart part value) : Reading.text? value = .ok part := by
  cases part with
  | none =>
    rw [laidOut]
    rfl
  | some string =>
    obtain ⟨raw, rfl, rawWrites⟩ := laidOut
    change (Reading.ofText raw.decode).map some = _
    rw [rawWrites.decode_eq]
    rfl

theorem byte_of_laysOutByte {byte : UInt8} {value : Value} (laidOut : LaysOutByte byte value) :
    Reading.byte value = .ok byte := by
  have small : byte.toNat < 256 := byte.toNat_lt
  have isInteger : (NumberText.ofNat byte.toNat).value = .ok (.integer byte.toNat) :=
    NumberText.value_ofNat (Nat.lt_trans small (by decide))
  have isByte : (0 : Int) ≤ byte.toNat ∧ (byte.toNat : Int) < UInt8.size := by
    have size : UInt8.size = 256 := rfl
    omega
  rw [laidOut, Reading.byte, isInteger, Reading.ofText, Except.bind_of_ok rfl]
  dsimp only
  rw [if_pos isByte, Int.toNat_natCast, UInt8.ofNat_toNat]
  rfl

theorem MethodPattern.LaidOutBy.read_eq {pattern : MethodPattern} {value : Value}
    (laidOut : pattern.LaidOutBy value) (sound : value.fault? = none) :
    MethodPattern.read value = .ok pattern := by
  obtain ⟨fields, ⟨members, rfl, lists⟩, assembly, typeName, methodName⟩ := laidOut
  have soundFields := lists.sound sound
  have reads (part : Option String) (value : Value) (laidOut : LaysOutPart part value)
      (_ : value.fault? = none) := text?_of_laysOutPart laidOut
  obtain ⟨_, assemblyFills, sameAssembly⟩ := assembly.fills soundFields (reads _) id
  obtain ⟨_, typeFills, sameType⟩ := typeName.fills soundFields (reads _) id
  obtain ⟨_, methodFills, sameMethod⟩ := methodName.fills soundFields (reads _) id
  rw [MethodPattern.read_of_fields lists soundFields assemblyFills typeFills methodFills]
  have joined (seen : Option (Option String)) : seen.join = seen.getD none := by
    cases seen <;> rfl
  rw [joined, joined, joined, sameAssembly, sameType, sameMethod]

theorem Wrapper.LaidOutBy.read_eq {wrapper : Wrapper} {value : Value}
    (laidOut : wrapper.LaidOutBy value) (sound : value.fault? = none) (made : wrapper.IsMade)
    {text : String} (parsed : AssemblyName.parse text = .ok wrapper.assembly) :
    Wrapper.read value = .ok wrapper := by
  obtain ⟨fields, ⟨members, rfl, lists⟩, assembly, typeName, methodName, signature⟩ := laidOut
  have soundFields := lists.sound sound
  have reads (string : String) (value : Value) (writes : value.Writes string)
      (_ : value.fault? = none) := text_of_writes writes
  have readsBytes (value : Value) (laidOut : LaysOutEach LaysOutByte wrapper.signature value)
      (sound : value.fault? = none) : Reading.sequence Reading.byte value = .ok wrapper.signature :=
    laidOut.sequence_eq sound fun _ _ _ laidOutByte _ => byte_of_laysOutByte laidOutByte
  have defined : Wrapper.define wrapper.assembly.render wrapper.typeName wrapper.methodName
      wrapper.signature = .ok wrapper :=
    Wrapper.define_eq_ok_iff.mpr ⟨wrapper.assembly,
      AssemblyName.parse_render_of_canonical (AssemblyName.canonical_of_parse parsed), made.make_eq⟩
  exact Wrapper.read_of_fields lists soundFields (assembly.fills soundFields (reads _))
    (typeName.fills soundFields (reads _)) (methodName.fills soundFields (reads _))
    (signature.fills soundFields readsBytes) defined

theorem Replacement.LaidOutBy.read_eq {replacement : Replacement} {value : Value}
    (laidOut : replacement.LaidOutBy value) (sound : value.fault? = none)
    (made : replacement.wrapper.IsMade) {text : String}
    (parsed : AssemblyName.parse text = .ok replacement.wrapper.assembly) :
    Replacement.read value = .ok replacement := by
  obtain ⟨fields, ⟨members, rfl, lists⟩, caller, target, wrapper⟩ := laidOut
  have soundFields := lists.sound sound
  have reads (pattern : MethodPattern) (value : Value) (laidOut : pattern.LaidOutBy value)
      (sound : value.fault? = none) := laidOut.read_eq sound
  obtain ⟨_, callerFills, sameCaller⟩ := caller.fills soundFields (reads _) id
  rw [Replacement.read_of_fields lists soundFields callerFills
    (target.fills soundFields (reads _))
    (wrapper.fills soundFields fun _ laidOut sound => laidOut.read_eq sound made parsed),
    sameCaller]

theorem Integration.LaidOutBy.read_eq {integration : Integration} {value : Value}
    (laidOut : integration.LaidOutBy value) (sound : value.fault? = none)
    (readable : ∀ replacement ∈ integration.replacements, replacement.wrapper.IsMade ∧
      ∃ text, AssemblyName.parse text = .ok replacement.wrapper.assembly) :
    Integration.read value = .ok integration := by
  obtain ⟨fields, ⟨members, rfl, lists⟩, name, replacements⟩ := laidOut
  have soundFields := lists.sound sound
  have reads (value : Value)
      (laidOut : LaysOutEach Replacement.LaidOutBy integration.replacements value)
      (sound : value.fault? = none) :
      Reading.sequence Replacement.read value = .ok integration.replacements := by
    refine laidOut.sequence_eq sound fun replacement member item laidOutItem soundItem => ?_
    obtain ⟨made, text, parsed⟩ := readable replacement member
    exact laidOutItem.read_eq soundItem made parsed
  obtain ⟨_, replacementsFills, sameReplacements⟩ := replacements.fills soundFields reads id
  rw [Integration.read_of_fields lists soundFields
    (name.fills soundFields fun _ writes _ => text_of_writes writes) replacementsFills,
    sameReplacements]

/-- A catalog whose wrappers name their assemblies by texts that can be read is loaded from every
text that lays it out. -/
theorem Catalog.ofText_of_laidOutBy {catalog : Catalog} {text : String}
    (readable : ∀ replacement ∈ catalog.replacements, replacement.wrapper.IsMade ∧
      ∃ text, AssemblyName.parse text = .ok replacement.wrapper.assembly)
    (laidOut : catalog.LaidOutBy text) : Catalog.ofText text = .ok catalog := by
  obtain ⟨document, spells, laidOutEach⟩ := laidOut
  refine (ofText_eq_ok_iff_of_spells spells).mpr (laidOutEach.sequence_eq spells.fault?_eq ?_)
  intro integration member item laidOutItem soundItem
  refine laidOutItem.read_eq soundItem fun replacement isReplacement => readable replacement ?_
  exact List.mem_flatMap.mpr ⟨integration, member, isReplacement⟩

namespace Shuffled

/-- A wrapper with its signature first. -/
def wrapperMembers : Members :=
  .member (.plain "signature") (.array (.item (.number (.ofNat 7)) .closed))
    (.member (.plain "type") (.text (.plain "T"))
      (.member (.plain "method") (.text (.plain "M"))
        (.member (.plain "assembly")
          (.text (.plain "W, Version=0.0.0.0, Culture=neutral, PublicKeyToken=null")) .closed)))

/-- The key `method` with its second letter as an escape. -/
def escapedKey : RawText :=
  ⟨[.char 'm', .codeUnit 0x65, .char 't', .char 'h', .char 'o', .char 'd'], none⟩

def targetMembers : Members :=
  .member (.plain "type") .null (.member escapedKey (.text (.plain "R\n")) .closed)

/-- A rule without a caller, with its wrapper first. -/
def ruleMembers : Members :=
  .member (.plain "wrapper") (.object wrapperMembers)
    (.member (.plain "target") (.object targetMembers) .closed)

/-- An unknown member comes first; it holds a number that is too large to be finite. -/
def integrationMembers : Members :=
  .member (.plain "x") (.array (.item .null
      (.item (.number ⟨false, ['1'], none, some (false, ['4', '0', '0'])⟩) .closed)))
    (.member (.plain "method_replacements") (.array (.item (.object ruleMembers) .closed))
      (.member (.plain "name") (.text (.plain "A")) .closed))

def document : Value :=
  .array (.item (.object integrationMembers) .closed)

/-- The document in characters, split so that each literal stays short. -/
def lines : List String :=
  ["[ \x7b\"x\":[null,1E+400], \"method_replacements\":[\x7b",
    "\"wrapper\":\x7b\"signature\":[7],\"type\":\"T\",\"method\":\"M\",",
    "\"assembly\":\"W, Version=0.0.0.0, Culture=neutral, ",
    "PublicKeyToken=null\"\x7d,\"target\":\x7b\"type\":null,",
    "\"m\\u0065thod\":\"R\\n\"\x7d\x7d],\"name\":\"A\"\x7d]\n"]

def text : String :=
  String.ofList (lines.flatMap String.toList)

theorem spells : Spells text document := by
  have nothing := areBlanks_nil
  have spelledText {string : String} (plain : string.toList.all RawText.isPlain = true) :
      Value.SpelledBy (.text (.plain string)) ('"' :: (string.toList ++ ['"'])) :=
    .text (RawText.spelledBy_plain plain)
  have spelledNumber : Value.SpelledBy (.number (.ofNat 7)) ['7'] :=
    .number ⟨isDigitRun_of_all (by decide) rfl, nofun, [], [], .absent, .absent, rfl⟩
  have spelledWrapper : Value.SpelledBy (.object wrapperMembers) _ := .object
    (.more nothing (RawText.spelledBy_plain rfl) nothing nothing
      (.array (.last nothing spelledNumber nothing)) nothing
      (.more nothing (RawText.spelledBy_plain rfl) nothing nothing (spelledText rfl) nothing
        (.more nothing (RawText.spelledBy_plain rfl) nothing nothing (spelledText rfl) nothing
          (.last nothing (RawText.spelledBy_plain rfl) nothing nothing (spelledText rfl) nothing))))
  have zero : IsHexDigit '0' 0 := .inl rfl
  have spelledKey : escapedKey.SpelledBy _ :=
    .plain (by decide) (by decide) (by decide)
      (.unit zero zero (.inl rfl : IsHexDigit '6' 6) (.inl rfl : IsHexDigit '5' 5)
        (RawText.spelledBy_plain (rfl : "thod".toList.all _ = true)))
  have spelledMethod : RawText.SpelledBy (.plain "R\n") _ :=
    .plain (by decide) (by decide) (by decide)
      (.letter (by decide : ('n', '\n') ∈ escapeLetters) .closed)
  have spelledTarget : Value.SpelledBy (.object targetMembers) _ := .object
    (.more nothing (RawText.spelledBy_plain rfl) nothing nothing .null nothing
      (.last nothing spelledKey nothing nothing (.text spelledMethod) nothing))
  have spelledRule : Value.SpelledBy (.object ruleMembers) _ := .object
    (.more nothing (RawText.spelledBy_plain rfl) nothing nothing spelledWrapper nothing
      (.last nothing (RawText.spelledBy_plain rfl) nothing nothing spelledTarget nothing))
  have large : Value.SpelledBy (.number ⟨false, ['1'], none, some (false, ['4', '0', '0'])⟩)
      ['1', 'E', '+', '4', '0', '0'] :=
    .number ⟨isDigitRun_of_all (by decide) rfl, nofun, [], ['E', '+', '4', '0', '0'], .absent,
      .plus (.inr rfl) (isDigitRun_of_all (by decide) rfl), rfl⟩
  have oneBlank : AreBlanks [' '] := List.forall_mem_singleton.mpr rfl
  have spelledIntegration : Value.SpelledBy (.object integrationMembers) _ := .object
    (.more nothing (RawText.spelledBy_plain rfl) nothing nothing
      (.array (.more nothing .null nothing (.last nothing large nothing))) nothing
      (.more oneBlank (RawText.spelledBy_plain rfl) nothing nothing
        (.array (.last nothing spelledRule nothing)) nothing
        (.last nothing (RawText.spelledBy_plain rfl) nothing nothing (spelledText rfl) nothing)))
  refine ⟨[], _, ['\n'], nothing, .array (.last oneBlank spelledIntegration nothing),
    List.forall_mem_singleton.mpr rfl, String.toList_ofList.trans ?_⟩
  decide +kernel

def wrapper : Wrapper :=
  ⟨.ofSimpleName "W", "T", "M", [7], .ofParts (.ofSimpleName "W") "T" "M" [7]⟩

def catalog : Catalog :=
  [⟨"A", [⟨.any, ⟨none, none, some "R\n"⟩, wrapper⟩]⟩]

theorem laidOut : catalog.LaidOutBy text := by
  have writes (string : String) : Value.Writes (.text (.plain string)) string :=
    ⟨_, rfl, RawText.writes_plain string⟩
  have writesKey : escapedKey.Writes "method" :=
    ⟨rfl, .char 'm' (.unit (by decide : 'e'.toNat < 0x10000)
      (.char 't' (.char 'h' (.char 'o' (.char 'd' .nil)))))⟩
  have wrapperLaidOut : wrapper.LaidOutBy (.object wrapperMembers) :=
    ⟨_, ⟨_, rfl, .cons (RawText.writes_plain _) _ (.cons (RawText.writes_plain _) _
        (.cons (RawText.writes_plain _) _ (.cons (RawText.writes_plain _) _ .nil)))⟩,
      ⟨_, rfl, writes _⟩, ⟨_, rfl, writes _⟩, ⟨_, rfl, writes _⟩,
      ⟨_, rfl, _, ⟨_, rfl, .cons _ .nil⟩, .cons rfl .nil⟩⟩
  have targetLaidOut : MethodPattern.LaidOutBy ⟨none, none, some "R\n"⟩ (.object targetMembers) :=
    ⟨_, ⟨_, rfl, .cons (RawText.writes_plain _) _ (.cons writesKey _ .nil)⟩,
      .inr ⟨rfl, rfl⟩, .inl ⟨_, rfl, rfl⟩, .inl ⟨_, rfl, writes _⟩⟩
  have ruleLaidOut : Replacement.LaidOutBy ⟨.any, ⟨none, none, some "R\n"⟩, wrapper⟩
      (.object ruleMembers) :=
    ⟨_, ⟨_, rfl, .cons (RawText.writes_plain _) _ (.cons (RawText.writes_plain _) _ .nil)⟩,
      .inr ⟨rfl, rfl⟩, ⟨_, rfl, targetLaidOut⟩, ⟨_, rfl, wrapperLaidOut⟩⟩
  have integrationLaidOut : Integration.LaidOutBy
      ⟨"A", [⟨.any, ⟨none, none, some "R\n"⟩, wrapper⟩]⟩ (.object integrationMembers) :=
    ⟨_, ⟨_, rfl, .cons (RawText.writes_plain _) _ (.cons (RawText.writes_plain _) _
        (.cons (RawText.writes_plain _) _ .nil))⟩,
      ⟨_, rfl, writes _⟩, .inl ⟨_, rfl, _, ⟨_, rfl, .cons _ .nil⟩, .cons ruleLaidOut .nil⟩⟩
  exact ⟨document, spells, _, ⟨_, rfl, .cons _ .nil⟩, .cons integrationLaidOut .nil⟩

end Shuffled

theorem Catalog.ofText_of_laidOutBy_shuffled :
    (∀ replacement ∈ Shuffled.catalog.replacements, replacement.wrapper.IsMade ∧
      ∃ text, AssemblyName.parse text = .ok replacement.wrapper.assembly) ∧
    Shuffled.catalog.LaidOutBy Shuffled.text ∧
    Catalog.ofText Shuffled.text = .ok Shuffled.catalog := by
  have readable : ∀ replacement ∈ Shuffled.catalog.replacements, replacement.wrapper.IsMade ∧
      ∃ text, AssemblyName.parse text = .ok replacement.wrapper.assembly :=
    List.forall_mem_singleton.mpr ⟨⟨.ofSimpleName "W", "T", "M", [7], rfl⟩, "W", rfl⟩
  exact ⟨readable, Shuffled.laidOut, Catalog.ofText_of_laidOutBy readable Shuffled.laidOut⟩

end Rule

end Detour
