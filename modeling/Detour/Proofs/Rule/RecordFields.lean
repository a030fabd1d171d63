import Detour.Proofs.Json.Documents
import Detour.Proofs.Rule.Records
import Detour.Rule.Files

/-!
# The fields of the catalog's records

For each record of a catalog document, what its fields are read from: the forward direction for both
ways to write a record, and for objects also the other direction, that fields which can be read make
the record readable.
-/

namespace Detour.Rule

open Detour.Json

/-! ## Patterns -/

namespace PatternDraft

def slots : List (Slot PatternDraft) :=
  [⟨Option String, "assembly", Reading.text?, assembly,
      fun draft content => { draft with assembly := content }⟩,
    ⟨Option String, "type", Reading.text?, typeName,
      fun draft content => { draft with typeName := content }⟩,
    ⟨Option String, "method", Reading.text?, methodName,
      fun draft content => { draft with methodName := content }⟩]

theorem addsTo : AddsTo add slots where
  get_set := by simp [slots]
  get_set_other := by simp [slots]
  add_known := by
    simp only [slots, List.forall_mem_cons]
    exact ⟨fun _ _ => rfl, fun _ _ => rfl, fun _ _ => rfl, nofun⟩
  add_unknown := by
    intro key unknown draft value
    simp only [slots, List.forall_mem_cons] at unknown
    obtain ⟨notAssembly, notType, notMethod, -⟩ := unknown
    unfold add
    split
    · exact absurd rfl notAssembly
    · exact absurd rfl notType
    · exact absurd rfl notMethod
    · cases Reading.skip value <;> rfl

end PatternDraft

variable {members : Members} {fields : List (String × Value)}

theorem MethodPattern.read_of_fields (lists : members.Lists fields)
    (sound : ∀ field ∈ fields, field.2.fault? = none) {assembly typeName methodName}
    (assemblyFills : Fills Reading.text? none (valuesUnder "assembly" fields) assembly)
    (typeFills : Fills Reading.text? none (valuesUnder "type" fields) typeName)
    (methodFills : Fills Reading.text? none (valuesUnder "method" fields) methodName) :
    MethodPattern.read (.object members) =
      .ok ⟨assembly.join, typeName.join, methodName.join⟩ := by
  have fillable : ∀ slot ∈ PatternDraft.slots, ∃ after,
      Fills slot.read (slot.get .empty) (valuesUnder slot.name fields) after := by
    simp only [PatternDraft.slots, List.forall_mem_cons]
    exact ⟨⟨_, assemblyFills⟩, ⟨_, typeFills⟩, ⟨_, methodFills⟩, nofun⟩
  obtain ⟨final, isRead, filled⟩ := PatternDraft.addsTo.exists_final lists sound fillable
  simp only [PatternDraft.slots, List.forall_mem_cons] at filled
  obtain ⟨finalAssembly, finalType, finalMethod, -⟩ := filled
  have complete : final.complete = ⟨assembly.join, typeName.join, methodName.join⟩ := by
    rw [PatternDraft.complete, finalAssembly.unique assemblyFills, finalType.unique typeFills,
      finalMethod.unique methodFills]
  rw [← complete]
  exact Except.bind_of_ok isRead _

/-! ## Wrappers -/

namespace WrapperDraft

def slots : List (Slot WrapperDraft) :=
  [⟨String, "assembly", Reading.text, assembly,
      fun draft content => { draft with assembly := content }⟩,
    ⟨String, "type", Reading.text, typeName,
      fun draft content => { draft with typeName := content }⟩,
    ⟨String, "method", Reading.text, methodName,
      fun draft content => { draft with methodName := content }⟩,
    ⟨List UInt8, "signature", Reading.sequence Reading.byte, signature,
      fun draft content => { draft with signature := content }⟩]

theorem addsTo : AddsTo add slots where
  get_set := by simp [slots]
  get_set_other := by simp [slots]
  add_known := by
    simp only [slots, List.forall_mem_cons]
    exact ⟨fun _ _ => rfl, fun _ _ => rfl, fun _ _ => rfl, fun _ _ => rfl, nofun⟩
  add_unknown := by
    intro key unknown draft value
    simp only [slots, List.forall_mem_cons] at unknown
    obtain ⟨notAssembly, notType, notMethod, notSignature, -⟩ := unknown
    unfold add
    split
    · exact absurd rfl notAssembly
    · exact absurd rfl notType
    · exact absurd rfl notMethod
    · exact absurd rfl notSignature
    · cases Reading.skip value <;> rfl

end WrapperDraft

/-- A wrapper that is read is the one that its fields define. -/
theorem Wrapper.fields_of_read {value : Value} {wrapper : Wrapper}
    (isRead : Wrapper.read value = .ok wrapper) :
    ∃ assembly typeName methodName signature,
      Fills Reading.text none (value.field "assembly" 0) (some assembly) ∧
      Fills Reading.text none (value.field "type" 1) (some typeName) ∧
      Fills Reading.text none (value.field "method" 2) (some methodName) ∧
      Fills (Reading.sequence Reading.byte) none (value.field "signature" 3) signature ∧
      Wrapper.define assembly typeName methodName (signature.getD []) = .ok wrapper := by
  rcases Reading.record_eq_ok_iff.mp isRead with ⟨items, rfl, fromItems⟩ | ⟨members, rfl, added⟩
  · obtain ⟨⟨assembly, typeName, methodName, signature⟩, itemsRead, defined⟩ :=
      Except.bind_eq_ok_iff.mp fromItems
    obtain ⟨rest, ran⟩ := Reading.run_of_fromItems itemsRead
    obtain ⟨_, _, assemblyRead, ran⟩ := StateT.bind_eq_ok_iff.mp ran
    obtain ⟨_, _, typeRead, ran⟩ := StateT.bind_eq_ok_iff.mp ran
    obtain ⟨_, _, methodRead, ran⟩ := StateT.bind_eq_ok_iff.mp ran
    obtain ⟨_, _, signatureRead, returned⟩ := StateT.bind_eq_ok_iff.mp ran
    cases returned
    obtain ⟨rfl, assemblyFills⟩ := Reading.fills_of_nextField assemblyRead
    obtain ⟨rfl, typeFills⟩ := Reading.fills_of_nextField typeRead
    obtain ⟨rfl, methodFills⟩ := Reading.fills_of_nextField methodRead
    obtain ⟨-, signatureFills⟩ := Reading.fills_of_nextField? signatureRead
    simp only [Reading.item?_tail] at typeFills methodFills signatureFills
    exact ⟨assembly, typeName, methodName, signature, assemblyFills, typeFills, methodFills,
      signatureFills, Reading.define_eq_ok_iff.mp defined⟩
  · obtain ⟨final, membersRead, continued⟩ := Except.bind_eq_ok_iff.mp added
    obtain ⟨assembly, hasAssembly, continued⟩ := Except.bind_eq_ok_iff.mp continued
    obtain ⟨typeName, hasType, continued⟩ := Except.bind_eq_ok_iff.mp continued
    obtain ⟨methodName, hasMethod, defined⟩ := Except.bind_eq_ok_iff.mp continued
    have filled := WrapperDraft.addsTo.fills membersRead
    simp only [WrapperDraft.slots, List.forall_mem_cons, Reading.required_eq_ok_iff.mp hasAssembly,
      Reading.required_eq_ok_iff.mp hasType, Reading.required_eq_ok_iff.mp hasMethod] at filled
    obtain ⟨assemblyFills, typeFills, methodFills, signatureFills, -⟩ := filled
    exact ⟨assembly, typeName, methodName, final.signature, assemblyFills, typeFills, methodFills,
      signatureFills, Reading.define_eq_ok_iff.mp defined⟩

theorem Wrapper.read_of_fields (lists : members.Lists fields)
    (sound : ∀ field ∈ fields, field.2.fault? = none) {assembly typeName methodName : String}
    {signature : Option (List UInt8)} {wrapper : Wrapper}
    (assemblyFills : Fills Reading.text none (valuesUnder "assembly" fields) (some assembly))
    (typeFills : Fills Reading.text none (valuesUnder "type" fields) (some typeName))
    (methodFills : Fills Reading.text none (valuesUnder "method" fields) (some methodName))
    (signatureFills :
      Fills (Reading.sequence Reading.byte) none (valuesUnder "signature" fields) signature)
    (defined : Wrapper.define assembly typeName methodName (signature.getD []) = .ok wrapper) :
    Wrapper.read (.object members) = .ok wrapper := by
  have fillable : ∀ slot ∈ WrapperDraft.slots, ∃ after,
      Fills slot.read (slot.get .empty) (valuesUnder slot.name fields) after := by
    simp only [WrapperDraft.slots, List.forall_mem_cons]
    exact ⟨⟨_, assemblyFills⟩, ⟨_, typeFills⟩, ⟨_, methodFills⟩, ⟨_, signatureFills⟩, nofun⟩
  obtain ⟨final, isRead, filled⟩ := WrapperDraft.addsTo.exists_final lists sound fillable
  simp only [WrapperDraft.slots, List.forall_mem_cons] at filled
  obtain ⟨finalAssembly, finalType, finalMethod, finalSignature, -⟩ := filled
  change Reading.members _ _ _ >>= _ = _
  rw [Except.bind_of_ok isRead, finalAssembly.unique assemblyFills, finalType.unique typeFills,
    finalMethod.unique methodFills, finalSignature.unique signatureFills]
  exact Reading.define_eq_ok_iff.mpr defined

/-! ## Replacements -/

namespace ReplacementDraft

def slots : List (Slot ReplacementDraft) :=
  [⟨MethodPattern, "caller", MethodPattern.read, caller,
      fun draft content => { draft with caller := content }⟩,
    ⟨MethodPattern, "target", MethodPattern.read, target,
      fun draft content => { draft with target := content }⟩,
    ⟨Wrapper, "wrapper", Wrapper.read, wrapper,
      fun draft content => { draft with wrapper := content }⟩]

theorem addsTo : AddsTo add slots where
  get_set := by simp [slots]
  get_set_other := by simp [slots]
  add_known := by
    simp only [slots, List.forall_mem_cons]
    exact ⟨fun _ _ => rfl, fun _ _ => rfl, fun _ _ => rfl, nofun⟩
  add_unknown := by
    intro key unknown draft value
    simp only [slots, List.forall_mem_cons] at unknown
    obtain ⟨notCaller, notTarget, notWrapper, -⟩ := unknown
    unfold add
    split
    · exact absurd rfl notCaller
    · exact absurd rfl notTarget
    · exact absurd rfl notWrapper
    · cases Reading.skip value <;> rfl

end ReplacementDraft

theorem Replacement.fields_of_read {value : Value} {replacement : Replacement}
    (isRead : Replacement.read value = .ok replacement) :
    ∃ caller,
      Fills MethodPattern.read none (value.field "caller" 0) caller ∧
      Fills MethodPattern.read none (value.field "target" 1) (some replacement.target) ∧
      Fills Wrapper.read none (value.field "wrapper" 2) (some replacement.wrapper) ∧
      replacement.caller = caller.getD .any := by
  rcases Reading.record_eq_ok_iff.mp isRead with ⟨items, rfl, fromItems⟩ | ⟨members, rfl, added⟩
  · obtain ⟨rest, ran⟩ := Reading.run_of_fromItems fromItems
    obtain ⟨caller, _, callerRead, ran⟩ := StateT.bind_eq_ok_iff.mp ran
    obtain ⟨target, _, targetRead, ran⟩ := StateT.bind_eq_ok_iff.mp ran
    obtain ⟨wrapper, _, wrapperRead, returned⟩ := StateT.bind_eq_ok_iff.mp ran
    cases returned
    obtain ⟨rfl, callerFills⟩ := Reading.fills_of_nextField? callerRead
    obtain ⟨rfl, targetFills⟩ := Reading.fills_of_nextField targetRead
    obtain ⟨-, wrapperFills⟩ := Reading.fills_of_nextField wrapperRead
    simp only [Reading.item?_tail] at targetFills wrapperFills
    exact ⟨caller, callerFills, targetFills, wrapperFills, rfl⟩
  · obtain ⟨final, membersRead, continued⟩ := Except.bind_eq_ok_iff.mp added
    obtain ⟨target, hasTarget, continued⟩ := Except.bind_eq_ok_iff.mp continued
    obtain ⟨wrapper, hasWrapper, returned⟩ := Except.bind_eq_ok_iff.mp continued
    cases returned
    have filled := ReplacementDraft.addsTo.fills membersRead
    simp only [ReplacementDraft.slots, List.forall_mem_cons,
      Reading.required_eq_ok_iff.mp hasTarget, Reading.required_eq_ok_iff.mp hasWrapper] at filled
    obtain ⟨callerFills, targetFills, wrapperFills, -⟩ := filled
    exact ⟨final.caller, callerFills, targetFills, wrapperFills, rfl⟩

theorem Replacement.read_of_fields (lists : members.Lists fields)
    (sound : ∀ field ∈ fields, field.2.fault? = none) {caller : Option MethodPattern}
    {target : MethodPattern} {wrapper : Wrapper}
    (callerFills : Fills MethodPattern.read none (valuesUnder "caller" fields) caller)
    (targetFills : Fills MethodPattern.read none (valuesUnder "target" fields) (some target))
    (wrapperFills : Fills Wrapper.read none (valuesUnder "wrapper" fields) (some wrapper)) :
    Replacement.read (.object members) = .ok ⟨caller.getD .any, target, wrapper⟩ := by
  have fillable : ∀ slot ∈ ReplacementDraft.slots, ∃ after,
      Fills slot.read (slot.get .empty) (valuesUnder slot.name fields) after := by
    simp only [ReplacementDraft.slots, List.forall_mem_cons]
    exact ⟨⟨_, callerFills⟩, ⟨_, targetFills⟩, ⟨_, wrapperFills⟩, nofun⟩
  obtain ⟨final, isRead, filled⟩ := ReplacementDraft.addsTo.exists_final lists sound fillable
  simp only [ReplacementDraft.slots, List.forall_mem_cons] at filled
  obtain ⟨finalCaller, finalTarget, finalWrapper, -⟩ := filled
  change Reading.members _ _ _ >>= _ = _
  rw [Except.bind_of_ok isRead, finalCaller.unique callerFills, finalTarget.unique targetFills,
    finalWrapper.unique wrapperFills]
  rfl

/-! ## Integrations -/

namespace IntegrationDraft

def slots : List (Slot IntegrationDraft) :=
  [⟨String, "name", Reading.text, name, fun draft content => { draft with name := content }⟩,
    ⟨List Replacement, "method_replacements", Reading.sequence Replacement.read, replacements,
      fun draft content => { draft with replacements := content }⟩]

theorem addsTo : AddsTo add slots where
  get_set := by simp [slots]
  get_set_other := by simp [slots]
  add_known := by
    simp only [slots, List.forall_mem_cons]
    exact ⟨fun _ _ => rfl, fun _ _ => rfl, nofun⟩
  add_unknown := by
    intro key unknown draft value
    simp only [slots, List.forall_mem_cons] at unknown
    obtain ⟨notName, notReplacements, -⟩ := unknown
    unfold add
    split
    · exact absurd rfl notName
    · exact absurd rfl notReplacements
    · cases Reading.skip value <;> rfl

end IntegrationDraft

theorem Integration.fields_of_read {value : Value} {integration : Integration}
    (isRead : Integration.read value = .ok integration) :
    ∃ replacements,
      Fills Reading.text none (value.field "name" 0) (some integration.name) ∧
      Fills (Reading.sequence Replacement.read) none (value.field "method_replacements" 1)
        replacements ∧
      integration.replacements = replacements.getD [] := by
  rcases Reading.record_eq_ok_iff.mp isRead with ⟨items, rfl, fromItems⟩ | ⟨members, rfl, added⟩
  · obtain ⟨rest, ran⟩ := Reading.run_of_fromItems fromItems
    obtain ⟨name, _, nameRead, ran⟩ := StateT.bind_eq_ok_iff.mp ran
    obtain ⟨replacements, _, replacementsRead, returned⟩ := StateT.bind_eq_ok_iff.mp ran
    cases returned
    obtain ⟨rfl, nameFills⟩ := Reading.fills_of_nextField nameRead
    obtain ⟨-, replacementsFills⟩ := Reading.fills_of_nextField? replacementsRead
    simp only [Reading.item?_tail] at replacementsFills
    exact ⟨replacements, nameFills, replacementsFills, rfl⟩
  · obtain ⟨final, membersRead, continued⟩ := Except.bind_eq_ok_iff.mp added
    obtain ⟨name, hasName, returned⟩ := Except.bind_eq_ok_iff.mp continued
    cases returned
    have filled := IntegrationDraft.addsTo.fills membersRead
    simp only [IntegrationDraft.slots, List.forall_mem_cons,
      Reading.required_eq_ok_iff.mp hasName] at filled
    obtain ⟨nameFills, replacementsFills, -⟩ := filled
    exact ⟨final.replacements, nameFills, replacementsFills, rfl⟩

theorem Integration.read_of_fields (lists : members.Lists fields)
    (sound : ∀ field ∈ fields, field.2.fault? = none) {name : String}
    {replacements : Option (List Replacement)}
    (nameFills : Fills Reading.text none (valuesUnder "name" fields) (some name))
    (replacementsFills : Fills (Reading.sequence Replacement.read) none
      (valuesUnder "method_replacements" fields) replacements) :
    Integration.read (.object members) = .ok ⟨name, replacements.getD []⟩ := by
  have fillable : ∀ slot ∈ IntegrationDraft.slots, ∃ after,
      Fills slot.read (slot.get .empty) (valuesUnder slot.name fields) after := by
    simp only [IntegrationDraft.slots, List.forall_mem_cons]
    exact ⟨⟨_, nameFills⟩, ⟨_, replacementsFills⟩, nofun⟩
  obtain ⟨final, isRead, filled⟩ := IntegrationDraft.addsTo.exists_final lists sound fillable
  simp only [IntegrationDraft.slots, List.forall_mem_cons] at filled
  obtain ⟨finalName, finalReplacements, -⟩ := filled
  change Reading.members _ _ _ >>= _ = _
  rw [Except.bind_of_ok isRead, finalName.unique nameFills,
    finalReplacements.unique replacementsFills]
  rfl

/-! ## Catalogs -/

namespace Catalog

variable {text : String} {catalog : Catalog}

theorem ofText_eq_ok_iff_parse : ofText text = .ok catalog ↔ parse text = .ok catalog := by
  unfold ofText
  cases parse text with
  | ok found => simp [Except.mapError]
  | error error => simp [Except.mapError]

/-- A text is loaded if the document in front of it is read as a catalog and nothing follows. -/
theorem ofText_eq_ok_iff :
    ofText text = .ok catalog ↔
      Reading.sequence Integration.read (Value.parse text.toList).1 = .ok catalog ∧
        skipBlanks (Value.parse text.toList).2 = [] := by
  rw [ofText_eq_ok_iff_parse, parse, Except.bind_eq_ok_iff]
  constructor
  · rintro ⟨found, isRead, continued⟩
    split at continued
    · rename_i nothing
      cases continued
      exact ⟨isRead, List.isEmpty_iff.mp nothing⟩
    · cases continued
  · rintro ⟨isRead, nothing⟩
    refine ⟨catalog, isRead, ?_⟩
    rw [if_pos (List.isEmpty_iff.mpr nothing)]
    rfl

theorem ofText_eq_ok_iff_of_spells {document : Value} (spells : Spells text document) :
    ofText text = .ok catalog ↔ Reading.sequence Integration.read document = .ok catalog := by
  obtain ⟨behind, parsed, nothing⟩ := spells.parse_eq
  rw [ofText_eq_ok_iff, parsed]
  exact and_iff_left nothing

end Catalog

end Detour.Rule
