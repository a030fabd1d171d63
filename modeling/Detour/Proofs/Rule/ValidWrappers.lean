import Detour.Proofs.Rule.RecordFields
import Detour.Proofs.Rule.WrapperKeys

/-!
# Valid wrappers

A catalog that was loaded holds valid wrappers only. The checks are made where a definition is
complete, and nowhere later: a definition that describes no wrapper keeps its whole document from
being loaded, wherever in it the definition stands and in whichever way the records around it are
written.
-/

namespace Detour

open Detour.Json

/-! ## Places in documents -/

namespace Json

/-- The members of an object hold a value under a name. -/
inductive Members.Holds (name : String) (value : Value) : Members → Prop where
  | here {key : RawText} (writes : key.Writes name) (rest : Members) :
      Members.Holds name value (.member key value rest)
  | there (key : RawText) (other : Value) {rest : Members} (behind : rest.Holds name value) :
      Members.Holds name value (.member key other rest)

/-- The record has a value in the place of the field with a name and an index. -/
inductive Value.HasField : Value → String → Nat → Value → Prop where
  | member {members : Members} {name : String} {value : Value} (index : Nat)
      (holds : members.Holds name value) : Value.HasField (.object members) name index value
  | item {items : Items} (name : String) {index : Nat} {value : Value}
      (isItem : items.item? index = some value) : Value.HasField (.array items) name index value

/-- The array has the value as an item. -/
inductive Value.HasItem : Value → Value → Prop where
  | item {items : Items} {index : Nat} {value : Value} (isItem : items.item? index = some value) :
      Value.HasItem (.array items) value

theorem Members.Holds.mem_under {name : String} {value : Value} {members : Members}
    (holds : members.Holds name value) : value ∈ members.under name := by
  induction holds with
  | here writes rest =>
    rw [Members.under_member_self writes.decode_eq]
    exact List.mem_cons_self
  | there key other behind ih =>
    unfold Members.under
    split
    · split
      · exact List.mem_cons_of_mem _ ih
      · exact ih
    · exact ih

theorem Value.HasField.mem_field {record value : Value} {name : String} {index : Nat}
    (hasField : record.HasField name index value) : value ∈ record.field name index := by
  cases hasField with
  | member _ holds => exact holds.mem_under
  | item _ isItem =>
    rw [Value.field, isItem]
    exact List.mem_singleton_self value

theorem Items.Lists.mem_of_item? {items : Items} {values : List Value}
    (lists : items.Lists values) {index : Nat} {value : Value}
    (isItem : items.item? index = some value) : value ∈ values := by
  induction lists generalizing index with
  | nil => simp [Items.item?] at isItem
  | cons first restLists ih =>
    cases index with
    | zero =>
      cases isItem
      exact List.mem_cons_self
    | succ index => exact List.mem_cons_of_mem _ (ih isItem)

end Json

namespace Rule

open Detour.Assembly

variable {α : Type}

theorem Fills.of_mem {read : Value → Reading α} {values : List Value} {after : Option α}
    (fills : Fills read none values after) {value : Value} (member : value ∈ values) :
    ∃ content, read value = .ok content ∧ after = some content := by
  cases fills with
  | kept => cases member
  | filled isRead =>
    rw [List.mem_singleton.mp member]
    exact ⟨_, isRead, rfl⟩

theorem Fills.exists_read {read : Value → Reading α} {values : List Value} {content : α}
    (fills : Fills read none values (some content)) : ∃ value, read value = .ok content := by
  cases fills with
  | filled isRead => exact ⟨_, isRead⟩

/-- Every item of a sequence that is read is read itself. -/
theorem Reading.exists_of_hasItem {read : Value → Reading α} {array value : Value}
    {contents : List α} (isRead : Reading.sequence read array = .ok contents)
    (hasItem : array.HasItem value) : ∃ content, read value = .ok content := by
  obtain ⟨items, listed, rfl, lists, contentsRead⟩ := Reading.sequence_eq_ok_iff.mp isRead
  cases hasItem with
  | item isItem =>
    have member := lists.mem_of_item? isItem
    clear lists isRead
    induction contentsRead with
    | nil => cases member
    | cons firstRead _ ih =>
      rcases List.mem_cons.mp member with rfl | behind
      · exact ⟨_, firstRead⟩
      · exact ih behind

/-- Everything in a sequence that is read was read from a value. -/
theorem Reading.exists_of_mem {read : Value → Reading α} {array : Value} {contents : List α}
    (isRead : Reading.sequence read array = .ok contents) {content : α}
    (member : content ∈ contents) : ∃ value, read value = .ok content := by
  obtain ⟨items, listed, rfl, -, contentsRead⟩ := Reading.sequence_eq_ok_iff.mp isRead
  clear isRead
  induction contentsRead with
  | nil => cases member
  | cons firstRead _ ih =>
    rcases List.mem_cons.mp member with rfl | behind
    · exact ⟨_, firstRead⟩
    · exact ih behind

/-! ## Valid wrappers -/

/-- The assembly is read back from its display name, no part is missing, and the key shows the four
parts. -/
structure Wrapper.IsValid (wrapper : Wrapper) : Prop where
  assembly_readable : AssemblyName.parse wrapper.assembly.render = .ok wrapper.assembly
  typeName_ne : wrapper.typeName ≠ ""
  methodName_ne : wrapper.methodName ≠ ""
  signature_ne : wrapper.signature ≠ []
  key_text : wrapper.key.text = "[" ++ wrapper.assembly.render ++ "]" ++ wrapper.typeName ++ "." ++
    wrapper.methodName ++ "(" ++ Hex.encode wrapper.signature ++ ")"

theorem Wrapper.isValid_of_define {assembly typeName methodName : String} {signature : List UInt8}
    {wrapper : Wrapper}
    (defined : Wrapper.define assembly typeName methodName signature = .ok wrapper) :
    wrapper.IsValid := by
  obtain ⟨name, parsed, made⟩ := Wrapper.define_eq_ok_iff.mp defined
  obtain ⟨-, typeName_ne, methodName_ne, signature_ne, rfl⟩ := Wrapper.make_eq_ok_iff.mp made
  exact ⟨AssemblyName.parse_render_of_canonical (AssemblyName.canonical_of_parse parsed),
    typeName_ne, methodName_ne, signature_ne, rfl⟩

/-! ## Invalid definitions -/

/-- The definition of a wrapper states an assembly name that cannot be read, or an empty name of a
type or method, or an empty signature, or has no signature. -/
inductive IsInvalidDefinition : Value → Prop where
  | assembly {definition : Value} {raw : RawText} {text : String} {error : NameError}
      (hasField : definition.HasField "assembly" 0 (.text raw)) (writes : raw.Writes text)
      (unreadable : AssemblyName.parse text = .error error) : IsInvalidDefinition definition
  | typeName {definition : Value} {raw : RawText}
      (hasField : definition.HasField "type" 1 (.text raw)) (writes : raw.Writes "") :
      IsInvalidDefinition definition
  | methodName {definition : Value} {raw : RawText}
      (hasField : definition.HasField "method" 2 (.text raw)) (writes : raw.Writes "") :
      IsInvalidDefinition definition
  | signature {definition : Value} (hasField : definition.HasField "signature" 3 (.array .closed)) :
      IsInvalidDefinition definition
  | noSignature {members : Members} {fields : List (String × Value)}
      (lists : members.Lists fields) (missing : valuesUnder "signature" fields = []) :
      IsInvalidDefinition (.object members)
  | cutSignature {items : Items} (missing : items.item? 3 = none) :
      IsInvalidDefinition (.array items)

theorem text_of_fills {values : List Value} {raw : RawText} {text content : String}
    (fills : Fills Reading.text none values (some content)) (member : .text raw ∈ values)
    (writes : raw.Writes text) : content = text := by
  obtain ⟨read, isRead, same⟩ := fills.of_mem member
  obtain ⟨_, ⟨rfl⟩, decoded⟩ := Reading.text_eq_ok_iff.mp isRead
  rw [writes.decode_eq] at decoded
  cases decoded
  exact Option.some.inj same

theorem not_isInvalidDefinition {definition : Value} {wrapper : Wrapper}
    (isRead : Wrapper.read definition = .ok wrapper) : ¬ IsInvalidDefinition definition := by
  obtain ⟨assembly, typeName, methodName, signature, assemblyFills, typeFills, methodFills,
    signatureFills, defined⟩ := Wrapper.fields_of_read isRead
  obtain ⟨name, parsed, made⟩ := Wrapper.define_eq_ok_iff.mp defined
  obtain ⟨-, typeName_ne, methodName_ne, signature_ne, -⟩ := Wrapper.make_eq_ok_iff.mp made
  intro invalid
  cases invalid with
  | assembly hasField writes unreadable =>
    rw [text_of_fills assemblyFills hasField.mem_field writes, unreadable] at parsed
    cases parsed
  | typeName hasField writes =>
    exact typeName_ne (text_of_fills typeFills hasField.mem_field writes)
  | methodName hasField writes =>
    exact methodName_ne (text_of_fills methodFills hasField.mem_field writes)
  | signature hasField =>
    obtain ⟨bytes, bytesRead, rfl⟩ := signatureFills.of_mem hasField.mem_field
    cases bytesRead
    exact signature_ne rfl
  | noSignature lists missing =>
    rw [Value.field, lists.under_eq, missing] at signatureFills
    cases signatureFills
    exact signature_ne rfl
  | cutSignature missing =>
    rw [Value.field, missing] at signatureFills
    cases signatureFills
    exact signature_ne rfl

/-! ## Whole documents -/

/-- The document has a definition in the place of the wrapper of a rule. -/
def HoldsDefinition (document definition : Value) : Prop :=
  ∃ integration rules rule, document.HasItem integration ∧
    integration.HasField "method_replacements" 1 rules ∧ rules.HasItem rule ∧
    rule.HasField "wrapper" 2 definition

theorem exists_wrapper_of_holdsDefinition {document definition : Value} {catalog : Catalog}
    (isRead : Reading.sequence Integration.read document = .ok catalog)
    (holds : HoldsDefinition document definition) :
    ∃ wrapper, Wrapper.read definition = .ok wrapper := by
  obtain ⟨integration, rules, rule, isIntegration, isRules, isRule, isDefinition⟩ := holds
  obtain ⟨_, integrationRead⟩ := Reading.exists_of_hasItem isRead isIntegration
  obtain ⟨_, -, rulesFills, -⟩ := Integration.fields_of_read integrationRead
  obtain ⟨_, rulesRead, -⟩ := rulesFills.of_mem isRules.mem_field
  obtain ⟨_, ruleRead⟩ := Reading.exists_of_hasItem rulesRead isRule
  obtain ⟨_, -, -, definitionFills, -⟩ := Replacement.fields_of_read ruleRead
  obtain ⟨wrapper, definitionRead, -⟩ := definitionFills.of_mem isDefinition.mem_field
  exact ⟨wrapper, definitionRead⟩

theorem isValid_of_mem_replacements {document : Value} {catalog : Catalog}
    (isRead : Reading.sequence Integration.read document = .ok catalog) {replacement : Replacement}
    (member : replacement ∈ catalog.replacements) : replacement.wrapper.IsValid := by
  obtain ⟨integration, isIntegration, isReplacement⟩ := List.mem_flatMap.mp member
  obtain ⟨_, integrationRead⟩ := Reading.exists_of_mem isRead isIntegration
  obtain ⟨replacements, -, replacementsFills, same⟩ := Integration.fields_of_read integrationRead
  rw [same] at isReplacement
  cases replacements with
  | none => cases isReplacement
  | some replacements =>
    obtain ⟨_, replacementsRead⟩ := replacementsFills.exists_read
    obtain ⟨_, replacementRead⟩ := Reading.exists_of_mem replacementsRead isReplacement
    obtain ⟨_, -, -, wrapperFills, -⟩ := Replacement.fields_of_read replacementRead
    obtain ⟨_, wrapperRead⟩ := wrapperFills.exists_read
    obtain ⟨_, _, _, _, -, -, -, -, defined⟩ := Wrapper.fields_of_read wrapperRead
    exact Wrapper.isValid_of_define defined

namespace Catalog

theorem loadFiles_of_unparsable {files : FileReader} {paths : List String} {path text : String}
    {error : DocumentError} (member : path ∈ paths) (isFile : files path = .ok text)
    (unparsable : parse text = .error error) (log : Array Event) :
    ∃ fault after, loadFiles files paths log = .error fault after := by
  induction paths generalizing log with
  | nil => cases member
  | cons first rest ih =>
    cases firstLoaded : loadFile files first log with
    | error fault after =>
      refine ⟨fault, after, ?_⟩
      rw [loadFiles, EStateM.bind_of_error firstLoaded]
    | ok catalog between =>
      rcases List.mem_cons.mp member with rfl | behind
      · rw [loadFile, isFile] at firstLoaded
        dsimp only at firstLoaded
        rw [unparsable] at firstLoaded
        cases firstLoaded
      · obtain ⟨fault, after, restLoaded⟩ := ih behind between
        refine ⟨fault, after, ?_⟩
        rw [loadFiles, EStateM.bind_of_ok firstLoaded, EStateM.bind_of_error restLoaded]

/-- Every wrapper of a catalog that was loaded is valid. A document in which the definition of any
wrapper is invalid is not loaded: neither as a text of its own, nor together with other files, of
whose catalogs nothing is kept then. -/
theorem loads_valid_wrappers_only :
    (∀ text catalog, ofText text = .ok catalog →
      ∀ replacement ∈ catalog.replacements, replacement.wrapper.IsValid) ∧
    ∀ text document definition, Spells text document → HoldsDefinition document definition →
      IsInvalidDefinition definition →
      (∃ error, ofText text = .error error) ∧
        ∀ files paths path log, path ∈ paths → files path = .ok text →
          ∃ error after, loadFiles files paths log = .error error after := by
  constructor
  · intro text catalog loaded replacement member
    exact isValid_of_mem_replacements (ofText_eq_ok_iff.mp loaded).1 member
  · intro text document definition spells holds invalid
    cases unparsable : parse text with
    | ok catalog =>
      have isRead := (ofText_eq_ok_iff_of_spells spells).mp (ofText_eq_ok_iff_parse.mpr unparsable)
      obtain ⟨wrapper, definitionRead⟩ := exists_wrapper_of_holdsDefinition isRead holds
      exact absurd invalid (not_isInvalidDefinition definitionRead)
    | error error =>
      refine ⟨⟨.document error, by rw [ofText, unparsable]; rfl⟩, ?_⟩
      intro files paths path log member isFile
      exact loadFiles_of_unparsable member isFile unparsable log

namespace OneRule

def name (string : String) : Value :=
  .text (.plain string)

def definition (typeName : String) : Value :=
  .array (.item (name "W") (.item (name typeName) (.item (name "M")
    (.item (.array (.item (.number (.ofNat 7)) .closed)) .closed))))

def rule (typeName : String) : Value :=
  .array (.item (.object .closed) (.item (.object .closed) (.item (definition typeName) .closed)))

def rules (typeName : String) : Value :=
  .array (.item (rule typeName) .closed)

def integration (typeName : String) : Value :=
  .array (.item (name "A") (.item (rules typeName) .closed))

def document (typeName : String) : Value :=
  .array (.item (integration typeName) .closed)

/-- The document as a text: `[ ["A",[[{},{},["W","`, the type name, `","M",[7]]]]]]`. -/
def text (typeName : String) : String :=
  String.ofList (['[', ' ', '[', '"', 'A', '"', ',', '[', '[', '\x7b', '\x7d', ',', '\x7b', '\x7d',
    ',', '[', '"', 'W', '"', ',', '"'] ++
      (typeName.toList ++
        ['"', ',', '"', 'M', '"', ',', '[', '7', ']', ']', ']', ']', ']', ']']))

theorem spells {typeName : String} (plain : typeName.toList.all RawText.isPlain = true) :
    Spells (text typeName) (document typeName) := by
  have nothing := areBlanks_nil
  have spelledName {string : String} (plain : string.toList.all RawText.isPlain = true) :
      (name string).SpelledBy ('"' :: (string.toList ++ ['"'])) :=
    .text (RawText.spelledBy_plain plain)
  have spelledNumber : Value.SpelledBy (.number (.ofNat 7)) ['7'] :=
    .number ⟨isDigitRun_of_all (by decide) rfl, nofun, [], [], .absent, .absent, rfl⟩
  have spelledDefinition := Value.SpelledBy.array
    (.more nothing (spelledName (rfl : "W".toList.all _ = true)) nothing
      (.more nothing (spelledName plain) nothing
        (.more nothing (spelledName (rfl : "M".toList.all _ = true)) nothing
          (.last nothing (.array (.last nothing spelledNumber nothing)) nothing))))
  have spelledRule := Value.SpelledBy.array
    (.more nothing (.emptyObject nothing) nothing
      (.more nothing (.emptyObject nothing) nothing (.last nothing spelledDefinition nothing)))
  have spelledIntegration := Value.SpelledBy.array
    (.more nothing (spelledName (rfl : "A".toList.all _ = true)) nothing
      (.last nothing (.array (.last nothing spelledRule nothing)) nothing))
  have oneBlank : AreBlanks [' '] := List.forall_mem_singleton.mpr rfl
  refine ⟨[], _, [], nothing, .array (.last oneBlank spelledIntegration nothing), nothing, ?_⟩
  rw [text, String.toList_ofList]
  simp only [List.append_assoc, List.cons_append, List.nil_append, List.append_nil]
  rfl

def wrapper : Wrapper :=
  ⟨.ofSimpleName "W", "T", "M", [7], .ofParts (.ofSimpleName "W") "T" "M" [7]⟩

theorem read_document :
    Reading.sequence Integration.read (document "T") = .ok [⟨"A", [⟨.any, .any, wrapper⟩]⟩] :=
  rfl

theorem holdsDefinition (typeName : String) :
    HoldsDefinition (document typeName) (definition typeName) :=
  ⟨integration typeName, rules typeName, rule typeName, @Value.HasItem.item _ 0 _ rfl,
    .item _ rfl, @Value.HasItem.item _ 0 _ rfl, .item _ rfl⟩

end OneRule

theorem loads_valid_wrappers_only_oneRule :
    (∃ catalog replacement, ofText (OneRule.text "T") = .ok catalog ∧
      replacement ∈ catalog.replacements ∧ replacement.wrapper.IsValid) ∧
    Spells (OneRule.text "") (OneRule.document "") ∧
    HoldsDefinition (OneRule.document "") (OneRule.definition "") ∧
    IsInvalidDefinition (OneRule.definition "") ∧
    (∃ error, ofText (OneRule.text "") = .error error) ∧
    ∃ error after, loadFiles (fun _ => .ok (OneRule.text "")) ["rules.json"] #[] =
      .error error after := by
  obtain ⟨valid, unloaded⟩ := loads_valid_wrappers_only
  have loaded := (ofText_eq_ok_iff_of_spells (OneRule.spells rfl)).mpr OneRule.read_document
  have spells : Spells (OneRule.text "") (OneRule.document "") := OneRule.spells rfl
  have holds := OneRule.holdsDefinition ""
  have invalid : IsInvalidDefinition (OneRule.definition "") :=
    .typeName (.item "type" rfl) (RawText.writes_plain "")
  obtain ⟨refused, fileRefused⟩ := unloaded _ _ _ spells holds invalid
  refine ⟨⟨_, _, loaded, List.mem_singleton_self _, ?_⟩, spells, holds, invalid, refused, ?_⟩
  · exact valid _ _ loaded _ (List.mem_singleton_self _)
  · exact fileRefused _ _ "rules.json" _ (List.mem_singleton_self _) rfl

end Catalog

end Rule

end Detour
