import Detour.Agent.Settings
import Detour.Proofs.Text.Trimmed
import Detour.Text.Fields

/-!
# Listed settings

The values of a list text are those of its segments, so lists are joined by putting a semicolon
between their texts. A listed value is not empty, is trimmed, and holds no semicolon; and any such
values are read back from every text that lays them out, with white space around them and with
segments of white space in between. A process name of another form can only be allowed by the empty
list, which allows every name.
-/

namespace Detour

/-- The value can be listed. -/
structure IsListable (value : String) : Prop where
  ne_empty : value ≠ ""
  trimmed : Text.IsTrimmed value.toList
  separate : ';' ∉ value.toList

/-- The segments hold the values in their order, each with white space around it, and the other
segments are white space. -/
inductive HoldValues : List String → List String → Prop where
  | nil : HoldValues [] []
  | gap {gap : String} {segments values : List String} (isGap : Text.IsGap gap.toList)
      (behind : HoldValues segments values) : HoldValues (gap :: segments) values
  | value {front value back : String} {segments values : List String}
      (frontGap : Text.IsGap front.toList) (backGap : Text.IsGap back.toList)
      (listable : IsListable value) (behind : HoldValues segments values) :
      HoldValues ((front ++ value ++ back) :: segments) (value :: values)

/-! ## List texts -/

/-- The values that the fields of a text come to. -/
def valuesOfFields (fields : List (List Char)) : List String :=
  ((fields.map Text.trim).filter fun value => !value.isEmpty).map String.ofList

theorem listedValues_eq (text : String) :
    listedValues text = valuesOfFields (text.toList.splitOn ';') := rfl

theorem valuesOfFields_append (left right : List (List Char)) :
    valuesOfFields (left ++ right) = valuesOfFields left ++ valuesOfFields right := by
  unfold valuesOfFields
  rw [List.map_append, List.filter_append, List.map_append]

theorem valuesOfFields_flatMap {α : Type} (fieldsOf : α → List (List Char)) (items : List α) :
    valuesOfFields (items.flatMap fieldsOf) =
      items.flatMap fun item => valuesOfFields (fieldsOf item) := by
  induction items with
  | nil => rfl
  | cons item rest ih => rw [List.flatMap_cons, valuesOfFields_append, ih, List.flatMap_cons]

/-- A field counts with the text between its gaps, if there is any. -/
theorem valuesOfFields_singleton (field : List Char) :
    valuesOfFields [field] =
      if Text.trim field = [] then [] else [String.ofList (Text.trim field)] := by
  by_cases empty : Text.trim field = []
  · rw [if_pos empty]
    simp [valuesOfFields, empty]
  · rw [if_neg empty]
    simp [valuesOfFields, empty]

theorem listedValues_append (left right : String) :
    listedValues (left ++ ";" ++ right) = listedValues left ++ listedValues right := by
  have chars : (left ++ ";" ++ right).toList = left.toList ++ ';' :: right.toList := by simp
  rw [listedValues_eq, chars, List.splitOn_append_cons_self, valuesOfFields_append]
  rfl

/-- Each segment of a list text stands for itself. -/
theorem listedValues_intercalate (segments : List String) :
    listedValues (";".intercalate segments) = segments.flatMap listedValues := by
  cases segments with
  | nil => rfl
  | cons segment rest =>
    have something : (segment :: rest).map String.toList ≠ [] := List.cons_ne_nil _ _
    rw [listedValues_eq, String.toList_intercalate]
    change valuesOfFields (([';'].intercalate _).splitOn ';') = _
    rw [Text.splitOn_intercalate_eq_flatMap ';' something, List.flatMap_map, valuesOfFields_flatMap]
    rfl

theorem isListable_of_mem_listedValues {text value : String}
    (listed : value ∈ listedValues text) : IsListable value := by
  obtain ⟨trimmed, kept, rfl⟩ := List.mem_map.mp listed
  obtain ⟨member, nonempty⟩ := List.mem_filter.mp kept
  obtain ⟨field, isField, rfl⟩ := List.mem_map.mp member
  have something : Text.trim field ≠ [] := by simpa using nonempty
  refine ⟨?_, ?_, ?_⟩
  · intro empty
    have noChars := congrArg String.toList empty
    rw [String.toList_ofList] at noChars
    exact something noChars
  · rw [String.toList_ofList]
    exact Text.isTrimmed_trim field
  · rw [String.toList_ofList]
    intro inValue
    exact Text.not_mem_of_mem_splitOn isField (Text.mem_of_mem_trim inValue)

/-! ## Layouts -/

theorem separator_not_mem_gap {gap : List Char} (isGap : Text.IsGap gap) : ';' ∉ gap := by
  intro member
  exact absurd (isGap ';' member) (by decide)

theorem listedValues_gap {gap : String} (isGap : Text.IsGap gap.toList) :
    listedValues gap = [] := by
  rw [listedValues_eq, List.splitOn_eq_singleton (separator_not_mem_gap isGap),
    valuesOfFields_singleton, if_pos isGap.trim_eq]

theorem listedValues_value {front value back : String} (frontGap : Text.IsGap front.toList)
    (backGap : Text.IsGap back.toList) (listable : IsListable value) :
    listedValues (front ++ value ++ back) = [value] := by
  have chars : (front ++ value ++ back).toList = front.toList ++ value.toList ++ back.toList := by
    simp
  have separate : ';' ∉ front.toList ++ value.toList ++ back.toList := by
    simp [separator_not_mem_gap frontGap, separator_not_mem_gap backGap, listable.separate]
  have trimmed : Text.trim (front.toList ++ value.toList ++ back.toList) = value.toList := by
    rw [Text.trim_between_gaps frontGap backGap, listable.trimmed.trim_eq]
  have something : value.toList ≠ [] := fun empty =>
    listable.ne_empty (String.toList_eq_nil_iff.mp empty)
  rw [listedValues_eq, chars, List.splitOn_eq_singleton separate, valuesOfFields_singleton, trimmed,
    if_neg something, String.ofList_toList]

/-- Values that are laid out are read back. -/
theorem HoldValues.listedValues_eq {segments values : List String}
    (hold : HoldValues segments values) : listedValues (";".intercalate segments) = values := by
  rw [listedValues_intercalate]
  induction hold with
  | nil => rfl
  | gap isGap _ ih => rw [List.flatMap_cons, listedValues_gap isGap, ih, List.nil_append]
  | value frontGap backGap listable _ ih =>
    rw [List.flatMap_cons, listedValues_value frontGap backGap listable, ih, List.singleton_append]

/-! ## The two lists -/

namespace Settings

/-- A setting that is a list of values. -/
inductive ListSetting where
  | processes
  | catalogPaths
  deriving DecidableEq, Repr

namespace ListSetting

/-- The variable that the setting is read from. -/
def variableName : ListSetting → String
  | processes => processesVariable
  | catalogPaths => catalogsVariable

def values (setting : ListSetting) (settings : Settings) : List String :=
  match setting with
  | processes => settings.processes
  | catalogPaths => settings.catalogPaths

end ListSetting

variable {lookup : String → Option String} {setting : ListSetting}

theorem values_ofLookup (setting : ListSetting) (lookup : String → Option String) :
    setting.values (ofLookup lookup) = valuesOf (lookup setting.variableName) := by
  cases setting with
  | processes => rfl
  | catalogPaths => rfl

theorem values_ofLookup_of_some {text : String} (found : lookup setting.variableName = some text) :
    setting.values (ofLookup lookup) = listedValues text := by
  rw [values_ofLookup, found]
  rfl

theorem isListable_of_mem_values {value : String}
    (member : value ∈ setting.values (ofLookup lookup)) : IsListable value := by
  rw [values_ofLookup] at member
  cases found : lookup setting.variableName with
  | none =>
    rw [found] at member
    cases member
  | some text =>
    rw [found] at member
    exact isListable_of_mem_listedValues member

theorem allowsProcess_iff (settings : Settings) (process : String) :
    settings.allowsProcess process = true ↔
      settings.processes = [] ∨ process ∈ settings.processes := by
  rw [allowsProcess, Bool.or_eq_true, List.isEmpty_iff, List.contains_iff_mem]

/-- The list settings are read segment by segment. A variable with two texts and a semicolon between
them lists what the one text lists and then what the other one lists; whatever is listed is
listable; and a text that holds listable values in its segments lists these values. A process is
allowed if the list is empty or holds its name, so a name that cannot be listed is not allowed by
any other list. -/
theorem lists_read_by_segments :
    (∀ (setting : ListSetting) (whole left right : String → Option String) (first second : String),
      whole setting.variableName = some (first ++ ";" ++ second) →
      left setting.variableName = some first → right setting.variableName = some second →
      setting.values (ofLookup whole) =
        setting.values (ofLookup left) ++ setting.values (ofLookup right)) ∧
    (∀ (setting : ListSetting) (lookup : String → Option String) (value : String),
      value ∈ setting.values (ofLookup lookup) →
      value ≠ "" ∧ Text.trim value.toList = value.toList ∧ ';' ∉ value.toList) ∧
    (∀ (setting : ListSetting) (lookup : String → Option String) (segments values : List String),
      HoldValues segments values →
      lookup setting.variableName = some (";".intercalate segments) →
      setting.values (ofLookup lookup) = values) ∧
    (∀ (settings : Settings) (process : String),
      settings.allowsProcess process = true ↔
        settings.processes = [] ∨ process ∈ settings.processes) ∧
    ∀ (lookup : String → Option String) (process : String),
      Text.trim process.toList ≠ process.toList ∨ ';' ∈ process.toList →
      (ofLookup lookup).processes ≠ [] → (ofLookup lookup).allowsProcess process = false := by
  refine ⟨?_, ?_, ?_, allowsProcess_iff, ?_⟩
  · intro setting whole left right first second wholeText leftText rightText
    rw [values_ofLookup_of_some wholeText, values_ofLookup_of_some leftText,
      values_ofLookup_of_some rightText, listedValues_append]
  · intro setting lookup value member
    have listable := isListable_of_mem_values member
    exact ⟨listable.ne_empty, listable.trimmed.trim_eq, listable.separate⟩
  · intro setting lookup segments values hold laidOut
    rw [values_ofLookup_of_some laidOut, hold.listedValues_eq]
  · intro lookup process unlistable filtered
    cases allowed : (ofLookup lookup).allowsProcess process with
    | false => rfl
    | true =>
      have inList := ((allowsProcess_iff _ process).mp allowed).resolve_left filtered
      have listable : IsListable process :=
        isListable_of_mem_values (show process ∈ ListSetting.processes.values _ from inList)
      rcases unlistable with untrimmed | separated
      · exact absurd listable.trimmed.trim_eq untrimmed
      · exact absurd separated listable.separate

/-- An environment that lists processes, and nothing else. -/
def processesIn (text : String) (name : String) : Option String :=
  if name = processesVariable then some text else none

theorem holdValues_spaced :
    HoldValues ["", " dotnet ", "\t", "App Host"] ["dotnet", "App Host"] := by
  have emptyGap : Text.IsGap "".toList := Text.isGap_nil
  have spaceGap : Text.IsGap " ".toList := List.all_eq_true.mp (by decide)
  have tabGap : Text.IsGap "\t".toList := List.all_eq_true.mp (by decide)
  have dotnet : IsListable "dotnet" :=
    ⟨by decide, Text.trim_eq_self_iff.mp (by decide), by decide⟩
  have appHost : IsListable "App Host" :=
    ⟨by decide, Text.trim_eq_self_iff.mp (by decide), by decide⟩
  have last : HoldValues ["App Host"] ["App Host"] := .value emptyGap emptyGap appHost .nil
  exact .gap emptyGap (.value spaceGap spaceGap dotnet (.gap tabGap last))

theorem lists_read_by_segments_spaced :
    HoldValues ["", " dotnet ", "\t", "App Host"] ["dotnet", "App Host"] ∧
    ListSetting.processes.values (ofLookup (processesIn "; dotnet ;\t;App Host")) =
      ["dotnet", "App Host"] ∧
    ListSetting.processes.values (ofLookup (processesIn "; dotnet ;\t;App Host")) =
      ListSetting.processes.values (ofLookup (processesIn "; dotnet ")) ++
        ListSetting.processes.values (ofLookup (processesIn "\t;App Host")) ∧
    Text.trim "dotnet".toList = "dotnet".toList ∧
    (ofLookup (processesIn "; dotnet ;\t;App Host")).allowsProcess "dotnet" = true ∧
    (ofLookup (processesIn "; dotnet ;\t;App Host")).allowsProcess "dotnet " = false := by
  obtain ⟨joined, listed, laidOut, allowed, others⟩ := lists_read_by_segments
  have isSet (text : String) : processesIn text processesVariable = some text := if_pos rfl
  have spaced : ListSetting.processes.values (ofLookup (processesIn "; dotnet ;\t;App Host")) =
      ["dotnet", "App Host"] := laidOut .processes _ _ _ holdValues_spaced (isSet _)
  have isMember : "dotnet" ∈
      ListSetting.processes.values (ofLookup (processesIn "; dotnet ;\t;App Host")) := by
    rw [spaced]
    decide
  have filtered : (ofLookup (processesIn "; dotnet ;\t;App Host")).processes ≠ [] :=
    List.ne_nil_of_mem isMember
  have untrimmed : Text.trim "dotnet ".toList ≠ "dotnet ".toList := by decide
  exact ⟨holdValues_spaced, spaced,
    joined .processes _ _ _ "; dotnet " "\t;App Host" (isSet _) (isSet _) (isSet _),
    (listed .processes _ _ isMember).2.1, (allowed _ _).mpr (.inr isMember),
    others _ "dotnet " (.inl untrimmed) filtered⟩

end Settings

end Detour
