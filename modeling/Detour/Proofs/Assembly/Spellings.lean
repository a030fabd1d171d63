import Detour.Assembly.Name
import Detour.Proofs.Text.LetterCase
import Mathlib.Data.List.Nodup
import Mathlib.Data.List.Perm.Basic
import Mathlib.Logic.Relation

/-!
# Spellings of display names

Each attribute of a display name says one thing about the assembly, whatever stands in front of it,
and what it says does not depend on the letter case of its key, nor on white space. A later
attribute overrides an earlier one of the same key, and attributes of different keys do not
interfere. So a display name whose keys are different may be respelled in many ways without another
meaning, and a repeated key counts where it stands last.
-/

namespace Detour.Assembly

/-! ## What attributes say -/

/-- What one attribute says about an assembly. -/
inductive Setting where
  | version (version : Version)
  | culture (culture : String)
  | keyToken (keyToken : Option KeyToken)
  deriving DecidableEq

namespace Setting

def kind : Setting → Attribute
  | version _ => .version
  | culture _ => .culture
  | keyToken _ => .keyToken

/-- The assembly of which the attribute is believed. -/
def applyTo (assembly : AssemblyName) : Setting → AssemblyName
  | version stated => { assembly with version := stated }
  | culture stated => { assembly with culture := stated }
  | keyToken stated => { assembly with keyToken := stated }

/-- What an attribute says by a value. -/
def ofValue? (value : List Char) : Attribute → Option Setting
  | .version => (Version.parse value).toOption.map version
  | .culture =>
    if Text.equalIgnoringCase value AssemblyName.neutralCulture.toList then some (culture "")
    else some (culture (String.ofList value))
  | .keyToken =>
    if Text.equalIgnoringCase value AssemblyName.absentKeyToken.toList then some (keyToken none)
    else (KeyToken.parse? value).map fun token => keyToken (some token)

/-- What an attribute text says. -/
def ofText? (text : List Char) : Option Setting :=
  match Text.cutFirst? '=' text with
  | none => none
  | some (key, value) => (Attribute.ofKey? (Text.trim key)).bind (ofValue? (Text.trim value))

variable {assembly next : AssemblyName} {left right setting : Setting} {which : Attribute}
  {text key value : List Char} {settings : List Setting}

theorem kind_of_ofValue? (holds : ofValue? value which = some setting) : setting.kind = which := by
  unfold ofValue? at holds
  cases which with
  | version =>
    obtain ⟨read, _, rfl⟩ := Option.map_eq_some_iff.mp holds
    rfl
  | culture =>
    dsimp only at holds
    split at holds
    · cases holds
      rfl
    · cases holds
      rfl
  | keyToken =>
    dsimp only at holds
    split at holds
    · cases holds
      rfl
    · obtain ⟨token, _, rfl⟩ := Option.map_eq_some_iff.mp holds
      rfl

theorem setAttribute_eq_ok_iff :
    assembly.setAttribute value which = .ok next ↔
      ∃ setting, ofValue? value which = some setting ∧ setting.applyTo assembly = next := by
  unfold AssemblyName.setAttribute ofValue?
  cases which with
  | version =>
    dsimp only
    cases Version.parse value with
    | ok version => simp [Except.toOption, applyTo]
    | error error => simp [Except.toOption]
  | culture =>
    dsimp only
    split
    · simp [applyTo]
    · simp [applyTo]
  | keyToken =>
    dsimp only
    split
    · simp [applyTo]
    · cases KeyToken.parse? value with
      | some token => simp [applyTo]
      | none => simp

theorem readAttribute_eq_ok_iff :
    assembly.readAttribute text = .ok next ↔
      ∃ setting, ofText? text = some setting ∧ setting.applyTo assembly = next := by
  unfold AssemblyName.readAttribute ofText?
  cases Text.cutFirst? '=' text with
  | none => simp
  | some parts =>
    obtain ⟨key, value⟩ := parts
    dsimp only
    cases Attribute.ofKey? (Text.trim key) with
    | none => simp
    | some which => simpa using setAttribute_eq_ok_iff

/-- Attributes of different keys do not interfere. -/
theorem applyTo_comm (differ : left.kind ≠ right.kind) (assembly : AssemblyName) :
    right.applyTo (left.applyTo assembly) = left.applyTo (right.applyTo assembly) := by
  cases left with
  | version _ =>
    cases right with
    | version _ => exact absurd rfl differ
    | culture _ => rfl
    | keyToken _ => rfl
  | culture _ =>
    cases right with
    | version _ => rfl
    | culture _ => exact absurd rfl differ
    | keyToken _ => rfl
  | keyToken _ =>
    cases right with
    | version _ => rfl
    | culture _ => rfl
    | keyToken _ => exact absurd rfl differ

/-- An attribute overrides an earlier one of the same key. -/
theorem applyTo_applyTo (same : left.kind = right.kind) (assembly : AssemblyName) :
    right.applyTo (left.applyTo assembly) = right.applyTo assembly := by
  cases right with
  | version _ =>
    cases left with
    | version _ => rfl
    | culture _ => cases same
    | keyToken _ => cases same
  | culture _ =>
    cases left with
    | version _ => cases same
    | culture _ => rfl
    | keyToken _ => cases same
  | keyToken _ =>
    cases left with
    | version _ => cases same
    | culture _ => cases same
    | keyToken _ => rfl

/-- What is overridden later need not be said. -/
theorem foldl_applyTo_of_later (later : ∃ other ∈ settings, setting.kind = other.kind)
    (assembly : AssemblyName) :
    settings.foldl applyTo (setting.applyTo assembly) = settings.foldl applyTo assembly := by
  induction settings generalizing assembly with
  | nil =>
    obtain ⟨_, member, _⟩ := later
    cases member
  | cons first rest ih =>
    rw [List.foldl_cons, List.foldl_cons]
    by_cases same : setting.kind = first.kind
    · rw [applyTo_applyTo same]
    · have behind : ∃ other ∈ rest, setting.kind = other.kind := by
        obtain ⟨other, member, sameOther⟩ := later
        rcases List.mem_cons.mp member with rfl | inRest
        · exact absurd sameOther same
        · exact ⟨other, inRest, sameOther⟩
      rw [applyTo_comm same, ih behind]

/-- If no key is repeated, the order of the attributes does not matter. -/
theorem foldl_applyTo_of_perm {others : List Setting} (perm : settings.Perm others)
    (distinct : (settings.map kind).Nodup) (assembly : AssemblyName) :
    settings.foldl applyTo assembly = others.foldl applyTo assembly := by
  apply perm.foldl_eq'
  intro left leftMember right rightMember start
  by_cases same : left.kind = right.kind
  · rw [List.inj_on_of_nodup_map distinct leftMember rightMember same]
  · exact applyTo_comm same start

/-! ## Attribute texts -/

theorem ofText?_of_cut (uncut : '=' ∉ key) (value : List Char) :
    ofText? (key ++ '=' :: value) =
      (Attribute.ofKey? (Text.trim key)).bind (ofValue? (Text.trim value)) := by
  rw [ofText?, Text.cutFirst?_append uncut]

/-- White space around an attribute text does not matter. -/
theorem ofText?_trim (text : List Char) : ofText? (Text.trim text) = ofText? text := by
  obtain ⟨front, back, frontGap, backGap, whole⟩ := Text.exists_gaps text
  by_cases isCut : '=' ∈ Text.trim text
  · obtain ⟨key, value, split, uncut⟩ := List.eq_append_cons_of_mem isCut
    have spread : text = (front ++ key) ++ '=' :: (value ++ back) := by
      rw [whole, split]
      simp
    have uncutFront : '=' ∉ front ++ key := by
      have noFront : '=' ∉ front := fun member => absurd (frontGap '=' member) (by decide)
      simp [noFront, uncut]
    have keyTrimmed := Text.trim_between_gaps frontGap Text.isGap_nil key
    have valueTrimmed := Text.trim_between_gaps Text.isGap_nil backGap value
    rw [List.append_nil] at keyTrimmed
    rw [List.nil_append] at valueTrimmed
    rw [split, ofText?_of_cut uncut, spread, ofText?_of_cut uncutFront, keyTrimmed, valueTrimmed]
  · have uncut : '=' ∉ text := mt (Text.mem_trim_iff (by decide)).mpr isCut
    rw [ofText?, ofText?, Text.cutFirst?_eq_none isCut, Text.cutFirst?_eq_none uncut]

end Setting

/-! ## Keys -/

namespace Attribute

variable {key other : List Char} {which : Attribute}

theorem ofKey?_congr (same : Text.equalIgnoringCase key other = true) :
    ofKey? key = ofKey? other := by
  unfold ofKey?
  simp only [Text.equalIgnoringCase_congr same]

theorem ofKey?_eq_some_iff :
    ofKey? key = some which ↔ Text.equalIgnoringCase key which.key.toList = true := by
  constructor
  · intro found
    have named := List.find?_some found
    exact named
  · intro same
    rw [ofKey?_congr same]
    cases which <;> decide

/-- Different attributes have different keys. -/
theorem eq_of_key_equal {which second : Attribute}
    (same : Text.equalIgnoringCase which.key.toList second.key.toList = true) :
    which = second := by
  have found := ofKey?_eq_some_iff.mpr same
  rw [ofKey?_eq_some_iff.mpr (Text.equalIgnoringCase_iff.mpr rfl)] at found
  exact Option.some.inj found

end Attribute

namespace AssemblyName

/-- The key of an attribute text, if it has one. -/
def attributeKey? (text : List Char) : Option (List Char) :=
  (Text.cutFirst? '=' text).map fun (key, _) => Text.trim key

/-- Whether an attribute text has the key, in letters of either case. -/
def hasKey (key text : List Char) : Bool :=
  (attributeKey? text).any fun found => Text.equalIgnoringCase key found

/-- No two of the attributes have the same key, not even in letters of another case. -/
def DistinctKeys (attributes : List (List Char)) : Prop :=
  attributes.Pairwise fun text other =>
    ∀ key, attributeKey? text = some key → hasKey key other = false

variable {text other key : List Char} {setting second : Setting} {attributes : List (List Char)}

theorem exists_key_of_ofText? (holds : Setting.ofText? text = some setting) :
    ∃ key, attributeKey? text = some key ∧
      Text.equalIgnoringCase key setting.kind.key.toList = true := by
  unfold Setting.ofText? at holds
  unfold attributeKey?
  cases cut : Text.cutFirst? '=' text with
  | none =>
    rw [cut] at holds
    cases holds
  | some parts =>
    rw [cut] at holds
    obtain ⟨which, known, value⟩ := Option.bind_eq_some_iff.mp holds
    refine ⟨Text.trim parts.1, rfl, ?_⟩
    rw [Setting.kind_of_ofValue? value]
    exact Attribute.ofKey?_eq_some_iff.mp known

/-- An attribute that says something has the keys of its kind. -/
theorem hasKey_iff (holds : Setting.ofText? text = some setting) (key : List Char) :
    hasKey key text = true ↔ Text.equalIgnoringCase key setting.kind.key.toList = true := by
  obtain ⟨found, isFound, ofKind⟩ := exists_key_of_ofText? holds
  rw [hasKey, isFound, Option.any_some, Text.equalIgnoringCase_iff,
    Text.equalIgnoringCase_iff.mp ofKind, ← Text.equalIgnoringCase_iff]

/-- Attributes that have one key say the same kind of thing. -/
theorem kind_eq_of_hasKey (holds : Setting.ofText? text = some setting)
    (holdsOther : Setting.ofText? other = some second) (textHas : hasKey key text = true)
    (otherHas : hasKey key other = true) : setting.kind = second.kind := by
  rw [hasKey_iff holds] at textHas
  rw [hasKey_iff holdsOther] at otherHas
  apply Attribute.eq_of_key_equal
  rw [← Text.equalIgnoringCase_congr textHas]
  exact otherHas

theorem DistinctKeys.nodup_kinds (distinct : DistinctKeys attributes) :
    ((attributes.filterMap Setting.ofText?).map Setting.kind).Nodup := by
  rw [List.nodup_iff_pairwise_ne, List.pairwise_map, List.pairwise_filterMap]
  apply List.Pairwise.imp _ distinct
  intro text other differ setting holds second holdsOther same
  obtain ⟨key, isKey, ofKind⟩ := exists_key_of_ofText? holds
  rw [same] at ofKind
  have repeated := (hasKey_iff holdsOther key).mpr ofKind
  rw [differ key isKey] at repeated
  cases repeated

/-! ## Fields -/

/-- The first field names an assembly, and it is this one if the other fields are believed. -/
def FieldsSay : List (List Char) → AssemblyName → Prop
  | [], _ => False
  | name :: attributes, assembly =>
    Text.trim name ≠ [] ∧ (∀ text ∈ attributes, (Setting.ofText? text).isSome = true) ∧
      (attributes.filterMap Setting.ofText?).foldl Setting.applyTo
        (ofSimpleName (String.ofList (Text.trim name))) = assembly

variable {assembly start : AssemblyName} {fields others : List (List Char)}

theorem readAttributes_eq_ok_iff :
    start.readAttributes (attributes.map Text.trim) = .ok assembly ↔
      (∀ text ∈ attributes, (Setting.ofText? text).isSome = true) ∧
        (attributes.filterMap Setting.ofText?).foldl Setting.applyTo start = assembly := by
  induction attributes generalizing start with
  | nil => simp [readAttributes]
  | cons text rest ih =>
    have reads (next : AssemblyName) : start.readAttribute (Text.trim text) = .ok next ↔
        ∃ setting, Setting.ofText? text = some setting ∧ setting.applyTo start = next := by
      rw [← Setting.ofText?_trim text]
      exact Setting.readAttribute_eq_ok_iff
    rw [List.map_cons, readAttributes, List.forall_mem_cons]
    cases holds : Setting.ofText? text with
    | none =>
      cases read : start.readAttribute (Text.trim text) with
      | error error => simp
      | ok next =>
        obtain ⟨_, impossible, _⟩ := (reads next).mp read
        cases holds.symm.trans impossible
    | some setting =>
      rw [(reads _).mpr ⟨setting, holds, rfl⟩, List.filterMap_cons_some holds, List.foldl_cons]
      dsimp only
      rw [ih]
      simp

theorem parse_eq_ok_iff {text : String} :
    parse text = .ok assembly ↔ FieldsSay (text.toList.splitOn ',') assembly := by
  unfold parse
  cases text.toList.splitOn ',' with
  | nil => simp [FieldsSay]
  | cons name attributes =>
    rw [List.map_cons, FieldsSay]
    dsimp only
    by_cases missing : Text.trim name = []
    · simp [missing]
    · rw [if_neg (by simpa using missing), readAttributes_eq_ok_iff]
      simp [missing]

/-! ## Respelling -/

/-- Another spelling of one attribute. -/
inductive AttributeEdit : List Char → List Char → Prop where
  | keyCase {key other : List Char} (uncut : '=' ∉ key)
      (same : Text.equalIgnoringCase key other = true) (value : List Char) :
      AttributeEdit (key ++ '=' :: value) (other ++ '=' :: value)
  /-- The culture is `neutral`, in any letters. -/
  | neutralCase {key value other : List Char} (uncut : '=' ∉ key)
      (isCulture : Text.equalIgnoringCase (Text.trim key) Attribute.culture.key.toList = true)
      (isNeutral : Text.equalIgnoringCase (Text.trim value) neutralCulture.toList = true)
      (same : Text.equalIgnoringCase value other = true) :
      AttributeEdit (key ++ '=' :: value) (key ++ '=' :: other)
  /-- The public key token is `null` or has letters among its digits. -/
  | keyTokenCase {key value other : List Char} (uncut : '=' ∉ key)
      (isKeyToken : Text.equalIgnoringCase (Text.trim key) Attribute.keyToken.key.toList = true)
      (same : Text.equalIgnoringCase value other = true) :
      AttributeEdit (key ++ '=' :: value) (key ++ '=' :: other)
  /-- White space around the key and around the value, which is also that around the first equals
  sign and inside the commas. -/
  | gaps {key otherKey value otherValue : List Char} (uncut : '=' ∉ key)
      (keys : Text.SameBetweenGaps key otherKey) (values : Text.SameBetweenGaps value otherValue) :
      AttributeEdit (key ++ '=' :: value) (otherKey ++ '=' :: otherValue)

/-- Another spelling of the fields of a display name. -/
inductive Edit : List (List Char) → List (List Char) → Prop where
  | name {name other : List Char} (same : Text.SameBetweenGaps name other)
      (attributes : List (List Char)) : Edit (name :: attributes) (other :: attributes)
  | field {text other : List Char} (edit : AttributeEdit text other) (name : List Char)
      (before behind : List (List Char)) :
      Edit (name :: (before ++ text :: behind)) (name :: (before ++ other :: behind))
  | order {attributes others : List (List Char)} (perm : attributes.Perm others)
      (name : List Char) : Edit (name :: attributes) (name :: others)

theorem AttributeEdit.ofText?_eq (edit : AttributeEdit text other) :
    Setting.ofText? text = Setting.ofText? other := by
  cases edit with
  | keyCase uncut same value =>
    have otherUncut := mt (Text.equals_mem_iff same).mpr uncut
    rw [Setting.ofText?_of_cut uncut, Setting.ofText?_of_cut otherUncut,
      Attribute.ofKey?_congr (Text.equalIgnoringCase_trim same)]
  | @neutralCase key value other uncut isCulture isNeutral same =>
    have otherNeutral :
        Text.equalIgnoringCase (Text.trim other) neutralCulture.toList = true := by
      rw [← Text.equalIgnoringCase_congr (Text.equalIgnoringCase_trim same)]
      exact isNeutral
    rw [Setting.ofText?_of_cut uncut, Setting.ofText?_of_cut uncut,
      Attribute.ofKey?_eq_some_iff.mpr isCulture, Option.bind_some, Option.bind_some,
      Setting.ofValue?, Setting.ofValue?, if_pos isNeutral, if_pos otherNeutral]
  | @keyTokenCase key value other uncut isKeyToken same =>
    have trimmed := Text.equalIgnoringCase_trim same
    have sameToken : KeyToken.parse? (Text.trim value) = KeyToken.parse? (Text.trim other) := by
      rw [KeyToken.parse?, KeyToken.parse?, Text.decode?_eq_of_equalIgnoringCase trimmed]
    rw [Setting.ofText?_of_cut uncut, Setting.ofText?_of_cut uncut,
      Attribute.ofKey?_eq_some_iff.mpr isKeyToken, Option.bind_some, Option.bind_some,
      Setting.ofValue?, Setting.ofValue?, Text.equalIgnoringCase_congr trimmed, sameToken]
  | @gaps key otherKey value otherValue uncut keys values =>
    have sameKey := Text.sameBetweenGaps_iff.mp keys
    have otherUncut : '=' ∉ otherKey := by
      rw [← Text.mem_trim_iff (by decide), ← sameKey, Text.mem_trim_iff (by decide)]
      exact uncut
    rw [Setting.ofText?_of_cut uncut, Setting.ofText?_of_cut otherUncut, sameKey,
      Text.sameBetweenGaps_iff.mp values]

/-- The kinds of the things that the fields say are different. -/
def SayDistinct (fields : List (List Char)) : Prop :=
  ((fields.tail.filterMap Setting.ofText?).map Setting.kind).Nodup

/-- One edit keeps what the fields say, and that they say different things. -/
theorem Edit.keeps (edit : Edit fields others) (say : FieldsSay fields assembly)
    (distinct : SayDistinct fields) : FieldsSay others assembly ∧ SayDistinct others := by
  cases edit with
  | name same attributes =>
    rw [FieldsSay, Text.sameBetweenGaps_iff.mp same] at say
    exact ⟨say, distinct⟩
  | @field text other edit name before behind =>
    have sameSettings : (before ++ other :: behind).filterMap Setting.ofText? =
        (before ++ text :: behind).filterMap Setting.ofText? := by
      rw [List.filterMap_append, List.filterMap_append, List.filterMap_cons, List.filterMap_cons,
        edit.ofText?_eq]
    obtain ⟨named, readable, applied⟩ := say
    refine ⟨⟨named, ?_, ?_⟩, ?_⟩
    · intro found member
      have members := List.mem_append.mp member
      rw [List.mem_cons] at members
      rcases members with inFront | rfl | inBack
      · exact readable found (List.mem_append_left _ inFront)
      · rw [← edit.ofText?_eq]
        exact readable text (List.mem_append_right _ List.mem_cons_self)
      · exact readable found (List.mem_append_right _ (List.mem_cons_of_mem _ inBack))
    · rw [sameSettings]
      exact applied
    · unfold SayDistinct at distinct ⊢
      rw [List.tail_cons] at distinct ⊢
      rw [sameSettings]
      exact distinct
  | @order attributes others perm name =>
    have settings := perm.filterMap Setting.ofText?
    obtain ⟨named, readable, applied⟩ := say
    refine ⟨⟨named, ?_, ?_⟩, ?_⟩
    · intro text member
      exact readable text (perm.mem_iff.mpr member)
    · rw [← Setting.foldl_applyTo_of_perm settings distinct]
      exact applied
    · exact (settings.map Setting.kind).nodup_iff.mp distinct

/-- A respelling keeps what the fields say. -/
theorem fieldsSay_of_edits (edits : Relation.ReflTransGen Edit fields others)
    (say : FieldsSay fields assembly) (distinct : SayDistinct fields) :
    FieldsSay others assembly ∧ SayDistinct others := by
  induction edits with
  | refl => exact ⟨say, distinct⟩
  | tail _ edit ih =>
    obtain ⟨sayBefore, distinctBefore⟩ := ih
    exact edit.keeps sayBefore distinctBefore

/-! ## Repeated keys -/

/-- The attributes without those that have the key and are followed by another one that has it. -/
def keepLast (key : List Char) : List (List Char) → List (List Char)
  | [] => []
  | text :: rest =>
    if hasKey key text && rest.any (hasKey key) then keepLast key rest
    else text :: keepLast key rest

theorem mem_of_mem_keepLast (member : text ∈ keepLast key attributes) : text ∈ attributes := by
  induction attributes with
  | nil => cases member
  | cons first rest ih =>
    unfold keepLast at member
    split at member
    · exact List.mem_cons_of_mem first (ih member)
    · rcases List.mem_cons.mp member with isFirst | inRest
      · exact List.mem_cons.mpr (.inl isFirst)
      · exact List.mem_cons_of_mem first (ih inRest)

theorem foldl_keepLast (key : List Char)
    (readable : ∀ text ∈ attributes, (Setting.ofText? text).isSome = true) (start : AssemblyName) :
    ((keepLast key attributes).filterMap Setting.ofText?).foldl Setting.applyTo start =
      (attributes.filterMap Setting.ofText?).foldl Setting.applyTo start := by
  induction attributes generalizing start with
  | nil => rfl
  | cons text rest ih =>
    obtain ⟨textReadable, restReadable⟩ := List.forall_mem_cons.mp readable
    obtain ⟨setting, holds⟩ := Option.isSome_iff_exists.mp textReadable
    rw [keepLast, List.filterMap_cons_some holds, List.foldl_cons]
    by_cases repeated : (hasKey key text && rest.any (hasKey key)) = true
    · rw [if_pos repeated, ih restReadable]
      obtain ⟨textHas, later⟩ := Bool.and_eq_true_iff.mp repeated
      obtain ⟨other, member, otherHas⟩ := List.any_eq_true.mp later
      obtain ⟨second, holdsOther⟩ := Option.isSome_iff_exists.mp (restReadable other member)
      have overridden : ∃ second ∈ rest.filterMap Setting.ofText?, setting.kind = second.kind :=
        ⟨second, List.mem_filterMap.mpr ⟨other, member, holdsOther⟩,
          kind_eq_of_hasKey holds holdsOther textHas otherHas⟩
      exact (Setting.foldl_applyTo_of_later overridden start).symm
    · rw [if_neg repeated, List.filterMap_cons_some holds, List.foldl_cons, ih restReadable]

/-- The display name without the repetitions of one key, but for the last one. -/
theorem splitOn_keepLast {text : List Char} {name : List Char}
    (cut : text.splitOn ',' = name :: attributes) (key : List Char) :
    ([','].intercalate (name :: keepLast key attributes)).splitOn ',' =
      name :: keepLast key attributes := by
  have separate : ∀ field ∈ name :: attributes, ',' ∉ field := by
    intro field member
    rw [← cut] at member
    exact Text.not_mem_of_mem_splitOn member
  refine List.splitOn_intercalate ',' ?_ (List.cons_ne_nil _ _)
  intro field member
  apply separate
  rcases List.mem_cons.mp member with isName | kept
  · exact List.mem_cons.mpr (.inl isName)
  · exact List.mem_cons_of_mem name (mem_of_mem_keepLast kept)

/-- A display name that is read and has different keys is read as the same assembly in every other
spelling: with the attributes in another order, with letters of the other case in keys, in
`neutral`, in `null` and in hexadecimal digits, and with other white space around the simple name,
around the keys, around the first equals signs and around the commas. Where a key is repeated, all
attributes but the last one that has it may be left out. -/
theorem parse_respelled :
    (∀ (text other : String) (assembly : AssemblyName),
      parse text = .ok assembly →
      DistinctKeys (text.toList.splitOn ',').tail →
      Relation.ReflTransGen Edit (text.toList.splitOn ',') (other.toList.splitOn ',') →
      parse other = .ok assembly) ∧
    ∀ (text : String) (assembly : AssemblyName) (name : List Char) (attributes : List (List Char))
      (key : List Char),
      parse text = .ok assembly →
      text.toList.splitOn ',' = name :: attributes →
      parse (String.ofList ([','].intercalate (name :: keepLast key attributes))) =
        .ok assembly := by
  constructor
  · intro text other assembly parsed distinct edits
    have say := parse_eq_ok_iff.mp parsed
    obtain ⟨sayOther, _⟩ := fieldsSay_of_edits edits say distinct.nodup_kinds
    exact parse_eq_ok_iff.mpr sayOther
  · intro text assembly name attributes key parsed cut
    have say := parse_eq_ok_iff.mp parsed
    rw [cut] at say
    obtain ⟨named, readable, applied⟩ := say
    rw [parse_eq_ok_iff, String.toList_ofList, splitOn_keepLast cut key]
    refine ⟨named, ?_, ?_⟩
    · intro field member
      exact readable field (mem_of_mem_keepLast member)
    · rw [foldl_keepLast key readable]
      exact applied

namespace TwoSpellings

/-- The fields of a display name, apart from the simple name. -/
def texts : List (List Char) := ["Culture=Neutral".toList, "Version=1.2".toList]

theorem distinctKeys : DistinctKeys texts := by
  have differ : ∀ other ∈ ["Version=1.2".toList], ∀ key,
      attributeKey? "Culture=Neutral".toList = some key → hasKey key other = false := by
    intro other member key isKey
    cases List.mem_singleton.mp member
    cases isKey
    rfl
  exact List.pairwise_cons.mpr ⟨differ, List.pairwise_singleton _ _⟩

/-- The attributes change places, then the parts are respelled one after the other. -/
theorem edits : Relation.ReflTransGen Edit ("Wrap".toList :: texts)
    [" Wrap".toList, "VERSION = 1.2".toList, "Culture=neutral".toList] := by
  have spaceGap : Text.IsGap [' '] := List.all_eq_true.mp (by decide)
  have order : Edit ("Wrap".toList :: texts)
      ["Wrap".toList, "Version=1.2".toList, "Culture=Neutral".toList] :=
    .order (List.Perm.swap _ _ []) "Wrap".toList
  have spaced : Text.SameBetweenGaps "Wrap".toList " Wrap".toList :=
    ⟨"Wrap".toList, [], [], [' '], [], Text.isGap_nil, Text.isGap_nil, spaceGap, Text.isGap_nil,
      rfl, rfl⟩
  have name : Edit ["Wrap".toList, "Version=1.2".toList, "Culture=Neutral".toList]
      [" Wrap".toList, "Version=1.2".toList, "Culture=Neutral".toList] := .name spaced _
  have keyCase : AttributeEdit "Version=1.2".toList "VERSION=1.2".toList :=
    @AttributeEdit.keyCase "Version".toList "VERSION".toList (by decide) (by decide) "1.2".toList
  have gaps : AttributeEdit "VERSION=1.2".toList "VERSION = 1.2".toList :=
    @AttributeEdit.gaps "VERSION".toList "VERSION ".toList "1.2".toList " 1.2".toList (by decide)
      (Text.sameBetweenGaps_iff.mpr (by decide)) (Text.sameBetweenGaps_iff.mpr (by decide))
  have neutralCase : AttributeEdit "Culture=Neutral".toList "Culture=neutral".toList :=
    @AttributeEdit.neutralCase "Culture".toList "Neutral".toList "neutral".toList (by decide)
      (by decide) (by decide) (by decide)
  exact .tail (.tail (.tail (.tail (.tail .refl order) name) (.field keyCase _ [] _))
    (.field gaps _ [] _)) (.field neutralCase _ ["VERSION = 1.2".toList] [])

end TwoSpellings

theorem parse_respelled_twoSpellings :
    parse "Wrap,Culture=Neutral,Version=1.2" = .ok ⟨"Wrap", ⟨1, 2, 0, 0⟩, "", none⟩ ∧
    DistinctKeys ("Wrap,Culture=Neutral,Version=1.2".toList.splitOn ',').tail ∧
    Relation.ReflTransGen Edit ("Wrap,Culture=Neutral,Version=1.2".toList.splitOn ',')
      (" Wrap,VERSION = 1.2,Culture=neutral".toList.splitOn ',') ∧
    parse " Wrap,VERSION = 1.2,Culture=neutral" = .ok ⟨"Wrap", ⟨1, 2, 0, 0⟩, "", none⟩ ∧
    parse "Wrap,version=1,Culture=fr,Version=2" = .ok ⟨"Wrap", ⟨2, 0, 0, 0⟩, "fr", none⟩ ∧
    parse "Wrap,Culture=fr,Version=2" = .ok ⟨"Wrap", ⟨2, 0, 0, 0⟩, "fr", none⟩ := by
  obtain ⟨respelled, lastCounts⟩ := parse_respelled
  have parsed : parse "Wrap,Culture=Neutral,Version=1.2" =
      .ok ⟨"Wrap", ⟨1, 2, 0, 0⟩, "", none⟩ := rfl
  have repeated : parse "Wrap,version=1,Culture=fr,Version=2" =
      .ok ⟨"Wrap", ⟨2, 0, 0, 0⟩, "fr", none⟩ := rfl
  have once := lastCounts _ _ "Wrap".toList
    ["version=1".toList, "Culture=fr".toList, "Version=2".toList] "VERSION".toList repeated rfl
  exact ⟨parsed, TwoSpellings.distinctKeys, TwoSpellings.edits,
    respelled _ _ _ parsed TwoSpellings.distinctKeys TwoSpellings.edits, repeated, once⟩

end AssemblyName

end Detour.Assembly
