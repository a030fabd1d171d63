import Detour.Proofs.Assembly.DisplayNames
import Detour.Proofs.Text.Trimmed

/-!
# Canonical names

Reading a display name takes white space off its parts, and takes `neutral`, in letters of either
case, for the empty culture. So the assemblies that are read are canonical: their simple name is not
empty, simple name and culture are trimmed and hold no comma, and the culture is not `neutral`. The
canonical assemblies are exactly those that are read back from their display names.
-/

namespace Detour

/-! ## Versions -/

namespace Text

theorem isDigit_of_mem_toDigits {c : Char} {n : Nat} (member : c ∈ Nat.toDigits 10 n) :
    isDigit c = true := by
  cases digit : isDigit c with
  | true => rfl
  | false => exact absurd member (not_mem_toDigits digit n)

/-- Digits are visible, those of hexadecimal numbers included. -/
theorem digitValue?_of_isBlank {c : Char} (blank : isBlank c = true) :
    Hex.digitValue? c = none := by
  have code : (9 ≤ c.toNat ∧ c.toNat ≤ 13) ∨ c.toNat = 32 ∨ 133 ≤ c.toNat := by
    simp only [isBlank, Bool.or_eq_true, Bool.and_eq_true, decide_eq_true_iff, beq_iff_eq] at blank
    omega
  have outside (first last : Char) (behind : 32 < first.toNat) (before : last.toNat < 133) :
      ¬ (first ≤ c ∧ c ≤ last) := by
    rintro ⟨low, high⟩
    have low' : first.toNat ≤ c.toNat := low
    have high' : c.toNat ≤ last.toNat := high
    omega
  rw [Hex.digitValue?, if_neg (outside '0' '9' (by decide) (by decide)),
    if_neg (outside 'a' 'f' (by decide) (by decide)),
    if_neg (outside 'A' 'F' (by decide) (by decide))]

theorem not_blank_of_isDigit {c : Char} (digit : isDigit c = true) : isBlank c = false := by
  have bounds : '0' ≤ c ∧ c ≤ '9' := by simpa [isDigit] using digit
  have value : Hex.digitValue? c = some (c.toNat - '0'.toNat) := if_pos bounds
  cases blank : isBlank c with
  | false => rfl
  | true =>
    rw [digitValue?_of_isBlank blank] at value
    cases value

end Text

namespace Assembly

namespace Version

theorem number?_of_digits {digits : List Char} (something : digits ≠ [])
    (areDigits : ∀ c ∈ digits, Text.isDigit c = true)
    (small : Text.natOfDigits digits < UInt16.size) :
    number? digits = some (UInt16.ofNat (Text.natOfDigits digits)) := by
  have allDigits : digits.all Text.isDigit = true := List.all_eq_true.mpr areDigits
  have notEmpty : digits.isEmpty = false := List.isEmpty_eq_false_iff.mpr something
  unfold number?
  split
  · have signIsDigit := areDigits '+' List.mem_cons_self
    cases signIsDigit
  · simp [notEmpty, allDigits, Nat.not_le.mpr small]

theorem number?_toDigits (part : UInt16) :
    number? (Text.trim (Nat.toDigits 10 part.toNat)) = some part := by
  have areDigits : ∀ c ∈ Nat.toDigits 10 part.toNat, Text.isDigit c = true :=
    fun _ member => Text.isDigit_of_mem_toDigits member
  have trimmed : Text.IsTrimmed (Nat.toDigits 10 part.toNat) :=
    Text.isTrimmed_of_noBlank fun c member => Text.not_blank_of_isDigit (areDigits c member)
  have value : Text.natOfDigits (Nat.toDigits 10 part.toNat) = part.toNat :=
    Text.natOfDigits_toDigits part.toNat
  have small : Text.natOfDigits (Nat.toDigits 10 part.toNat) < UInt16.size := by
    rw [value]
    exact part.toNat_lt
  rw [trimmed.trim_eq, number?_of_digits Nat.toDigits_ne_nil areDigits small, value,
    UInt16.ofNat_toNat]

theorem parse_render (version : Version) : parse version.render.toList = .ok version := by
  have noPoint (part : UInt16) : '.' ∉ Nat.toDigits 10 part.toNat :=
    Text.not_mem_toDigits (by decide) part.toNat
  have onePart (part : UInt16) :
      (Nat.toDigits 10 part.toNat).splitOn '.' = [Nat.toDigits 10 part.toNat] :=
    List.splitOn_eq_singleton (noPoint part)
  rw [parse, toList_render]
  simp only [List.splitOn_append_cons_self, onePart, List.cons_append, List.nil_append, readParts,
    number?_toDigits, Except.map]
  rfl

theorem isTrimmed_render (version : Version) : Text.IsTrimmed version.render.toList := by
  apply Text.isTrimmed_of_noBlank
  intro c member
  by_cases isPoint : c = '.'
  · rw [isPoint]
    decide
  · apply Text.not_blank_of_isDigit
    cases digit : Text.isDigit c with
    | true => rfl
    | false => exact absurd member (not_mem_render digit isPoint version)

end Version

namespace AssemblyName

/-- The assembly is in the form that reading gives. -/
structure Canonical (assembly : AssemblyName) : Prop where
  name_ne : assembly.name ≠ ""
  name_trimmed : Text.IsTrimmed assembly.name.toList
  name_separate : ',' ∉ assembly.name.toList
  culture_trimmed : Text.IsTrimmed assembly.culture.toList
  culture_separate : ',' ∉ assembly.culture.toList
  /-- In letters of no case. -/
  culture_ne : Text.equalIgnoringCase assembly.culture.toList neutralCulture.toList = false

variable {assembly next : AssemblyName}

theorem Canonical.displayable (canonical : assembly.Canonical) : assembly.Displayable where
  name_separate := canonical.name_separate
  culture_separate := canonical.culture_separate
  culture_ne := by
    intro same
    have named := canonical.culture_ne
    rw [same] at named
    exact absurd named (by decide)

/-! ## What is read is canonical -/

theorem canonical_ofSimpleName {name : List Char} (something : name ≠ [])
    (trimmed : Text.IsTrimmed name) (separate : ',' ∉ name) :
    (ofSimpleName (String.ofList name)).Canonical where
  name_ne := by
    intro empty
    have noChars := congrArg String.toList empty
    rw [ofSimpleName, String.toList_ofList] at noChars
    exact something noChars
  name_trimmed := by
    rw [ofSimpleName, String.toList_ofList]
    exact trimmed
  name_separate := by
    rw [ofSimpleName, String.toList_ofList]
    exact separate
  culture_trimmed := Text.trim_eq_self_iff.mp rfl
  culture_separate := List.not_mem_nil
  culture_ne := rfl

/-- Nothing but the two texts of the assembly matters. -/
theorem Canonical.of_texts_eq (canonical : assembly.Canonical) (names : next.name = assembly.name)
    (cultures : next.culture = assembly.culture) : next.Canonical where
  name_ne := names ▸ canonical.name_ne
  name_trimmed := names ▸ canonical.name_trimmed
  name_separate := names ▸ canonical.name_separate
  culture_trimmed := cultures ▸ canonical.culture_trimmed
  culture_separate := cultures ▸ canonical.culture_separate
  culture_ne := cultures ▸ canonical.culture_ne

theorem Canonical.withCulture (canonical : assembly.Canonical) {culture : String}
    (trimmed : Text.IsTrimmed culture.toList) (separate : ',' ∉ culture.toList)
    (named : Text.equalIgnoringCase culture.toList neutralCulture.toList = false) :
    Canonical { assembly with culture } where
  name_ne := canonical.name_ne
  name_trimmed := canonical.name_trimmed
  name_separate := canonical.name_separate
  culture_trimmed := trimmed
  culture_separate := separate
  culture_ne := named

theorem Canonical.setAttribute {value : List Char} {kind : Attribute}
    (canonical : assembly.Canonical) (trimmed : Text.IsTrimmed value) (separate : ',' ∉ value)
    (set : assembly.setAttribute value kind = .ok next) : next.Canonical := by
  unfold AssemblyName.setAttribute at set
  cases kind with
  | version =>
    cases read : Version.parse value with
    | ok version =>
      rw [read] at set
      cases set
      exact canonical.of_texts_eq rfl rfl
    | error error =>
      rw [read] at set
      cases set
  | culture =>
    dsimp only at set
    by_cases neutral : Text.equalIgnoringCase value neutralCulture.toList = true
    · rw [if_pos neutral] at set
      cases set
      exact canonical.withCulture (Text.trim_eq_self_iff.mp rfl) List.not_mem_nil rfl
    · rw [if_neg neutral] at set
      cases set
      rw [Bool.not_eq_true] at neutral
      apply canonical.withCulture
      all_goals rw [String.toList_ofList]
      · exact trimmed
      · exact separate
      · exact neutral
  | keyToken =>
    dsimp only at set
    by_cases absent : Text.equalIgnoringCase value absentKeyToken.toList = true
    · rw [if_pos absent] at set
      cases set
      exact canonical.of_texts_eq rfl rfl
    · rw [if_neg absent] at set
      cases read : KeyToken.parse? value with
      | some token =>
        rw [read] at set
        cases set
        exact canonical.of_texts_eq rfl rfl
      | none =>
        rw [read] at set
        cases set

theorem Canonical.readAttribute {text : List Char} (canonical : assembly.Canonical)
    (separate : ',' ∉ text) (read : assembly.readAttribute text = .ok next) : next.Canonical := by
  unfold AssemblyName.readAttribute at read
  cases cut : Text.cutFirst? '=' text with
  | none =>
    rw [cut] at read
    cases read
  | some pair =>
    obtain ⟨key, value⟩ := pair
    rw [cut] at read
    dsimp only at read
    cases known : Attribute.ofKey? (Text.trim key) with
    | none =>
      rw [known] at read
      cases read
    | some kind =>
      rw [known] at read
      have valueSeparate : ',' ∉ Text.trim value := by
        intro member
        exact separate (Text.mem_of_mem_cutFirst? cut (Text.mem_of_mem_trim member))
      exact canonical.setAttribute (Text.isTrimmed_trim value) valueSeparate read

theorem Canonical.readAttributes {texts : List (List Char)} (canonical : assembly.Canonical)
    (separate : ∀ text ∈ texts, ',' ∉ text) (read : assembly.readAttributes texts = .ok next) :
    next.Canonical := by
  induction texts generalizing assembly with
  | nil =>
    cases read
    exact canonical
  | cons text rest ih =>
    unfold AssemblyName.readAttributes at read
    cases first : assembly.readAttribute text with
    | error error =>
      rw [first] at read
      cases read
    | ok behind =>
      rw [first] at read
      have canonicalBehind := canonical.readAttribute (separate text List.mem_cons_self) first
      exact ih canonicalBehind (fun other member =>
        separate other (List.mem_cons_of_mem text member)) read

theorem canonical_of_parse {text : String} (parsed : parse text = .ok assembly) :
    assembly.Canonical := by
  unfold parse at parsed
  have clean : ∀ part ∈ (text.toList.splitOn ',').map Text.trim,
      Text.IsTrimmed part ∧ ',' ∉ part := by
    intro part isPart
    obtain ⟨field, isField, rfl⟩ := List.mem_map.mp isPart
    refine ⟨Text.isTrimmed_trim field, ?_⟩
    intro member
    exact Text.not_mem_of_mem_splitOn isField (Text.mem_of_mem_trim member)
  cases parts : (text.toList.splitOn ',').map Text.trim with
  | nil =>
    rw [parts] at parsed
    cases parsed
  | cons name attributes =>
    rw [parts] at parsed clean
    dsimp only at parsed
    by_cases missing : name.isEmpty = true
    · rw [if_pos missing] at parsed
      cases parsed
    · rw [if_neg missing] at parsed
      have something : name ≠ [] := fun empty => missing (List.isEmpty_iff.mpr empty)
      obtain ⟨trimmed, separate⟩ := clean name List.mem_cons_self
      have begins := canonical_ofSimpleName something trimmed separate
      exact begins.readAttributes (fun part member =>
        (clean part (List.mem_cons_of_mem name member)).2) parsed

theorem displayable_of_parse {text : String} (parsed : parse text = .ok assembly) :
    assembly.Displayable :=
  (canonical_of_parse parsed).displayable

/-! ## What is canonical is read back -/

theorem isTrimmed_key (kind : Attribute) : Text.IsTrimmed (kind.key.toList ++ ['=']) := by
  cases kind <;> exact Text.trim_eq_self_iff.mp rfl

theorem ofKey?_key (kind : Attribute) :
    Attribute.ofKey? (Text.trim kind.key.toList) = some kind := by
  cases kind <;> decide

theorem equals_not_mem_key (kind : Attribute) : '=' ∉ kind.key.toList := by
  cases kind <;> decide

/-- A field is read as the attribute that its key names. -/
theorem readAttribute_field (assembly : AssemblyName) (kind : Attribute) {value : List Char}
    (trimmed : Text.IsTrimmed value) :
    assembly.readAttribute (Text.trim (' ' :: (kind.key.toList ++ '=' :: value))) =
      assembly.setAttribute value kind := by
  have whole : Text.IsTrimmed (kind.key.toList ++ '=' :: value) := by
    have joined := Text.isTrimmed_append (isTrimmed_key kind) trimmed
    rw [List.append_assoc] at joined
    exact joined
  rw [Text.trim_cons_of_blank (by decide), whole.trim_eq, readAttribute,
    Text.cutFirst?_append (equals_not_mem_key kind)]
  dsimp only
  rw [ofKey?_key, trimmed.trim_eq]

theorem setAttribute_version (assembly : AssemblyName) (version : Version) :
    assembly.setAttribute version.render.toList .version = .ok { assembly with version } := by
  rw [AssemblyName.setAttribute, Version.parse_render]

theorem setAttribute_culture (assembly : AssemblyName) {culture : String}
    (named : Text.equalIgnoringCase culture.toList neutralCulture.toList = false) :
    assembly.setAttribute (cultureText culture).toList .culture =
      .ok { assembly with culture } := by
  unfold AssemblyName.setAttribute cultureText
  dsimp only
  by_cases empty : culture.isEmpty = true
  · rw [if_pos empty, if_pos (by decide), String.isEmpty_iff.mp empty]
  · rw [if_neg empty, if_neg (by simp [named]), String.ofList_toList]

theorem setAttribute_keyToken (assembly : AssemblyName) (keyToken : Option KeyToken) :
    assembly.setAttribute (keyTokenText keyToken).toList .keyToken =
      .ok { assembly with keyToken } := by
  unfold AssemblyName.setAttribute
  dsimp only
  cases keyToken with
  | none =>
    have absent :
        Text.equalIgnoringCase (keyTokenText none).toList absentKeyToken.toList = true := by decide
    rw [if_pos absent]
  | some token =>
    have present : ¬ Text.equalIgnoringCase (keyTokenText (some token)).toList
        absentKeyToken.toList = true := by
      rw [equalIgnoringCase_keyTokenText]
      exact Bool.false_ne_true
    have read : KeyToken.parse? (keyTokenText (some token)).toList = some token := by
      rw [toList_keyTokenText, KeyToken.parse?, Hex.decode?_encodeChars]
      exact dif_pos token.length_eq
    rw [if_neg present, read]

theorem isTrimmed_cultureText {culture : String} (trimmed : Text.IsTrimmed culture.toList) :
    Text.IsTrimmed (cultureText culture).toList := by
  unfold cultureText
  split
  · exact Text.trim_eq_self_iff.mp rfl
  · exact trimmed

theorem isTrimmed_keyTokenText (keyToken : Option KeyToken) :
    Text.IsTrimmed (keyTokenText keyToken).toList := by
  cases keyToken with
  | none => exact Text.trim_eq_self_iff.mp rfl
  | some token =>
    apply Text.isTrimmed_of_noBlank
    intro c member
    cases blank : Text.isBlank c with
    | false => rfl
    | true =>
      rw [toList_keyTokenText] at member
      exact absurd member (Hex.not_mem_encodeChars (Text.digitValue?_of_isBlank blank) token.bytes)

theorem toList_versionField (assembly : AssemblyName) :
    assembly.versionField.toList =
      ' ' :: (Attribute.version.key.toList ++ '=' :: assembly.version.render.toList) := by
  rw [versionField, String.toList_append]
  rfl

theorem toList_cultureField (assembly : AssemblyName) :
    assembly.cultureField.toList =
      ' ' :: (Attribute.culture.key.toList ++ '=' :: (cultureText assembly.culture).toList) := by
  rw [cultureField, String.toList_append]
  rfl

theorem toList_keyTokenField (assembly : AssemblyName) :
    assembly.keyTokenField.toList =
      ' ' :: (Attribute.keyToken.key.toList ++ '=' :: (keyTokenText assembly.keyToken).toList) := by
  rw [keyTokenField, String.toList_append]
  rfl

theorem parse_render_of_canonical (canonical : assembly.Canonical) :
    parse assembly.render = .ok assembly := by
  have noComma (field : String) (separate : ',' ∉ field.toList) :
      field.toList.splitOn ',' = [field.toList] := List.splitOn_eq_singleton separate
  have fields : assembly.render.toList.splitOn ',' =
      [assembly.name.toList, assembly.versionField.toList, assembly.cultureField.toList,
        assembly.keyTokenField.toList] := by
    rw [toList_render, List.splitOn_append_cons_self, List.splitOn_append_cons_self,
      List.splitOn_append_cons_self, noComma _ canonical.name_separate,
      noComma _ assembly.comma_not_mem_versionField,
      noComma _ canonical.displayable.comma_not_mem_cultureField,
      noComma _ (not_mem_keyTokenField (by decide) (by decide) assembly)]
    rfl
  have something : ¬ assembly.name.toList.isEmpty = true := by
    intro empty
    exact canonical.name_ne (String.toList_eq_nil_iff.mp (List.isEmpty_iff.mp empty))
  have versionRead : (ofSimpleName assembly.name).readAttribute
      (Text.trim assembly.versionField.toList) =
        .ok ⟨assembly.name, assembly.version, "", none⟩ := by
    rw [toList_versionField, readAttribute_field _ _ assembly.version.isTrimmed_render]
    exact setAttribute_version (ofSimpleName assembly.name) assembly.version
  have cultureRead : readAttribute ⟨assembly.name, assembly.version, "", none⟩
      (Text.trim assembly.cultureField.toList) =
        .ok ⟨assembly.name, assembly.version, assembly.culture, none⟩ := by
    rw [toList_cultureField,
      readAttribute_field _ _ (isTrimmed_cultureText canonical.culture_trimmed)]
    exact setAttribute_culture _ canonical.culture_ne
  have keyTokenRead : readAttribute ⟨assembly.name, assembly.version, assembly.culture, none⟩
      (Text.trim assembly.keyTokenField.toList) = .ok assembly := by
    rw [toList_keyTokenField, readAttribute_field _ _ (isTrimmed_keyTokenText assembly.keyToken)]
    exact setAttribute_keyToken _ assembly.keyToken
  unfold parse
  rw [fields]
  simp only [List.map_cons, List.map_nil, canonical.name_trimmed.trim_eq, if_neg something,
    String.ofList_toList, readAttributes, versionRead, cultureRead, keyTokenRead]

/-- The canonical assemblies are those that are read back from their display names. All assemblies
that are read from any text are canonical, so displaying them and reading again gives the same. -/
theorem parse_render_iff_canonical :
    (∀ assembly : AssemblyName, parse assembly.render = .ok assembly ↔ assembly.Canonical) ∧
    ∀ (text : String) (assembly : AssemblyName), parse text = .ok assembly →
      assembly.Canonical ∧ parse assembly.render = .ok assembly := by
  constructor
  · intro assembly
    exact ⟨canonical_of_parse, parse_render_of_canonical⟩
  · intro text assembly parsed
    have canonical := canonical_of_parse parsed
    exact ⟨canonical, parse_render_of_canonical canonical⟩

/-- Once an assembly is read, its blanks, signs, missing version parts and keys in other letters are
gone, and so is an attribute given twice. One whose culture was set to `Neutral` is read back as
another. -/
theorem parse_render_iff_canonical_looseText :
    (∃ assembly : AssemblyName,
      parse " Wrap ,culture= de=DE,PUBLICKEYTOKEN=0123456789ABCDEF , version = +01. 2,culture=fr" =
        .ok assembly ∧
      assembly.render = "Wrap, Version=1.2.0.0, Culture=fr, PublicKeyToken=0123456789abcdef" ∧
      parse assembly.render = .ok assembly) ∧
    ¬ (⟨"Wrap", Version.zero, "Neutral", none⟩ : AssemblyName).Canonical := by
  constructor
  · have parsed : parse
        " Wrap ,culture= de=DE,PUBLICKEYTOKEN=0123456789ABCDEF , version = +01. 2,culture=fr" =
          .ok ⟨"Wrap", ⟨1, 2, 0, 0⟩, "fr",
            some ⟨[0x01, 0x23, 0x45, 0x67, 0x89, 0xAB, 0xCD, 0xEF], by decide⟩⟩ := rfl
    exact ⟨_, parsed, by decide +kernel, (parse_render_iff_canonical.2 _ _ parsed).2⟩
  · intro canonical
    have readBack := (parse_render_iff_canonical.1 _).mpr canonical
    have readOther : parse (⟨"Wrap", Version.zero, "Neutral", none⟩ : AssemblyName).render =
        .ok (ofSimpleName "Wrap") := rfl
    rw [readOther] at readBack
    exact absurd (congrArg culture (Except.ok.inj readBack)) (by decide)

end AssemblyName

end Assembly

end Detour
