import Detour.Assembly.Name

/-!
# Display names

A display name is the simple name and three fields behind commas. If neither the simple name nor the
culture holds a comma, and the culture is not `neutral`, which stands for the empty one, then the
assembly is identified by its display name. Moreover, the display name ends at the first bracket
behind its third comma, so that it can be told from what is written behind it.
-/

namespace Detour.Assembly

namespace AssemblyName

/-- The parts of the assembly can be told from its display name. -/
structure Displayable (assembly : AssemblyName) : Prop where
  name_separate : ',' ∉ assembly.name.toList
  culture_separate : ',' ∉ assembly.culture.toList
  culture_ne : assembly.culture ≠ neutralCulture

/-! ## Fields -/

/-- The culture as it is displayed. -/
def cultureText (culture : String) : String :=
  if culture.isEmpty then neutralCulture else culture

/-- The public key token as it is displayed. -/
def keyTokenText : Option KeyToken → String
  | some token => token.render
  | none => absentKeyToken

def versionField (assembly : AssemblyName) : String :=
  " Version=" ++ assembly.version.render

def cultureField (assembly : AssemblyName) : String :=
  " Culture=" ++ cultureText assembly.culture

def keyTokenField (assembly : AssemblyName) : String :=
  " PublicKeyToken=" ++ keyTokenText assembly.keyToken

theorem render_eq (assembly : AssemblyName) :
    assembly.render = assembly.name ++ ", Version=" ++ assembly.version.render ++
      ", Culture=" ++ cultureText assembly.culture ++ ", PublicKeyToken=" ++
        keyTokenText assembly.keyToken := by
  rw [render]
  cases assembly.keyToken with
  | none => rfl
  | some token => rfl

theorem toList_render (assembly : AssemblyName) :
    assembly.render.toList =
      assembly.name.toList ++ ',' :: (assembly.versionField.toList ++
        ',' :: (assembly.cultureField.toList ++ ',' :: assembly.keyTokenField.toList)) := by
  rw [render_eq]
  unfold versionField cultureField keyTokenField
  simp

theorem cultureText_inj {left right : String} (leftNamed : left ≠ neutralCulture)
    (rightNamed : right ≠ neutralCulture) (same : cultureText left = cultureText right) :
    left = right := by
  unfold cultureText at same
  by_cases leftEmpty : left.isEmpty = true
  · by_cases rightEmpty : right.isEmpty = true
    · rw [String.isEmpty_iff.mp leftEmpty, String.isEmpty_iff.mp rightEmpty]
    · rw [if_pos leftEmpty, if_neg rightEmpty] at same
      exact absurd same.symm rightNamed
  · by_cases rightEmpty : right.isEmpty = true
    · rw [if_neg leftEmpty, if_pos rightEmpty] at same
      exact absurd same leftNamed
    · rw [if_neg leftEmpty, if_neg rightEmpty] at same
      exact same

theorem toList_keyTokenText (token : KeyToken) :
    (keyTokenText (some token)).toList = Hex.encodeChars token.bytes :=
  String.toList_ofList

/-- A token has more digits than `null` has letters. -/
theorem equalIgnoringCase_keyTokenText (token : KeyToken) :
    Text.equalIgnoringCase (keyTokenText (some token)).toList absentKeyToken.toList = false := by
  rw [Text.equalIgnoringCase, beq_eq_false_iff_ne]
  intro same
  have sameLength := congrArg List.length same
  rw [List.length_map, List.length_map, toList_keyTokenText, Hex.length_encodeChars,
    token.length_eq] at sameLength
  exact absurd sameLength (by decide)

theorem keyTokenText_ne_absent (token : KeyToken) : keyTokenText (some token) ≠ absentKeyToken := by
  intro same
  have differs := equalIgnoringCase_keyTokenText token
  rw [same] at differs
  exact absurd differs (by decide)

theorem keyTokenText_injective : Function.Injective keyTokenText := by
  intro left right same
  cases left with
  | none =>
    cases right with
    | none => rfl
    | some token => exact absurd same.symm (keyTokenText_ne_absent token)
  | some leftToken =>
    cases right with
    | none => exact absurd same (keyTokenText_ne_absent leftToken)
    | some rightToken =>
      have sameChars := congrArg String.toList same
      rw [toList_keyTokenText, toList_keyTokenText] at sameChars
      have sameBytes := Hex.encodeChars_injective sameChars
      cases leftToken
      cases rightToken
      cases sameBytes
      rfl

theorem comma_not_mem_versionField (assembly : AssemblyName) :
    ',' ∉ assembly.versionField.toList := by
  have separate : ',' ∉ assembly.version.render.toList :=
    Version.not_mem_render (by decide) (by decide) assembly.version
  unfold versionField
  simp [separate]

theorem Displayable.comma_not_mem_cultureField {assembly : AssemblyName}
    (displayable : assembly.Displayable) : ',' ∉ assembly.cultureField.toList := by
  have separate : ',' ∉ (cultureText assembly.culture).toList := by
    unfold cultureText
    split
    · decide
    · exact displayable.culture_separate
  unfold cultureField
  simp [separate]

theorem not_mem_keyTokenField {c : Char} (absent : c ∉ " PublicKeyToken=null".toList)
    (noDigit : Hex.digitValue? c = none) (assembly : AssemblyName) :
    c ∉ assembly.keyTokenField.toList := by
  have parts : " PublicKeyToken=null".toList =
      " PublicKeyToken=".toList ++ absentKeyToken.toList := by decide
  rw [parts, List.mem_append, not_or] at absent
  have separate : c ∉ (keyTokenText assembly.keyToken).toList := by
    cases assembly.keyToken with
    | none => exact absent.2
    | some token =>
      rw [toList_keyTokenText]
      exact Hex.not_mem_encodeChars noDigit token.bytes
  rw [keyTokenField, String.toList_append, List.mem_append, not_or]
  exact ⟨absent.1, separate⟩

/-- In front of a bracket, a display name can be told from what is written behind it. -/
theorem render_append_bracket_inj {left right : AssemblyName} {leftRest rightRest : List Char}
    (leftDisplayable : left.Displayable) (rightDisplayable : right.Displayable) :
    left.render.toList ++ ']' :: leftRest = right.render.toList ++ ']' :: rightRest ↔
      left = right ∧ leftRest = rightRest := by
  constructor
  · intro same
    rw [toList_render, toList_render] at same
    simp only [List.append_assoc, List.cons_append] at same
    -- A culture may hold brackets, so the one that ends the display name is sought last.
    obtain ⟨names, same⟩ := (Text.append_separator_inj leftDisplayable.name_separate
      rightDisplayable.name_separate).mp same
    obtain ⟨versions, same⟩ := (Text.append_separator_inj left.comma_not_mem_versionField
      right.comma_not_mem_versionField).mp same
    obtain ⟨cultures, same⟩ := (Text.append_separator_inj leftDisplayable.comma_not_mem_cultureField
      rightDisplayable.comma_not_mem_cultureField).mp same
    have noBracket (assembly : AssemblyName) : ']' ∉ assembly.keyTokenField.toList :=
      not_mem_keyTokenField (by decide) (by decide) assembly
    obtain ⟨keyTokens, rests⟩ :=
      (Text.append_separator_inj (noBracket left) (noBracket right)).mp same
    have sameName : left.name = right.name := String.toList_inj.mp names
    have sameVersion : left.version = right.version := Version.render_injective
      ((String.append_right_inj " Version=").mp (String.toList_inj.mp versions))
    have sameCulture : left.culture = right.culture :=
      cultureText_inj leftDisplayable.culture_ne rightDisplayable.culture_ne
        ((String.append_right_inj " Culture=").mp (String.toList_inj.mp cultures))
    have sameKeyToken : left.keyToken = right.keyToken := keyTokenText_injective
      ((String.append_right_inj " PublicKeyToken=").mp (String.toList_inj.mp keyTokens))
    refine ⟨?_, rests⟩
    cases left
    cases right
    rw [mk.injEq]
    exact ⟨sameName, sameVersion, sameCulture, sameKeyToken⟩
  · rintro ⟨rfl, rfl⟩
    rfl

end AssemblyName

end Detour.Assembly
