import Detour.Proofs.Assembly.CanonicalNames
import Detour.Rule.Wrapper

/-!
# Wrapper keys

A key shows all four parts of a wrapper. The assembly and the signature can be told from it, but of
the two names only what they are together, with a point between them: a point in the name of a type
or method may be taken for this one. Wrappers that differ in no more than the place of the point
have the same key.
-/

namespace Detour.Rule

open Detour.Assembly

namespace WrapperKey

theorem toList_text_ofParts (assembly : AssemblyName) (typeName methodName : String)
    (signature : List UInt8) :
    (ofParts assembly typeName methodName signature).text.toList =
      '[' :: (assembly.render.toList ++ ']' :: ((typeName ++ "." ++ methodName).toList ++
        '(' :: (Hex.encodeChars signature ++ [')']))) := by
  simp [ofParts, Hex.encode]

theorem ofParts_eq_iff {left right : AssemblyName}
    {leftType leftMethod rightType rightMethod : String} {leftSignature rightSignature : List UInt8}
    (leftDisplayable : left.Displayable) (rightDisplayable : right.Displayable) :
    ofParts left leftType leftMethod leftSignature =
        ofParts right rightType rightMethod rightSignature ↔
      left = right ∧ leftSignature = rightSignature ∧
        leftType ++ "." ++ leftMethod = rightType ++ "." ++ rightMethod := by
  constructor
  · intro same
    have chars := congrArg String.toList (congrArg text same)
    rw [toList_text_ofParts, toList_text_ofParts] at chars
    obtain ⟨sameAssembly, chars⟩ :=
      (AssemblyName.render_append_bracket_inj leftDisplayable rightDisplayable).mp
        (List.cons.inj chars).2
    -- Names may hold parentheses, and signatures may not: the signature is cut off from the right.
    rw [← List.cons_append, ← List.cons_append, ← List.append_assoc, ← List.append_assoc] at chars
    have noParenthesis (signature : List UInt8) : '(' ∉ Hex.encodeChars signature :=
      Hex.not_mem_encodeChars (by decide) signature
    obtain ⟨names, signatures⟩ := (Text.append_separator_inj_of_rests (noParenthesis leftSignature)
      (noParenthesis rightSignature)).mp (List.append_cancel_right chars)
    exact ⟨sameAssembly, Hex.encodeChars_injective signatures, String.toList_inj.mp names⟩
  · rintro ⟨rfl, rfl, names⟩
    have sameText : (ofParts left leftType leftMethod leftSignature).text =
        (ofParts left rightType rightMethod leftSignature).text := by
      rw [← String.toList_inj, toList_text_ofParts, toList_text_ofParts, names]
    exact congrArg mk sameText

end WrapperKey

namespace Wrapper

variable {first second : Wrapper}

/-- The wrapper was put together from its parts. -/
def IsMade (wrapper : Wrapper) : Prop :=
  ∃ assembly typeName methodName signature,
    make assembly typeName methodName signature = .ok wrapper

/-- The names are the same if a point is put between them, but `piece` ends the type name of one
wrapper and begins the method name of the other. -/
def CutsBehind (first second : Wrapper) (piece : String) : Prop :=
  first.typeName = second.typeName ++ "." ++ piece ∧
    second.methodName = piece ++ "." ++ first.methodName

theorem CutsBehind.names_eq {piece : String} (cuts : first.CutsBehind second piece) :
    first.typeName ++ "." ++ first.methodName = second.typeName ++ "." ++ second.methodName := by
  obtain ⟨typeNames, methodNames⟩ := cuts
  rw [typeNames, methodNames]
  simp only [String.append_assoc]

theorem names_eq_iff :
    first.typeName ++ "." ++ first.methodName = second.typeName ++ "." ++ second.methodName ↔
      (first.typeName = second.typeName ∧ first.methodName = second.methodName) ∨
      (∃ piece, first.CutsBehind second piece) ∨ ∃ piece, second.CutsBehind first piece := by
  have pointed (left right : String) :
      (left ++ "." ++ right).toList = left.toList ++ '.' :: right.toList := by simp
  constructor
  · intro same
    have chars := congrArg String.toList same
    rw [pointed, pointed] at chars
    have cutsBehind {left right : Wrapper} {piece : List Char}
        (typeNames : left.typeName.toList = right.typeName.toList ++ '.' :: piece)
        (methodNames : right.methodName.toList = piece ++ '.' :: left.methodName.toList) :
        left.CutsBehind right (String.ofList piece) := by
      constructor
      · rw [← String.toList_inj, pointed, String.toList_ofList]
        exact typeNames
      · rw [← String.toList_inj, pointed, String.toList_ofList]
        exact methodNames
    rcases Text.append_separator_eq_iff.mp chars with sameNames | behind | before
    · obtain ⟨typeNames, methodNames⟩ := sameNames
      exact .inl ⟨String.toList_inj.mp typeNames, String.toList_inj.mp methodNames⟩
    · obtain ⟨piece, typeNames, methodNames⟩ := behind
      exact .inr (.inl ⟨_, cutsBehind typeNames methodNames⟩)
    · obtain ⟨piece, typeNames, methodNames⟩ := before
      exact .inr (.inr ⟨_, cutsBehind typeNames methodNames⟩)
  · rintro (⟨typeNames, methodNames⟩ | ⟨piece, cuts⟩ | ⟨piece, cuts⟩)
    · rw [typeNames, methodNames]
    · exact cuts.names_eq
    · exact cuts.names_eq.symm

theorem CutsBehind.point_mem {piece : String} (cuts : first.CutsBehind second piece) :
    '.' ∈ second.methodName.toList := by
  rw [cuts.2]
  simp

theorem make_eq_ok_iff {assembly : AssemblyName} {typeName methodName : String}
    {signature : List UInt8} {wrapper : Wrapper} :
    make assembly typeName methodName signature = .ok wrapper ↔
      assembly.name ≠ "" ∧ typeName ≠ "" ∧ methodName ≠ "" ∧ signature ≠ [] ∧
        wrapper = ⟨assembly, typeName, methodName, signature,
          WrapperKey.ofParts assembly typeName methodName signature⟩ := by
  simp only [make, String.isEmpty_iff, List.isEmpty_iff]
  by_cases noName : assembly.name = ""
  · simp [noName]
  · by_cases noType : typeName = ""
    · simp [noName, noType]
    · by_cases noMethod : methodName = ""
      · simp [noName, noType, noMethod]
      · by_cases noSignature : signature = []
        · simp [noName, noType, noMethod, noSignature]
        · simp [noName, noType, noMethod, noSignature, @eq_comm _ wrapper]

theorem eq_of_make {assembly : AssemblyName} {typeName methodName : String}
    {signature : List UInt8} {wrapper : Wrapper}
    (made : make assembly typeName methodName signature = .ok wrapper) :
    wrapper = ⟨assembly, typeName, methodName, signature,
      WrapperKey.ofParts assembly typeName methodName signature⟩ := by
  obtain ⟨-, -, -, -, same⟩ := make_eq_ok_iff.mp made
  exact same

theorem IsMade.key_eq {wrapper : Wrapper} (made : wrapper.IsMade) :
    wrapper.key = WrapperKey.ofParts wrapper.assembly wrapper.typeName wrapper.methodName
      wrapper.signature := by
  obtain ⟨assembly, typeName, methodName, signature, made⟩ := made
  rw [eq_of_make made]

theorem IsMade.make_eq {wrapper : Wrapper} (made : wrapper.IsMade) :
    make wrapper.assembly wrapper.typeName wrapper.methodName wrapper.signature = .ok wrapper := by
  obtain ⟨assembly, typeName, methodName, signature, made⟩ := made
  obtain ⟨-, -, -, -, rfl⟩ := make_eq_ok_iff.mp made
  exact made

theorem IsMade.eq_iff (firstMade : first.IsMade) (secondMade : second.IsMade) :
    first = second ↔ first.assembly = second.assembly ∧ first.typeName = second.typeName ∧
      first.methodName = second.methodName ∧ first.signature = second.signature := by
  constructor
  · rintro rfl
    exact ⟨rfl, rfl, rfl, rfl⟩
  · rintro ⟨assemblies, typeNames, methodNames, signatures⟩
    have keys : first.key = second.key := by
      rw [firstMade.key_eq, secondMade.key_eq, assemblies, typeNames, methodNames, signatures]
    cases first
    cases second
    rw [mk.injEq]
    exact ⟨assemblies, typeNames, methodNames, signatures, keys⟩

theorem define_eq_ok_iff {assembly typeName methodName : String} {signature : List UInt8}
    {wrapper : Wrapper} :
    define assembly typeName methodName signature = .ok wrapper ↔
      ∃ name, AssemblyName.parse assembly = .ok name ∧
        make name typeName methodName signature = .ok wrapper := by
  unfold define readAssembly
  cases AssemblyName.parse assembly with
  | error error => simp
  | ok name =>
    cases made : make name typeName methodName signature with
    | error part => simp [made]
    | ok madeWrapper => simp [made]

/-- Definitions give displayable assemblies. -/
theorem isMade_of_define {assembly typeName methodName : String} {signature : List UInt8}
    {wrapper : Wrapper} (defined : define assembly typeName methodName signature = .ok wrapper) :
    wrapper.IsMade ∧ wrapper.assembly.Displayable := by
  obtain ⟨name, parsed, made⟩ := define_eq_ok_iff.mp defined
  refine ⟨⟨name, typeName, methodName, signature, made⟩, ?_⟩
  rw [eq_of_make made]
  exact AssemblyName.displayable_of_parse parsed

/-- Wrappers with the same key have the same assembly and signature, and the same names unless a
point in the method name of one stands where the other has its type name end. Wrappers whose method
names hold no point are identified by their keys. -/
theorem key_eq_iff (firstMade : first.IsMade) (secondMade : second.IsMade)
    (firstDisplayable : first.assembly.Displayable)
    (secondDisplayable : second.assembly.Displayable) :
    (first.key = second.key ↔
      first.assembly = second.assembly ∧ first.signature = second.signature ∧
        ((first.typeName = second.typeName ∧ first.methodName = second.methodName) ∨
          (∃ piece, first.CutsBehind second piece) ∨ ∃ piece, second.CutsBehind first piece)) ∧
    ('.' ∉ first.methodName.toList → '.' ∉ second.methodName.toList →
      (first.key = second.key ↔ first = second)) := by
  have shared : first.key = second.key ↔
      first.assembly = second.assembly ∧ first.signature = second.signature ∧
        ((first.typeName = second.typeName ∧ first.methodName = second.methodName) ∨
          (∃ piece, first.CutsBehind second piece) ∨ ∃ piece, second.CutsBehind first piece) := by
    rw [firstMade.key_eq, secondMade.key_eq,
      WrapperKey.ofParts_eq_iff firstDisplayable secondDisplayable, names_eq_iff]
  refine ⟨shared, ?_⟩
  intro firstPlain secondPlain
  constructor
  · intro sameKey
    obtain ⟨assemblies, signatures, names⟩ := shared.mp sameKey
    rcases names with ⟨typeNames, methodNames⟩ | ⟨piece, cuts⟩ | ⟨piece, cuts⟩
    · exact (firstMade.eq_iff secondMade).mpr ⟨assemblies, typeNames, methodNames, signatures⟩
    · exact absurd cuts.point_mem secondPlain
    · exact absurd cuts.point_mem firstPlain
  · rintro rfl
    rfl

theorem key_eq_iff_plainNames :
    ∃ first second, define "Wrap" "Wrap.Task" "Run" [0] = .ok first ∧
      define "Wrap" "Wrap.Task" "Start" [0] = .ok second ∧
      first.IsMade ∧ second.IsMade ∧ first.assembly.Displayable ∧ second.assembly.Displayable ∧
      first.key ≠ second.key := by
  refine ⟨_, _, rfl, rfl, ?_⟩
  obtain ⟨firstMade, firstDisplayable⟩ := isMade_of_define
    (rfl : define "Wrap" "Wrap.Task" "Run" [0] = .ok _)
  obtain ⟨secondMade, secondDisplayable⟩ := isMade_of_define
    (rfl : define "Wrap" "Wrap.Task" "Start" [0] = .ok _)
  refine ⟨firstMade, secondMade, firstDisplayable, secondDisplayable, ?_⟩
  intro sameKey
  have identified := (key_eq_iff firstMade secondMade firstDisplayable secondDisplayable).2
    (by decide) (by decide)
  have sameMethod := congrArg methodName (identified.mp sameKey)
  exact absurd sameMethod (by decide)

/-- Two wrappers with the same key that have no name in common. -/
theorem key_eq_of_differentNames :
    ∃ first second, make (.ofSimpleName "Wrap") "A.B" "C" [0] = .ok first ∧
      make (.ofSimpleName "Wrap") "A" "B.C" [0] = .ok second ∧
      first.key = second.key ∧ first.typeName ≠ second.typeName ∧
      first.methodName ≠ second.methodName :=
  ⟨_, _, rfl, rfl, rfl, by decide, by decide⟩

/-- If the assemblies were read from texts, then the keys tell apart any two assemblies, signatures
and pairs of names, but not two pairs that look the same with a point between the names. -/
theorem key_eq_iff_joinedNames {firstText secondText : String} (firstMade : first.IsMade)
    (secondMade : second.IsMade)
    (firstParsed : AssemblyName.parse firstText = .ok first.assembly)
    (secondParsed : AssemblyName.parse secondText = .ok second.assembly) :
    first.key = second.key ↔
      first.assembly = second.assembly ∧ first.signature = second.signature ∧
        first.typeName ++ "." ++ first.methodName = second.typeName ++ "." ++ second.methodName := by
  have firstDisplayable := AssemblyName.displayable_of_parse firstParsed
  have secondDisplayable := AssemblyName.displayable_of_parse secondParsed
  rw [firstMade.key_eq, secondMade.key_eq]
  exact WrapperKey.ofParts_eq_iff firstDisplayable secondDisplayable

/-- Brackets and parentheses in culture and names do not mislead: the first two wrappers differ in
the place of the point only, and the third has a part of the type name in its culture. -/
theorem key_eq_iff_joinedNames_delimiters :
    ∃ first second third,
      define "Wrap, Culture=[de]" "](A.B" "C(00)" [0] = .ok first ∧
      define "Wrap, Culture=[de]" "](A" "B.C(00)" [0] = .ok second ∧
      define "Wrap, Culture=[de]](" "A.B" "C(00)" [0] = .ok third ∧
      first.key = second.key ∧ first.key ≠ third.key := by
  refine ⟨_, _, _, rfl, rfl, rfl, ?_, ?_⟩
  · have firstMade := (isMade_of_define
      (rfl : define "Wrap, Culture=[de]" "](A.B" "C(00)" [0] = .ok _)).1
    have secondMade := (isMade_of_define
      (rfl : define "Wrap, Culture=[de]" "](A" "B.C(00)" [0] = .ok _)).1
    have readCulture : AssemblyName.parse "Wrap, Culture=[de]" =
        .ok ⟨"Wrap", Version.zero, "[de]", none⟩ := rfl
    exact (key_eq_iff_joinedNames firstMade secondMade readCulture readCulture).mpr
      ⟨rfl, rfl, by decide⟩
  · have firstMade := (isMade_of_define
      (rfl : define "Wrap, Culture=[de]" "](A.B" "C(00)" [0] = .ok _)).1
    have thirdMade := (isMade_of_define
      (rfl : define "Wrap, Culture=[de]](" "A.B" "C(00)" [0] = .ok _)).1
    have firstRead : AssemblyName.parse "Wrap, Culture=[de]" =
        .ok ⟨"Wrap", Version.zero, "[de]", none⟩ := rfl
    have thirdRead : AssemblyName.parse "Wrap, Culture=[de]](" =
        .ok ⟨"Wrap", Version.zero, "[de]](", none⟩ := rfl
    intro sameKey
    obtain ⟨assemblies, -⟩ :=
      (key_eq_iff_joinedNames firstMade thirdMade firstRead thirdRead).mp sameKey
    exact absurd (congrArg AssemblyName.culture assemblies) (by decide)

end Wrapper

end Detour.Rule
