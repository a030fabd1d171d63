import Detour.Module.Table
import Detour.Proofs.Sequencing

/-!
# Growing records

While a module is loaded its record only grows. Emitting a reference changes nothing else, keeps
every reference that was remembered before, and remembers the new one if the host has taken all its
rows; a replacement is enabled only behind the reference to its wrapper.
-/

namespace Detour

open Detour.Assembly
open Detour.Host
open Detour.Rule

variable {S α : Type}

namespace ModuleRecord

/-- The record without its memory of assembly and type references. -/
def withoutRows (record : ModuleRecord S) : ModuleRecord S :=
  { record with assemblyRefs := [], typeRefs := [] }

/-- `after` is `before` with more references, and with the replacements `enabled` behind the others,
each of which has its reference. -/
structure Grows (before after : ModuleRecord S) (enabled : List Replacement) : Prop where
  moduleId_eq : after.moduleId = before.moduleId
  assembly_eq : after.assembly = before.assembly
  metadata_eq : after.metadata = before.metadata
  replacements_eq : after.replacements = before.replacements ++ enabled
  keeps : ∀ wrapper token, before.wrapperRef? wrapper = some token →
    after.wrapperRef? wrapper = some token
  referenced : ∀ replacement ∈ enabled, ∃ token, after.wrapperRef? replacement.wrapper = some token

variable {before middle after : ModuleRecord S} {first second : List Replacement}

theorem Grows.of_withoutRows_eq (same : after.withoutRows = before.withoutRows) :
    before.Grows after [] where
  moduleId_eq := congrArg (·.moduleId) same
  assembly_eq := congrArg (·.assembly) same
  metadata_eq := congrArg (·.metadata) same
  replacements_eq := by
    rw [List.append_nil]
    exact congrArg (·.replacements) same
  keeps wrapper token remembered := by
    have sameRefs : after.wrapperRefs = before.wrapperRefs := congrArg (·.wrapperRefs) same
    rw [wrapperRef?, sameRefs]
    exact remembered
  referenced replacement member := by cases member

theorem Grows.trans (firstGrows : before.Grows middle first)
    (secondGrows : middle.Grows after second) : before.Grows after (first ++ second) where
  moduleId_eq := secondGrows.moduleId_eq.trans firstGrows.moduleId_eq
  assembly_eq := secondGrows.assembly_eq.trans firstGrows.assembly_eq
  metadata_eq := secondGrows.metadata_eq.trans firstGrows.metadata_eq
  replacements_eq := by
    rw [secondGrows.replacements_eq, firstGrows.replacements_eq, List.append_assoc]
  keeps wrapper token remembered :=
    secondGrows.keeps wrapper token (firstGrows.keeps wrapper token remembered)
  referenced replacement member := by
    rcases List.mem_append.mp member with inFirst | inSecond
    · obtain ⟨token, remembered⟩ := firstGrows.referenced replacement inFirst
      exact ⟨token, secondGrows.keeps _ token remembered⟩
    · exact secondGrows.referenced replacement inSecond

/-- A new reference hides none of the others. -/
theorem Grows.remember {wrapper : Wrapper} {token : Token}
    (absent : before.wrapperRef? wrapper = none)
    (remembered : after.withoutRows =
      { before.withoutRows with wrapperRefs := (wrapper.key, token) :: before.wrapperRefs }) :
    before.Grows after [] ∧ after.wrapperRef? wrapper = some token := by
  have refs : after.wrapperRefs = (wrapper.key, token) :: before.wrapperRefs :=
    congrArg (·.wrapperRefs) remembered
  refine ⟨?_, ?_⟩
  · refine ⟨congrArg (·.moduleId) remembered, congrArg (·.assembly) remembered,
      congrArg (·.metadata) remembered, ?_, ?_, ?_⟩
    · rw [List.append_nil]
      exact congrArg (·.replacements) remembered
    · intro other otherToken found
      have differs : other.key ≠ wrapper.key := by
        intro same
        rw [wrapperRef?, same] at found
        rw [wrapperRef?, found] at absent
        cases absent
      rw [wrapperRef?, refs, List.lookup_cons, beq_false_of_ne differs]
      exact found
    · intro replacement member
      cases member
  · rw [wrapperRef?, refs, List.lookup_cons, beq_self_eq_true]

theorem grows_enable {replacement : Replacement} {token : Token}
    (remembered : before.wrapperRef? replacement.wrapper = some token) :
    before.Grows (before.enable replacement) [replacement] where
  moduleId_eq := rfl
  assembly_eq := rfl
  metadata_eq := rfl
  replacements_eq := rfl
  keeps _ _ found := found
  referenced other member := by
    rw [List.mem_singleton.mp member]
    exact ⟨token, remembered⟩

end ModuleRecord

/-! ## Emission -/

namespace Emission

open Detour.EStateM

/-- What steps that only emit rows keep. -/
def settled (emission : Emission S) : ModuleRecord S :=
  emission.record.withoutRows

theorem keeps_onHost (refuse : Refusal → EmissionError) (call : EStateM Refusal S Token) :
    Keeps settled (onHost refuse call) := by
  intro emission
  unfold onHost
  cases World.onHost call emission.world with
  | ok token world => rfl
  | error refusal world => rfl

theorem keeps_assemblyRef (assembly : AssemblyName) :
    Keeps settled (assemblyRef (S := S) assembly) := by
  unfold assemblyRef
  apply keeps_bind (fun _ => rfl)
  intro emission
  dsimp only
  split
  · exact keeps_pure _
  · apply keeps_bind (keeps_onHost _ _)
    intro token
    exact keeps_bind (fun _ => rfl) fun _ => keeps_pure token

theorem keeps_typeRef (scope : Token) (typeName : String) :
    Keeps settled (typeRef (S := S) scope typeName) := by
  unfold typeRef
  apply keeps_bind (fun _ => rfl)
  intro emission
  dsimp only
  split
  · exact keeps_pure _
  · apply keeps_bind (keeps_onHost _ _)
    intro token
    exact keeps_bind (fun _ => rfl) fun _ => keeps_pure token

/-- Emitting remembers one reference more, or is refused and only the rows of earlier stages are
remembered. -/
theorem emitWrapper_cases (wrapper : Wrapper) (emission : Emission S) :
    (∃ error after, emitWrapper wrapper emission = .error error after ∧
        after.settled = emission.settled) ∨
      ∃ token after, emitWrapper wrapper emission = .ok token after ∧
        after.settled =
          { emission.settled with
            wrapperRefs := (wrapper.key, token) :: emission.record.wrapperRefs } := by
  unfold emitWrapper
  have assemblyKept := keeps_assemblyRef wrapper.assembly emission
  cases assemblyStage : assemblyRef wrapper.assembly emission with
  | error error after =>
    rw [assemblyStage] at assemblyKept
    exact .inl ⟨error, after, bind_of_error assemblyStage _, assemblyKept⟩
  | ok assemblyToken behindAssembly =>
    rw [assemblyStage] at assemblyKept
    rw [bind_of_ok assemblyStage]
    have typeKept := keeps_typeRef assemblyToken wrapper.typeName behindAssembly
    cases typeStage : typeRef assemblyToken wrapper.typeName behindAssembly with
    | error error after =>
      rw [typeStage] at typeKept
      exact .inl ⟨error, after, bind_of_error typeStage _, typeKept.trans assemblyKept⟩
    | ok typeToken behindType =>
      rw [typeStage] at typeKept
      rw [bind_of_ok typeStage]
      have found : (get : Emitting S (Emission S)) behindType = .ok behindType behindType := rfl
      rw [bind_of_ok found]
      have memberKept := keeps_onHost (.memberRef wrapper.typeName wrapper.methodName)
        (behindType.record.metadata.defineMemberRef typeToken wrapper.methodName wrapper.signature)
        behindType
      cases memberStage : onHost (.memberRef wrapper.typeName wrapper.methodName)
          (behindType.record.metadata.defineMemberRef typeToken wrapper.methodName
            wrapper.signature) behindType with
      | error error after =>
        rw [memberStage] at memberKept
        exact .inl ⟨error, after, bind_of_error memberStage _,
          memberKept.trans (typeKept.trans assemblyKept)⟩
      | ok token behindMember =>
        rw [memberStage] at memberKept
        rw [bind_of_ok memberStage]
        have kept : behindMember.settled = emission.settled :=
          memberKept.trans (typeKept.trans assemblyKept)
        refine .inr ⟨token, _, rfl, ?_⟩
        have sameRefs : behindMember.record.wrapperRefs = emission.record.wrapperRefs :=
          congrArg (·.wrapperRefs) kept
        rw [← kept, ← sameRefs]
        rfl

theorem wrapperRef_of_known {wrapper : Wrapper} {token : Token} {emission : Emission S}
    (known : emission.record.wrapperRef? wrapper = some token) :
    wrapperRef wrapper emission = .ok token emission := by
  have found : (get : Emitting S (Emission S)) emission = .ok emission emission := rfl
  unfold wrapperRef
  rw [bind_of_ok found, known]
  rfl

theorem wrapperRef_of_unknown {wrapper : Wrapper} {emission : Emission S}
    (unknown : emission.record.wrapperRef? wrapper = none) :
    wrapperRef wrapper emission = emitWrapper wrapper emission := by
  have found : (get : Emitting S (Emission S)) emission = .ok emission emission := rfl
  unfold wrapperRef
  rw [bind_of_ok found, unknown]

/-- However the reference to a wrapper is asked for, the record grows, and it remembers every
reference that is given. -/
theorem grows_wrapperRef (wrapper : Wrapper) (emission : Emission S) :
    emission.record.Grows (endState (wrapperRef wrapper emission)).record [] ∧
      ∀ token after, wrapperRef wrapper emission = .ok token after →
        after.record.wrapperRef? wrapper = some token := by
  cases known : emission.record.wrapperRef? wrapper with
  | some token =>
    rw [wrapperRef_of_known known]
    refine ⟨.of_withoutRows_eq rfl, ?_⟩
    intro other after returned
    cases returned
    exact known
  | none =>
    rw [wrapperRef_of_unknown known]
    rcases emitWrapper_cases wrapper emission with refused | emitted
    · obtain ⟨error, after, outcome, kept⟩ := refused
      rw [outcome]
      refine ⟨.of_withoutRows_eq kept, ?_⟩
      intro _ _ impossible
      cases impossible
    · obtain ⟨token, after, outcome, remembered⟩ := emitted
      obtain ⟨grows, remembers⟩ := ModuleRecord.Grows.remember known remembered
      rw [outcome]
      refine ⟨grows, ?_⟩
      intro _ _ returned
      cases returned
      exact remembers

end Emission

/-! ## Filling a record -/

/-- Each candidate is enabled behind its reference, or its refusal is collected. -/
theorem ModuleTable.grows_prepare (candidates : List Replacement) (emission : Emission S) :
    ∃ enabled, enabled.Sublist candidates ∧
      enabled.length + (prepare candidates emission).1.length = candidates.length ∧
      emission.record.Grows (prepare candidates emission).2.record enabled := by
  -- The reference of an enabled candidate outlives the rest, since growing keeps references.
  induction candidates generalizing emission with
  | nil => exact ⟨[], List.Sublist.refl [], rfl, .of_withoutRows_eq rfl⟩
  | cons replacement rest ih =>
    obtain ⟨grows, remembers⟩ := Emission.grows_wrapperRef replacement.wrapper emission
    unfold prepare
    cases outcome : Emission.wrapperRef replacement.wrapper emission with
    | ok token behind =>
      rw [outcome] at grows
      obtain ⟨enabled, sublist, counted, restGrows⟩ :=
        ih { behind with record := behind.record.enable replacement }
      have enables := ModuleRecord.grows_enable (remembers token behind outcome)
      refine ⟨replacement :: enabled, sublist.cons_cons replacement, ?_,
        (grows.trans enables).trans restGrows⟩
      rw [List.length_cons, List.length_cons, Nat.succ_add, ← counted]
    | error error behind =>
      rw [outcome] at grows
      obtain ⟨enabled, sublist, counted, restGrows⟩ := ih { behind with
        world := behind.world.log
          (.replacementDropped behind.record.moduleId replacement.wrapper.key error) }
      refine ⟨enabled, sublist.cons replacement, ?_, grows.trans restGrows⟩
      rw [List.length_cons, List.length_cons, ← counted]
      exact (Nat.add_assoc _ _ 1).symm

end Detour
