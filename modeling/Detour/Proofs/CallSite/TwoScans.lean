import Detour.Proofs.CallSite.Passes
import Detour.Proofs.Sequencing

/-!
# Two scans

A likeness says when two states of the host, two refusals, and the names that two buffers hold are
alike. If the reads of a module come to the same from alike states, then so do all scans of the
module: they resolve the same callees, redirect the same calls, and leave alike states behind.
-/

namespace Detour

open Detour.Body
open Detour.Host
open Detour.Rule

variable {S α β : Type}

namespace Host

/-- When two runs over a module are alike. -/
structure Likeness (S : Type) where
  /-- The names that two buffers hold, before anything is read into them. -/
  names : String → String → Prop
  names_refl : ∀ name, names name name
  hosts : S → S → Prop
  /-- The refusals of two calls, with the states of the host behind them. -/
  refusals : Refusal → S → Refusal → S → Prop

namespace Likeness

variable (likeness : Likeness S)

def RefusedSlots (refusal : Refusal) (slot : NameSlot S) (otherRefusal : Refusal)
    (other : NameSlot S) : Prop :=
  likeness.refusals refusal slot.host otherRefusal other.host

/-- From alike states a read gives the same answer and writes the same name. -/
def Reads (read : NameRead S α) : Prop :=
  EStateM.RunsAlike likeness.RefusedSlots
    (fun slot other => likeness.names slot.name other.name ∧ likeness.hosts slot.host other.host)
    (fun slot other => slot.name = other.name ∧ likeness.hosts slot.host other.host) read

/-- All reads of the module come to the same from alike states. -/
structure ReadsOf (metadata : Metadata S) : Prop where
  memberRef : ∀ token, likeness.Reads (metadata.memberRef token)
  methodDef : ∀ token, likeness.Reads (metadata.methodDef token)
  typeRef : ∀ token, likeness.Reads (metadata.typeRef token)
  typeDef : ∀ token, likeness.Reads (metadata.typeDef token)

end Likeness

end Host

namespace CallSite

theorem Scan.readName_eq_mapState (buffer : NameBuffer) (read : NameRead S α) (scan : Scan S) :
    readName buffer read scan =
      mapState (scan.setSlot buffer) (read ⟨scan.buffers.get buffer, scan.world.host⟩) := by
  unfold readName mapState
  cases read ⟨scan.buffers.get buffer, scan.world.host⟩ with
  | ok value slot => rfl
  | error refusal slot => rfl

/-- A test of the method name buffer lets a step run or ends the resolution. -/
theorem ifNamed_run (step : Scanning S (Option α)) (expected : String) (scan : Scan S) :
    (do if ← holdsMethodName expected then step else return none : Scanning S (Option α)) scan =
      if scan.buffers.methodName = expected then step scan else .ok none scan := by
  change (if scan.buffers.methodName == expected then step else _ : Scanning S (Option α)) scan = _
  by_cases same : scan.buffers.methodName = expected
  · rw [if_pos same, if_pos (beq_iff_eq.mpr same)]
  · rw [if_neg same, if_neg (fun equal => same (beq_iff_eq.mp equal))]
    rfl

/-! ## Scans -/

section Scans

variable (likeness : Likeness S)

/-- Scans of alike hosts. -/
structure ScansAlike (scan other : Scan S) : Prop where
  methodNames : likeness.names scan.buffers.methodName other.buffers.methodName
  typeNames : likeness.names scan.buffers.typeName other.buffers.typeName
  hosts : likeness.hosts scan.world.host other.world.host

/-- Scans of alike hosts that have read the same method name. -/
structure NamedAlike (scan other : Scan S) : Prop where
  methodNames : scan.buffers.methodName = other.buffers.methodName
  typeNames : likeness.names scan.buffers.typeName other.buffers.typeName
  hosts : likeness.hosts scan.world.host other.world.host

/-- Scans of alike hosts that have read the same names. -/
structure ReadAlike (scan other : Scan S) : Prop where
  buffers : scan.buffers = other.buffers
  hosts : likeness.hosts scan.world.host other.world.host

def RefusedScans (refusal : Refusal) (scan : Scan S) (otherRefusal : Refusal) (other : Scan S) :
    Prop :=
  likeness.refusals refusal scan.world.host otherRefusal other.world.host

/-- From alike scans the step comes to the same. -/
abbrev StepsAlike (before after : Scan S → Scan S → Prop) (step : Scanning S α) : Prop :=
  EStateM.RunsAlike (RefusedScans likeness) before after step

variable {likeness} {scan other : Scan S}

theorem NamedAlike.scansAlike (alike : NamedAlike likeness scan other) :
    ScansAlike likeness scan other where
  methodNames := by
    rw [alike.methodNames]
    exact likeness.names_refl _
  typeNames := alike.typeNames
  hosts := alike.hosts

theorem ReadAlike.scansAlike (alike : ReadAlike likeness scan other) :
    ScansAlike likeness scan other where
  methodNames := by
    rw [alike.buffers]
    exact likeness.names_refl _
  typeNames := by
    rw [alike.buffers]
    exact likeness.names_refl _
  hosts := alike.hosts

theorem ScansAlike.log (alike : ScansAlike likeness scan other) (event : Event) :
    ScansAlike likeness (scan.log event) (other.log event) :=
  ⟨alike.methodNames, alike.typeNames, alike.hosts⟩

/-- Scans of alike hosts whose buffers hold alike names come to the same when they read into the
buffer, and behind the read what the buffer held before is gone. -/
theorem alike_readName {before after : Scan S → Scan S → Prop} {read : NameRead S α}
    (reads : likeness.Reads read) (buffer : NameBuffer)
    (holds : ∀ scan other, before scan other →
      likeness.names (scan.buffers.get buffer) (other.buffers.get buffer) ∧
        likeness.hosts scan.world.host other.world.host)
    (sets : ∀ scan other slot otherSlot, before scan other → slot.name = otherSlot.name →
      likeness.hosts slot.host otherSlot.host →
        after (scan.setSlot buffer slot) (other.setSlot buffer otherSlot)) :
    StepsAlike likeness before after (Scan.readName buffer read) := by
  intro scan other alike
  have answers := reads ⟨scan.buffers.get buffer, scan.world.host⟩
    ⟨other.buffers.get buffer, other.world.host⟩ (holds scan other alike)
  rw [Scan.readName_eq_mapState, Scan.readName_eq_mapState]
  refine answers.mapState ?_ fun _ _ _ _ refused => refused
  intro slot otherSlot same
  exact sets scan other slot otherSlot alike same.1 same.2

theorem alike_readMethodName {read : NameRead S α} (reads : likeness.Reads read) :
    StepsAlike likeness (ScansAlike likeness) (NamedAlike likeness)
      (Scan.readName .methodName read) := by
  apply alike_readName reads .methodName
  · exact fun _ _ alike => ⟨alike.methodNames, alike.hosts⟩
  · exact fun _ _ _ _ alike sameName sameHosts => ⟨sameName, alike.typeNames, sameHosts⟩

theorem alike_readTypeName {read : NameRead S α} (reads : likeness.Reads read) :
    StepsAlike likeness (NamedAlike likeness) (ReadAlike likeness)
      (Scan.readName .typeName read) := by
  apply alike_readName reads .typeName
  · exact fun _ _ alike => ⟨alike.typeNames, alike.hosts⟩
  · intro scan other slot otherSlot alike sameName sameHosts
    have sameNames : HeldNames.mk scan.buffers.methodName slot.name =
        ⟨other.buffers.methodName, otherSlot.name⟩ := by rw [alike.methodNames, sameName]
    exact ⟨sameNames, sameHosts⟩

theorem alike_currentIdentity :
    StepsAlike likeness (ReadAlike likeness) (ReadAlike likeness) currentIdentity := by
  intro scan other alike
  have sameIdentity : MethodIdentity.mk scan.buffers.typeName scan.buffers.methodName =
      ⟨other.buffers.typeName, other.buffers.methodName⟩ := by rw [alike.buffers]
  change EStateM.Alike _ _ (.ok (MethodIdentity.mk _ _) scan) (.ok (MethodIdentity.mk _ _) other)
  rw [sameIdentity]
  exact .ok _ alike

/-- The type that is read and the method name that is held make the identity. -/
theorem alike_resolveType {read : NameRead S Unit} (reads : likeness.Reads read) :
    StepsAlike likeness (NamedAlike likeness) (ScansAlike likeness) (resolveType read) := by
  apply EStateM.runsAlike_bind (alike_readTypeName reads)
  intro _
  apply EStateM.runsAlike_bind alike_currentIdentity
  intro identity
  exact (EStateM.runsAlike_pure (some identity)).mono (fun _ _ alike => alike) fun _ _ alike =>
    alike.scansAlike

theorem alike_ifNamed {step : Scanning S (Option α)} (expected : String)
    (alikeStep : StepsAlike likeness (NamedAlike likeness) (ScansAlike likeness) step) :
    StepsAlike likeness (NamedAlike likeness) (ScansAlike likeness)
      (do if ← holdsMethodName expected then step else return none) := by
  intro scan other alike
  rw [ifNamed_run, ifNamed_run, alike.methodNames]
  by_cases named : other.buffers.methodName = expected
  · rw [if_pos named, if_pos named]
    exact alikeStep scan other alike
  · rw [if_neg named, if_neg named]
    exact .ok none alike.scansAlike

variable {metadata : Metadata S}

theorem alike_identify (reads : likeness.ReadsOf metadata) (definition : Token) :
    StepsAlike likeness (ScansAlike likeness) (ReadAlike likeness)
      (identify metadata definition) := by
  apply EStateM.runsAlike_bind (alike_readMethodName (reads.methodDef definition))
  intro owner
  apply EStateM.runsAlike_bind (alike_readTypeName (reads.typeDef owner))
  intro _
  exact alike_currentIdentity

theorem alike_resolveDefinition (reads : likeness.ReadsOf metadata) (definition : Token)
    (expected : String) :
    StepsAlike likeness (ScansAlike likeness) (ScansAlike likeness)
      (resolveDefinition metadata definition expected) := by
  apply EStateM.runsAlike_bind (alike_readMethodName (reads.methodDef definition))
  intro owner
  exact alike_ifNamed expected (alike_resolveType (reads.typeDef owner))

theorem alike_resolveParent (reads : likeness.ReadsOf metadata) (parent : Token)
    (expected : String) :
    StepsAlike likeness (NamedAlike likeness) (ScansAlike likeness)
      (resolveParent metadata parent expected) := by
  unfold resolveParent
  split
  · exact alike_resolveType (reads.typeRef parent)
  · exact alike_resolveType (reads.typeDef parent)
  · have definition := alike_resolveDefinition reads parent expected
    exact definition.mono (fun _ _ alike => alike.scansAlike) fun _ _ alike => alike
  · intro scan other alike
    exact .ok none alike.scansAlike

/-- From alike scans a call operand resolves to the same. -/
theorem alike_resolve (reads : likeness.ReadsOf metadata) (operand : Token) (expected : String) :
    StepsAlike likeness (ScansAlike likeness) (ScansAlike likeness)
      (resolve metadata operand expected) := by
  unfold resolve
  split
  · apply EStateM.runsAlike_bind (alike_readMethodName (reads.memberRef operand))
    intro parent
    exact alike_ifNamed expected (alike_resolveParent reads parent expected)
  · exact alike_resolveDefinition reads operand expected
  · exact EStateM.runsAlike_pure none

end Scans

/-! ## Passes -/

/-- Passes that found and changed the same, over alike hosts. -/
inductive PassesAlike (likeness : Likeness S) : Pass S → Pass S → Prop where
  | ok (count : Nat) (instructions : List Instruction) {scan other : Scan S}
      (alike : ScansAlike likeness scan other) :
      PassesAlike likeness ⟨.ok count, instructions, scan⟩ ⟨.ok count, instructions, other⟩
  | refused (instructions : List Instruction) {refusal otherRefusal : Refusal}
      {scan other : Scan S} (alike : RefusedScans likeness refusal scan otherRefusal other) :
      PassesAlike likeness ⟨.error refusal, instructions, scan⟩
        ⟨.error otherRefusal, instructions, other⟩

section Passes

variable {likeness : Likeness S} {pass otherPass : Pass S} {metadata : Metadata S}

theorem PassesAlike.keeping (alike : PassesAlike likeness pass otherPass)
    (instruction : Instruction) :
    PassesAlike likeness (pass.keeping instruction) (otherPass.keeping instruction) := by
  cases alike with
  | ok count instructions alike => exact .ok count (instruction :: instructions) alike
  | refused instructions alike => exact .refused (instruction :: instructions) alike

theorem PassesAlike.redirecting (alike : PassesAlike likeness pass otherPass)
    (instruction : Instruction) :
    PassesAlike likeness (pass.redirecting instruction) (otherPass.redirecting instruction) := by
  cases alike with
  | ok count instructions alike => exact .ok (count + 1) (instruction :: instructions) alike
  | refused instructions alike => exact .refused (instruction :: instructions) alike

theorem alike_redirectNamed (reads : likeness.ReadsOf metadata) (methodName : String)
    (typeName : Option String) (wrapperRef : Token) (instructions : List Instruction)
    {scan other : Scan S} (alike : ScansAlike likeness scan other) :
    PassesAlike likeness
      (redirectNamed metadata methodName typeName wrapperRef instructions scan)
      (redirectNamed metadata methodName typeName wrapperRef instructions other) := by
  induction instructions generalizing scan other with
  | nil => exact .ok 0 [] alike
  | cons instruction rest ih =>
    cases callee : instruction.callee? with
    | none =>
      rw [redirectNamed_of_noCallee callee, redirectNamed_of_noCallee callee]
      exact (ih alike).keeping instruction
    | some operand =>
      have resolves := alike_resolve reads operand methodName scan other alike
      cases resolved : resolve metadata operand methodName scan with
      | error refusal after =>
        obtain ⟨_, _, otherResolved, refused⟩ := resolves.exists_error resolved
        rw [redirectNamed_of_refused callee resolved,
          redirectNamed_of_refused callee otherResolved]
        exact .refused (instruction :: rest) refused
      | ok found after =>
        obtain ⟨_, otherResolved, alikeBehind⟩ := resolves.exists_ok resolved
        cases found with
        | none =>
          rw [redirectNamed_of_unresolved callee resolved,
            redirectNamed_of_unresolved callee otherResolved]
          exact (ih alikeBehind).keeping instruction
        | some target =>
          by_cases expected : typeIsExpected typeName target.typeName = true
          · rw [redirectNamed_of_expected callee resolved expected,
              redirectNamed_of_expected callee otherResolved expected]
            exact (ih (alikeBehind.log _)).redirecting _
          · rw [redirectNamed_of_unexpected callee resolved expected,
              redirectNamed_of_unexpected callee otherResolved expected]
            exact (ih alikeBehind).keeping instruction

/-- Over alike hosts a pass finds and changes the same. -/
theorem alike_redirectCalls (reads : likeness.ReadsOf metadata) (target : MethodPattern)
    (wrapperRef : Token) (instructions : List Instruction) {scan other : Scan S}
    (alike : ScansAlike likeness scan other) :
    PassesAlike likeness (redirectCalls metadata target wrapperRef instructions scan)
      (redirectCalls metadata target wrapperRef instructions other) := by
  unfold redirectCalls
  split
  · exact .ok 0 instructions alike
  · exact alike_redirectNamed reads _ target.typeName? wrapperRef instructions alike

end Passes

end CallSite

end Detour
