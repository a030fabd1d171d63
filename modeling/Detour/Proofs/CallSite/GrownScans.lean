import Detour.Proofs.Host.Growth

/-!
# Scans of a grown host

A scan takes the same way over a grown host as long as it is not refused: every read that it makes
gives the same answer, so it comes to the same decisions and never looks at the rows that have been
appended. The host may have grown before the scan, and may go on growing between its reads.
-/

namespace Detour.CallSite

open Detour.Body
open Detour.EStateM
open Detour.Host
open Detour.Rule

variable {S α : Type} {growth : Growth S}

/-- The second scan holds the same names, over a host that has grown out of the first one's. -/
structure Scan.GrownTo (growth : Growth S) (scan other : Scan S) : Prop where
  buffers_eq : scan.buffers = other.buffers
  hosts : growth.grows scan.world.host other.world.host

theorem Scan.GrownTo.log {scan other : Scan S} (grown : scan.GrownTo growth other)
    (event : Event) : (scan.log event).GrownTo growth (other.log event) :=
  ⟨grown.buffers_eq, grown.hosts⟩

/-- Where the step succeeds, the other one succeeds over every grown host, and gives the same. -/
def Scanning.IsFollowedBy (growth : Growth S) (step other : Scanning S α) : Prop :=
  Follows (Scan.GrownTo growth) (fun _ => Scan.GrownTo growth) step other

/-! ## Resolution -/

theorem follows_readName {read other : NameRead S α} (buffer : NameBuffer)
    (follows : read.IsFollowedBy growth other) :
    (Scan.readName buffer read).IsFollowedBy growth (Scan.readName buffer other) := by
  intro scan otherScan value behind grown answered
  cases readHere : read ⟨scan.buffers.get buffer, scan.world.host⟩ with
  | error refusal slot =>
    rw [Scan.readName_of_error readHere] at answered
    cases answered
  | ok result slot =>
    rw [Scan.readName_of_ok readHere] at answered
    cases answered
    have slots : growth.Slots ⟨scan.buffers.get buffer, scan.world.host⟩
        ⟨otherScan.buffers.get buffer, otherScan.world.host⟩ :=
      ⟨congrArg (·.get buffer) grown.buffers_eq, grown.hosts⟩
    obtain ⟨otherSlot, readThere, slotsBehind⟩ := follows _ _ _ _ slots readHere
    have sameBuffers : scan.buffers.set buffer slot.name =
        otherScan.buffers.set buffer otherSlot.name := by
      rw [grown.buffers_eq, slotsBehind.name_eq]
    exact ⟨_, Scan.readName_of_ok readThere, sameBuffers, slotsBehind.hosts⟩

theorem follows_currentIdentity :
    Scanning.IsFollowedBy growth (currentIdentity : Scanning S MethodIdentity) currentIdentity := by
  intro scan other identity behind grown answered
  have current (scan : Scan S) : currentIdentity scan =
      .ok ⟨scan.buffers.typeName, scan.buffers.methodName⟩ scan := rfl
  rw [current] at answered
  cases answered
  rw [current, grown.buffers_eq]
  exact ⟨other, rfl, grown⟩

theorem follows_resolveType {read other : NameRead S Unit}
    (follows : read.IsFollowedBy growth other) :
    (resolveType read).IsFollowedBy growth (resolveType other) := by
  apply follows_bind (follows_readName .typeName follows)
  intro _
  apply follows_bind follows_currentIdentity
  intro identity
  exact follows_pure (some identity)

theorem follows_ifNamed {step other : Scanning S (Option α)} (expected : String)
    (follows : step.IsFollowedBy growth other) :
    Scanning.IsFollowedBy growth (do if ← holdsMethodName expected then step else return none)
      (do if ← holdsMethodName expected then other else return none) := by
  intro scan otherScan value behind grown answered
  rw [ifNamed_run] at answered ⊢
  rw [← grown.buffers_eq]
  by_cases named : scan.buffers.methodName = expected
  · rw [if_pos named] at answered ⊢
    exact follows scan otherScan value behind grown answered
  · rw [if_neg named] at answered ⊢
    cases answered
    exact ⟨otherScan, rfl, grown⟩

variable {metadata other : Metadata S}

theorem follows_identify (follows : metadata.IsFollowedBy growth other) (definition : Token) :
    (identify metadata definition).IsFollowedBy growth (identify other definition) := by
  apply follows_bind (follows_readName .methodName (follows.methodDef definition))
  intro owner
  apply follows_bind (follows_readName .typeName (follows.typeDef owner))
  intro _
  exact follows_currentIdentity

theorem follows_resolveDefinition (follows : metadata.IsFollowedBy growth other)
    (definition : Token) (expected : String) :
    (resolveDefinition metadata definition expected).IsFollowedBy growth
      (resolveDefinition other definition expected) := by
  apply follows_bind (follows_readName .methodName (follows.methodDef definition))
  intro owner
  exact follows_ifNamed expected (follows_resolveType (follows.typeDef owner))

theorem follows_resolveParent (follows : metadata.IsFollowedBy growth other) (parent : Token)
    (expected : String) :
    (resolveParent metadata parent expected).IsFollowedBy growth
      (resolveParent other parent expected) := by
  unfold resolveParent
  split
  · exact follows_resolveType (follows.typeRef parent)
  · exact follows_resolveType (follows.typeDef parent)
  · exact follows_resolveDefinition follows parent expected
  · exact follows_pure none

/-- A call operand that was resolved is resolved to the same on every grown host. -/
theorem follows_resolve (follows : metadata.IsFollowedBy growth other) (operand : Token)
    (expected : String) : (resolve metadata operand expected).IsFollowedBy growth
      (resolve other operand expected) := by
  unfold resolve
  split
  · apply follows_bind (follows_readName .methodName (follows.memberRef operand))
    intro parent
    exact follows_ifNamed expected (follows_resolveParent follows parent expected)
  · exact follows_resolveDefinition follows operand expected
  · exact follows_pure none

/-! ## Passes -/

/-- The other pass found and changed the same, over a grown host. -/
structure Pass.IsRepeatedBy (growth : Growth S) (pass other : Pass S) : Prop where
  result_eq : other.result = pass.result
  instructions_eq : other.instructions = pass.instructions
  scans : pass.scan.GrownTo growth other.scan

theorem Pass.IsRepeatedBy.keeping {pass other : Pass S} (repeated : pass.IsRepeatedBy growth other)
    (instruction : Instruction) :
    (pass.keeping instruction).IsRepeatedBy growth (other.keeping instruction) where
  result_eq := repeated.result_eq
  instructions_eq := congrArg (instruction :: ·) repeated.instructions_eq
  scans := repeated.scans

theorem Pass.IsRepeatedBy.redirecting {pass other : Pass S}
    (repeated : pass.IsRepeatedBy growth other) (instruction : Instruction) :
    (pass.redirecting instruction).IsRepeatedBy growth (other.redirecting instruction) where
  result_eq := congrArg (Except.map (· + 1)) repeated.result_eq
  instructions_eq := congrArg (instruction :: ·) repeated.instructions_eq
  scans := repeated.scans

theorem redirectNamed_repeated (follows : metadata.IsFollowedBy growth other) (methodName : String)
    (typeName : Option String) (wrapperRef : Token) (instructions : List Instruction)
    {scan otherScan : Scan S} (grown : scan.GrownTo growth otherScan) {count : Nat}
    (counted : (redirectNamed metadata methodName typeName wrapperRef instructions scan).result =
      .ok count) :
    (redirectNamed metadata methodName typeName wrapperRef instructions scan).IsRepeatedBy growth
      (redirectNamed other methodName typeName wrapperRef instructions otherScan) := by
  induction instructions generalizing scan otherScan count with
  | nil => exact ⟨rfl, rfl, grown⟩
  | cons instruction rest ih =>
    cases callee : instruction.callee? with
    | none =>
      rw [redirectNamed_of_noCallee callee] at counted ⊢
      rw [redirectNamed_of_noCallee callee]
      exact (ih grown counted).keeping instruction
    | some operand =>
      cases resolved : resolve metadata operand methodName scan with
      | error refusal after =>
        rw [redirectNamed_of_refused callee resolved] at counted
        cases counted
      | ok found after =>
        obtain ⟨otherAfter, otherResolved, grownBehind⟩ :=
          follows_resolve follows operand methodName scan otherScan found after grown resolved
        cases found with
        | none =>
          rw [redirectNamed_of_unresolved callee resolved] at counted ⊢
          rw [redirectNamed_of_unresolved callee otherResolved]
          exact (ih grownBehind counted).keeping instruction
        | some target =>
          by_cases expected : typeIsExpected typeName target.typeName = true
          · rw [redirectNamed_of_expected callee resolved expected] at counted ⊢
            rw [redirectNamed_of_expected callee otherResolved expected]
            obtain ⟨countOfRest, countedRest, _⟩ := Except.map_eq_ok_iff.mp counted
            exact (ih (grownBehind.log _) countedRest).redirecting _
          · rw [redirectNamed_of_unexpected callee resolved expected] at counted ⊢
            rw [redirectNamed_of_unexpected callee otherResolved expected]
            exact (ih grownBehind counted).keeping instruction

/-- A pass that was not refused finds and changes the same over every grown host. -/
theorem redirectCalls_repeated (follows : metadata.IsFollowedBy growth other)
    (target : MethodPattern) (wrapperRef : Token) (instructions : List Instruction)
    {scan otherScan : Scan S} (grown : scan.GrownTo growth otherScan) {count : Nat}
    (counted : (redirectCalls metadata target wrapperRef instructions scan).result = .ok count) :
    (redirectCalls metadata target wrapperRef instructions scan).IsRepeatedBy growth
      (redirectCalls other target wrapperRef instructions otherScan) := by
  unfold redirectCalls at counted ⊢
  split
  · exact ⟨rfl, rfl, grown⟩
  · rename_i methodName named
    rw [named] at counted
    exact redirectNamed_repeated follows methodName target.typeName? wrapperRef instructions grown
      counted

end Detour.CallSite
