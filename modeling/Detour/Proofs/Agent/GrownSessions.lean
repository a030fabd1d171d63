import Detour.Proofs.Agent.Commits
import Detour.Proofs.CallSite.GrownScans

/-!
# Compilations over grown hosts

A compilation with a given record depends on the agent in nothing, and on the host only through the
reads of its module and the calls to the body. If these answer over the grown host what they have
answered before, then a compilation that has succeeded succeeds again: it skips and misses the same
replacements, commits the same one, and writes the same bytes.
-/

namespace Detour

open Detour.Body
open Detour.CallSite
open Detour.EStateM
open Detour.Host
open Detour.Rule

variable {S α : Type} {growth : Growth S}

/-! ## Grown sessions -/

/-- The host of the second session has grown out of the host of the first one. Their agents need
have nothing in common. -/
def Session.GrownTo (growth : Growth S) (session other : Session S) : Prop :=
  growth.grows session.world.host other.world.host

/-- What the calls to the body have answered, those of the other handle answer over every grown
host, and both leave it grown. -/
structure BodyHandle.IsFollowedBy (growth : Growth S) (handle other : BodyHandle (Session S)) :
    Prop where
  read : Follows (Session.GrownTo growth) (fun _ => Session.GrownTo growth) handle.read other.read
  write : ∀ bytes, Follows (Session.GrownTo growth) (fun _ => Session.GrownTo growth)
    (handle.write bytes) (other.write bytes)

/-! ## Compilations -/

namespace Compiling

theorem follows_onBody {call otherCall : EStateM Refusal (Session S) α}
    {before : Session S → Session S → Prop} {after : α → Session S → Session S → Prop}
    (follows : Follows before after call otherCall) :
    Follows before after (onBody call) (onBody otherCall) := by
  intro session other value behind related answered
  obtain ⟨otherBehind, otherAnswered, relatedBehind⟩ :=
    follows session other value behind related (onBody_eq_ok_iff.mp answered)
  exact ⟨otherBehind, onBody_eq_ok_iff.mpr otherAnswered, relatedBehind⟩

theorem follows_ofBody (related : Session S → Session S → Prop) (outcome : Except BodyError α) :
    Follows related (fun _ => related) (ofBody outcome) (ofBody outcome) := by
  intro session other value behind relatedSessions given
  obtain ⟨succeeded, rfl⟩ := ofBody_eq_ok_iff.mp given
  exact ⟨other, ofBody_eq_ok_iff.mpr ⟨succeeded, rfl⟩, relatedSessions⟩

theorem follows_onScan {step otherStep : Scanning S α}
    (follows : step.IsFollowedBy growth otherStep) (buffers : HeldNames) :
    Follows (Session.GrownTo growth) (fun _ => Session.GrownTo growth) (onScan buffers step)
      (onScan buffers otherStep) := by
  intro session other value behind grown scanned
  unfold onScan at scanned ⊢
  cases ran : step ⟨buffers, session.world⟩ with
  | error refusal scan =>
    rw [ran] at scanned
    cases scanned
  | ok result scan =>
    rw [ran] at scanned
    cases scanned
    have scans : Scan.GrownTo growth ⟨buffers, session.world⟩ ⟨buffers, other.world⟩ :=
      ⟨rfl, grown⟩
    obtain ⟨otherScan, otherRan, scansBehind⟩ := follows _ _ result scan scans ran
    rw [otherRan, scansBehind.buffers_eq]
    exact ⟨_, rfl, scansBehind.hosts⟩

theorem follows_redirect {metadata otherMetadata : Metadata S}
    (follows : metadata.IsFollowedBy growth otherMetadata) (target : MethodPattern)
    (wrapperRef : Token) (body : MethodBody) (buffers : HeldNames) :
    Follows (Session.GrownTo growth) (fun _ => Session.GrownTo growth)
      (redirect metadata target wrapperRef body buffers)
      (redirect otherMetadata target wrapperRef body buffers) := by
  intro session other value behind grown redirected
  have scans : Scan.GrownTo growth ⟨buffers, session.world⟩ ⟨buffers, other.world⟩ := ⟨rfl, grown⟩
  cases passed : redirectCalls metadata target wrapperRef body.instructions
      ⟨buffers, session.world⟩ with
  | mk result instructions scan =>
    cases result with
    | error refusal =>
      rw [redirect_of_refused passed] at redirected
      cases redirected
    | ok count =>
      rw [redirect_of_counted passed] at redirected
      cases redirected
      have repeats := redirectCalls_repeated follows target wrapperRef body.instructions scans
        (congrArg Pass.result passed)
      rw [passed] at repeats
      cases otherPassed : redirectCalls otherMetadata target wrapperRef body.instructions
          ⟨buffers, other.world⟩ with
      | mk otherResult otherInstructions otherScan =>
        rw [otherPassed] at repeats
        have sameResult : otherResult = .ok count := repeats.result_eq
        have sameInstructions : otherInstructions = instructions := repeats.instructions_eq
        have scansBehind : scan.GrownTo growth otherScan := repeats.scans
        rw [sameResult, sameInstructions] at otherPassed
        rw [redirect_of_counted otherPassed, scansBehind.buffers_eq]
        exact ⟨_, rfl, scansBehind.hosts⟩

end Compiling

namespace ModuleRecord

variable {record : ModuleRecord S} {handle otherHandle : BodyHandle (Session S)}

/-- Two compilations have ended alike: both without a change, for the same reason, or both with the
same bytes written last. -/
inductive EndsAlike (record : ModuleRecord S) (growth : Growth S)
    (handle otherHandle : BodyHandle (Session S)) :
    CompileOutcome → Session S → Session S → Prop where
  | unchanged (reason : UnchangedReason) {final otherFinal : Session S}
      (grown : final.GrownTo growth otherFinal) :
      EndsAlike record growth handle otherHandle (.unchanged reason) final otherFinal
  | committed {caller : MethodIdentity} {agent otherAgent : Agent S} {index callSites : Nat}
      {key : WrapperKey} {changed : List UInt8} {final otherFinal : Session S}
      (writes : record.Writes caller handle agent key callSites changed final)
      (otherWrites : record.Writes caller otherHandle otherAgent key callSites changed otherFinal)
      (grown : final.GrownTo growth otherFinal) :
      EndsAlike record growth handle otherHandle (.committed index key callSites) final otherFinal

theorem follows_unchanged (reason : UnchangedReason) :
    Follows (Session.GrownTo growth) (record.EndsAlike growth handle otherHandle)
      (return .unchanged reason : Compiling S CompileOutcome) (return .unchanged reason) := by
  intro session other outcome final grown returned
  cases returned
  exact ⟨other, rfl, .unchanged reason grown⟩

theorem follows_commit (follows : handle.IsFollowedBy growth otherHandle)
    (caller : MethodIdentity) (index : Nat) (key : WrapperKey) (callSites : Nat)
    (body : MethodBody) :
    Follows (Session.GrownTo growth) (record.EndsAlike growth handle otherHandle)
      (record.commit caller handle index key callSites body)
      (record.commit caller otherHandle index key callSites body) := by
  intro session other outcome final grown committed
  obtain ⟨bytes, written, encoded, wrote, rfl, rfl⟩ := commit_eq_ok_iff.mp committed
  obtain ⟨otherWritten, otherWrote, grownBehind⟩ :=
    follows.write bytes session other () written grown wrote
  refine ⟨_, commit_eq_ok_iff.mpr ⟨bytes, otherWritten, encoded, otherWrote, rfl, rfl⟩, ?_⟩
  exact .committed ⟨session.world, written, wrote, rfl⟩
    ⟨other.world, otherWritten, otherWrote, rfl⟩ grownBehind

/-- The record, with another handle to read its module through. -/
def readingFrom (record : ModuleRecord S) (metadata : Metadata S) : ModuleRecord S :=
  { record with metadata }

/-- The same replacements miss, and the same one is committed. -/
theorem follows_tryReplacements {metadata : Metadata S}
    (reads : record.metadata.IsFollowedBy growth metadata)
    (follows : handle.IsFollowedBy growth otherHandle) (caller : MethodIdentity)
    (candidates : List (Replacement × Nat)) (body : MethodBody) (buffers : HeldNames) :
    Follows (Session.GrownTo growth) (record.EndsAlike growth handle otherHandle)
      (record.tryReplacements caller handle candidates body buffers)
      ((record.readingFrom metadata).tryReplacements caller otherHandle candidates body
        buffers) := by
  induction candidates generalizing body buffers with
  | nil => exact follows_unchanged .noMatchingCallSite
  | cons candidate rest ih =>
    obtain ⟨replacement, index⟩ := candidate
    cases reference : record.wrapperRef? replacement.wrapper with
    | none =>
      intro session other outcome final grown tried
      have otherReference : (record.readingFrom metadata).wrapperRef? replacement.wrapper = none :=
        reference
      rw [tryReplacements_of_noReference reference] at tried
      rw [tryReplacements_of_noReference otherReference]
      exact ih body buffers (session.log _) (other.log _) outcome final grown tried
    | some wrapperRef =>
      have otherReference :
          (record.readingFrom metadata).wrapperRef? replacement.wrapper = some wrapperRef :=
        reference
      rw [tryReplacements_of_reference reference, tryReplacements_of_reference otherReference]
      apply follows_bind (Compiling.follows_redirect reads replacement.target wrapperRef body
        buffers)
      rintro ⟨callSites, changed, left⟩
      dsimp only
      split
      · exact ih changed left
      · exact follows_commit follows caller index _ callSites changed

theorem follows_compile {metadata : Metadata S}
    (reads : record.metadata.IsFollowedBy growth metadata)
    (follows : handle.IsFollowedBy growth otherHandle) (function : Token) :
    Follows (Session.GrownTo growth) (record.EndsAlike growth handle otherHandle)
      (record.compile function handle)
      ((record.readingFrom metadata).compile function otherHandle) := by
  apply follows_bind (Compiling.follows_onScan (follows_identify reads function) HeldNames.empty)
  rintro ⟨caller, buffers⟩
  have sameMatches :
      (record.readingFrom metadata).callerMatches caller = record.callerMatches caller := rfl
  dsimp only
  rw [sameMatches]
  split
  · exact follows_unchanged .noMatchingCaller
  · apply follows_bind (Compiling.follows_onBody follows.read)
    intro bytes
    apply follows_bind (Compiling.follows_ofBody _ (MethodBody.decode bytes))
    intro body
    exact follows_tryReplacements reads follows caller _ body buffers

end ModuleRecord

end Detour
