import Detour.Proofs.Module.GrantedRows

/-!
# Where references come from

A reference that a record holds was emitted once, for a request under its key, and is held from then
on. Behind it stand three rows that the host has granted: its assembly, its type in that assembly,
and the member of that type.
-/

namespace Detour

open Detour.Host
open Detour.Rule

variable {S : Type}

/-- The rows behind the token that was emitted for a wrapper: the member under the type in the
assembly. Those that are shared may have been granted before. -/
structure Wrapper.Rows (wrapper : Wrapper) (earlier made : List AnsweredCall)
    (scope parent token : Token) : Prop where
  assembly : Granted (earlier ++ made) (.defineAssemblyRef wrapper.assembly) scope
  type : Granted (earlier ++ made) (.defineTypeRef scope wrapper.typeName) parent
  member : Granted made (.defineMemberRef parent wrapper.methodName wrapper.signature) token

/-- An emission that comes to a token has been granted its rows. -/
theorem Emits.exists_rows {earlier made : List AnsweredCall} {wrapper : Wrapper}
    {outcome : Except EmissionError Token} {token : Token}
    (emits : Emits earlier wrapper made outcome) (given : outcome = .ok token) :
    ∃ scope parent, Wrapper.Rows wrapper earlier made scope parent token := by
  have before : earlier ⊆ earlier ++ made := List.subset_append_left earlier made
  have now : made ⊆ earlier ++ made := List.subset_append_right earlier made
  cases emits with
  | assemblyRefused assembly => cases given
  | typeRefused assembly type => cases given
  | @memberAsked assemblyCalls typeCalls scope parent assembly type answer =>
    cases answer with
    | error refusal => cases given
    | ok member =>
      cases given
      refine ⟨scope, parent, ?_, ?_, ?_⟩
      · apply assembly.granted_among before
        intro answered asked
        exact now (List.mem_append_left _ (List.mem_append_left typeCalls asked))
      · apply type.granted_among before
        intro answered asked
        exact now (List.mem_append_left _ (List.mem_append_right assemblyCalls asked))
      · exact granted_append_iff.mpr (.inr (granted_singleton_iff.mpr ⟨rfl, rfl⟩))

namespace Request

/-- One of the requests for the key has emitted the token. -/
def Emitted (requests : List Request) (key : WrapperKey) (token : Token) : Prop :=
  ∃ earlier request behind, requests = earlier ++ request :: behind ∧
    request.wrapper.key = key ∧ request.outcome = .ok token ∧
    ∃ scope parent,
      Wrapper.Rows request.wrapper (hostCalls earlier) request.calls scope parent token

variable {past : List Request} {key : WrapperKey} {token : Token}

theorem Emitted.append (emitted : Emitted past key token) (later : List Request) :
    Emitted (past ++ later) key token := by
  obtain ⟨earlier, request, behind, split, rows⟩ := emitted
  refine ⟨earlier, request, behind ++ later, ?_, rows⟩
  rw [split, List.append_assoc, List.cons_append]

end Request

namespace ModuleRecord

variable {before after record : ModuleRecord S} {past later : List Request}
  {moduleId : ModuleId} {assembly : String} {metadata : Metadata S} {wrapper : Wrapper}
  {token : Token}

/-- What was given for a key has been emitted for it. -/
theorem Reaches.emitted_of_gave
    (reached : (fresh moduleId assembly metadata).Reaches past record) {key : WrapperKey}
    (gave : Request.Gave past key token) : Request.Emitted past key token := by
  -- A request that gives a token again points to an earlier one, so the first has emitted it.
  induction reached with
  | start =>
    obtain ⟨_, impossible, _⟩ := gave
    cases impossible
  | ask reaches asked world ih =>
    rcases Request.gave_append_iff.mp gave with gaveBefore | now
    · exact (ih gaveBefore).append _
    · obtain ⟨ofKey, given⟩ := Request.gave_singleton_iff.mp now
      have follows := (reaches.next asked world).1
      rcases follows.gave_or_emits given with gaveBefore | emits
      · rw [ofKey] at gaveBefore
        exact (ih gaveBefore).append _
      · exact ⟨_, _, [], rfl, ofKey, given, emits.exists_rows given⟩
  | enable reaches replacement ih => exact ih gave

theorem Reaches.wrapperRef?_eq (reached : before.Reaches later after)
    (held : before.wrapperRef? wrapper = some token) :
    after.wrapperRef? wrapper = some token := by
  induction reached with
  | start => exact held
  | ask reaches asked world ih =>
    exact (Emission.grows_wrapperRef asked ⟨_, world⟩).1.keeps wrapper token ih
  | enable reaches replacement ih => exact ih

/-- A reference that a record holds is the one that is given for its key ever after, and it was
emitted for a request under that key: as the member of the request under its type in its
assembly. -/
theorem reference_stays_and_was_emitted
    (reached : (fresh moduleId assembly metadata).Reaches past record)
    (held : record.wrapperRef? wrapper = some token) :
    (∀ later after, record.Reaches later after → ∀ other : Wrapper, other.key = wrapper.key →
      after.wrapperRef? other = some token ∧
      ∀ world, Emission.wrapperRef other ⟨after, world⟩ = .ok token ⟨after, world⟩) ∧
    Request.Emitted past wrapper.key token := by
  constructor
  · intro later after again other sameKey
    have heldAfter : after.wrapperRef? other = some token := by
      rw [wrapperRef?, sameKey]
      exact again.wrapperRef?_eq held
    exact ⟨heldAfter, fun world => Emission.wrapperRef_of_known heldAfter⟩
  · exact reached.emitted_of_gave ((reached.recalls_of_fresh.references _ _).mp held)

end ModuleRecord

namespace HesitantHost

/-- The record behind the request that is granted. -/
def granted : ModuleRecord Bool :=
  (endState (Emission.wrapperRef wrapper refused)).record

end HesitantHost

/-- The second request has emitted the reference, with the row of its assembly from the first. -/
theorem ModuleRecord.reference_stays_and_was_emitted_hesitantHost :
    ∃ past,
      (fresh ⟨7⟩ "App" HesitantHost.metadata).Reaches past HesitantHost.granted ∧
      HesitantHost.granted.wrapperRef? HesitantHost.wrapper = some ⟨0x0A000002⟩ ∧
      Request.Emitted past ⟨"Run"⟩ ⟨0x0A000002⟩ ∧
      ∀ world, Emission.wrapperRef HesitantHost.wrapper ⟨HesitantHost.granted, world⟩ =
        .ok ⟨0x0A000002⟩ ⟨HesitantHost.granted, world⟩ := by
  have nothingAsked :
      (fresh ⟨7⟩ "App" HesitantHost.metadata).Reaches [] HesitantHost.emission.record := .start
  have asked := nothingAsked.ask HesitantHost.wrapper HesitantHost.emission.world
  have askedAgain := asked.ask HesitantHost.wrapper HesitantHost.refused.world
  have held : HesitantHost.granted.wrapperRef? HesitantHost.wrapper = some ⟨0x0A000002⟩ := rfl
  obtain ⟨stays, emitted⟩ := reference_stays_and_was_emitted askedAgain held
  have given := (stays [] HesitantHost.granted .start HesitantHost.wrapper rfl).2
  exact ⟨_, askedAgain, held, emitted, given⟩

end Detour
