import Detour.Proofs.Module.Attempts

/-!
# Accepted names

Suppose that the host grants or refuses a row by its name alone. The rows that a record remembers
then have accepted names, whoever asked for them first. So a wrapper that has no reference yet gets
one exactly if all its names are accepted, and what other wrappers have left in the record makes no
difference to it.
-/

namespace Detour

open Detour.Assembly
open Detour.Host
open Detour.Rule

variable {S : Type}

namespace Host

/-- The names that a host accepts, for each kind of row. -/
structure Acceptance where
  /-- The simple names of assemblies. -/
  assembly : String → Bool
  typeName : String → Bool
  methodName : String → Bool

namespace Acceptance

/-- Whether the shared row that a call defines has an accepted name. -/
def row (accepts : Acceptance) : MetadataCall → Bool
  | .defineAssemblyRef assembly => accepts.assembly assembly.name
  | .defineTypeRef _ typeName => accepts.typeName typeName
  | .memberRef _ | .methodDef _ | .typeRef _ | .typeDef _ | .defineMemberRef _ _ _ => false

/-- Whether all three names of a wrapper are accepted. -/
def wrapper (accepts : Acceptance) (wrapper : Wrapper) : Bool :=
  accepts.assembly wrapper.assembly.name &&
    (accepts.typeName wrapper.typeName && accepts.methodName wrapper.methodName)

end Acceptance

/-- In whatever state, the host grants the rows with accepted names and no others. -/
structure Metadata.DecidesBy (metadata : Metadata S) (accepts : Acceptance) : Prop where
  defineAssemblyRef : ∀ assembly host,
    (outcomeOf (metadata.defineAssemblyRef assembly host)).isOk = accepts.assembly assembly.name
  defineTypeRef : ∀ scope typeName host,
    (outcomeOf (metadata.defineTypeRef scope typeName host)).isOk = accepts.typeName typeName
  defineMemberRef : ∀ parent methodName signature host,
    (outcomeOf (metadata.defineMemberRef parent methodName signature host)).isOk =
      accepts.methodName methodName

end Host

variable {accepts : Acceptance}

/-- The record of a host that decides by names, with a memory of accepted rows only. -/
structure ModuleRecord.Obeys (record : ModuleRecord S) (accepts : Acceptance) : Prop where
  decides : record.metadata.DecidesBy accepts
  rows : ∀ call token, record.row? call = some token → accepts.row call = true

theorem ModuleRecord.obeys_fresh {metadata : Metadata S} (decides : metadata.DecidesBy accepts)
    (moduleId : ModuleId) (assembly : String) :
    (ModuleRecord.fresh moduleId assembly metadata).Obeys accepts where
  decides := decides
  rows call token remembered := by
    cases call <;> cases remembered

theorem ModuleRecord.Obeys.rememberRow {record : ModuleRecord S} (obeys : record.Obeys accepts)
    {call : MetadataCall} (token : Token) (accepted : accepts.row call = true) :
    (record.rememberRow call token).Obeys accepts where
  decides := by
    have sameMetadata : (record.rememberRow call token).metadata = record.metadata := by
      cases call <;> rfl
    rw [sameMetadata]
    exact obeys.decides
  rows other otherToken remembered := by
    by_cases same : other = call
    · rw [same]
      exact accepted
    · rw [row?_rememberRow_of_ne record token same] at remembered
      exact obeys.rows other otherToken remembered

/-! ## Emitting a reference -/

namespace Emission

open Detour.EStateM

/-- The emission goes into a record that obeys. -/
def Obeys (accepts : Acceptance) (emission : Emission S) : Prop :=
  emission.record.Obeys accepts

theorem onHost_cases (refuse : Refusal → EmissionError) (call : EStateM Refusal S Token)
    (emission : Emission S) :
    (outcomeOf (onHost refuse call emission)).isOk =
        (outcomeOf (call emission.world.host)).isOk ∧
      (endState (onHost refuse call emission)).record = emission.record := by
  cases answered : call emission.world.host with
  | ok token host =>
    simp only [onHost, World.onHost, answered]
    exact ⟨rfl, rfl⟩
  | error refusal host =>
    simp only [onHost, World.onHost, answered]
    exact ⟨rfl, rfl⟩

/-- A shared row that is remembered was accepted before, so it is never asked for in vain. -/
theorem decided_sharedRow (refuse : Refusal → EmissionError) (call : MetadataCall)
    (request : Metadata S → EStateM Refusal S Token)
    (decides : ∀ metadata : Metadata S, metadata.DecidesBy accepts → ∀ host,
      (outcomeOf (request metadata host)).isOk = accepts.row call) :
    Decided (Obeys accepts) (accepts.row call) (sharedRow refuse call request) := by
  intro emission obeys
  cases known : emission.record.row? call with
  | some token =>
    rw [sharedRow_of_known known]
    exact ⟨(obeys.rows call token known).symm, obeys⟩
  | none =>
    obtain ⟨answered, kept⟩ := onHost_cases refuse (request emission.record.metadata) emission
    rw [decides _ obeys.decides] at answered
    cases asked : onHost refuse (request emission.record.metadata) emission with
    | ok token behind =>
      rw [asked] at answered kept
      have accepted : accepts.row call = true := answered.symm
      have sameRecord : behind.record = emission.record := kept
      rw [sharedRow_of_granted known asked]
      refine ⟨answered, ?_⟩
      rw [Obeys, endState, sameRecord]
      exact obeys.rememberRow token accepted
    | error error behind =>
      rw [asked] at answered kept
      have sameRecord : behind.record = emission.record := kept
      rw [sharedRow_of_refused known asked]
      refine ⟨answered, ?_⟩
      rw [Obeys, endState, sameRecord]
      exact obeys

theorem decided_emitMember (wrapper : Wrapper) (parent : Token) :
    Decided (Obeys accepts) (accepts.methodName wrapper.methodName)
      (emitMember (S := S) wrapper parent) := by
  intro emission obeys
  obtain ⟨answered, kept⟩ := onHost_cases (.memberRef wrapper.typeName wrapper.methodName)
    (emission.record.metadata.defineMemberRef parent wrapper.methodName wrapper.signature) emission
  rw [obeys.decides.defineMemberRef] at answered
  cases asked : onHost (.memberRef wrapper.typeName wrapper.methodName)
      (emission.record.metadata.defineMemberRef parent wrapper.methodName wrapper.signature)
      emission with
  | ok token behind =>
    rw [asked] at answered kept
    have sameRecord : behind.record = emission.record := kept
    rw [emitMember_of_granted asked]
    refine ⟨answered, ?_⟩
    rw [Obeys, endState, sameRecord]
    exact ⟨obeys.decides, obeys.rows⟩
  | error error behind =>
    rw [asked] at answered kept
    have sameRecord : behind.record = emission.record := kept
    rw [emitMember_of_refused asked]
    refine ⟨answered, ?_⟩
    rw [Obeys, endState, sameRecord]
    exact obeys

theorem decided_emitWrapper (wrapper : Wrapper) :
    Decided (Obeys accepts) (accepts.wrapper wrapper) (emitWrapper (S := S) wrapper) := by
  have assemblyDecided : Decided (Obeys accepts) (accepts.assembly wrapper.assembly.name)
      (assemblyRef (S := S) wrapper.assembly) := by
    rw [assemblyRef_eq_sharedRow]
    exact decided_sharedRow _ (.defineAssemblyRef wrapper.assembly) _
      fun metadata decides => decides.defineAssemblyRef wrapper.assembly
  have typeDecided (scope : Token) : Decided (Obeys accepts) (accepts.typeName wrapper.typeName)
      (typeRef (S := S) scope wrapper.typeName) := by
    rw [typeRef_eq_sharedRow]
    exact decided_sharedRow _ (.defineTypeRef scope wrapper.typeName) _
      fun metadata decides => decides.defineTypeRef scope wrapper.typeName
  rw [emitWrapper_eq, Acceptance.wrapper]
  exact assemblyDecided.bind fun scope => (typeDecided scope).bind fun parent =>
    decided_emitMember wrapper parent

end Emission

/-! ## One wrapper after another -/

/-- Whether a reference is remembered for a key. -/
def ModuleRecord.holds (record : ModuleRecord S) (key : WrapperKey) : Bool :=
  (record.wrapperRefs.lookup key).isSome

namespace Emission

variable {emission : Emission S}

/-- A wrapper has a reference behind a request if there was one for its key or if its names are
accepted, and no other key gets one. -/
theorem wrapperRef_of_obeys (obeys : emission.Obeys accepts) (wrapper : Wrapper) :
    (outcomeOf (wrapperRef wrapper emission)).isOk =
        (emission.record.holds wrapper.key || accepts.wrapper wrapper) ∧
      (endState (wrapperRef wrapper emission)).Obeys accepts ∧
      ∀ key, (endState (wrapperRef wrapper emission)).record.holds key =
        (emission.record.holds key ||
          (decide (wrapper.key = key) && accepts.wrapper wrapper)) := by
  cases held : emission.record.wrapperRef? wrapper with
  | some token =>
    have holds : emission.record.holds wrapper.key = true := Option.isSome_of_eq_some held
    rw [wrapperRef_of_known held]
    refine ⟨by rw [holds]; rfl, obeys, ?_⟩
    intro key
    by_cases same : wrapper.key = key
    · rw [← same, endState, holds, Bool.true_or]
    · rw [endState, decide_eq_false same, Bool.false_and, Bool.or_false]
  | none =>
    have notHeld : emission.record.holds wrapper.key = false :=
      Option.isSome_eq_false_iff.mpr (Option.isNone_iff_eq_none.mpr held)
    obtain ⟨decided, obeysBehind⟩ := decided_emitWrapper wrapper emission obeys
    rw [wrapperRef_of_unknown held]
    refine ⟨by rw [decided, notHeld, Bool.false_or], obeysBehind, ?_⟩
    intro key
    rw [Bool.eq_iff_iff, Bool.or_eq_true, Bool.and_eq_true, decide_eq_true_iff, ← decided]
    constructor
    · intro holdsBehind
      obtain ⟨token, found⟩ := Option.isSome_iff_exists.mp holdsBehind
      rcases (lookup_emitWrapper_iff held key token).mp found with before | ⟨same, now⟩
      · exact .inl (Option.isSome_of_eq_some before)
      · exact .inr ⟨same, by rw [now]; rfl⟩
    · rintro (before | ⟨same, isOk⟩)
      · obtain ⟨token, found⟩ := Option.isSome_iff_exists.mp before
        exact Option.isSome_of_eq_some ((lookup_emitWrapper_iff held key token).mpr (.inl found))
      · cases now : outcomeOf (emitWrapper wrapper emission) with
        | ok token =>
          have found := (lookup_emitWrapper_iff held key token).mpr (.inr ⟨same, now⟩)
          exact Option.isSome_of_eq_some found
        | error error =>
          rw [now] at isOk
          cases isOk

/-! ## Attempts -/

namespace Attempts

variable {before after : Emission S} {attempt : Attempt} {attempts rest : List Attempt}

/-- An attempt is granted if there is a reference for its key or its names are accepted, and it
leaves the other keys alone. -/
theorem next (ran : Attempts before (attempt :: rest) after) (obeys : before.Obeys accepts) :
    attempt.isGranted = (before.record.holds attempt.replacement.wrapper.key ||
        accepts.wrapper attempt.replacement.wrapper) ∧
      ∃ behind : Emission S, behind.Obeys accepts ∧ Attempts behind rest after ∧
        ∀ key, behind.record.holds key = (before.record.holds key ||
          (decide (attempt.replacement.wrapper.key = key) &&
            accepts.wrapper attempt.replacement.wrapper)) := by
  cases ran with
  | @granted _ behind _ replacement token _ asked later =>
    obtain ⟨isGranted, obeysBehind, holds⟩ := wrapperRef_of_obeys obeys replacement.wrapper
    rw [asked] at obeysBehind holds
    exact ⟨isGranted, behind.enable replacement, ⟨obeysBehind.decides, obeysBehind.rows⟩, later,
      holds⟩
  | @refused _ behind _ replacement error _ asked later =>
    obtain ⟨isGranted, obeysBehind, holds⟩ := wrapperRef_of_obeys obeys replacement.wrapper
    rw [asked] at obeysBehind holds
    exact ⟨isGranted, behind.drop replacement error, obeysBehind, later, holds⟩

/-- An attempt is granted exactly if, for its key, there was a reference from the start or the names
of some wrapper up to here are accepted. -/
theorem isGranted_iff (ran : Attempts before attempts after) (obeys : before.Obeys accepts)
    {index : Nat} (found : attempts[index]? = some attempt) :
    attempt.isGranted = true ↔ before.record.holds attempt.replacement.wrapper.key = true ∨
      ∃ place, place ≤ index ∧ ∃ other, attempts[place]? = some other ∧
        other.replacement.wrapper.key = attempt.replacement.wrapper.key ∧
        accepts.wrapper other.replacement.wrapper = true := by
  -- In front of the rest, the record holds the first key too if the first names are accepted.
  induction attempts generalizing before index with
  | nil => cases found
  | cons first rest ih =>
    obtain ⟨isGranted, behind, obeysBehind, later, holds⟩ := ran.next obeys
    cases index with
    | zero =>
      cases found
      rw [isGranted, Bool.or_eq_true]
      constructor
      · rintro (held | accepted)
        · exact .inl held
        · exact .inr ⟨0, Nat.le_refl 0, attempt, rfl, rfl, accepted⟩
      · rintro (held | ⟨place, isFirst, other, isOther, _, accepted⟩)
        · exact .inl held
        · cases Nat.le_zero.mp isFirst
          cases isOther
          exact .inr accepted
    | succ index =>
      rw [ih later obeysBehind found, holds, Bool.or_eq_true, Bool.and_eq_true,
        decide_eq_true_iff]
      constructor
      · rintro ((held | ⟨sameKey, accepted⟩) | ⟨place, inside, other, isOther, sameKey, accepted⟩)
        · exact .inl held
        · exact .inr ⟨0, Nat.zero_le _, first, rfl, sameKey, accepted⟩
        · exact .inr ⟨place + 1, Nat.succ_le_succ inside, other, isOther, sameKey, accepted⟩
      · rintro (held | ⟨place, inside, other, isOther, sameKey, accepted⟩)
        · exact .inl (.inl held)
        · cases place with
          | zero =>
            cases isOther
            exact .inl (.inr ⟨sameKey, accepted⟩)
          | succ place =>
            exact .inr ⟨place, Nat.le_of_succ_le_succ inside, other, isOther, sameKey, accepted⟩

end Attempts

end Emission

/-! ## One key alone -/

/-- The rules with a key. -/
def Rule.Replacement.ofKey (key : WrapperKey) (rules : List Replacement) : List Replacement :=
  rules.filter fun rule => rule.wrapper.key = key

/-- The candidates with a key, each with whether its attempt was granted. -/
def Attempt.statuses (key : WrapperKey) (attempts : List Attempt) : List (Replacement × Bool) :=
  (attempts.filter fun attempt => attempt.replacement.wrapper.key = key).map fun attempt =>
    (attempt.replacement, attempt.isGranted)

/-- The rules with one key, each with whether it is enabled: from the first accepted one on, all of
them are. -/
def Host.Acceptance.enabledFrom (accepts : Acceptance) :
    Bool → List Replacement → List (Replacement × Bool)
  | _, [] => []
  | held, rule :: rest =>
    let held := held || accepts.wrapper rule.wrapper
    (rule, held) :: enabledFrom accepts held rest

section Cons

variable {key : WrapperKey} {rule : Replacement} {rules : List Replacement} {attempt : Attempt}
  {attempts : List Attempt}

theorem Rule.Replacement.ofKey_cons_of_eq (same : rule.wrapper.key = key) :
    ofKey key (rule :: rules) = rule :: ofKey key rules :=
  List.filter_cons_of_pos (decide_eq_true same)

theorem Rule.Replacement.ofKey_cons_of_ne (other : rule.wrapper.key ≠ key) :
    ofKey key (rule :: rules) = ofKey key rules :=
  List.filter_cons_of_neg fun same => other (of_decide_eq_true same)

theorem Attempt.statuses_cons_of_eq (same : attempt.replacement.wrapper.key = key) :
    statuses key (attempt :: attempts) =
      (attempt.replacement, attempt.isGranted) :: statuses key attempts := by
  rw [statuses, List.filter_cons_of_pos (by exact decide_eq_true same)]
  rfl

theorem Attempt.statuses_cons_of_ne (other : attempt.replacement.wrapper.key ≠ key) :
    statuses key (attempt :: attempts) = statuses key attempts := by
  rw [statuses, List.filter_cons_of_neg (by exact fun same => other (of_decide_eq_true same))]
  rfl

end Cons

/-- Which of the rules with a key are enabled follows from these rules alone. -/
theorem Emission.Attempts.statuses_eq {before after : Emission S} {attempts : List Attempt}
    (ran : Attempts before attempts after) (obeys : before.Obeys accepts) (key : WrapperKey) :
    Attempt.statuses key attempts = accepts.enabledFrom (before.record.holds key)
      (Replacement.ofKey key (attempts.map (·.replacement))) := by
  induction attempts generalizing before with
  | nil => rfl
  | cons attempt rest ih =>
    obtain ⟨isGranted, behind, obeysBehind, later, holds⟩ := ran.next obeys
    rw [List.map_cons]
    by_cases ofKey : attempt.replacement.wrapper.key = key
    · rw [ofKey] at isGranted
      rw [Attempt.statuses_cons_of_eq ofKey, Replacement.ofKey_cons_of_eq ofKey,
        ih later obeysBehind, holds, isGranted, decide_eq_true ofKey, Bool.true_and,
        Acceptance.enabledFrom]
    · rw [Attempt.statuses_cons_of_ne ofKey, Replacement.ofKey_cons_of_ne ofKey,
        ih later obeysBehind, holds, decide_eq_false ofKey, Bool.false_and, Bool.or_false]

end Detour
