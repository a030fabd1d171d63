import Detour.Proofs.Agent.LoadedRules
import Detour.Proofs.Module.Acceptance

/-!
# Isolated rules

With a host that decides by names, the rules of a catalog stand in each other's way no more than
their wrapper keys do. A rule is enabled exactly if its own names are accepted or those of an
earlier rule with the same key, and the rules with other keys may fail or succeed, come or go.
-/

namespace Detour

open Detour.Host
open Detour.Rule

variable {S : Type}

theorem Rule.Catalog.ofKey_candidates (catalog : Catalog) (assembly : String) (key : WrapperKey) :
    Replacement.ofKey key (catalog.candidates assembly) =
      (Replacement.ofKey key (catalog.flatMap (·.replacements))).filter
        (·.caller.matchesAssembly assembly) := by
  rw [candidates, Replacement.ofKey, Replacement.ofKey, List.filter_filter, List.filter_filter]
  exact List.filter_congr fun rule _ => Bool.and_comm _ _

theorem Attempt.ofKey_enabled (key : WrapperKey) (attempts : List Attempt) :
    Replacement.ofKey key (enabled attempts) =
      ((statuses key attempts).filter (·.2)).map (·.1) := by
  rw [Replacement.ofKey, ← enabled_filter, enabled, statuses, List.filter_map, List.map_map]
  rfl

namespace LoadNotice.Attempted

variable {notice : LoadNotice S} {world : World S} {attempts : List Attempt} {filled : Emission S}
  {accepts : Acceptance}

theorem obeys_start (notice : LoadNotice S) (decides : notice.metadata.DecidesBy accepts)
    (candidates : Nat) (world : World S) : (notice.start candidates world).Obeys accepts :=
  ModuleRecord.obeys_fresh decides notice.moduleId notice.assembly

/-- A fresh record holds no reference, so only the attempts count. -/
theorem isGranted_iff (attempted : notice.Attempted world attempts filled)
    (decides : notice.metadata.DecidesBy accepts) {index : Nat} {attempt : Attempt}
    (found : attempts[index]? = some attempt) :
    attempt.isGranted = true ↔ ∃ place, place ≤ index ∧ ∃ other, attempts[place]? = some other ∧
      other.replacement.wrapper.key = attempt.replacement.wrapper.key ∧
      accepts.wrapper other.replacement.wrapper = true := by
  rw [attempted.ran.isGranted_iff (obeys_start notice decides _ world) found]
  constructor
  · rintro (held | accepted)
    · cases held
    · exact accepted
  · intro accepted
    exact .inr accepted

theorem statuses_eq (attempted : notice.Attempted world attempts filled)
    (decides : notice.metadata.DecidesBy accepts) (key : WrapperKey) :
    Attempt.statuses key attempts = accepts.enabledFrom false
      (Replacement.ofKey key (attempts.map (·.replacement))) :=
  attempted.ran.statuses_eq (obeys_start notice decides _ world) key

end LoadNotice.Attempted

namespace ModuleTable

variable {table : ModuleTable S} {catalog : Catalog} {notice : LoadNotice S} {world : World S}

/-- On a host that decides by names, a candidate is enabled exactly if up to its place in the
catalog there is one with the same key whose names are all accepted. So whatever else is loaded on
such a host with whatever other rules, the rules with one key fare the same as long as they are the
same. -/
theorem load_isolates_rules {after : ModuleTable S} {later : World S} {outcome : LoadOutcome}
    {accepts : Acceptance} (isOpen : notice.flags.isInstrumentable = true)
    (decides : notice.metadata.DecidesBy accepts)
    (loaded : table.load catalog notice world = (outcome, after, later)) :
    ∃ (attempts : List Attempt) (filled : Emission S),
      attempts.map (·.replacement) = catalog.candidates notice.assembly ∧
      notice.Attempted world attempts filled ∧ outcome.SumsUp attempts ∧
      (outcome.isTracked = true → after[notice.moduleId]? = some filled.record) ∧
      (∀ index attempt, attempts[index]? = some attempt →
        (attempt.isGranted = true ↔ ∃ (place : Nat) (rule : Replacement), place ≤ index ∧
          (catalog.candidates notice.assembly)[place]? = some rule ∧
          rule.wrapper.key = attempt.replacement.wrapper.key ∧
          accepts.assembly rule.wrapper.assembly.name = true ∧
          accepts.typeName rule.wrapper.typeName = true ∧
          accepts.methodName rule.wrapper.methodName = true)) ∧
      ∀ (T : Type) (other : LoadNotice T) (otherCatalog : Catalog) (otherWorld : World T)
        (otherAttempts : List Attempt) (otherFilled : Emission T) (key : WrapperKey),
        other.assembly = notice.assembly → other.metadata.DecidesBy accepts →
        otherAttempts.map (·.replacement) = otherCatalog.candidates other.assembly →
        other.Attempted otherWorld otherAttempts otherFilled →
        Replacement.ofKey key (otherCatalog.flatMap (·.replacements)) =
          Replacement.ofKey key (catalog.flatMap (·.replacements)) →
        Attempt.statuses key otherAttempts = Attempt.statuses key attempts ∧
          Replacement.ofKey key otherFilled.record.replacements =
            Replacement.ofKey key filled.record.replacements := by
  obtain ⟨attempts, filled, areCandidates, attempted⟩ :=
    notice.exists_attempted (catalog.candidates notice.assembly) world
  obtain ⟨sumsUp, _, ofTracked⟩ :=
    table.load_of_attempted isOpen areCandidates attempted
  rw [loaded] at sumsUp ofTracked
  refine ⟨attempts, filled, areCandidates, attempted, sumsUp, ofTracked, ?_, ?_⟩
  · intro index attempt found
    rw [attempted.isGranted_iff decides found, ← areCandidates]
    constructor
    · rintro ⟨place, inside, other, isOther, sameKey, accepted⟩
      rw [Acceptance.wrapper, Bool.and_eq_true, Bool.and_eq_true] at accepted
      refine ⟨place, other.replacement, inside, ?_, sameKey, accepted⟩
      rw [List.getElem?_map, isOther]
      rfl
    · rintro ⟨place, rule, inside, isRule, sameKey, accepted⟩
      rw [List.getElem?_map, Option.map_eq_some_iff] at isRule
      obtain ⟨other, isOther, rfl⟩ := isRule
      refine ⟨place, inside, other, isOther, sameKey, ?_⟩
      rw [Acceptance.wrapper, Bool.and_eq_true, Bool.and_eq_true]
      exact accepted
  · intro T other otherCatalog otherWorld otherAttempts otherFilled key sameAssembly otherDecides
      areOtherCandidates otherAttempted sameRules
    have sameStatuses : Attempt.statuses key otherAttempts = Attempt.statuses key attempts := by
      rw [otherAttempted.statuses_eq otherDecides, attempted.statuses_eq decides,
        areOtherCandidates, areCandidates, Catalog.ofKey_candidates, Catalog.ofKey_candidates,
        sameRules, sameAssembly]
    refine ⟨sameStatuses, ?_⟩
    rw [otherAttempted.enabled_eq, attempted.enabled_eq, Attempt.ofKey_enabled,
      Attempt.ofKey_enabled, sameStatuses]

end ModuleTable

/-! A host that accepts one type name only. -/

namespace PickyHost

def accepts : Acceptance :=
  ⟨fun _ => true, fun typeName => typeName == "Wrap.Task", fun _ => true⟩

def metadata : Metadata Unit :=
  { Metadata.refusing with
    defineAssemblyRef := fun _ => pure ⟨0x23000001⟩
    defineTypeRef := fun scope typeName =>
      if typeName == "Wrap.Task" then pure ⟨0x01000002⟩
      else throw (.notFound "DefineTypeRefByName" scope)
    defineMemberRef := fun _ _ _ => pure ⟨0x0A000002⟩ }

theorem decidesBy : metadata.DecidesBy accepts where
  defineAssemblyRef _ _ := rfl
  defineTypeRef scope typeName host := by
    by_cases accepted : (typeName == "Wrap.Task") = true
    · simp only [metadata, accepts, accepted, if_true]
      rfl
    · simp only [metadata, accepts, accepted]
      rfl
  defineMemberRef _ _ _ _ := rfl

def notice : LoadNotice Unit :=
  ⟨⟨7⟩, "App", ⟨0⟩, metadata⟩

/-- A rule for all callers. -/
def rule (typeName methodName : String) : Replacement where
  caller := .any
  target := ⟨none, none, some "Run"⟩
  wrapper := ⟨.ofSimpleName "Wrap", typeName, methodName, [0],
    .ofParts (.ofSimpleName "Wrap") typeName methodName [0]⟩

/-- The rules differ in the place of the point only. -/
def catalog : Catalog :=
  [⟨"Tasks", [rule "Wrap" "Task.Run", rule "Wrap.Task" "Run", rule "Wrap" "Task.Run"]⟩]

/-- The same rules behind one that is refused. -/
def longerCatalog : Catalog :=
  ⟨"Others", [rule "Wrap.Other" "Run"]⟩ :: catalog

def key : WrapperKey :=
  .ofParts (.ofSimpleName "Wrap") "Wrap.Task" "Run" [0]

end PickyHost

/-- The first rule is refused and the third one is enabled, although they are the same: the second
one has their key. A rule with another key makes no difference. -/
theorem ModuleTable.load_isolates_rules_pickyHost :
    PickyHost.notice.flags.isInstrumentable = true ∧
    PickyHost.metadata.DecidesBy PickyHost.accepts ∧
    ∃ (first second third : Attempt) (filled : Emission Unit),
      PickyHost.notice.Attempted ⟨(), #[]⟩ [first, second, third] filled ∧
      third.replacement = first.replacement ∧ first.isGranted = false ∧
      second.isGranted = true ∧ third.isGranted = true ∧
      ∃ (others : List Attempt) (otherFilled : Emission Unit),
        others.map (·.replacement) =
          PickyHost.longerCatalog.candidates PickyHost.notice.assembly ∧
        PickyHost.notice.Attempted ⟨(), #[]⟩ others otherFilled ∧
        Attempt.statuses PickyHost.key others =
          Attempt.statuses PickyHost.key [first, second, third] := by
  have isOpen : PickyHost.notice.flags.isInstrumentable = true := rfl
  have loaded := Eq.refl
    ((∅ : ModuleTable Unit).load PickyHost.catalog PickyHost.notice ⟨(), #[]⟩)
  obtain ⟨attempts, filled, areCandidates, attempted, _, _, granted, isolated⟩ :=
    load_isolates_rules isOpen PickyHost.decidesBy loaded
  have candidates : PickyHost.catalog.candidates PickyHost.notice.assembly =
      [PickyHost.rule "Wrap" "Task.Run", PickyHost.rule "Wrap.Task" "Run",
        PickyHost.rule "Wrap" "Task.Run"] := rfl
  rw [candidates] at areCandidates granted
  obtain ⟨first, _, rfl, isFirst, behindFirst⟩ := List.map_eq_cons_iff.mp areCandidates
  obtain ⟨second, _, rfl, isSecond, behindSecond⟩ := List.map_eq_cons_iff.mp behindFirst
  obtain ⟨third, _, rfl, isThird, behindThird⟩ := List.map_eq_cons_iff.mp behindSecond
  cases List.map_eq_nil_iff.mp behindThird
  refine ⟨isOpen, PickyHost.decidesBy, first, second, third, filled, attempted,
    isThird.trans isFirst.symm, ?_, ?_, ?_, ?_⟩
  · rw [Bool.eq_false_iff]
    intro isGranted
    obtain ⟨place, rule, isFirstPlace, found, _, _, accepted, _⟩ :=
      (granted 0 first rfl).mp isGranted
    cases Nat.le_zero.mp isFirstPlace
    cases found
    exact absurd accepted (by decide)
  · exact (granted 1 second rfl).mpr
      ⟨1, _, Nat.le_refl 1, rfl, by rw [isSecond], rfl, by decide, rfl⟩
  · exact (granted 2 third rfl).mpr
      ⟨1, _, by decide, rfl, by rw [isThird]; rfl, rfl, by decide, rfl⟩
  · obtain ⟨others, otherFilled, areOthers, otherAttempted⟩ := PickyHost.notice.exists_attempted
      (PickyHost.longerCatalog.candidates PickyHost.notice.assembly) ⟨(), #[]⟩
    have sameRules : Replacement.ofKey PickyHost.key
        (PickyHost.longerCatalog.flatMap (·.replacements)) =
          Replacement.ofKey PickyHost.key (PickyHost.catalog.flatMap (·.replacements)) := rfl
    have sameStatuses := (isolated Unit PickyHost.notice _ _ _ _ PickyHost.key rfl
      PickyHost.decidesBy areOthers otherAttempted sameRules).1
    exact ⟨others, otherFilled, areOthers, otherAttempted, sameStatuses⟩

end Detour
