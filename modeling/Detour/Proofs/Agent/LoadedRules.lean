import Detour.Proofs.Agent.Loading
import Detour.Proofs.Module.Attempts
import Detour.Proofs.Module.GrantedRows

/-!
# Rules behind a load

Rules are sorted out twice: a load looks at the assembly of the callers, and a compilation at their
type and method as well. The first look asks for less, so a rule that a compilation in the module
could match has had its attempt, and it is missing from the record only if that was refused.
-/

namespace Detour

open Detour.CallSite
open Detour.Host
open Detour.Rule

variable {S : Type}

/-! ## The two filters -/

namespace Rule

theorem MethodPattern.partMatches_iff {part : Option String} {value : String} :
    partMatches part value = true ↔ part = none ∨ part = some "" ∨ part = some value := by
  unfold partMatches
  cases stated : stated? part with
  | none =>
    rcases stated?_eq_none_iff.mp stated with absent | empty
    · simp [absent]
    · simp [empty]
  | some expected =>
    obtain ⟨isExpected, nonempty⟩ := stated?_eq_some_iff.mp stated
    simp [isExpected, nonempty]

theorem MethodPattern.matchesAssembly_of_matchesMethod {pattern : MethodPattern}
    {assembly typeName methodName : String}
    (matching : pattern.matchesMethod assembly typeName methodName = true) :
    pattern.matchesAssembly assembly = true := by
  unfold matchesMethod at matching
  rw [Bool.and_eq_true, Bool.and_eq_true] at matching
  exact matching.1.1

namespace Catalog

/-- The rules whose callers may be in the assembly leave it open or state it. -/
theorem candidates_eq (catalog : Catalog) (assembly : String) :
    catalog.candidates assembly = (catalog.flatMap (·.replacements)).filter fun rule =>
      rule.caller.assembly = none ∨ rule.caller.assembly = some "" ∨
        rule.caller.assembly = some assembly := by
  apply List.filter_congr
  intro rule _
  rw [Bool.eq_iff_iff, decide_eq_true_iff]
  exact MethodPattern.partMatches_iff

/-- The first filter leaves the second one what it would find without it. -/
theorem filter_candidates (catalog : Catalog) (assembly typeName methodName : String) :
    ((catalog.candidates assembly).filter fun rule =>
        rule.caller.matchesMethod assembly typeName methodName) =
      (catalog.flatMap (·.replacements)).filter fun rule =>
        rule.caller.matchesMethod assembly typeName methodName := by
  rw [candidates, List.filter_filter]
  apply List.filter_congr
  intro rule _
  rw [Bool.and_eq_left_iff_imp]
  exact MethodPattern.matchesAssembly_of_matchesMethod

end Catalog

end Rule

theorem ModuleRecord.map_fst_callerMatches (record : ModuleRecord S) (caller : MethodIdentity) :
    (record.callerMatches caller).map (·.1) = record.replacements.filter fun replacement =>
      replacement.caller.matchesMethod record.assembly caller.typeName caller.methodName := by
  have entries : record.replacements.zipIdx.map (·.1) = record.replacements :=
    List.zipIdx_map_fst 0 record.replacements
  calc
    (record.callerMatches caller).map (·.1) =
        (record.replacements.zipIdx.map (·.1)).filter fun replacement =>
          replacement.caller.matchesMethod record.assembly caller.typeName caller.methodName := by
      rw [List.filter_map]
      rfl
    _ = _ := by rw [entries]

/-- The attempts for the rules that a method of the assembly matches as a caller. -/
def Attempt.forCaller (assembly : String) (caller : MethodIdentity) (attempts : List Attempt) :
    List Attempt :=
  attempts.filter fun attempt =>
    attempt.replacement.caller.matchesMethod assembly caller.typeName caller.methodName

theorem Attempt.map_filter (attempts : List Attempt) (keep : Replacement → Bool) :
    (attempts.filter fun attempt => keep attempt.replacement).map (·.replacement) =
      (attempts.map (·.replacement)).filter keep :=
  List.filter_map.symm

theorem Attempt.enabled_filter (attempts : List Attempt) (keep : Replacement → Bool) :
    enabled (attempts.filter fun attempt => keep attempt.replacement) =
      (enabled attempts).filter keep := by
  have swapped : (attempts.filter fun attempt => keep attempt.replacement).filter (·.isGranted) =
      (attempts.filter (·.isGranted)).filter fun attempt => keep attempt.replacement := by
    rw [List.filter_filter, List.filter_filter]
    exact List.filter_congr fun attempt _ => Bool.and_comm _ _
  rw [enabled, swapped]
  exact Attempt.map_filter _ keep

/-! ## Loads -/

/-- The emission with which a load of the given number of candidates begins. -/
def LoadNotice.start (notice : LoadNotice S) (candidates : Nat) (world : World S) : Emission S where
  record := ModuleRecord.fresh notice.moduleId notice.assembly notice.metadata
  world := world.log (.emissionStarted notice.moduleId notice.assembly candidates)

/-- The load of a list of candidates, seen as one attempt for each, in order and on one record. -/
structure LoadNotice.Attempted (notice : LoadNotice S) (world : World S) (attempts : List Attempt)
    (filled : Emission S) : Prop where
  ran : Emission.Attempts (notice.start attempts.length world) attempts filled
  reaches : (ModuleRecord.fresh notice.moduleId notice.assembly notice.metadata).Reaches
    (attempts.map (·.request)) filled.record
  /-- The enabled replacements are those of the granted attempts, in order. -/
  enabled_eq : filled.record.replacements = Attempt.enabled attempts
  /-- The errors are those of the other attempts, in order. -/
  fill_eq : notice.fill (attempts.map (·.replacement)) world = (Attempt.refusals attempts, filled)
  /-- On a host with an account, the calls of the attempts are noted down, and no others. -/
  accounted : ∀ earlier, notice.accounted.fill (attempts.map (·.replacement))
    (world.accounted earlier) =
      (Attempt.refusals attempts, filled.accounted (earlier ++ Attempt.hostCalls attempts))

theorem LoadNotice.exists_attempted (notice : LoadNotice S) (candidates : List Replacement)
    (world : World S) :
    ∃ attempts filled, attempts.map (·.replacement) = candidates ∧
      notice.Attempted world attempts filled := by
  obtain ⟨attempts, areCandidates, ran, refusals, accounted⟩ :=
    ModuleTable.exists_attempts_of_prepare candidates (notice.start candidates.length world)
      (ModuleRecord.recalls_fresh notice.moduleId notice.assembly notice.metadata)
  subst areCandidates
  rw [List.length_map] at ran refusals accounted
  refine ⟨attempts, _, rfl, ran, ran.reaches, ?_, ?_, ?_⟩
  · exact ran.replacements_eq.trans (List.nil_append _)
  · rw [← refusals, LoadNotice.fill, List.length_map]
    rfl
  · intro earlier
    rw [← refusals, LoadNotice.fill, List.length_map]
    exact accounted earlier

/-- The outcome tells how many of the attempts were granted, and what the others were refused
with. -/
structure LoadOutcome.SumsUp (outcome : LoadOutcome) (attempts : List Attempt) : Prop where
  noMatchingRules_iff : outcome = .noMatchingRules ↔ attempts = []
  allRulesFailed_iff : ∀ errors, outcome = .allRulesFailed errors ↔
    attempts ≠ [] ∧ Attempt.enabled attempts = [] ∧ errors = Attempt.refusals attempts
  tracked_iff : ∀ count errors, outcome = .tracked count errors ↔
    Attempt.enabled attempts ≠ [] ∧ count = (Attempt.enabled attempts).length ∧
      errors = Attempt.refusals attempts

namespace LoadOutcome

variable {attempts : List Attempt}

theorem sumsUp_noMatchingRules : noMatchingRules.SumsUp [] where
  noMatchingRules_iff := by simp
  allRulesFailed_iff errors := by simp
  tracked_iff count errors := by simp [Attempt.enabled]

theorem sumsUp_allRulesFailed (somebody : attempts ≠ []) (nothing : Attempt.enabled attempts = []) :
    (allRulesFailed (Attempt.refusals attempts)).SumsUp attempts where
  noMatchingRules_iff := by simp [somebody]
  allRulesFailed_iff errors := by simp [somebody, nothing, eq_comm]
  tracked_iff count errors := by simp [nothing]

theorem sumsUp_tracked (something : Attempt.enabled attempts ≠ []) :
    (tracked (Attempt.enabled attempts).length (Attempt.refusals attempts)).SumsUp attempts where
  noMatchingRules_iff := by
    have somebody : attempts ≠ [] := by
      rintro rfl
      exact something rfl
    simp [somebody]
  allRulesFailed_iff errors := by simp [something]
  tracked_iff count errors := by simp [something, eq_comm]

end LoadOutcome

namespace ModuleTable

variable {table : ModuleTable S} {catalog : Catalog} {notice : LoadNotice S} {world : World S}
  {attempts : List Attempt} {filled : Emission S}

/-- The outcome of a load, and the record that it may have entered. -/
theorem load_of_attempted (table : ModuleTable S) (isOpen : notice.flags.isInstrumentable = true)
    (areCandidates : attempts.map (·.replacement) = catalog.candidates notice.assembly)
    (attempted : notice.Attempted world attempts filled) :
    (table.load catalog notice world).1.SumsUp attempts ∧
      (attempts = [] → table.load catalog notice world = (.noMatchingRules, table, world)) ∧
      ((table.load catalog notice world).1.isTracked = true →
        (table.load catalog notice world).2.1[notice.moduleId]? = some filled.record) := by
  have fill_eq := attempted.fill_eq
  rw [areCandidates] at fill_eq
  by_cases nobody : attempts = []
  · rw [nobody] at areCandidates
    rw [table.load_of_nobody world isOpen areCandidates.symm, nobody]
    exact ⟨LoadOutcome.sumsUp_noMatchingRules, fun _ => rfl, fun impossible => nomatch impossible⟩
  · by_cases nothing : Attempt.enabled attempts = []
    · have somebody : catalog.candidates notice.assembly ≠ [] := by
        rw [← areCandidates]
        exact fun none => nobody (List.map_eq_nil_iff.mp none)
      rw [table.load_of_refused world isOpen somebody
        (by rw [fill_eq]; exact attempted.enabled_eq.trans nothing), fill_eq]
      exact ⟨LoadOutcome.sumsUp_allRulesFailed nobody nothing, fun none => absurd none nobody,
        fun impossible => nomatch impossible⟩
    · have isFilled := notice.isFilled_fill (catalog.candidates notice.assembly) world
      rw [fill_eq] at isFilled
      rw [table.load_of_enabled world isOpen
        (by rw [fill_eq, attempted.enabled_eq]; exact nothing), fill_eq]
      dsimp only
      rw [attempted.enabled_eq]
      refine ⟨LoadOutcome.sumsUp_tracked nothing, fun none => absurd none nobody, fun _ => ?_⟩
      rw [publish_fst, getElem?_replace, if_pos isFilled.moduleId_eq]

/-- A load makes the calls of its attempts, and no others. -/
theorem hostCalls_load (isOpen : notice.flags.isInstrumentable = true)
    (areCandidates : attempts.map (·.replacement) = catalog.candidates notice.assembly)
    (attempted : notice.Attempted world attempts filled) (other : ModuleTable (Accounted S))
    (earlier : List AnsweredCall) :
    (other.load catalog notice.accounted (world.accounted earlier)).2.2.host.calls =
      earlier ++ Attempt.hostCalls attempts := by
  have accountedOpen : notice.accounted.flags.isInstrumentable = true := isOpen
  have fill_eq := attempted.accounted earlier
  rw [areCandidates] at fill_eq
  rw [other.host_load (world.accounted earlier) accountedOpen]
  exact congrArg (·.2.world.host.calls) fill_eq

/-- A load has one attempt for each rule that admits the assembly, in the order of the catalog and
on one record. The rules whose attempts were granted are enabled, and the outcome counts them and
lists the refusals of the others. So what a compilation in the module finds are the rules of the
whole catalog that match its method, but for those whose attempts were refused. -/
theorem load_enables_granted {after : ModuleTable S} {later : World S} {outcome : LoadOutcome}
    (isOpen : notice.flags.isInstrumentable = true)
    (loaded : table.load catalog notice world = (outcome, after, later)) :
    ∃ attempts filled,
      attempts.map (·.replacement) = ((catalog.flatMap (·.replacements)).filter fun rule =>
        rule.caller.assembly = none ∨ rule.caller.assembly = some "" ∨
          rule.caller.assembly = some notice.assembly) ∧
      notice.Attempted world attempts filled ∧
      (Attempt.enabled attempts).length + (Attempt.refusals attempts).length = attempts.length ∧
      outcome.SumsUp attempts ∧
      (∀ (other : ModuleTable (Accounted S)) earlier,
        (other.load catalog notice.accounted (world.accounted earlier)).2.2.host.calls =
          earlier ++ Attempt.hostCalls attempts) ∧
      (outcome = .noMatchingRules → Attempt.hostCalls attempts = [] ∧ after = table ∧
        later = world ∧ ∀ rule ∈ catalog.flatMap (·.replacements), ∀ typeName methodName,
          rule.caller.matchesMethod notice.assembly typeName methodName = false) ∧
      (outcome.isTracked = true → after[notice.moduleId]? = some filled.record) ∧
      ∀ caller : MethodIdentity,
        ((Attempt.forCaller notice.assembly caller attempts).map (·.replacement) =
          (catalog.flatMap (·.replacements)).filter fun rule =>
            rule.caller.matchesMethod notice.assembly caller.typeName caller.methodName) ∧
        (filled.record.callerMatches caller).map (·.1) =
          Attempt.enabled (Attempt.forCaller notice.assembly caller attempts) := by
  obtain ⟨attempts, filled, areCandidates, attempted⟩ :=
    notice.exists_attempted (catalog.candidates notice.assembly) world
  obtain ⟨sumsUp, ofNobody, ofTracked⟩ :=
    table.load_of_attempted isOpen areCandidates attempted
  have calls := hostCalls_load isOpen areCandidates attempted
  rw [loaded] at sumsUp ofNobody ofTracked
  have assembly_eq : filled.record.assembly = notice.assembly := by
    have isFilled := notice.isFilled_fill (attempts.map (·.replacement)) world
    rw [attempted.fill_eq] at isFilled
    exact isFilled.assembly_eq
  have found : ∀ typeName methodName,
      ((attempts.map (·.replacement)).filter fun rule =>
        rule.caller.matchesMethod notice.assembly typeName methodName) =
      (catalog.flatMap (·.replacements)).filter fun rule =>
        rule.caller.matchesMethod notice.assembly typeName methodName := by
    intro typeName methodName
    rw [areCandidates]
    exact catalog.filter_candidates notice.assembly typeName methodName
  refine ⟨attempts, filled, areCandidates.trans (catalog.candidates_eq _), attempted,
    Attempt.length_enabled_add_length_refusals attempts, sumsUp, calls, ?_, ofTracked, ?_⟩
  · intro isNobody
    have nobody := sumsUp.noMatchingRules_iff.mp isNobody
    have unchanged := ofNobody nobody
    cases unchanged
    refine ⟨by rw [nobody]; rfl, rfl, rfl, ?_⟩
    intro rule member typeName methodName
    have none := found typeName methodName
    rw [nobody] at none
    exact Bool.eq_false_iff.mpr (List.filter_eq_nil_iff.mp none.symm rule member)
  · intro caller
    refine ⟨?_, ?_⟩
    · exact (Attempt.map_filter attempts _).trans (found caller.typeName caller.methodName)
    · rw [ModuleRecord.map_fst_callerMatches, assembly_eq, attempted.enabled_eq]
      exact (Attempt.enabled_filter attempts _).symm

end ModuleTable

namespace HesitantHost

def notice : LoadNotice Bool :=
  ⟨⟨7⟩, "App", ⟨0⟩, metadata⟩

/-- A rule for the calls that an assembly makes. -/
def rule (assembly : Option String) : Replacement :=
  ⟨⟨assembly, none, none⟩, ⟨none, none, some "Run"⟩, wrapper⟩

def catalog : Catalog :=
  [⟨"First", [rule none, rule (some "Other")]⟩, ⟨"Second", [rule (some "App")]⟩]

end HesitantHost

/-- Of two candidates the first is refused, since the host refuses the type of its wrapper. -/
theorem ModuleTable.load_enables_granted_hesitantHost :
    ∃ (after : ModuleTable Bool) (later : World Bool) (attempts : List Attempt)
        (filled : Emission Bool),
      HesitantHost.notice.flags.isInstrumentable = true ∧
      (∅ : ModuleTable Bool).load HesitantHost.catalog HesitantHost.notice ⟨false, #[]⟩ =
        (.tracked 1
          [.typeRef "Wrap.Task" (.notFound "DefineTypeRefByName" ⟨0x23000001⟩)], after, later) ∧
      attempts.map (·.replacement) =
        [HesitantHost.rule none, HesitantHost.rule (some "App")] ∧
      (Attempt.enabled attempts).length = 1 ∧ (Attempt.refusals attempts).length = 1 ∧
      after[HesitantHost.notice.moduleId]? = some filled.record := by
  have isOpen : HesitantHost.notice.flags.isInstrumentable = true := rfl
  have loaded :
      (∅ : ModuleTable Bool).load HesitantHost.catalog HesitantHost.notice ⟨false, #[]⟩ =
        (.tracked 1 [.typeRef "Wrap.Task" (.notFound "DefineTypeRefByName" ⟨0x23000001⟩)],
          ((∅ : ModuleTable Bool).load HesitantHost.catalog HesitantHost.notice ⟨false, #[]⟩).2) :=
    rfl
  obtain ⟨attempts, filled, candidates, _, _, sumsUp, _, _, tracked, _⟩ :=
    load_enables_granted isOpen loaded
  obtain ⟨_, counted, refused⟩ := (sumsUp.tracked_iff 1 _).mp rfl
  refine ⟨_, _, attempts, filled, isOpen, loaded, candidates.trans ?_, counted.symm, ?_,
    tracked rfl⟩
  · decide
  · rw [← refused]
    rfl

end Detour
