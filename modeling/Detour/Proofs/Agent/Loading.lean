import Detour.Proofs.Agent.Commits
import Detour.Proofs.Module.Emission

/-!
# Loading

A load that succeeds enters the record that it has filled, in the place of any other record of the
module. Every other load leaves the table alone. The agent then has no record of the module only if
it had none before: compilations go on with a record of an earlier load.
-/

namespace Detour

open Detour.Host
open Detour.Rule

variable {S : Type}

/-! ## Filled records -/

/-- The record that a load fills with its candidates, in the world behind it, and the refusals. -/
def LoadNotice.fill (notice : LoadNotice S) (candidates : List Replacement) (world : World S) :
    List EmissionError × Emission S :=
  let event := Event.emissionStarted notice.moduleId notice.assembly candidates.length
  let record := ModuleRecord.fresh notice.moduleId notice.assembly notice.metadata
  ModuleTable.prepare candidates ⟨record, world.log event⟩

/-- The record is one of the loaded module, and each candidate is enabled behind its reference or
among those that were dropped. -/
structure ModuleRecord.IsFilled (record : ModuleRecord S) (notice : LoadNotice S)
    (candidates : List Replacement) (dropped : List EmissionError) : Prop where
  moduleId_eq : record.moduleId = notice.moduleId
  assembly_eq : record.assembly = notice.assembly
  metadata_eq : record.metadata = notice.metadata
  enabled : record.replacements.Sublist candidates
  counted : record.replacements.length + dropped.length = candidates.length
  referenced : ∀ replacement ∈ record.replacements,
    ∃ token, record.wrapperRef? replacement.wrapper = some token

theorem LoadNotice.isFilled_fill (notice : LoadNotice S) (candidates : List Replacement)
    (world : World S) :
    (notice.fill candidates world).2.record.IsFilled notice candidates
      (notice.fill candidates world).1 := by
  let fresh := ModuleRecord.fresh notice.moduleId notice.assembly notice.metadata
  let event := Event.emissionStarted notice.moduleId notice.assembly candidates.length
  obtain ⟨enabled, sublist, counted, grows⟩ :=
    ModuleTable.grows_prepare candidates ⟨fresh, world.log event⟩
  have replacements : (notice.fill candidates world).2.record.replacements = enabled :=
    grows.replacements_eq.trans (List.nil_append enabled)
  constructor
  case moduleId_eq => exact grows.moduleId_eq
  case assembly_eq => exact grows.assembly_eq
  case metadata_eq => exact grows.metadata_eq
  case enabled =>
    rw [replacements]
    exact sublist
  case counted =>
    rw [replacements]
    exact counted
  case referenced =>
    rw [replacements]
    exact grows.referenced

namespace ModuleTable

/-! ## What a load comes to -/

inductive LoadStep (table : ModuleTable S) (notice : LoadNotice S) (candidates : List Replacement)
    (world : World S) : LoadOutcome → ModuleTable S → Prop
  | unsupported (closed : notice.flags.isInstrumentable = false) :
    LoadStep table notice candidates world .unsupported table
  | noMatchingRules (isOpen : notice.flags.isInstrumentable = true) (nobody : candidates = []) :
    LoadStep table notice candidates world .noMatchingRules table
  | allRulesFailed {errors : List EmissionError} {emission : Emission S}
    (isOpen : notice.flags.isInstrumentable = true) (somebody : candidates ≠ [])
    (filled : notice.fill candidates world = (errors, emission))
    (nothing : emission.record.replacements = []) :
    LoadStep table notice candidates world (.allRulesFailed errors) table
  | tracked {errors : List EmissionError} {emission : Emission S}
    (isOpen : notice.flags.isInstrumentable = true)
    (filled : notice.fill candidates world = (errors, emission))
    (something : emission.record.replacements ≠ []) :
    LoadStep table notice candidates world
      (.tracked emission.record.replacements.length errors) (table.replace emission.record).1

theorem publish_fst (table : ModuleTable S) (emission : Emission S) :
    (table.publish emission).1 = (table.replace emission.record).1 := by
  unfold publish
  dsimp only
  split
  · rename_i replaced equation
    rw [equation]
  · rename_i replaced other equation
    rw [equation]

theorem host_publish (table : ModuleTable S) (emission : Emission S) :
    (table.publish emission).2.host = emission.world.host := by
  unfold publish
  dsimp only
  split
  · rfl
  · rfl

section Open

variable (table : ModuleTable S) {catalog : Catalog} {notice : LoadNotice S} (world : World S)

theorem load_of_nobody (isOpen : notice.flags.isInstrumentable = true)
    (nobody : catalog.candidates notice.assembly = []) :
    table.load catalog notice world = (.noMatchingRules, table, world) := by
  unfold load
  rw [isOpen, if_neg (by decide : ¬ (!true) = true)]
  dsimp only
  rw [if_pos (List.isEmpty_iff.mpr nobody)]

theorem load_of_refused (isOpen : notice.flags.isInstrumentable = true)
    (somebody : catalog.candidates notice.assembly ≠ [])
    (nothing :
      (notice.fill (catalog.candidates notice.assembly) world).2.record.replacements = []) :
    table.load catalog notice world =
      (.allRulesFailed (notice.fill (catalog.candidates notice.assembly) world).1, table,
        (notice.fill (catalog.candidates notice.assembly) world).2.world) := by
  have noneEnabled := List.isEmpty_iff.mpr nothing
  unfold LoadNotice.fill at noneEnabled
  unfold load
  rw [isOpen, if_neg (by decide : ¬ (!true) = true)]
  dsimp only at noneEnabled ⊢
  rw [if_neg fun nobody => somebody (List.isEmpty_iff.mp nobody), if_pos noneEnabled]
  rfl

theorem load_of_enabled (isOpen : notice.flags.isInstrumentable = true)
    (something :
      (notice.fill (catalog.candidates notice.assembly) world).2.record.replacements ≠ []) :
    table.load catalog notice world =
      (.tracked
          (notice.fill (catalog.candidates notice.assembly) world).2.record.replacements.length
          (notice.fill (catalog.candidates notice.assembly) world).1,
        table.publish (notice.fill (catalog.candidates notice.assembly) world).2) := by
  have somebody : catalog.candidates notice.assembly ≠ [] := by
    intro nobody
    rw [nobody] at something
    exact something rfl
  have someEnabled := fun none => something (List.isEmpty_iff.mp none)
  unfold LoadNotice.fill at someEnabled
  unfold load
  rw [isOpen, if_neg (by decide : ¬ (!true) = true)]
  dsimp only at someEnabled ⊢
  rw [if_neg fun nobody => somebody (List.isEmpty_iff.mp nobody), if_neg someEnabled]
  rfl

/-- Whatever comes of the load, the host has been through filling the record. -/
theorem host_load (isOpen : notice.flags.isInstrumentable = true) :
    (table.load catalog notice world).2.2.host =
      (notice.fill (catalog.candidates notice.assembly) world).2.world.host := by
  by_cases nobody : catalog.candidates notice.assembly = []
  · rw [table.load_of_nobody world isOpen nobody, nobody]
    rfl
  · by_cases nothing :
      (notice.fill (catalog.candidates notice.assembly) world).2.record.replacements = []
    · rw [table.load_of_refused world isOpen nobody nothing]
    · rw [table.load_of_enabled world isOpen nothing]
      exact table.host_publish _

end Open

theorem loadStep_load (table : ModuleTable S) (catalog : Catalog) (notice : LoadNotice S)
    (world : World S) :
    LoadStep table notice (catalog.candidates notice.assembly) world
      (table.load catalog notice world).1 (table.load catalog notice world).2.1 := by
  cases instrumentable : notice.flags.isInstrumentable with
  | false =>
    unfold load
    rw [instrumentable, if_pos (by decide : (!false) = true)]
    exact .unsupported instrumentable
  | true =>
    by_cases nobody : catalog.candidates notice.assembly = []
    · rw [table.load_of_nobody world instrumentable nobody]
      exact .noMatchingRules instrumentable nobody
    · by_cases nothing :
        (notice.fill (catalog.candidates notice.assembly) world).2.record.replacements = []
      · rw [table.load_of_refused world instrumentable nobody nothing]
        exact .allRulesFailed instrumentable nobody rfl nothing
      · rw [table.load_of_enabled world instrumentable nothing]
        dsimp only
        rw [publish_fst]
        exact .tracked instrumentable rfl nothing

variable {table after : ModuleTable S} {notice : LoadNotice S} {candidates : List Replacement}
  {world : World S} {outcome : LoadOutcome}

theorem LoadStep.table_eq_of_untracked
    (step : LoadStep table notice candidates world outcome after)
    (untracked : outcome.isTracked = false) : after = table := by
  cases step with
  | unsupported => rfl
  | noMatchingRules => rfl
  | allRulesFailed => rfl
  | tracked => cases untracked

/-- A load that succeeds enters the filled record. -/
theorem LoadStep.eq_replace_of_tracked {enabled : Nat} {dropped : List EmissionError}
    (step : LoadStep table notice candidates world (.tracked enabled dropped) after) :
    ∃ record, record = (notice.fill candidates world).2.record ∧
      record.IsFilled notice candidates dropped ∧ record.replacements.length = enabled ∧
      record.replacements ≠ [] ∧ after = (table.replace record).1 := by
  cases step with
  | tracked _ filled something =>
    have isFilled := notice.isFilled_fill candidates world
    rw [filled] at isFilled
    rw [filled]
    exact ⟨_, rfl, isFilled, rfl, something, rfl⟩

theorem LoadStep.getElem?_of_ne (step : LoadStep table notice candidates world outcome after)
    {moduleId : ModuleId} (other : moduleId ≠ notice.moduleId) :
    after[moduleId]? = table[moduleId]? := by
  cases outcome with
  | tracked enabled dropped =>
    obtain ⟨record, _, isFilled, _, _, rfl⟩ := step.eq_replace_of_tracked
    rw [getElem?_replace, isFilled.moduleId_eq, if_neg other.symm]
  | unsupported => rw [step.table_eq_of_untracked rfl]
  | noMatchingRules => rw [step.table_eq_of_untracked rfl]
  | allRulesFailed errors => rw [step.table_eq_of_untracked rfl]

end ModuleTable

namespace Session

variable {session after : Session S} {notice : LoadNotice S} {outcome : LoadOutcome}

theorem loadStep_loadModule (loaded : loadModule notice session = (outcome, after)) :
    ModuleTable.LoadStep session.agent.modules notice
      (session.agent.catalog.candidates notice.assembly) session.world outcome
      after.agent.modules := by
  have step := session.agent.modules.loadStep_load session.agent.catalog notice session.world
  cases loaded
  exact step

theorem record?_of_tracked {enabled : Nat} {dropped : List EmissionError}
    (loaded : loadModule notice session = (.tracked enabled dropped, after)) :
    ∃ candidates record, candidates = session.agent.catalog.candidates notice.assembly ∧
      record = (notice.fill candidates session.world).2.record ∧
      after.agent.record? notice.moduleId = some record ∧
      record.IsFilled notice candidates dropped ∧ record.replacements.length = enabled ∧
      0 < enabled := by
  obtain ⟨record, isRecord, isFilled, counted, something, modules⟩ :=
    (loadStep_loadModule loaded).eq_replace_of_tracked
  refine ⟨_, record, rfl, isRecord, ?_, isFilled, counted, ?_⟩
  · rw [Agent.record?, modules, ModuleTable.getElem?_replace, if_pos isFilled.moduleId_eq]
  · rw [← counted]
    exact List.length_pos_iff.mpr something

theorem record?_of_untracked (loaded : loadModule notice session = (outcome, after))
    (untracked : outcome.isTracked = false) (moduleId : ModuleId) :
    after.agent.record? moduleId = session.agent.record? moduleId := by
  rw [Agent.record?, (loadStep_loadModule loaded).table_eq_of_untracked untracked]
  rfl

/-- Behind a load, every record was there before or was filled by the load. -/
theorem known_or_isFilled_of_loadModule (loaded : loadModule notice session = (outcome, after))
    {moduleId : ModuleId} {record : ModuleRecord S}
    (found : after.agent.record? moduleId = some record) :
    session.agent.record? moduleId = some record ∨
      notice.moduleId = moduleId ∧ record.replacements ≠ [] ∧
        ∃ dropped, record.IsFilled notice (session.agent.catalog.candidates notice.assembly)
          dropped := by
  have step := loadStep_loadModule loaded
  cases outcome with
  | tracked enabled dropped =>
    obtain ⟨filled, _, isFilled, _, nonempty, entersFilled⟩ := step.eq_replace_of_tracked
    rw [Agent.record?, entersFilled, ModuleTable.getElem?_replace, isFilled.moduleId_eq] at found
    by_cases same : notice.moduleId = moduleId
    · rw [if_pos same, Option.some.injEq] at found
      rw [← found]
      exact .inr ⟨same, nonempty, dropped, isFilled⟩
    · rw [if_neg same] at found
      exact .inl found
  | unsupported => exact .inl (record?_of_untracked loaded rfl moduleId ▸ found)
  | noMatchingRules => exact .inl (record?_of_untracked loaded rfl moduleId ▸ found)
  | allRulesFailed errors => exact .inl (record?_of_untracked loaded rfl moduleId ▸ found)

theorem isSome_record?_of_isTracked (loaded : loadModule notice session = (outcome, after))
    (isTracked : outcome.isTracked = true) :
    (after.agent.record? notice.moduleId).isSome = true := by
  cases outcome with
  | tracked enabled dropped =>
    obtain ⟨_, _, _, _, found, _⟩ := record?_of_tracked loaded
    exact Option.isSome_of_eq_some found
  | unsupported => cases isTracked
  | noMatchingRules => cases isTracked
  | allRulesFailed => cases isTracked

/-- A load that succeeds gives the module the record that it has filled, and any other load leaves
the module with the record that it had. So whether the module has a record tells whether its latest
load has succeeded, unless the load has failed and there was a record before: compilations then go
on with that one. -/
theorem record?_loadModule (loaded : loadModule notice session = (outcome, after)) :
    (∀ moduleId, moduleId ≠ notice.moduleId →
      after.agent.record? moduleId = session.agent.record? moduleId) ∧
    (∀ enabled dropped, outcome = .tracked enabled dropped →
      ∃ candidates record, candidates = session.agent.catalog.candidates notice.assembly ∧
        record = (notice.fill candidates session.world).2.record ∧
        after.agent.record? notice.moduleId = some record ∧
        record.IsFilled notice candidates dropped ∧ record.replacements.length = enabled ∧
        0 < enabled) ∧
    (outcome.isTracked = false →
      after.agent.record? notice.moduleId = session.agent.record? notice.moduleId) ∧
    (((after.agent.record? notice.moduleId).isSome = true ↔ outcome.isTracked = true) ↔
      (outcome.isTracked = true ∨ session.agent.record? notice.moduleId = none)) ∧
    ∀ function handle, outcome.isTracked = false →
      (session.agent.record? notice.moduleId = none →
        compile notice.moduleId function handle after =
          .ok (.unchanged .moduleNotTracked) after) ∧
      ∀ record, session.agent.record? notice.moduleId = some record →
        compile notice.moduleId function handle after = record.compile function handle after := by
  refine ⟨?_, ?_, ?_, ?_, ?_⟩
  · intro moduleId other
    exact (loadStep_loadModule loaded).getElem?_of_ne other
  · intro enabled dropped tracked
    subst tracked
    exact record?_of_tracked loaded
  · intro untracked
    exact record?_of_untracked loaded untracked notice.moduleId
  · cases isTracked : outcome.isTracked with
    | true => simp [isSome_record?_of_isTracked loaded isTracked]
    | false =>
      rw [record?_of_untracked loaded isTracked]
      simp
  · intro function handle untracked
    have kept := record?_of_untracked loaded untracked notice.moduleId
    constructor
    · intro absent
      exact compile_of_untracked (kept.trans absent)
    · intro record present
      exact compile_of_tracked (kept.trans present)

end Session

namespace OneMethod

/-- A host that grants every row and keeps no account of them. -/
def grantingMetadata : Metadata (List UInt8) :=
  { metadata with
    defineAssemblyRef := fun _ => pure ⟨0x23000001⟩
    defineTypeRef := fun _ _ => pure ⟨0x01000002⟩
    defineMemberRef := fun _ _ _ => pure ⟨0x0A000002⟩ }

/-- The agent has a rule for the calls of `Run`. -/
def ruledSession : Session (List UInt8) where
  agent := { session.agent with catalog := [⟨"Lib", [replacement "Run" "Start"]⟩] }
  world := session.world

/-- The module is loaded again. -/
def reload : LoadNotice (List UInt8) where
  moduleId := ⟨7⟩
  assembly := "App"
  flags := ⟨0⟩
  metadata := grantingMetadata

/-- The module is loaded again, without the right to write its metadata. -/
def readOnlyReload : LoadNotice (List UInt8) :=
  { reload with flags := .readOnlyMetadata }

end OneMethod

theorem Session.record?_loadModule_reload :
    ∃ after candidates record,
      loadModule OneMethod.reload OneMethod.ruledSession = (.tracked 1 [], after) ∧
      candidates = OneMethod.ruledSession.agent.catalog.candidates "App" ∧
      after.agent.record? ⟨7⟩ = some record ∧
      record.IsFilled OneMethod.reload candidates [] ∧ record.replacements.length = 1 := by
  have loaded : loadModule OneMethod.reload OneMethod.ruledSession =
      (.tracked 1 [], (loadModule OneMethod.reload OneMethod.ruledSession).2) := rfl
  obtain ⟨_, ofTracked, _⟩ := Session.record?_loadModule loaded
  obtain ⟨candidates, record, areCandidates, _, found, isFilled, counted, _⟩ :=
    ofTracked 1 [] rfl
  exact ⟨_, candidates, record, loaded, areCandidates, found, isFilled, counted⟩

/-- The second load of the module does not track it, and its methods are still changed. -/
theorem Session.committed_after_unsupported_reload :
    ∃ after, loadModule OneMethod.readOnlyReload OneMethod.session = (.unsupported, after) ∧
      OneMethod.readOnlyReload.moduleId = ⟨7⟩ ∧
      (after.agent.record? ⟨7⟩).isSome = true ∧
      ∃ final, compile ⟨7⟩ ⟨0x06000001⟩ OneMethod.handle after =
        .ok (.committed 2 ⟨"Start"⟩ 1) final := by
  have found : Agent.record? (loadModule OneMethod.readOnlyReload OneMethod.session).2.agent ⟨7⟩ =
      some OneMethod.record := OneMethod.record?_session
  refine ⟨(loadModule OneMethod.readOnlyReload OneMethod.session).2, rfl, rfl,
    Option.isSome_of_eq_some found, ?_⟩
  rw [compile_of_tracked found]
  exact ⟨_, rfl⟩

end Detour
