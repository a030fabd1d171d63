import Detour.Proofs.Agent.Events

/-!
# Ready records

As long as no record is entered by hand, every record of the agent was filled by a load, and is
ready: it is one of the module under whose identity it is kept, it has replacements, they come from
the catalog in its order, their callers admit the assembly of the module, and each has the reference
of its wrapper. A compilation passes over a replacement that has no reference; with a ready record
it never comes to that, so that anything at all could stand in that place.
-/

namespace Detour

open Detour.Body
open Detour.CallSite
open Detour.Host
open Detour.Rule

variable {S : Type}

/-! ## Replacements without a reference -/

namespace ModuleRecord

/-- Tries replacements in order like `tryReplacements`, but with a step of its own for one that has
no reference. The step is given the replacement and the rest of the tries. -/
def tryReplacementsOr
    (unreferenced : Replacement → Compiling S CompileOutcome → Compiling S CompileOutcome)
    (record : ModuleRecord S) (caller : MethodIdentity) (handle : BodyHandle (Session S)) :
    List (Replacement × Nat) → MethodBody → HeldNames → Compiling S CompileOutcome
  | [], _, _ => return .unchanged .noMatchingCallSite
  | (replacement, index) :: rest, body, buffers =>
    match record.wrapperRef? replacement.wrapper with
    | none =>
      unreferenced replacement
        (record.tryReplacementsOr unreferenced caller handle rest body buffers)
    | some wrapperRef => do
      let (callSites, body, buffers) ←
        Compiling.redirect record.metadata replacement.target wrapperRef body buffers
      if callSites = 0 then
        record.tryReplacementsOr unreferenced caller handle rest body buffers
      else
        record.commit caller handle index replacement.wrapper.key callSites body

/-- A compilation with a step of its own for replacements that have no reference. -/
def compileOr
    (unreferenced : Replacement → Compiling S CompileOutcome → Compiling S CompileOutcome)
    (record : ModuleRecord S) (function : Token) (handle : BodyHandle (Session S)) :
    Compiling S CompileOutcome := do
  let (caller, buffers) ←
    Compiling.onScan HeldNames.empty (identify record.metadata function)
  let candidates := record.callerMatches caller
  if candidates.isEmpty then
    return .unchanged .noMatchingCaller
  else
    let bytes ← Compiling.onBody handle.read
    let body ← Compiling.ofBody (MethodBody.decode bytes)
    record.tryReplacementsOr unreferenced caller handle candidates body buffers

/-- What a compilation does with a replacement that has no reference: it passes over it. -/
def skipUnreferenced (record : ModuleRecord S) (replacement : Replacement)
    (rest : Compiling S CompileOutcome) : Compiling S CompileOutcome := do
  Compiling.log (.replacementSkipped record.moduleId replacement.wrapper.key)
  rest

section Tries

variable {record : ModuleRecord S} {replacement : Replacement} {index : Nat}
  {rest candidates : List (Replacement × Nat)} {wrapperRef : Token}
  {unreferenced : Replacement → Compiling S CompileOutcome → Compiling S CompileOutcome}
  {caller : MethodIdentity} {handle : BodyHandle (Session S)} {body : MethodBody}
  {buffers : HeldNames}

theorem tryReplacementsOr_of_noReference
    (noReference : record.wrapperRef? replacement.wrapper = none) :
    record.tryReplacementsOr unreferenced caller handle ((replacement, index) :: rest) body
        buffers =
      unreferenced replacement
        (record.tryReplacementsOr unreferenced caller handle rest body buffers) := by
  rw [tryReplacementsOr, noReference]

theorem tryReplacementsOr_of_reference
    (reference : record.wrapperRef? replacement.wrapper = some wrapperRef) :
    record.tryReplacementsOr unreferenced caller handle ((replacement, index) :: rest) body
        buffers =
      Compiling.redirect record.metadata replacement.target wrapperRef body buffers >>=
        fun (callSites, body, buffers) =>
          if callSites = 0 then
            record.tryReplacementsOr unreferenced caller handle rest body buffers
          else
            record.commit caller handle index replacement.wrapper.key callSites body := by
  rw [tryReplacementsOr, reference]

/-- The step that a compilation takes is to pass over the replacement. -/
theorem tryReplacementsOr_skipUnreferenced (candidates : List (Replacement × Nat)) :
    record.tryReplacementsOr record.skipUnreferenced caller handle candidates body buffers =
      record.tryReplacements caller handle candidates body buffers := by
  induction candidates generalizing body buffers with
  | nil => rfl
  | cons candidate rest ih =>
    obtain ⟨replacement, index⟩ := candidate
    cases reference : record.wrapperRef? replacement.wrapper with
    | none =>
      funext session
      rw [tryReplacementsOr_of_noReference reference, tryReplacements_of_noReference reference, ih]
      rfl
    | some wrapperRef =>
      rw [tryReplacementsOr_of_reference reference, tryReplacements_of_reference reference]
      simp only [ih]

/-- If every candidate has a reference, then no other step is ever taken. -/
theorem tryReplacementsOr_of_referenced
    (referenced : ∀ candidate ∈ candidates, ∃ token,
      record.wrapperRef? candidate.1.wrapper = some token) :
    record.tryReplacementsOr unreferenced caller handle candidates body buffers =
      record.tryReplacements caller handle candidates body buffers := by
  induction candidates generalizing body buffers with
  | nil => rfl
  | cons candidate rest ih =>
    obtain ⟨wrapperRef, reference⟩ := referenced candidate (by simp)
    have restReferenced : ∀ other ∈ rest, ∃ token,
        record.wrapperRef? other.1.wrapper = some token := fun other member =>
      referenced other (List.mem_cons_of_mem _ member)
    rw [tryReplacementsOr_of_reference reference, tryReplacements_of_reference reference]
    simp only [ih restReferenced]

end Tries

theorem compileOr_skipUnreferenced (record : ModuleRecord S) :
    record.compileOr record.skipUnreferenced = record.compile := by
  funext function handle
  simp only [compileOr, compile, tryReplacementsOr_skipUnreferenced]

end ModuleRecord

/-! ## Ready records -/

/-- The record can serve compilations of the module, by the rules of the catalog. -/
structure ModuleRecord.IsReady (record : ModuleRecord S) (catalog : Catalog)
    (moduleId : ModuleId) : Prop where
  moduleId_eq : record.moduleId = moduleId
  nonempty : record.replacements ≠ []
  enabled : record.replacements.Sublist catalog.replacements
  admitted : ∀ replacement ∈ record.replacements,
    replacement.caller.matchesAssembly record.assembly = true
  referenced : ∀ replacement ∈ record.replacements,
    ∃ token, record.wrapperRef? replacement.wrapper = some token

/-- A record that was filled with the candidates of its assembly is ready if it is not empty. -/
theorem ModuleRecord.IsFilled.isReady {record : ModuleRecord S} {notice : LoadNotice S}
    {catalog : Catalog} {dropped : List EmissionError}
    (filled : record.IsFilled notice (catalog.candidates notice.assembly) dropped)
    (nonempty : record.replacements ≠ []) : record.IsReady catalog notice.moduleId where
  moduleId_eq := filled.moduleId_eq
  nonempty := nonempty
  enabled := filled.enabled.trans List.filter_sublist
  admitted := by
    intro replacement member
    have isCandidate := filled.enabled.subset member
    have matching := (List.mem_filter.mp isCandidate).2
    simpa [filled.assembly_eq] using matching
  referenced := filled.referenced

/-- No candidate for a compilation lacks a reference, whatever the caller. -/
theorem ModuleRecord.IsReady.compileOr_eq {record : ModuleRecord S} {catalog : Catalog}
    {moduleId : ModuleId} (ready : record.IsReady catalog moduleId)
    (unreferenced : Replacement → Compiling S CompileOutcome → Compiling S CompileOutcome) :
    record.compileOr unreferenced = record.compile := by
  have referenced : ∀ caller, ∀ candidate ∈ record.callerMatches caller,
      ∃ token, record.wrapperRef? candidate.1.wrapper = some token := by
    intro caller candidate member
    have inRecord := (List.mem_filter.mp member).1
    exact ready.referenced candidate.1 (List.fst_mem_of_mem_zipIdx inRecord)
  funext function handle
  simp only [compileOr, compile]
  congr 1
  funext identified
  obtain ⟨caller, buffers⟩ := identified
  simp only [tryReplacementsOr_of_referenced (referenced caller)]

/-- The agent has the catalog, and all its records are ready. -/
structure Agent.IsReady (catalog : Catalog) (agent : Agent S) : Prop where
  catalog_eq : agent.catalog = catalog
  records : ∀ moduleId record, agent.record? moduleId = some record →
    record.IsReady catalog moduleId

theorem Agent.isReady_create (settings : Settings) (catalog : Catalog) :
    (Agent.create settings catalog : Agent S).IsReady catalog where
  catalog_eq := rfl
  records moduleId record found := by simp [Agent.record?, Agent.create] at found

section Steps

variable {catalog : Catalog} {agent other : Agent S} {session : Session S}

/-- Records that were there before, and empty tables, are no trouble. -/
theorem Agent.IsReady.of_records (ready : agent.IsReady catalog)
    (sameCatalog : other.catalog = agent.catalog)
    (known : ∀ moduleId record, other.record? moduleId = some record →
      agent.record? moduleId = some record) : other.IsReady catalog where
  catalog_eq := sameCatalog.trans ready.catalog_eq
  records moduleId record found := ready.records moduleId record (known moduleId record found)

theorem agent_attach (process : String) (session : Session S) :
    ∃ isAttached, (Session.attach process session).2.agent = { session.agent with isAttached } := by
  by_cases allowed : session.agent.settings.allowsProcess process = true
  · rw [Session.attach_of_allowed allowed]
    exact ⟨true, rfl⟩
  · rw [Session.attach_of_refused allowed]
    exact ⟨session.agent.isAttached, rfl⟩

theorem agent_onProcessStarted (process : String) (session : Session S) :
    (Session.onProcessStarted process session).2.agent =
      (Session.attach process session).2.agent := by
  by_cases allowed : session.agent.settings.allowsProcess process = true
  · rw [Session.attach_of_allowed allowed, Session.onProcessStarted_of_allowed allowed]
  · rw [Session.attach_of_refused allowed, Session.onProcessStarted_of_refused allowed]

theorem isReady_attach (ready : session.agent.IsReady catalog) (process : String) :
    (Session.attach process session).2.agent.IsReady catalog := by
  obtain ⟨isAttached, attached⟩ := agent_attach process session
  rw [attached]
  exact ready.of_records rfl fun _ _ found => found

theorem isReady_detach (ready : session.agent.IsReady catalog) :
    (Session.detach session).2.agent.IsReady catalog := by
  have sameCatalog : (Session.detach session).2.agent.catalog = session.agent.catalog := rfl
  apply ready.of_records sameCatalog
  intro moduleId record found
  have empty : (∅ : ModuleTable S)[moduleId]? = some record := found
  simp at empty

/-- A load enters a ready record, or none. -/
theorem isReady_loadModule (ready : session.agent.IsReady catalog) (notice : LoadNotice S) :
    (Session.loadModule notice session).2.agent.IsReady catalog := by
  cases loaded : Session.loadModule notice session with
  | mk outcome after =>
    have sameCatalog : after.agent.catalog = session.agent.catalog := by
      cases loaded
      rfl
    refine ⟨sameCatalog.trans ready.catalog_eq, ?_⟩
    intro moduleId record found
    rcases Session.known_or_isFilled_of_loadModule loaded found with known | entered
    · exact ready.records moduleId record known
    · obtain ⟨same, nonempty, dropped, isFilled⟩ := entered
      rw [ready.catalog_eq] at isFilled
      rw [← same]
      exact isFilled.isReady nonempty

theorem isReady_unloadModule (ready : session.agent.IsReady catalog) (unloaded : ModuleId) :
    (Session.unloadModule unloaded session).2.agent.IsReady catalog := by
  have sameCatalog : (Session.unloadModule unloaded session).2.agent.catalog =
      session.agent.catalog := rfl
  apply ready.of_records sameCatalog
  intro moduleId record found
  rw [Session.record?_unloadModule] at found
  by_cases same : unloaded = moduleId
  · simp [same] at found
  · rw [if_neg same] at found
    exact found

theorem isReady_callback (ready : session.agent.IsReady catalog) (callback : Callback S)
    (isOther : callback.isCompilation = false) :
    (callback.deliver session).2.agent.IsReady catalog := by
  cases callback with
  | processStarted process =>
    change (Session.onProcessStarted process session).2.agent.IsReady catalog
    rw [agent_onProcessStarted]
    exact isReady_attach ready process
  | shutdown => exact isReady_detach ready
  | moduleLoaded notice status =>
    change (Session.onModuleLoaded notice status session).2.agent.IsReady catalog
    by_cases taken : session.TakesNotice status
    · rw [Session.agent_onModuleLoaded taken]
      exact isReady_loadModule ready notice
    · rw [Session.onModuleLoaded_of_ignored taken]
      exact ready
  | moduleUnloaded moduleId status => exact isReady_unloadModule ready moduleId
  | compilationStarted => cases isOther

theorem isReady_deliver (ready : session.agent.IsReady catalog) (event : AgentEvent S)
    (isOther : event.isCompilation = false) (notByHand : event.isInsertion = false) :
    (event.deliver session).2.agent.IsReady catalog := by
  cases event with
  | attach process => exact isReady_attach ready process
  | detach => exact isReady_detach ready
  | load notice => exact isReady_loadModule ready notice
  | unload moduleId => exact isReady_unloadModule ready moduleId
  | insert record => cases notByHand
  | compile => cases isOther
  | callback callback => exact isReady_callback ready callback isOther

end Steps

namespace Session

/-- However a new agent was driven, short of entering records by hand, every record that it keeps is
ready, and a compilation never comes to pass over a replacement for want of a reference: any other
step could stand in that place. -/
theorem records_ready {settings : Settings} {catalog : Catalog} {world : World S}
    {events : List (AgentEvent S)} {session : Session S}
    (ran : Ran ⟨Agent.create settings catalog, world⟩ events session)
    (notByHand : ∀ event ∈ events, event.isInsertion = false) {moduleId : ModuleId}
    {record : ModuleRecord S} (found : session.agent.record? moduleId = some record) :
    record.IsReady catalog moduleId ∧
    record.compileOr record.skipUnreferenced = record.compile ∧
    ∀ unreferenced, record.compileOr unreferenced = record.compile := by
  have ready : session.agent.IsReady catalog := by
    apply ran.keeps notByHand (Agent.isReady_create settings catalog)
    intro event session isOther allowed ready
    exact isReady_deliver ready event isOther allowed
  have recordReady := ready.records moduleId record found
  exact ⟨recordReady, record.compileOr_skipUnreferenced, recordReady.compileOr_eq⟩

end Session

theorem Session.records_ready_startAndLoad :
    ∃ events session record, Ran OneMethod.newSession events session ∧
      (∀ event ∈ events, event.isInsertion = false) ∧
      session.agent.record? ⟨7⟩ = some record ∧
      record.IsReady OneMethod.ruledSession.agent.catalog ⟨7⟩ ∧
      record.compileOr (fun _ _ => throw (.host (.notFound "wrapper" ⟨0⟩))) = record.compile := by
  have started := (Ran.start OneMethod.newSession).deliver (.attach "app") rfl
  have loaded := started.deliver (.load OneMethod.reload) rfl
  have notByHand : ∀ event ∈ [AgentEvent.attach "app", AgentEvent.load OneMethod.reload],
      event.isInsertion = false := by simp [AgentEvent.isInsertion]
  have tracks : Session.loadModule OneMethod.reload
      ((AgentEvent.attach "app").deliver OneMethod.newSession).2 = (.tracked 1 [], _) := rfl
  have entered := Session.record?_of_tracked tracks
  obtain ⟨_, record, _, _, found, _⟩ := entered
  obtain ⟨ready, -, compiles⟩ := Session.records_ready loaded notByHand found
  exact ⟨_, _, record, loaded, notByHand, found, ready, compiles _⟩

end Detour
