import Detour.Proofs.Agent.EventScope
import Detour.Proofs.Module.TwoEmissions

/-!
# Two sessions

What an event about a module comes to depends on little: on the settings, the catalog, whether the
agent is attached, the record of that module, and what the calls to its metadata see of the host.
Sessions that agree on these give the same answers, and agree on them again behind the event.
-/

namespace Detour

open Detour.Body
open Detour.CallSite
open Detour.Host
open Detour.Rule

variable {S α : Type}

/-- Sessions that agree on all that events about the module may see. -/
structure SessionsAlike (related : S → S → Prop) (moduleId : ModuleId)
    (session other : Session S) : Prop where
  settings_eq : session.agent.settings = other.agent.settings
  catalog_eq : session.agent.catalog = other.agent.catalog
  isAttached_eq : session.agent.isAttached = other.agent.isAttached
  record?_eq : session.agent.record? moduleId = other.agent.record? moduleId
  hosts : related session.world.host other.world.host

theorem SessionsAlike.withWorlds {related : S → S → Prop} {moduleId : ModuleId}
    {session other : Session S} (alike : SessionsAlike related moduleId session other)
    {world otherWorld : World S} (hosts : related world.host otherWorld.host) :
    SessionsAlike related moduleId { session with world } { other with world := otherWorld } :=
  ⟨alike.settings_eq, alike.catalog_eq, alike.isAttached_eq, alike.record?_eq, hosts⟩

theorem SessionsAlike.trans {related : S → S → Prop} {moduleId : ModuleId}
    {first second third : Session S}
    (transitive : ∀ {host middle other}, related host middle → related middle other →
      related host other)
    (alike : SessionsAlike related moduleId first second)
    (further : SessionsAlike related moduleId second third) :
    SessionsAlike related moduleId first third where
  settings_eq := alike.settings_eq.trans further.settings_eq
  catalog_eq := alike.catalog_eq.trans further.catalog_eq
  isAttached_eq := alike.isAttached_eq.trans further.isAttached_eq
  record?_eq := alike.record?_eq.trans further.record?_eq
  hosts := transitive alike.hosts further.hosts

theorem SessionsAlike.symm {related : S → S → Prop} {moduleId : ModuleId}
    {session other : Session S}
    (symmetric : ∀ {host other}, related host other → related other host)
    (alike : SessionsAlike related moduleId session other) :
    SessionsAlike related moduleId other session where
  settings_eq := alike.settings_eq.symm
  catalog_eq := alike.catalog_eq.symm
  isAttached_eq := alike.isAttached_eq.symm
  record?_eq := alike.record?_eq.symm
  hosts := symmetric alike.hosts

/-- From related states the calls to a body come to the same. -/
structure BodyHandle.Respects {W : Type} (related : W → W → Prop) (handle : BodyHandle W) :
    Prop where
  read : EStateM.Respects related handle.read
  write : ∀ bytes, EStateM.Respects related (handle.write bytes)

/-! ## Compilations -/

section Compilations

variable {related : S → S → Prop} {moduleId : ModuleId} {metadata : Metadata S}
  {handle : BodyHandle (Session S)}

namespace Compiling

theorem respects_log (event : Event) :
    EStateM.Respects (SessionsAlike related moduleId) (Compiling.log event : Compiling S Unit) := by
  apply EStateM.RunsAlike.of_modify
  intro session other alike
  exact alike.withWorlds alike.hosts

theorem respects_onBody {call : EStateM Refusal (Session S) α}
    (respects : EStateM.Respects (SessionsAlike related moduleId) call) :
    EStateM.Respects (SessionsAlike related moduleId) (onBody call) := by
  intro session other alike
  have runs := respects session other alike
  unfold onBody EStateM.adaptExcept
  cases called : call session with
  | ok value after =>
    obtain ⟨otherAfter, otherCalled, alikeBehind⟩ := runs.exists_ok called
    rw [otherCalled]
    exact .ok value alikeBehind
  | error refusal after =>
    obtain ⟨otherRefusal, otherAfter, otherCalled, same, alikeBehind⟩ := runs.exists_error called
    rw [otherCalled]
    exact .error ⟨congrArg Error.host same, alikeBehind⟩

theorem respects_ofBody (outcome : Except BodyError α) :
    EStateM.Respects (SessionsAlike (S := S) related moduleId) (ofBody outcome) := by
  cases outcome with
  | ok value => exact EStateM.runsAlike_pure value
  | error error =>
    intro session other alike
    exact .error ⟨rfl, alike⟩

theorem respects_onScan {step : Scanning S α}
    (steps : StepsAlike (.ofHosts related) (ScansAlike (.ofHosts related))
      (ReadAlike (.ofHosts related)) step) (buffers : HeldNames) :
    EStateM.Respects (SessionsAlike related moduleId) (onScan buffers step) := by
  intro session other alike
  have runs := steps ⟨buffers, session.world⟩ ⟨buffers, other.world⟩ ⟨rfl, rfl, alike.hosts⟩
  unfold onScan
  cases scanned : step ⟨buffers, session.world⟩ with
  | ok value scan =>
    obtain ⟨otherScan, otherScanned, alikeBehind⟩ := runs.exists_ok scanned
    rw [otherScanned]
    dsimp only
    rw [alikeBehind.buffers]
    exact .ok _ (alike.withWorlds alikeBehind.hosts)
  | error refusal scan =>
    obtain ⟨otherRefusal, otherScan, otherScanned, same, hosts⟩ := runs.exists_error scanned
    rw [otherScanned]
    exact .error ⟨congrArg Error.host same, alike.withWorlds hosts⟩

theorem respects_redirect (reads : (Likeness.ofHosts related).ReadsOf metadata)
    (target : MethodPattern) (wrapperRef : Token) (body : MethodBody) (buffers : HeldNames) :
    EStateM.Respects (SessionsAlike related moduleId)
      (redirect metadata target wrapperRef body buffers) := by
  intro session other alike
  have passes := alike_redirectCalls reads target wrapperRef body.instructions
    (show ScansAlike (.ofHosts related) ⟨buffers, session.world⟩ ⟨buffers, other.world⟩ from
      ⟨rfl, rfl, alike.hosts⟩)
  unfold redirect
  dsimp only
  cases passed : redirectCalls metadata target wrapperRef body.instructions
      ⟨buffers, session.world⟩ with
  | mk result instructions scan =>
    cases otherPassed : redirectCalls metadata target wrapperRef body.instructions
        ⟨buffers, other.world⟩ with
    | mk otherResult otherInstructions otherScan =>
      rw [passed, otherPassed] at passes
      cases passes with
      | ok count instructions alikeScans =>
        dsimp only
        rw [alikeScans.buffers_eq]
        exact .ok _ (alike.withWorlds alikeScans.hosts)
      | refused instructions refused =>
        exact .error ⟨congrArg Error.host refused.1, alike.withWorlds refused.2⟩

end Compiling

namespace ModuleRecord

variable {record : ModuleRecord S}

theorem respects_commit
    (handleRespects : handle.Respects (SessionsAlike related moduleId)) (caller : MethodIdentity)
    (index : Nat) (key : WrapperKey) (callSites : Nat) (body : MethodBody) :
    EStateM.Respects (SessionsAlike related moduleId)
      (record.commit caller handle index key callSites body) := by
  apply EStateM.respects_bind (Compiling.respects_ofBody body.encode)
  intro bytes
  apply EStateM.respects_bind (Compiling.respects_onBody (handleRespects.write bytes))
  intro _
  apply EStateM.respects_bind (Compiling.respects_log _)
  intro _
  exact EStateM.runsAlike_pure _

theorem respects_tryReplacements (reads : (Likeness.ofHosts related).ReadsOf record.metadata)
    (handleRespects : handle.Respects (SessionsAlike related moduleId)) (caller : MethodIdentity)
    (candidates : List (Replacement × Nat)) (body : MethodBody) (buffers : HeldNames) :
    EStateM.Respects (SessionsAlike related moduleId)
      (record.tryReplacements caller handle candidates body buffers) := by
  induction candidates generalizing body buffers with
  | nil => exact EStateM.runsAlike_pure _
  | cons candidate rest ih =>
    obtain ⟨replacement, index⟩ := candidate
    cases reference : record.wrapperRef? replacement.wrapper with
    | none =>
      intro session other alike
      rw [tryReplacements_of_noReference reference, tryReplacements_of_noReference reference]
      exact ih body buffers _ _ (alike.withWorlds alike.hosts)
    | some wrapperRef =>
      rw [tryReplacements_of_reference reference]
      apply EStateM.respects_bind (Compiling.respects_redirect reads _ wrapperRef body buffers)
      rintro ⟨callSites, changed, left⟩
      dsimp only
      split
      · exact ih changed left
      · exact respects_commit handleRespects caller index _ callSites changed

theorem respects_compile (reads : (Likeness.ofHosts related).ReadsOf record.metadata)
    (handleRespects : handle.Respects (SessionsAlike related moduleId)) (function : Token) :
    EStateM.Respects (SessionsAlike related moduleId) (record.compile function handle) := by
  have identifies := alike_identify reads function
  apply EStateM.respects_bind (Compiling.respects_onScan identifies HeldNames.empty)
  rintro ⟨caller, buffers⟩
  dsimp only
  split
  · exact EStateM.runsAlike_pure _
  · apply EStateM.respects_bind (Compiling.respects_onBody handleRespects.read)
    intro bytes
    apply EStateM.respects_bind (Compiling.respects_ofBody (MethodBody.decode bytes))
    intro body
    exact respects_tryReplacements reads handleRespects caller _ body buffers

end ModuleRecord

/-- A compilation comes to the same if the calls to the body and to the metadata do. -/
theorem alike_compile (function : Token) {session other : Session S}
    (alike : SessionsAlike related moduleId session other)
    (handleRespects : handle.Respects (SessionsAlike related moduleId))
    (known : ∀ record, other.agent.record? moduleId = some record →
      record.metadata.Respects related) :
    EStateM.Alike (EStateM.SameFault (SessionsAlike related moduleId))
      (SessionsAlike related moduleId) (Session.compile moduleId function handle session)
      (Session.compile moduleId function handle other) := by
  cases tracked : other.agent.record? moduleId with
  | none =>
    rw [Session.compile_of_untracked tracked,
      Session.compile_of_untracked (alike.record?_eq.trans tracked)]
    exact .ok _ alike
  | some record =>
    rw [Session.compile_of_tracked tracked,
      Session.compile_of_tracked (alike.record?_eq.trans tracked)]
    have reads := (known record tracked).reads
    exact ModuleRecord.respects_compile reads handleRespects function session other alike

end Compilations

/-! ## Records -/

theorem ModuleTable.unload_fst (table : ModuleTable S) (moduleId : ModuleId) (world : World S) :
    (table.unload moduleId world).1 = table.contains moduleId := by
  unfold unload
  split
  · rename_i tracked
    rw [tracked]
  · rename_i untracked
    rw [Bool.not_eq_true] at untracked
    rw [untracked]

theorem ModuleTable.host_unload (table : ModuleTable S) (moduleId : ModuleId) (world : World S) :
    (table.unload moduleId world).2.2.host = world.host := by
  unfold unload
  split
  · rfl
  · rfl

/-! ## Events -/

/-- What the callback brings along comes to the same from related states. -/
def Callback.Respects (related : S → S → Prop) : Callback S → Prop
  | moduleLoaded notice _ => notice.metadata.Respects related
  | compilationStarted moduleId _ handle _ => handle.Respects (SessionsAlike related moduleId)
  | processStarted _ | shutdown | moduleUnloaded _ _ => True

/-- What the event brings along comes to the same from related states. -/
def AgentEvent.Respects (related : S → S → Prop) : AgentEvent S → Prop
  | load notice => notice.metadata.Respects related
  | compile moduleId _ handle => handle.Respects (SessionsAlike related moduleId)
  | callback call => call.Respects related
  | attach _ | detach | unload _ | insert _ => True

/-- The same answer, and sessions that agree again. -/
structure AnswersAlike (related : S → S → Prop) (moduleId : ModuleId)
    (answered other : α × Session S) : Prop where
  answer_eq : answered.1 = other.1
  sessions : SessionsAlike related moduleId answered.2 other.2

section Events

variable {related : S → S → Prop} {moduleId : ModuleId} {session other : Session S}

theorem AnswersAlike.map {β : Type} {step : StateM (Session S) α} (answer : α → β)
    (alike : AnswersAlike related moduleId (step session) (step other)) :
    AnswersAlike related moduleId ((answer <$> step) session) ((answer <$> step) other) where
  answer_eq := congrArg answer alike.answer_eq
  sessions := alike.sessions

theorem SessionsAlike.log (alike : SessionsAlike related moduleId session other)
    (event otherEvent : Event) :
    SessionsAlike related moduleId (session.log event) (other.log otherEvent) :=
  alike.withWorlds alike.hosts

theorem SessionsAlike.attached (alike : SessionsAlike related moduleId session other) :
    SessionsAlike related moduleId { session with agent.isAttached := true }
      { other with agent.isAttached := true } :=
  ⟨alike.settings_eq, alike.catalog_eq, rfl, alike.record?_eq, alike.hosts⟩

theorem alike_attach (process : String) (alike : SessionsAlike related moduleId session other) :
    AnswersAlike related moduleId (Session.attach process session)
      (Session.attach process other) := by
  by_cases allowed : other.agent.settings.allowsProcess process = true
  · have alsoAllowed : session.agent.settings.allowsProcess process = true := by
      rw [alike.settings_eq, allowed]
    rw [Session.attach_of_allowed allowed, Session.attach_of_allowed alsoAllowed]
    exact ⟨rfl, alike.attached.log _ _⟩
  · have alsoRefused : ¬ session.agent.settings.allowsProcess process = true := by
      rw [alike.settings_eq]
      exact allowed
    rw [Session.attach_of_refused allowed, Session.attach_of_refused alsoRefused]
    exact ⟨rfl, alike.log _ _⟩

theorem alike_onProcessStarted (process : String)
    (alike : SessionsAlike related moduleId session other) :
    AnswersAlike related moduleId (Session.onProcessStarted process session)
      (Session.onProcessStarted process other) := by
  by_cases allowed : other.agent.settings.allowsProcess process = true
  · have alsoAllowed : session.agent.settings.allowsProcess process = true := by
      rw [alike.settings_eq, allowed]
    rw [Session.onProcessStarted_of_allowed allowed,
      Session.onProcessStarted_of_allowed alsoAllowed]
    exact ⟨rfl, alike.attached.log _ _⟩
  · have alsoRefused : ¬ session.agent.settings.allowsProcess process = true := by
      rw [alike.settings_eq]
      exact allowed
    rw [Session.onProcessStarted_of_refused allowed,
      Session.onProcessStarted_of_refused alsoRefused]
    exact ⟨rfl, alike.log _ _⟩

theorem alike_detach (alike : SessionsAlike related moduleId session other) :
    AnswersAlike related moduleId (Session.detach session) (Session.detach other) :=
  ⟨rfl, alike.settings_eq, alike.catalog_eq, rfl, rfl, alike.hosts⟩

theorem alike_loadModule {notice : LoadNotice S} (respects : notice.metadata.Respects related)
    (alike : SessionsAlike related notice.moduleId session other) :
    AnswersAlike related notice.moduleId (Session.loadModule notice session)
      (Session.loadModule notice other) := by
  have loads := ModuleTable.alike_load respects session.agent.catalog alike.record?_eq alike.hosts
  have sameLoad : other.agent.modules.load session.agent.catalog notice other.world =
      other.agent.modules.load other.agent.catalog notice other.world := by rw [alike.catalog_eq]
  rw [sameLoad] at loads
  constructor
  case answer_eq => exact loads.outcome_eq
  case sessions =>
    exact ⟨alike.settings_eq, alike.catalog_eq, alike.isAttached_eq, loads.entry_eq, loads.hosts⟩

theorem alike_unloadModule (alike : SessionsAlike related moduleId session other) :
    AnswersAlike related moduleId (Session.unloadModule moduleId session)
      (Session.unloadModule moduleId other) := by
  have sameEntry : session.agent.modules[moduleId]? = other.agent.modules[moduleId]? :=
    alike.record?_eq
  have tracked : session.agent.modules.contains moduleId =
      other.agent.modules.contains moduleId := by
    rw [Std.HashMap.contains_eq_isSome_getElem?, Std.HashMap.contains_eq_isSome_getElem?,
      sameEntry]
  constructor
  case answer_eq =>
    change (ModuleTable.unload _ _ _).1 = (ModuleTable.unload _ _ _).1
    rw [ModuleTable.unload_fst, ModuleTable.unload_fst, tracked]
  case sessions =>
    refine ⟨alike.settings_eq, alike.catalog_eq, alike.isAttached_eq, ?_, ?_⟩
    · rw [Session.record?_unloadModule, Session.record?_unloadModule, if_pos rfl, if_pos rfl]
    · change related (ModuleTable.unload _ _ _).2.2.host (ModuleTable.unload _ _ _).2.2.host
      rw [ModuleTable.host_unload, ModuleTable.host_unload]
      exact alike.hosts

theorem alike_insertRecord {record : ModuleRecord S}
    (alike : SessionsAlike related record.moduleId session other) :
    AnswersAlike related record.moduleId (Session.insertRecord record session)
      (Session.insertRecord record other) := by
  constructor
  case answer_eq => exact alike.record?_eq
  case sessions =>
    refine ⟨alike.settings_eq, alike.catalog_eq, alike.isAttached_eq, ?_, alike.hosts⟩
    rw [Session.record?_insertRecord, Session.record?_insertRecord, if_pos rfl, if_pos rfl]

theorem alike_onModuleLoaded {notice : LoadNotice S} (status : HResult)
    (respects : notice.metadata.Respects related)
    (alike : SessionsAlike related notice.moduleId session other) :
    AnswersAlike related notice.moduleId (Session.onModuleLoaded notice status session)
      (Session.onModuleLoaded notice status other) := by
  by_cases taken : other.TakesNotice status
  · have alsoTaken : session.TakesNotice status := ⟨alike.isAttached_eq.trans taken.1, taken.2⟩
    have loads := alike_loadModule respects alike
    obtain ⟨world, sameHost, delivered⟩ := Session.onModuleLoaded_of_taken notice alsoTaken
    obtain ⟨otherWorld, otherSameHost, otherDelivered⟩ :=
      Session.onModuleLoaded_of_taken notice taken
    rw [delivered, otherDelivered]
    refine ⟨rfl, loads.sessions.withWorlds ?_⟩
    rw [sameHost, otherSameHost]
    exact loads.sessions.hosts
  · have alsoIgnored : ¬ session.TakesNotice status := fun taking =>
      taken ⟨alike.isAttached_eq.symm.trans taking.1, taking.2⟩
    rw [Session.onModuleLoaded_of_ignored taken, Session.onModuleLoaded_of_ignored alsoIgnored]
    exact ⟨rfl, alike⟩

theorem alike_onModuleUnloaded (alike : SessionsAlike related moduleId session other) :
    AnswersAlike related moduleId (Session.onModuleUnloaded moduleId session)
      (Session.onModuleUnloaded moduleId other) :=
  ⟨rfl, (alike_unloadModule alike).sessions⟩

theorem alike_onCompilationStarted (function : Token) {handle : BodyHandle (Session S)}
    (alike : SessionsAlike related moduleId session other)
    (handleRespects : handle.Respects (SessionsAlike related moduleId))
    (known : ∀ record, other.agent.record? moduleId = some record →
      record.metadata.Respects related) :
    AnswersAlike related moduleId (Session.onCompilationStarted moduleId function handle session)
      (Session.onCompilationStarted moduleId function handle other) := by
  unfold Session.onCompilationStarted
  rw [alike.isAttached_eq]
  by_cases attached : other.agent.isAttached = true
  · rw [if_pos attached, if_pos attached]
    have runs := alike_compile function alike handleRespects known
    cases compiled : Session.compile moduleId function handle session with
    | ok outcome after =>
      obtain ⟨otherAfter, otherCompiled, alikeBehind⟩ := runs.exists_ok compiled
      rw [otherCompiled]
      exact ⟨rfl, alikeBehind⟩
    | error error after =>
      obtain ⟨otherError, otherAfter, otherCompiled, sameError, alikeBehind⟩ :=
        runs.exists_error compiled
      rw [otherCompiled]
      exact ⟨rfl, alikeBehind.log _ _⟩
  · rw [if_neg attached, if_neg attached]
    exact ⟨rfl, alike⟩

theorem alike_callback {callback : Callback S}
    (alike : SessionsAlike related moduleId session other)
    (isOf : ∀ ofModule, callback.moduleId? = some ofModule → ofModule = moduleId)
    (respects : callback.Respects related)
    (known : ∀ record, other.agent.record? moduleId = some record →
      record.metadata.Respects related) :
    AnswersAlike related moduleId (callback.deliver session) (callback.deliver other) := by
  cases callback with
  | processStarted process => exact (alike_onProcessStarted process alike).map some
  | shutdown => exact (alike_detach alike).map fun _ => none
  | moduleLoaded notice status =>
    cases isOf _ rfl
    exact (alike_onModuleLoaded status respects alike).map some
  | moduleUnloaded unloaded status =>
    cases isOf _ rfl
    exact (alike_onModuleUnloaded alike).map some
  | compilationStarted compiled function handle isSafeToBlock =>
    cases isOf _ rfl
    exact (alike_onCompilationStarted function alike respects known).map some

/-- An event of the module, or of none, gives the same answer in sessions that are alike, if what it
brings along and what the module has come to the same in them. -/
theorem alike_deliver {event : AgentEvent S} (alike : SessionsAlike related moduleId session other)
    (isOf : ∀ ofModule, event.moduleId? = some ofModule → ofModule = moduleId)
    (respects : event.Respects related)
    (known : ∀ record, other.agent.record? moduleId = some record →
      record.metadata.Respects related) :
    AnswersAlike related moduleId (event.deliver session) (event.deliver other) := by
  cases event with
  | attach process => exact (alike_attach process alike).map AgentAnswer.attached
  | detach => exact (alike_detach alike).map fun _ => AgentAnswer.detached
  | load notice =>
    cases isOf _ rfl
    exact (alike_loadModule respects alike).map AgentAnswer.loaded
  | unload unloaded =>
    cases isOf _ rfl
    exact (alike_unloadModule alike).map AgentAnswer.unloaded
  | insert record =>
    cases isOf _ rfl
    exact (alike_insertRecord alike).map AgentAnswer.inserted
  | compile compiled function handle =>
    cases isOf _ rfl
    have runs := alike_compile function alike respects known
    have sameOutcome := runs.outcomeOf_eq fun _ _ _ _ same => same.1
    have alikeBehind := runs.endStates fun _ _ _ _ same => same.2
    exact ⟨congrArg AgentAnswer.compiled sameOutcome, alikeBehind⟩
  | callback callback => exact (alike_callback alike isOf respects known).map AgentAnswer.status

end Events

end Detour
