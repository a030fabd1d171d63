import Detour.Proofs.Agent.ReadyRecords

/-!
# The scope of an event

Some events are about a module. Such an event changes nothing of the agent but the record of that
module, and where it enters a record, it has brought the metadata of the record along. The settings
and the catalog no event changes.
-/

namespace Detour

open Detour.Host

variable {S : Type}

/-! ## What an event is about -/

/-- The calls to the body leave the agent alone. -/
structure BodyHandle.KeepsAgent (handle : BodyHandle (Session S)) : Prop where
  read : EStateM.Keeps Session.agent handle.read
  write : ∀ bytes, EStateM.Keeps Session.agent (handle.write bytes)

namespace Callback

def moduleId? : Callback S → Option ModuleId
  | processStarted _ | shutdown => none
  | moduleLoaded notice _ => some notice.moduleId
  | moduleUnloaded moduleId _ => some moduleId
  | compilationStarted moduleId _ _ _ => some moduleId

def metadata? : Callback S → Option (Metadata S)
  | moduleLoaded notice _ => some notice.metadata
  | processStarted _ | shutdown | moduleUnloaded _ _ | compilationStarted .. => none

def KeepsAgent : Callback S → Prop
  | compilationStarted _ _ handle _ => handle.KeepsAgent
  | processStarted _ | shutdown | moduleLoaded _ _ | moduleUnloaded _ _ => True

end Callback

namespace AgentEvent

/-- The module that the event is about. -/
def moduleId? : AgentEvent S → Option ModuleId
  | attach _ | detach => none
  | load notice => some notice.moduleId
  | unload moduleId => some moduleId
  | insert record => some record.moduleId
  | compile moduleId _ _ => some moduleId
  | callback call => call.moduleId?

/-- The metadata that the event brings along. -/
def metadata? : AgentEvent S → Option (Metadata S)
  | load notice => some notice.metadata
  | insert record => some record.metadata
  | callback call => call.metadata?
  | attach _ | detach | unload _ | compile .. => none

/-- The event calls a body, if any, that leaves the agent alone. -/
def KeepsAgent : AgentEvent S → Prop
  | compile _ _ handle => handle.KeepsAgent
  | callback call => call.KeepsAgent
  | attach _ | detach | load _ | unload _ | insert _ => True

end AgentEvent

/-! ## What an event changes -/

/-- What becomes of an agent by an event about the given module that brings the given metadata. -/
structure Agent.Changes (moduleId? : Option ModuleId) (metadata? : Option (Metadata S))
    (before after : Agent S) : Prop where
  settings_eq : after.settings = before.settings
  catalog_eq : after.catalog = before.catalog
  isAttached_eq : ∀ moduleId, moduleId? = some moduleId → after.isAttached = before.isAttached
  others : ∀ moduleId, moduleId? = some moduleId → ∀ other, other ≠ moduleId →
    after.record? other = before.record? other
  known : ∀ moduleId record, after.record? moduleId = some record →
    before.record? moduleId = some record ∨
      moduleId? = some moduleId ∧ metadata? = some record.metadata

section Changes

variable {moduleId? : Option ModuleId} {metadata? : Option (Metadata S)} {session : Session S}

theorem Agent.Changes.refl (agent : Agent S) : agent.Changes moduleId? metadata? agent where
  settings_eq := rfl
  catalog_eq := rfl
  isAttached_eq _ _ := rfl
  others _ _ _ _ := rfl
  known _ _ found := .inl found

theorem changes_attach (process : String) (session : Session S) :
    session.agent.Changes none metadata? (Session.attach process session).2.agent := by
  obtain ⟨isAttached, attached⟩ := agent_attach process session
  rw [attached]
  refine ⟨rfl, rfl, ?_, ?_, fun _ _ found => .inl found⟩
  · intro moduleId none
    cases none
  · intro moduleId none
    cases none

theorem changes_detach (session : Session S) :
    session.agent.Changes none metadata? (Session.detach session).2.agent := by
  refine ⟨rfl, rfl, ?_, ?_, ?_⟩
  · intro moduleId none
    cases none
  · intro moduleId none
    cases none
  · intro moduleId record found
    have empty : (∅ : ModuleTable S)[moduleId]? = some record := found
    simp at empty

theorem changes_loadModule (notice : LoadNotice S) (session : Session S) :
    session.agent.Changes (some notice.moduleId) (some notice.metadata)
      (Session.loadModule notice session).2.agent := by
  cases loaded : Session.loadModule notice session with
  | mk outcome after =>
    have step := Session.loadStep_loadModule loaded
    have sameRest : after.agent = { session.agent with modules := after.agent.modules } := by
      cases loaded
      rfl
    refine ⟨by rw [sameRest], by rw [sameRest], fun _ _ => by rw [sameRest], ?_, ?_⟩
    · intro moduleId same other isOther
      cases same
      exact step.getElem?_of_ne isOther
    · intro moduleId record found
      rcases Session.known_or_isFilled_of_loadModule loaded found with known | entered
      · exact .inl known
      · obtain ⟨rfl, _, dropped, isFilled⟩ := entered
        rw [isFilled.metadata_eq]
        exact .inr ⟨rfl, rfl⟩

theorem changes_unloadModule (unloaded : ModuleId) (session : Session S) :
    session.agent.Changes (some unloaded) metadata?
      (Session.unloadModule unloaded session).2.agent := by
  refine ⟨rfl, rfl, fun _ _ => rfl, ?_, ?_⟩
  · intro moduleId same other isOther
    cases same
    rw [Session.record?_unloadModule, if_neg isOther.symm]
  · intro moduleId record found
    rw [Session.record?_unloadModule] at found
    by_cases same : unloaded = moduleId
    · simp [same] at found
    · rw [if_neg same] at found
      exact .inl found

theorem changes_insertRecord (record : ModuleRecord S) (session : Session S) :
    session.agent.Changes (some record.moduleId) (some record.metadata)
      (Session.insertRecord record session).2.agent := by
  refine ⟨rfl, rfl, fun _ _ => rfl, ?_, ?_⟩
  · intro moduleId same other isOther
    cases same
    rw [Session.record?_insertRecord, if_neg isOther.symm]
  · intro moduleId found isFound
    rw [Session.record?_insertRecord] at isFound
    by_cases same : record.moduleId = moduleId
    · rw [if_pos same, Option.some.injEq] at isFound
      rw [← isFound, same]
      exact .inr ⟨rfl, rfl⟩
    · rw [if_neg same] at isFound
      exact .inl isFound

theorem isJourney_sameAgent :
    Session.IsJourney fun before after : Session S => after.agent = before.agent where
  refl _ := rfl
  trans first second := second.trans first
  worlds _ _ := rfl

theorem changes_callback {callback : Callback S} (keeps : callback.KeepsAgent)
    (session : Session S) :
    session.agent.Changes callback.moduleId? callback.metadata?
      (callback.deliver session).2.agent := by
  cases callback with
  | processStarted process =>
    change session.agent.Changes none _ (Session.onProcessStarted process session).2.agent
    rw [agent_onProcessStarted]
    exact changes_attach process session
  | shutdown => exact changes_detach session
  | moduleLoaded notice status =>
    change session.agent.Changes _ _ (Session.onModuleLoaded notice status session).2.agent
    by_cases taken : session.TakesNotice status
    · rw [Session.agent_onModuleLoaded taken]
      exact changes_loadModule notice session
    · rw [Session.onModuleLoaded_of_ignored taken]
      exact .refl session.agent
  | moduleUnloaded unloaded status => exact changes_unloadModule unloaded session
  | compilationStarted moduleId function handle isSafeToBlock =>
    change session.agent.Changes _ _
      (Session.onCompilationStarted moduleId function handle session).2.agent
    have keeps : handle.KeepsAgent := keeps
    rw [isJourney_sameAgent.onCompilationStarted keeps.read keeps.write moduleId function session]
    exact .refl session.agent

/-- An event about a module changes nothing of the agent but the record of the module. -/
theorem changes_deliver {event : AgentEvent S} (keeps : event.KeepsAgent) (session : Session S) :
    session.agent.Changes event.moduleId? event.metadata? (event.deliver session).2.agent := by
  cases event with
  | attach process => exact changes_attach process session
  | detach => exact changes_detach session
  | load notice => exact changes_loadModule notice session
  | unload unloaded => exact changes_unloadModule unloaded session
  | insert record => exact changes_insertRecord record session
  | compile moduleId function handle =>
    change session.agent.Changes _ _
      (endState (Session.compile moduleId function handle session)).agent
    have keeps : handle.KeepsAgent := keeps
    rw [isJourney_sameAgent.compile keeps.read keeps.write moduleId function session]
    exact .refl session.agent
  | callback callback => exact changes_callback keeps session

end Changes

end Detour
