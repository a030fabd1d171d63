import Detour.Proofs.Agent.Histories
import Detour.Proofs.Agent.Loading

/-!
# What callbacks leave behind

Whether the agent is attached and which record a module has follow from the callbacks delivered so
far. The agent is attached by a start of the process that it accepts and detached by the end of the
process. A module has the record of its last tracked load, unless the module was unloaded or the
agent detached since. While it is detached the agent has no records, and only a start of the process
does anything.
-/

namespace Detour

open Detour.Host
open Detour.Rule

variable {S : Type}

/-! ## Single callbacks -/

namespace Session

variable {session : Session S} {process : String} {notice : LoadNotice S} {status : HResult}
  {moduleId : ModuleId}

theorem attach_of_allowed (allowed : session.agent.settings.allowsProcess process = true) :
    attach process session =
      (true, Session.log { session with agent.isAttached := true }
        (.attached process session.agent.catalog.length)) := by
  change (if session.agent.settings.allowsProcess process = true then _ else _ :
    StateM (Session S) Bool) session = _
  rw [if_pos allowed]
  rfl

theorem attach_of_refused (refused : ¬ session.agent.settings.allowsProcess process = true) :
    attach process session =
      (false, session.log (.attachRefused process session.agent.settings.processes)) := by
  change (if session.agent.settings.allowsProcess process = true then _ else _ :
    StateM (Session S) Bool) session = _
  rw [if_neg refused]
  rfl

theorem onProcessStarted_of_allowed
    (allowed : session.agent.settings.allowsProcess process = true) :
    onProcessStarted process session =
      (HResult.ok, Session.log { session with agent.isAttached := true }
        (.attached process session.agent.catalog.length)) := by
  change (if (attach process session).1 = true then _ else _ : StateM (Session S) HResult)
    (attach process session).2 = _
  rw [attach_of_allowed allowed, if_pos rfl]
  rfl

theorem onProcessStarted_of_refused
    (refused : ¬ session.agent.settings.allowsProcess process = true) :
    onProcessStarted process session =
      (HResult.fail, session.log (.attachRefused process session.agent.settings.processes)) := by
  change (if (attach process session).1 = true then _ else _ : StateM (Session S) HResult)
    (attach process session).2 = _
  rw [attach_of_refused refused, if_neg Bool.false_ne_true]
  rfl

/-- Whether the agent looks at a module that was loaded. -/
def TakesNotice (session : Session S) (status : HResult) : Prop :=
  session.agent.isAttached = true ∧ 0 ≤ status

theorem takesNotice_iff :
    (session.agent.isAttached && !status.failed) = true ↔ session.TakesNotice status := by
  rw [Bool.and_eq_true, Bool.not_eq_true', HResult.failed, decide_eq_false_iff_not, Int32.not_lt]
  rfl

theorem onModuleLoaded_of_ignored (ignored : ¬ session.TakesNotice status) :
    onModuleLoaded notice status session = (HResult.ok, session) := by
  rw [← takesNotice_iff] at ignored
  change (if (session.agent.isAttached && !status.failed) = true then _ else _ :
    StateM (Session S) HResult) session = _
  rw [if_neg ignored]
  rfl

/-- A load that is taken notice of leaves the session as the load does; an event may follow it. -/
theorem onModuleLoaded_of_taken (notice : LoadNotice S) (taken : session.TakesNotice status) :
    ∃ world, world.host = (loadModule notice session).2.world.host ∧
      onModuleLoaded notice status session =
        (HResult.ok, { (loadModule notice session).2 with world }) := by
  rw [← takesNotice_iff] at taken
  change ∃ world : World S, _ ∧ (if (session.agent.isAttached && !status.failed) = true then _
    else _ : StateM (Session S) HResult) session = _
  rw [if_pos taken]
  cases loads : loadModule notice session with
  | mk outcome after =>
    simp only [bind, StateT.bind, loads]
    -- What is left logs the summary of the load, if there is one.
    cases loadSummary? notice.moduleId outcome with
    | some event => exact ⟨after.world.log event, rfl, rfl⟩
    | none => exact ⟨after.world, rfl, rfl⟩

theorem agent_onModuleLoaded (taken : session.TakesNotice status) :
    (onModuleLoaded notice status session).2.agent = (loadModule notice session).2.agent := by
  obtain ⟨world, _, loads⟩ := onModuleLoaded_of_taken notice taken
  rw [loads]

theorem record?_unloadModule (unloaded : ModuleId) :
    (unloadModule unloaded session).2.agent.record? moduleId =
      if unloaded = moduleId then none else session.agent.record? moduleId :=
  session.agent.modules.getElem?_unload unloaded moduleId session.world

theorem record?_onModuleUnloaded (unloaded : ModuleId) :
    (onModuleUnloaded unloaded session).2.agent.record? moduleId =
      if unloaded = moduleId then none else session.agent.record? moduleId :=
  record?_unloadModule unloaded

theorem record?_insertRecord (record : ModuleRecord S) :
    (insertRecord record session).2.agent.record? moduleId =
      if record.moduleId = moduleId then some record else session.agent.record? moduleId :=
  session.agent.modules.getElem?_replace record moduleId

/-- A detached agent without records leaves everything as it is, except at a start of the
process. -/
theorem deliver_of_detached (detached : session.agent.isAttached = false)
    (empty : session.agent.modules = ∅) {callback : Callback S}
    (isOther : ∀ process, callback ≠ .processStarted process) :
    (callback.deliver session).2 = session := by
  cases callback with
  | processStarted process => exact absurd rfl (isOther process)
  | shutdown =>
    obtain ⟨⟨settings, catalog, modules, isAttached⟩, world⟩ := session
    cases detached
    cases empty
    rfl
  | moduleLoaded notice status =>
    have ignored : ¬ session.TakesNotice status := by
      intro taken
      rw [taken.1] at detached
      cases detached
    exact congrArg Prod.snd (onModuleLoaded_of_ignored ignored)
  | moduleUnloaded moduleId status =>
    obtain ⟨⟨settings, catalog, modules, isAttached⟩, world⟩ := session
    cases empty
    change (Session.mk ⟨settings, catalog, (ModuleTable.unload ∅ moduleId world).2.1, isAttached⟩
      (ModuleTable.unload ∅ moduleId world).2.2) = _
    rw [ModuleTable.unload, if_neg (by simp)]
    rfl
  | compilationStarted moduleId function handle isSafeToBlock =>
    change (onCompilationStarted moduleId function handle session).2 = session
    rw [onCompilationStarted, detached]
    rfl

end Session

/-! ## What a delivery decides -/

namespace Delivery

/-- The agent has accepted the process that has started. -/
def Attaches (delivery : Delivery S) : Prop :=
  (∃ process, delivery.callback = .processStarted process) ∧ delivery.status? = some HResult.ok

/-- The module was loaded, and the agent has entered the record that it has filled. -/
def Tracks (delivery : Delivery S) (moduleId : ModuleId) (record : ModuleRecord S) : Prop :=
  ∃ notice status enabled dropped, delivery.callback = .moduleLoaded notice status ∧
    notice.moduleId = moduleId ∧ delivery.before.agent.isAttached = true ∧ 0 ≤ status ∧
    (Session.loadModule notice delivery.before).1 = .tracked enabled dropped ∧
    record = (notice.fill (delivery.before.agent.catalog.candidates notice.assembly)
      delivery.before.world).2.record

/-- The module was unloaded, or the process has ended. -/
def Forgets (delivery : Delivery S) (moduleId : ModuleId) : Prop :=
  delivery.callback = .shutdown ∨ ∃ status, delivery.callback = .moduleUnloaded moduleId status

/-- Whether the agent is attached behind the delivery, if that decides it. -/
def attachment? (delivery : Delivery S) : Option Bool :=
  match delivery.callback with
  | .processStarted _ => if delivery.status? = some HResult.ok then some true else none
  | .shutdown => some false
  | .moduleLoaded _ _ | .moduleUnloaded _ _ | .compilationStarted .. => none

theorem attachment?_eq_some_true_iff {delivery : Delivery S} :
    delivery.attachment? = some true ↔ delivery.Attaches := by
  obtain ⟨callback, before⟩ := delivery
  cases callback with
  | processStarted process =>
    simp [attachment?, Attaches]
  | shutdown | moduleLoaded | moduleUnloaded | compilationStarted => simp [attachment?, Attaches]

theorem attachment?_eq_some_false_iff {delivery : Delivery S} :
    delivery.attachment? = some false ↔ delivery.callback = .shutdown := by
  obtain ⟨callback, before⟩ := delivery
  cases callback with
  | processStarted process =>
    simp [attachment?]
  | shutdown | moduleLoaded | moduleUnloaded | compilationStarted => simp [attachment?]

theorem attachment?_compilation (callback : Callback S) (session : Session S)
    (isCompilation : callback.isCompilation = true) : attachment? ⟨callback, session⟩ = none := by
  cases callback with
  | compilationStarted => rfl
  | processStarted | shutdown | moduleLoaded | moduleUnloaded => cases isCompilation

theorem isAttached_deliver (callback : Callback S) (session : Session S)
    (isOther : callback.isCompilation = false) :
    (callback.deliver session).2.agent.isAttached =
      (attachment? ⟨callback, session⟩).getD session.agent.isAttached := by
  cases callback with
  | processStarted process =>
    have delivers : (Callback.processStarted process).deliver session =
        (some (Session.onProcessStarted process session).1,
          (Session.onProcessStarted process session).2) := rfl
    have decides : attachment? ⟨.processStarted process, session⟩ =
        if some (Session.onProcessStarted process session).1 = some HResult.ok then some true
        else none := rfl
    rw [delivers, decides]
    by_cases allowed : session.agent.settings.allowsProcess process = true
    · rw [Session.onProcessStarted_of_allowed allowed, if_pos rfl]
      rfl
    · have isFailure : ¬ some HResult.fail = some HResult.ok := by decide
      rw [Session.onProcessStarted_of_refused allowed, if_neg isFailure]
      rfl
  | shutdown => rfl
  | moduleLoaded notice status =>
    change (Session.onModuleLoaded notice status session).2.agent.isAttached = _
    by_cases taken : session.TakesNotice status
    · rw [Session.agent_onModuleLoaded taken]
      rfl
    · rw [Session.onModuleLoaded_of_ignored taken]
      rfl
  | moduleUnloaded moduleId status => rfl
  | compilationStarted => cases isOther

/-- The record that the module has behind the delivery, or none, if that decides it. -/
def entered? (moduleId : ModuleId) (delivery : Delivery S) : Option (Option (ModuleRecord S)) :=
  match delivery.callback with
  | .moduleLoaded notice status =>
    if notice.moduleId = moduleId ∧ delivery.before.agent.isAttached = true ∧ 0 ≤ status ∧
        (Session.loadModule notice delivery.before).1.isTracked = true then
      let candidates := delivery.before.agent.catalog.candidates notice.assembly
      some (some (notice.fill candidates delivery.before.world).2.record)
    else
      none
  | .moduleUnloaded unloaded _ => if unloaded = moduleId then some none else none
  | .shutdown => some none
  | .processStarted _ | .compilationStarted .. => none

theorem entered?_moduleLoaded (moduleId : ModuleId) (notice : LoadNotice S) (status : HResult)
    (before : Session S) :
    entered? moduleId ⟨.moduleLoaded notice status, before⟩ =
      if notice.moduleId = moduleId ∧ before.agent.isAttached = true ∧ 0 ≤ status ∧
          (Session.loadModule notice before).1.isTracked = true then
        some (some (notice.fill (before.agent.catalog.candidates notice.assembly)
          before.world).2.record)
      else
        none :=
  rfl

theorem isTracked_iff {outcome : LoadOutcome} :
    outcome.isTracked = true ↔ ∃ enabled dropped, outcome = .tracked enabled dropped := by
  cases outcome with
  | tracked enabled dropped => simp [LoadOutcome.isTracked]
  | unsupported | noMatchingRules | allRulesFailed => simp [LoadOutcome.isTracked]

theorem entered?_eq_some_some_iff {moduleId : ModuleId} {delivery : Delivery S}
    {record : ModuleRecord S} :
    delivery.entered? moduleId = some (some record) ↔ delivery.Tracks moduleId record := by
  obtain ⟨callback, before⟩ := delivery
  cases callback with
  | moduleLoaded notice status =>
    constructor
    · intro entered
      by_cases taken : notice.moduleId = moduleId ∧ before.agent.isAttached = true ∧ 0 ≤ status ∧
          (Session.loadModule notice before).1.isTracked = true
      · rw [entered?_moduleLoaded, if_pos taken] at entered
        obtain ⟨sameModule, attached, succeeded, isTracked⟩ := taken
        obtain ⟨enabled, dropped, tracked⟩ := isTracked_iff.mp isTracked
        cases entered
        exact ⟨notice, status, enabled, dropped, rfl, sameModule, attached, succeeded, tracked, rfl⟩
      · rw [entered?_moduleLoaded, if_neg taken] at entered
        cases entered
    · intro described
      obtain ⟨_, _, enabled, dropped, same, sameModule, attached, succeeded, tracked, isRecord⟩ :=
        described
      cases same
      have isTracked := isTracked_iff.mpr ⟨enabled, dropped, tracked⟩
      rw [entered?_moduleLoaded, if_pos ⟨sameModule, attached, succeeded, isTracked⟩, isRecord]
  | moduleUnloaded unloaded status => simp [entered?, Tracks]
  | shutdown | processStarted | compilationStarted => simp [entered?, Tracks]

theorem entered?_eq_some_none_iff {moduleId : ModuleId} {delivery : Delivery S} :
    delivery.entered? moduleId = some none ↔ delivery.Forgets moduleId := by
  obtain ⟨callback, before⟩ := delivery
  cases callback with
  | moduleLoaded notice status => simp [entered?, Forgets]
  | moduleUnloaded unloaded status => simp [entered?, Forgets]
  | shutdown | processStarted | compilationStarted => simp [entered?, Forgets]

theorem entered?_compilation (moduleId : ModuleId) (callback : Callback S) (session : Session S)
    (isCompilation : callback.isCompilation = true) :
    entered? moduleId ⟨callback, session⟩ = none := by
  cases callback with
  | compilationStarted => rfl
  | processStarted | shutdown | moduleLoaded | moduleUnloaded => cases isCompilation

/-- A load enters the record of its module exactly if it is taken notice of and tracked. -/
theorem record?_onModuleLoaded (moduleId : ModuleId) (notice : LoadNotice S) (status : HResult)
    (session : Session S) :
    (Session.onModuleLoaded notice status session).2.agent.record? moduleId =
      (entered? moduleId ⟨.moduleLoaded notice status, session⟩).getD
        (session.agent.record? moduleId) := by
  rw [entered?_moduleLoaded]
  by_cases taken : session.TakesNotice status
  · rw [Session.agent_onModuleLoaded taken]
    have loaded : Session.loadModule notice session =
        ((Session.loadModule notice session).1, (Session.loadModule notice session).2) := rfl
    by_cases same : notice.moduleId = moduleId
    · cases isTracked : (Session.loadModule notice session).1.isTracked with
      | true =>
        obtain ⟨enabled, dropped, tracked⟩ := isTracked_iff.mp isTracked
        rw [tracked] at loaded
        obtain ⟨_, record, rfl, isRecord, entered, _⟩ := Session.record?_of_tracked loaded
        rw [if_pos ⟨same, taken.1, taken.2, rfl⟩, ← same, entered, isRecord]
        rfl
      | false =>
        rw [if_neg (by simp), Session.record?_of_untracked loaded isTracked]
        rfl
    · rw [if_neg fun decided => same decided.1]
      exact (Session.loadStep_loadModule loaded).getElem?_of_ne (Ne.symm same)
  · rw [Session.onModuleLoaded_of_ignored taken,
      if_neg fun decided => taken ⟨decided.2.1, decided.2.2.1⟩]
    rfl

theorem record?_deliver (moduleId : ModuleId) (callback : Callback S) (session : Session S)
    (isOther : callback.isCompilation = false) :
    (callback.deliver session).2.agent.record? moduleId =
      (entered? moduleId ⟨callback, session⟩).getD (session.agent.record? moduleId) := by
  cases callback with
  | processStarted process =>
    change (Session.onProcessStarted process session).2.agent.record? moduleId = _
    by_cases allowed : session.agent.settings.allowsProcess process = true
    · rw [Session.onProcessStarted_of_allowed allowed]
      rfl
    · rw [Session.onProcessStarted_of_refused allowed]
      rfl
  | shutdown =>
    change (∅ : ModuleTable S)[moduleId]? = none
    simp
  | moduleLoaded notice status => exact record?_onModuleLoaded moduleId notice status session
  | moduleUnloaded unloaded status =>
    change (Session.onModuleUnloaded unloaded session).2.agent.record? moduleId = _
    rw [Session.record?_onModuleUnloaded]
    by_cases same : unloaded = moduleId
    · rw [if_pos same, entered?]
      simp [same]
    · rw [if_neg same, entered?]
      simp [same]
  | compilationStarted => cases isOther

end Delivery

/-! ## Histories -/

namespace Session

variable {before session : Session S} {history : List (Delivery S)}

/-- Only the end of the process detaches an agent, and with it goes every record. -/
theorem modules_deliver {callback : Callback S} (isOther : callback.isCompilation = false)
    (settled : session.agent.isAttached = false → session.agent.modules = ∅)
    (detached : (callback.deliver session).2.agent.isAttached = false) :
    (callback.deliver session).2.agent.modules = ∅ := by
  have decides := Delivery.isAttached_deliver callback session isOther
  rw [detached] at decides
  cases wasAttached : session.agent.isAttached with
  | true =>
    rw [wasAttached] at decides
    cases decided : Delivery.attachment? ⟨callback, session⟩ with
    | none =>
      rw [decided] at decides
      cases decides
    | some attached =>
      rw [decided] at decides
      cases decides
      have isEnd : callback = .shutdown := Delivery.attachment?_eq_some_false_iff.mp decided
      rw [isEnd]
      rfl
  | false =>
    have empty := settled wasAttached
    by_cases isStart : ∃ process, callback = .processStarted process
    · obtain ⟨process, rfl⟩ := isStart
      change (onProcessStarted process session).2.agent.modules = ∅
      by_cases allowed : session.agent.settings.allowsProcess process = true
      · rw [onProcessStarted_of_allowed allowed]
        exact empty
      · rw [onProcessStarted_of_refused allowed]
        exact empty
    · have unchanged := deliver_of_detached wasAttached empty fun process isThis =>
        isStart ⟨process, isThis⟩
      rw [unchanged]
      exact empty

/-- A detached agent has no records. -/
theorem Lived.modules_eq_empty (lived : Lived before history session)
    (settled : before.agent.isAttached = false → before.agent.modules = ∅) :
    session.agent.isAttached = false → session.agent.modules = ∅ := by
  induction lived with
  | start => exact settled
  | meanwhile _ world ih => exact ih settled
  | deliver _ callback isOther ih => exact modules_deliver isOther (ih settled)
  | compile _ callback _ _ ih nestedIh => exact nestedIh (ih settled)

variable {settings : Settings} {catalog : Catalog} {world : World S}

theorem Lived.isAttached_iff
    (lived : Lived ⟨Agent.create settings catalog, world⟩ history session) :
    session.agent.isAttached = true ↔
      ∃ earlier delivery later, history = earlier ++ delivery :: later ∧ delivery.Attaches ∧
        ∀ other ∈ later, other.callback ≠ .shutdown := by
  have decided := lived.view_eq Agent.isAttached Delivery.attachment? Delivery.isAttached_deliver
    Delivery.attachment?_compilation
  have attaches : ∀ delivery : Delivery S,
      (∃ value, delivery.attachment? = some value ∧ value = true) ↔ delivery.Attaches := by
    intro delivery
    rw [← Delivery.attachment?_eq_some_true_iff]
    simp
  have stays : ∀ delivery : Delivery S,
      (∀ value, delivery.attachment? = some value → value = true) ↔
        delivery.callback ≠ .shutdown := by
    intro delivery
    rw [Ne, ← Delivery.attachment?_eq_some_false_iff]
    simp
  have lastly : session.agent.isAttached = true ↔
      ∃ value, latest Delivery.attachment? history = some value ∧ value = true := by
    rw [decided]
    cases latest Delivery.attachment? history with
    | none => simp [Agent.create]
    | some value => simp
  rw [lastly, exists_latest_iff]
  simp only [attaches, stays]

theorem Lived.record?_eq
    (lived : Lived ⟨Agent.create settings catalog, world⟩ history session) (moduleId : ModuleId) :
    session.agent.record? moduleId = (latest (Delivery.entered? moduleId) history).join := by
  have decided := lived.view_eq (·.record? moduleId) (Delivery.entered? moduleId)
    (Delivery.record?_deliver moduleId) (Delivery.entered?_compilation moduleId)
  rw [decided]
  cases latest (Delivery.entered? moduleId) history with
  | none => simp [Agent.create, Agent.record?]
  | some entry => rfl

/-- A module has a record exactly if one of its loads was tracked and it was not forgotten
since. -/
theorem Lived.isSome_record?_iff
    (lived : Lived ⟨Agent.create settings catalog, world⟩ history session) (moduleId : ModuleId) :
    (session.agent.record? moduleId).isSome = true ↔
      ∃ earlier delivery later, history = earlier ++ delivery :: later ∧
        (∃ record, delivery.Tracks moduleId record) ∧
        ∀ other ∈ later, ¬ other.Forgets moduleId := by
  have tracks : ∀ delivery : Delivery S,
      (∃ value, delivery.entered? moduleId = some value ∧ value.isSome = true) ↔
        ∃ record, delivery.Tracks moduleId record := by
    intro delivery
    constructor
    · rintro ⟨value, decided, isSome⟩
      obtain ⟨record, rfl⟩ := Option.isSome_iff_exists.mp isSome
      exact ⟨record, Delivery.entered?_eq_some_some_iff.mp decided⟩
    · rintro ⟨record, tracked⟩
      exact ⟨some record, Delivery.entered?_eq_some_some_iff.mpr tracked, rfl⟩
  have keeps : ∀ delivery : Delivery S,
      (∀ value, delivery.entered? moduleId = some value → value.isSome = true) ↔
        ¬ delivery.Forgets moduleId := by
    intro delivery
    rw [← Delivery.entered?_eq_some_none_iff]
    constructor
    · intro isSome decided
      cases isSome none decided
    · intro isOther value decided
      cases value with
      | none => exact absurd decided isOther
      | some record => rfl
  have lastly : (session.agent.record? moduleId).isSome = true ↔
      ∃ value, latest (Delivery.entered? moduleId) history = some value ∧ value.isSome = true := by
    rw [lived.record?_eq]
    cases latest (Delivery.entered? moduleId) history with
    | none => simp
    | some value => simp
  rw [lastly, exists_latest_iff]
  simp only [tracks, keeps]

/-- The record of a module is the one that the last of its tracked loads has filled. -/
theorem Lived.record?_eq_some_iff
    (lived : Lived ⟨Agent.create settings catalog, world⟩ history session) (moduleId : ModuleId)
    (record : ModuleRecord S) :
    session.agent.record? moduleId = some record ↔
      ∃ earlier delivery later, history = earlier ++ delivery :: later ∧
        delivery.Tracks moduleId record ∧
        ∀ other ∈ later, ¬ other.Forgets moduleId ∧ ∀ newer, ¬ other.Tracks moduleId newer := by
  have undecided : ∀ delivery : Delivery S, delivery.entered? moduleId = none ↔
      ¬ delivery.Forgets moduleId ∧ ∀ newer, ¬ delivery.Tracks moduleId newer := by
    intro delivery
    simp only [← Delivery.entered?_eq_some_none_iff, ← Delivery.entered?_eq_some_some_iff]
    cases delivery.entered? moduleId with
    | none => simp
    | some value => cases value <;> simp
  rw [lived.record?_eq, Option.join_eq_some_iff, latest_eq_some_iff]
  simp only [Delivery.entered?_eq_some_some_iff, undecided]

/-- The agent behind a history of callbacks is attached exactly if it has accepted a start of the
process and the process has not ended since. A module has a record exactly if the agent, while it
was attached, has tracked a load of it, and neither was the module unloaded nor has the process
ended since; the record is the one that the last such load has filled. A detached agent has no
records, and but for a start of the process it leaves everything as it is, whatever the metadata of
a module and the body of a method would do. Any callback may come next. -/
theorem history_decides
    (lived : Lived ⟨Agent.create settings catalog, world⟩ history session) :
    (session.agent.isAttached = true ↔
      ∃ earlier delivery later, history = earlier ++ delivery :: later ∧ delivery.Attaches ∧
        ∀ other ∈ later, other.callback ≠ .shutdown) ∧
    (∀ moduleId,
      ((session.agent.record? moduleId).isSome = true ↔
        ∃ earlier delivery later, history = earlier ++ delivery :: later ∧
          (∃ record, delivery.Tracks moduleId record) ∧
          ∀ other ∈ later, ¬ other.Forgets moduleId) ∧
      ∀ record, session.agent.record? moduleId = some record ↔
        ∃ earlier delivery later, history = earlier ++ delivery :: later ∧
          delivery.Tracks moduleId record ∧
          ∀ other ∈ later, ¬ other.Forgets moduleId ∧ ∀ newer, ¬ other.Tracks moduleId newer) ∧
    (session.agent.isAttached = false → session.agent.modules = ∅ ∧
      ∀ callback : Callback S, (∀ process, callback ≠ .processStarted process) →
        (callback.deliver session).2 = session) ∧
    ∀ callback : Callback S,
      (∀ moduleId function handle isSafeToBlock,
        callback = .compilationStarted moduleId function handle isSafeToBlock → LetsIn handle) →
      ∃ inside, Lived ⟨Agent.create settings catalog, world⟩
        (history ++ ⟨callback, session⟩ :: inside) (callback.deliver session).2 := by
  refine ⟨lived.isAttached_iff, ?_, ?_, lived.exists_next⟩
  · intro moduleId
    exact ⟨lived.isSome_record?_iff moduleId, lived.record?_eq_some_iff moduleId⟩
  · intro detached
    have empty := lived.modules_eq_empty (fun _ => rfl) detached
    exact ⟨empty, fun callback isOther => deliver_of_detached detached empty isOther⟩

end Session

namespace OneMethod

/-- The session before any callback. -/
def newSession : Session (List UInt8) where
  agent := Agent.create ⟨[], []⟩ ruledSession.agent.catalog
  world := session.world

/-- The process starts, and its module is loaded. -/
def startAndLoad : List (Callback (List UInt8)) :=
  [.processStarted "app", .moduleLoaded reload HResult.ok]

end OneMethod

theorem Session.history_decides_startAndLoad :
    ∃ history session record, Lived OneMethod.newSession history session ∧
      history.map (·.callback) = OneMethod.startAndLoad ∧
      session.agent.isAttached = true ∧ session.agent.record? ⟨7⟩ = some record ∧
      record.assembly = "App" := by
  have started := (Lived.start OneMethod.newSession).deliver (.processStarted "app") rfl
  have loaded := started.deliver (.moduleLoaded OneMethod.reload HResult.ok) rfl
  obtain ⟨attached, entries, _⟩ := history_decides loaded
  have isAttached := attached.mpr ⟨[], _, _, rfl, ⟨⟨"app", rfl⟩, rfl⟩, by simp⟩
  have found := ((entries ⟨7⟩).2 _).mpr ⟨[_], _, [], rfl,
    ⟨OneMethod.reload, HResult.ok, 1, [], rfl, rfl, rfl, by decide, rfl, rfl⟩, by simp⟩
  exact ⟨_, _, _, loaded, rfl, isAttached, found, rfl⟩

end Detour
