import Detour.Agent.Compile

/-!
# Host callbacks

The host tells a profiler about the process, its modules and its compilations, and gets a status
code for each callback. `Profiler` lists the callbacks, with defaults that do nothing;
`agentProfiler` is the agent behind them. It acts on modules and compilations only while it is
attached, and no failure of its own ever reaches the host.
-/

namespace Detour

open Detour.Host

/-- Callbacks of the host. Their effects act on `W`; modules belong to a host with states `S`. -/
structure Profiler (S W : Type) where
  /-- The process with the given name has started; a failure unloads the profiler. -/
  processStarted (process : String) : StateM W HResult
  /-- The process ends. -/
  shutdown : StateM W Unit := pure ()
  /-- A module was loaded, with the given status. -/
  moduleLoaded : LoadNotice S → HResult → StateM W HResult := fun _ _ => pure HResult.ok
  /-- A module was unloaded, with the given status. -/
  moduleUnloaded : ModuleId → HResult → StateM W HResult := fun _ _ => pure HResult.ok
  /-- A method of a module is about to be compiled. The flag tells whether waiting is safe. -/
  compilationStarted : ModuleId → Token → BodyHandle W → Bool → StateM W HResult :=
    fun _ _ _ _ => pure HResult.ok

namespace Session

variable {S : Type}

/-- The event that sums up a load, if it is worth one. -/
def loadSummary? (moduleId : ModuleId) : LoadOutcome → Option Event
  | .tracked enabled dropped => some (.moduleTracked moduleId enabled dropped.length)
  | .allRulesFailed errors => some (.nothingEmitted moduleId errors.length)
  | .unsupported | .noMatchingRules => none

def onProcessStarted (process : String) : StateM (Session S) HResult := do
  if ← attach process then
    return HResult.ok
  else
    return HResult.fail

/-- Takes notice of a module that was loaded with success, if the agent is attached. -/
def onModuleLoaded (notice : LoadNotice S) (status : HResult) : StateM (Session S) HResult := do
  if (← get).agent.isAttached && !status.failed then
    match loadSummary? notice.moduleId (← loadModule notice) with
    | some event => modify (·.log event)
    | none => pure ()
  return HResult.ok

def onModuleUnloaded (moduleId : ModuleId) : StateM (Session S) HResult := do
  let _ ← unloadModule moduleId
  return HResult.ok

/-- Compiles a method, if the agent is attached. An error is only logged. -/
def onCompilationStarted (moduleId : ModuleId) (function : Token)
    (handle : BodyHandle (Session S)) : StateM (Session S) HResult := fun session =>
  if session.agent.isAttached then
    match compile moduleId function handle session with
    | .ok _ session => (HResult.ok, session)
    | .error error session =>
      (HResult.ok, session.log (.methodLeftAlone moduleId function error))
  else
    (HResult.ok, session)

end Session

def agentProfiler (S : Type) : Profiler S (Session S) where
  processStarted := Session.onProcessStarted
  shutdown := Session.detach
  moduleLoaded := Session.onModuleLoaded
  moduleUnloaded := fun moduleId _ => Session.onModuleUnloaded moduleId
  compilationStarted := fun moduleId function handle _ =>
    Session.onCompilationStarted moduleId function handle

end Detour
