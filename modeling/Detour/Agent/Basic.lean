import Detour.Agent.Settings
import Detour.Module.Table

/-!
# The agent

The agent of a process has fixed settings and a fixed catalog. It is attached or not, and it keeps
the table of the instrumented modules. A session is an agent in its world.
-/

namespace Detour

open Detour.Host
open Detour.Rule

structure Agent (S : Type) where
  settings : Settings
  catalog : Catalog
  modules : ModuleTable S
  isAttached : Bool

namespace Agent

variable {S : Type}

/-- The agent before it is attached. -/
def create (settings : Settings) (catalog : Catalog) : Agent S :=
  ⟨settings, catalog, ∅, false⟩

/-- The agent that an environment configures. -/
def ofEnvironment (lookup : String → Option String) (files : FileReader) : Loading (Agent S) := do
  let settings := Settings.ofLookup lookup
  return create settings (← settings.loadCatalog files)

def record? (agent : Agent S) (moduleId : ModuleId) : Option (ModuleRecord S) :=
  agent.modules[moduleId]?

end Agent

structure Session (S : Type) where
  agent : Agent S
  world : World S

namespace Session

variable {S : Type}

def log (session : Session S) (event : Event) : Session S :=
  { session with world := session.world.log event }

/-- Attaches the agent if the settings allow the process. A refusal changes nothing. -/
def attach (process : String) : StateM (Session S) Bool := do
  let agent := (← get).agent
  if agent.settings.allowsProcess process then
    modify fun session =>
      { session with agent.isAttached := true }.log (.attached process agent.catalog.length)
    return true
  else
    modify (·.log (.attachRefused process agent.settings.processes))
    return false

/-- Detaches the agent and forgets every module. -/
def detach : StateM (Session S) Unit :=
  modify fun session => { session with agent.isAttached := false, agent.modules := ∅ }

def loadModule (notice : LoadNotice S) : StateM (Session S) LoadOutcome := do
  let session ← get
  let (outcome, modules, world) :=
    session.agent.modules.load session.agent.catalog notice session.world
  set { session with agent.modules := modules, world }
  return outcome

/-- Takes notice of an unloaded module, and tells whether it had a record. -/
def unloadModule (moduleId : ModuleId) : StateM (Session S) Bool := do
  let session ← get
  let (wasTracked, modules, world) := session.agent.modules.unload moduleId session.world
  set { session with agent.modules := modules, world }
  return wasTracked

/-- Enters a record that was made by hand; gives the record in whose place it comes. -/
def insertRecord (record : ModuleRecord S) : StateM (Session S) (Option (ModuleRecord S)) := do
  let session ← get
  let (modules, replaced) := session.agent.modules.replace record
  set { session with agent.modules := modules }
  return replaced

end Session

end Detour
