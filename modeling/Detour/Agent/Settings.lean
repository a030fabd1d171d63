import Detour.Rule.Files
import Detour.Text.Blank

/-!
# Agent settings

Two variables of the process environment configure the agent, each a list of values with semicolons
between them: the names of the processes to attach to, and the paths of the catalog files. White
space around a value is not part of it, and empty values do not count.
-/

namespace Detour

open Detour.Rule

/-- The values in a list text. -/
def listedValues (text : String) : List String :=
  (((text.toList.splitOn ';').map Text.trim).filter fun value => !value.isEmpty).map
    String.ofList

/-- What the agent is told by its environment. -/
structure Settings where
  /-- The processes to attach to; every process if the list is empty. -/
  processes : List String
  /-- The paths of the catalog files, in reading order. -/
  catalogPaths : List String
  deriving DecidableEq, Repr, Inhabited

namespace Settings

def processesVariable : String := "CALLSITE_PROFILER_PROCESSES"

def catalogsVariable : String := "CALLSITE_INTEGRATIONS"

/-- The values of a variable that may be unset. -/
def valuesOf : Option String → List String
  | none => []
  | some text => listedValues text

def ofLookup (lookup : String → Option String) : Settings :=
  ⟨valuesOf (lookup processesVariable), valuesOf (lookup catalogsVariable)⟩

def allowsProcess (settings : Settings) (process : String) : Bool :=
  settings.processes.isEmpty || settings.processes.contains process

def loadCatalog (settings : Settings) (files : FileReader) : Loading Catalog :=
  Catalog.loadFiles files settings.catalogPaths

end Settings

end Detour
