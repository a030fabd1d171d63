import Detour.Module.Record
import Std.Data.HashMap

/-!
# The module table

The table maps the modules of the process to their records. A module enters it when it loads and at
least one replacement could be prepared; a load that ends otherwise leaves the table as it was.
-/

namespace Detour

open Detour.Host
open Detour.Rule

structure LoadNotice (S : Type) where
  moduleId : ModuleId
  assembly : String
  flags : ModuleFlags
  metadata : Metadata S

inductive LoadOutcome where
  /-- The metadata cannot be written. -/
  | unsupported
  /-- No replacement applies to the assembly. -/
  | noMatchingRules
  /-- Every applicable replacement was refused. -/
  | allRulesFailed (errors : List EmissionError)
  /-- The module entered the table with `enabled` replacements; `dropped` tells of the others. -/
  | tracked (enabled : Nat) (dropped : List EmissionError)
  deriving DecidableEq, Repr, Inhabited

namespace LoadOutcome

def isTracked : LoadOutcome → Bool
  | tracked _ _ => true
  | _ => false

end LoadOutcome

abbrev ModuleTable (S : Type) := Std.HashMap ModuleId (ModuleRecord S)

namespace ModuleTable

variable {S : Type}

/-- The table with a record in the place of any other of the same module, and that other one. -/
def replace (table : ModuleTable S) (record : ModuleRecord S) :
    ModuleTable S × Option (ModuleRecord S) :=
  (table.insert record.moduleId record, table[record.moduleId]?)

/-- Emits the wrapper of each replacement in turn. A replacement whose wrapper has a reference is
enabled; the refusals of the others are collected in order. -/
def prepare : List Replacement → Emission S → List EmissionError × Emission S
  | [], emission => ([], emission)
  | replacement :: rest, emission =>
    match Emission.wrapperRef replacement.wrapper emission with
    | .ok _ emission => prepare rest { emission with record := emission.record.enable replacement }
    | .error error emission =>
      let event := Event.replacementDropped emission.record.moduleId replacement.wrapper.key error
      let (errors, emission) := prepare rest { emission with world := emission.world.log event }
      (error :: errors, emission)

/-- Enters a filled record and notes whether it took the place of another. -/
def publish (table : ModuleTable S) (emission : Emission S) : ModuleTable S × World S :=
  let record := emission.record
  match table.replace record with
  | (table, none) => (table, emission.world)
  | (table, some _) => (table, emission.world.log (.recordReplaced record.moduleId))

def load (table : ModuleTable S) (catalog : Catalog) (notice : LoadNotice S) (world : World S) :
    LoadOutcome × ModuleTable S × World S :=
  if !notice.flags.isInstrumentable then
    let event := Event.moduleSkipped notice.moduleId notice.assembly notice.flags
    (.unsupported, table, world.log event)
  else
    let candidates := catalog.candidates notice.assembly
    if candidates.isEmpty then
      (.noMatchingRules, table, world)
    else
      let event := Event.emissionStarted notice.moduleId notice.assembly candidates.length
      let record := ModuleRecord.fresh notice.moduleId notice.assembly notice.metadata
      let (errors, emission) := prepare candidates ⟨record, world.log event⟩
      if emission.record.replacements.isEmpty then
        (.allRulesFailed errors, table, emission.world)
      else
        let (table, world) := table.publish emission
        (.tracked emission.record.replacements.length errors, table, world)

/-- Forgets a module, and tells whether it had a record. -/
def unload (table : ModuleTable S) (moduleId : ModuleId) (world : World S) :
    Bool × ModuleTable S × World S :=
  if table.contains moduleId then
    (true, table.erase moduleId, world.log (.recordReleased moduleId))
  else
    (false, table, world)

theorem getElem?_replace (table : ModuleTable S) (record : ModuleRecord S) (moduleId : ModuleId) :
    (table.replace record).1[moduleId]? =
      if record.moduleId = moduleId then some record else table[moduleId]? := by
  simp [replace, Std.HashMap.getElem?_insert]

theorem getElem?_unload (table : ModuleTable S) (unloaded moduleId : ModuleId) (world : World S) :
    (table.unload unloaded world).2.1[moduleId]? =
      if unloaded = moduleId then none else table[moduleId]? := by
  unfold unload
  split
  · simp [Std.HashMap.getElem?_erase]
  · rename_i absent
    by_cases same : unloaded = moduleId
    · subst same
      simpa using absent
    · rw [if_neg same]

end ModuleTable

end Detour
