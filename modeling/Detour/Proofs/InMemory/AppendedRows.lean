import Detour.InMemory.Host
import Detour.Proofs.Agent.GrownSessions
import Detour.Proofs.Agent.TwoSessions

/-!
# Appended rows

A read of the host in memory looks at one row, and a row that has once been written stays where it
is: a definition appends a row behind the others, or is rejected and appends none. So the tables of
every module only grow, and reads are stable under this growth. The calls to the stored body do not
depend on the tables at all.
-/

namespace Detour.InMemory

open Detour.Assembly
open Detour.Host

variable {α : Type}

/-! ## Tables -/

/-- The other tables have further rows behind those of the first ones. -/
structure Tables.GrownTo (tables other : Tables) : Prop where
  typeRefs : tables.typeRefs <+: other.typeRefs
  typeDefs : tables.typeDefs <+: other.typeDefs
  methodDefs : tables.methodDefs <+: other.methodDefs
  memberRefs : tables.memberRefs <+: other.memberRefs

namespace Tables

variable {tables middle other : Tables}

theorem GrownTo.refl (tables : Tables) : tables.GrownTo tables :=
  ⟨List.prefix_rfl, List.prefix_rfl, List.prefix_rfl, List.prefix_rfl⟩

theorem GrownTo.trans (first : tables.GrownTo middle) (second : middle.GrownTo other) :
    tables.GrownTo other where
  typeRefs := first.typeRefs.trans second.typeRefs
  typeDefs := first.typeDefs.trans second.typeDefs
  methodDefs := first.methodDefs.trans second.methodDefs
  memberRefs := first.memberRefs.trans second.memberRefs

/-- A row that was found is found in a longer table, too. -/
theorem readRow_of_prefix {operation : Operation} {rows longer : List (Row α)} {token : Token}
    {found : String × α} (appended : rows <+: longer)
    (read : readRow operation rows token = .ok found) :
    readRow operation longer token = .ok found := by
  obtain ⟨behind, rfl⟩ := appended
  unfold readRow at read ⊢
  by_cases isNil : token.isNil = true
  · rw [if_pos isNil] at read
    cases read
  · rw [if_neg isNil] at read ⊢
    cases row : rows[token.row.toNat - 1]? with
    | none =>
      rw [row] at read
      cases read
    | some content =>
      have inside : token.row.toNat - 1 < rows.length := (List.getElem?_eq_some_iff.mp row).1
      rw [List.getElem?_append_left inside, row]
      rw [row] at read
      exact read

theorem grownTo_write (operation : Operation) (name : String) (subject : Token)
    {append : Tables → Token × Tables} (appends : ∀ tables, GrownTo tables (append tables).2)
    (tables : Tables) : tables.GrownTo (endState (write operation name subject append tables)) := by
  unfold write
  cases Rejection.consume operation name tables.rejections with
  | mk hr? rejections =>
    cases hr? with
    | some hr => exact ⟨List.prefix_rfl, List.prefix_rfl, List.prefix_rfl, List.prefix_rfl⟩
    | none => exact appends tables

theorem grownTo_defineAssemblyRef (assembly : AssemblyName) (tables : Tables) :
    tables.GrownTo (endState (defineAssemblyRef assembly tables)) :=
  grownTo_write _ _ _
    (fun _ => ⟨List.prefix_rfl, List.prefix_rfl, List.prefix_rfl, List.prefix_rfl⟩) tables

theorem grownTo_defineTypeRef (scope : Token) (typeName : String) (tables : Tables) :
    tables.GrownTo (endState (defineTypeRef scope typeName tables)) :=
  grownTo_write _ _ _
    (fun _ => ⟨List.prefix_append _ _, List.prefix_rfl, List.prefix_rfl, List.prefix_rfl⟩) tables

theorem grownTo_defineMemberRef (parent : Token) (methodName : String) (tables : Tables) :
    tables.GrownTo (endState (defineMemberRef parent methodName tables)) :=
  grownTo_write _ _ _
    (fun _ => ⟨List.prefix_rfl, List.prefix_rfl, List.prefix_rfl, List.prefix_append _ _⟩) tables

end Tables

/-! ## Hosts -/

namespace Host

theorem lookup_setTables (host : Host) (name other : String) (tables : Tables) :
    (host.setTables name tables).modules.lookup other =
      (host.modules.lookup other).map fun old => if other == name then tables else old := by
  unfold Host.setTables
  dsimp only
  induction host.modules with
  | nil => rfl
  | cons entry rest ih =>
    rw [List.map_cons, List.lookup_cons, List.lookup_cons]
    by_cases found : (other == entry.1) = true
    · rw [found, eq_of_beq found]
      rfl
    · rw [Bool.not_eq_true] at found
      rw [found]
      exact ih

/-- A module has the tables that it was given, unless nothing is kept for it. -/
theorem tables_setTables (host : Host) (name other : String) (tables : Tables) :
    (host.setTables name tables).tables other = host.tables other ∨
      other = name ∧ (host.setTables name tables).tables other = tables := by
  rw [Host.tables, Host.tables, lookup_setTables]
  cases host.modules.lookup other with
  | none => exact .inl rfl
  | some old =>
    rw [Option.map_some]
    by_cases same : (other == name) = true
    · rw [if_pos same]
      exact .inr ⟨eq_of_beq same, rfl⟩
    · rw [if_neg same]
      exact .inl rfl

/-- The tables of every module have grown, and the stored body is the same. -/
structure GrownTo (host other : Host) : Prop where
  tables : ∀ name, (host.tables name).GrownTo (other.tables name)
  bytes_eq : other.body.bytes = host.body.bytes

/-- Growth of the host in memory, whatever calls it has noted down. -/
def growth : Growth Host where
  grows := GrownTo
  refl host := ⟨fun name => .refl (host.tables name), rfl⟩
  trans first second :=
    ⟨fun name => (first.tables name).trans (second.tables name),
      second.bytes_eq.trans first.bytes_eq⟩

theorem follows_readRow (name : String) (operation : Operation) {rows : Tables → List (Row α)}
    (appended : ∀ tables other, tables.GrownTo other → rows tables <+: rows other)
    (token : Token) :
    (readRow name operation rows token).IsFollowedBy growth
      (readRow name operation rows token) := by
  rintro ⟨held, host⟩ ⟨otherHeld, other⟩ value after ⟨sameName, grown⟩ answered
  unfold readRow at answered ⊢
  dsimp only at answered ⊢
  have grownTables := appended _ _ (grown.tables name)
  cases read : Tables.readRow operation (rows ((host.record name (.read operation token)).tables
      name)) token with
  | error refusal =>
    rw [read] at answered
    cases answered
  | ok found =>
    rw [read] at answered
    obtain ⟨text, content⟩ := found
    cases answered
    have readAgain : Tables.readRow operation (rows ((other.record name
        (.read operation token)).tables name)) token = .ok (text, value) :=
      Tables.readRow_of_prefix grownTables read
    rw [readAgain]
    exact ⟨_, rfl, rfl, grown.tables, grown.bytes_eq⟩

/-- Every module in memory can be read as before, however many rows have been appended. -/
theorem metadata_stable (name : String) : (metadata name).StableUnder growth where
  memberRef := follows_readRow name .memberRefProps fun _ _ grown => grown.memberRefs
  methodDef := follows_readRow name .methodProps fun _ _ grown => grown.methodDefs
  typeRef := follows_readRow name .typeRefProps fun _ _ grown => grown.typeRefs
  typeDef := follows_readRow name .typeDefProps fun _ _ grown => grown.typeDefs

theorem grownTo_readRow (name : String) (operation : Operation) (rows : Tables → List (Row α))
    (token : Token) (held : String) (host : Host) :
    host.GrownTo (endState (readRow name operation rows token ⟨held, host⟩)).host := by
  unfold readRow
  dsimp only
  split
  · exact ⟨fun name => .refl (host.tables name), rfl⟩
  · exact ⟨fun name => .refl (host.tables name), rfl⟩

theorem grownTo_setTables (host : Host) (name : String) {tables : Tables}
    (grown : (host.tables name).GrownTo tables) : host.GrownTo (host.setTables name tables) where
  tables other := by
    rcases tables_setTables host name other tables with unchanged | ⟨rfl, changed⟩
    · rw [unchanged]
      exact .refl (host.tables other)
    · rw [changed]
      exact grown
  bytes_eq := rfl

theorem grownTo_write (name : String) (call : Call) {append : EStateM Refusal Tables Token}
    (appends : ∀ tables, Tables.GrownTo tables (endState (append tables))) (host : Host) :
    host.GrownTo (endState (write name call append host)) := by
  unfold write
  dsimp only
  have grown := appends ((host.record name call).tables name)
  have recorded : host.GrownTo (host.record name call) :=
    ⟨fun other => .refl (host.tables other), rfl⟩
  cases answered : append ((host.record name call).tables name) with
  | ok token tables =>
    rw [answered] at grown
    exact growth.trans recorded (grownTo_setTables _ name grown)
  | error refusal tables =>
    rw [answered] at grown
    exact growth.trans recorded (grownTo_setTables _ name grown)

/-- No call to a module in memory removes or changes a row of any module. -/
theorem metadata_onlyAppends (name : String) : (metadata name).OnlyAppends growth := by
  intro call held host
  cases call with
  | memberRef token => exact grownTo_readRow name _ _ token held host
  | methodDef token => exact grownTo_readRow name _ _ token held host
  | typeRef token => exact grownTo_readRow name _ _ token held host
  | typeDef token => exact grownTo_readRow name _ _ token held host
  | defineAssemblyRef assembly =>
    exact grownTo_write name _ (Tables.grownTo_defineAssemblyRef assembly) host
  | defineTypeRef scope typeName =>
    exact grownTo_write name _ (Tables.grownTo_defineTypeRef scope typeName) host
  | defineMemberRef parent methodName signature =>
    exact grownTo_write name _ (Tables.grownTo_defineMemberRef parent methodName) host

end Host

/-! ## The stored body -/

/-- A read of the stored body gives its bytes, and does nothing to the host but count. -/
theorem exists_read_bodyHandle (function : Token) {plan : BodyPlan}
    (accepted : plan.readFailure = none) (session : Session Host) :
    ∃ after, (bodyHandle function plan).read session =
        .ok session.world.host.body.bytes after ∧
      after.world.host =
        { session.world.host with body.reads := session.world.host.body.reads + 1 } := by
  obtain ⟨readFailure, writeFailure, unloadOnRead⟩ := plan
  cases accepted
  cases unloadOnRead with
  | none => exact ⟨_, rfl, rfl⟩
  | some moduleId =>
    let counted := changeBody (fun body => { body with reads := body.reads + 1 }) session
    let unloaded := (Session.unloadModule moduleId counted).2
    have sameHost : unloaded.world.host = counted.world.host :=
      ModuleTable.host_unload counted.agent.modules moduleId counted.world
    refine ⟨unloaded, ?_, sameHost⟩
    change EStateM.Result.ok unloaded.world.host.body.bytes unloaded = _
    rw [sameHost]
    rfl

theorem refuses_read_bodyHandle (function : Token) {plan : BodyPlan} {hr : HResult}
    (planned : plan.readFailure = some hr) (session : Session Host) :
    ∃ refusal after, (bodyHandle function plan).read session = .error refusal after := by
  obtain ⟨readFailure, writeFailure, unloadOnRead⟩ := plan
  cases planned
  cases unloadOnRead with
  | none => exact ⟨_, _, rfl⟩
  | some moduleId => exact ⟨_, _, rfl⟩

/-- Over grown tables the stored body is read and written as before, whatever the plan. -/
theorem follows_bodyHandle (function : Token) (plan : BodyPlan) :
    (bodyHandle function plan).IsFollowedBy Host.growth (bodyHandle function plan) where
  read session other bytes behind grown answered := by
    cases planned : plan.readFailure with
    | some hr =>
      obtain ⟨refusal, after, refused⟩ := refuses_read_bodyHandle function planned session
      cases refused.symm.trans answered
    | none =>
      obtain ⟨after, readHere, hostHere⟩ := exists_read_bodyHandle function planned session
      obtain ⟨otherAfter, readThere, hostThere⟩ := exists_read_bodyHandle function planned other
      cases readHere.symm.trans answered
      refine ⟨otherAfter, readThere.trans (by rw [grown.bytes_eq]), ?_⟩
      change Host.GrownTo _ _
      rw [hostHere, hostThere]
      exact ⟨grown.tables, grown.bytes_eq⟩
  write bytes session other value behind grown answered := by
    obtain ⟨readFailure, writeFailure, unloadOnRead⟩ := plan
    cases writeFailure with
    | some hr => cases answered
    | none =>
      cases answered
      exact ⟨_, rfl, grown.tables, rfl⟩

end Detour.InMemory
