import Detour.Proofs.Rule.RecordFields
import Detour.Proofs.Sequencing
import Detour.Rule.Files

/-!
# Files in order

The files of a list are read one after the other, each of them afresh. If all of them hold catalogs,
the whole catalog has the rules of all of them in the order of the paths, and a path that is listed
twice counts twice. Otherwise the first file that holds none decides: its error is that of the
loading, and nothing behind it is read. The log tells of the files in front of it, in their order.
-/

namespace Detour.Rule

namespace Catalog

variable {files : FileReader} {path : String} {paths left right : List String}
  {catalog : Catalog} {loaded : List (String × Catalog)} {error : CatalogError}
  {log after : Array Event}

/-! ## Single files -/

/-- The file at the path is readable, and its text is a catalog document. -/
def HeldBy (files : FileReader) (path : String) (catalog : Catalog) : Prop :=
  ∃ text, files path = .ok text ∧ Catalog.parse text = .ok catalog

/-- The file at the path holds no catalog, and the error says why and names the path. -/
inductive FailsAt (files : FileReader) : String → CatalogError → Prop where
  | unreadable {path : String} {fault : FileFault} (refused : files path = .error fault) :
      FailsAt files path (.unreadable path fault)
  | unparsable {path text : String} {error : DocumentError} (read : files path = .ok text)
      (malformed : Catalog.parse text = .error error) :
      FailsAt files path (.unparsable path error)

theorem loadFile_eq_ok_iff :
    loadFile files path log = .ok catalog after ↔
      catalog.HeldBy files path ∧ after = log.push (.catalogLoaded path catalog.length) := by
  unfold loadFile HeldBy
  cases read : files path with
  | error fault =>
    constructor
    · intro impossible
      cases impossible
    · rintro ⟨⟨_, impossible, _⟩, _⟩
      cases impossible
  | ok text =>
    dsimp only
    cases parsed : Catalog.parse text with
    | error error =>
      constructor
      · intro impossible
        cases impossible
      · rintro ⟨⟨_, same, impossible⟩, _⟩
        cases same
        cases parsed.symm.trans impossible
    | ok found =>
      constructor
      · intro loads
        cases loads
        exact ⟨⟨text, rfl, parsed⟩, rfl⟩
      · rintro ⟨⟨_, same, parses⟩, rfl⟩
        cases same
        cases parsed.symm.trans parses
        rfl

theorem loadFile_eq_error_iff :
    loadFile files path log = .error error after ↔ FailsAt files path error ∧ after = log := by
  unfold loadFile
  cases read : files path with
  | error fault =>
    constructor
    · intro fails
      cases fails
      exact ⟨.unreadable read, rfl⟩
    · rintro ⟨fails, rfl⟩
      cases fails with
      | unreadable refused =>
        cases read.symm.trans refused
        rfl
      | unparsable readable _ => cases read.symm.trans readable
  | ok text =>
    dsimp only
    cases parsed : Catalog.parse text with
    | error found =>
      constructor
      · intro fails
        cases fails
        exact ⟨.unparsable read parsed, rfl⟩
      · rintro ⟨fails, rfl⟩
        cases fails with
        | unreadable refused => cases read.symm.trans refused
        | unparsable readable malformed =>
          cases read.symm.trans readable
          cases parsed.symm.trans malformed
          rfl
    | ok found =>
      constructor
      · intro impossible
        cases impossible
      · rintro ⟨fails, _⟩
        cases fails with
        | unreadable refused => cases read.symm.trans refused
        | unparsable readable malformed =>
          cases read.symm.trans readable
          cases parsed.symm.trans malformed

/-! ## Lists of files -/

/-- The catalogs that the files at the paths hold, each with its path. -/
inductive HeldInOrder (files : FileReader) : List String → List (String × Catalog) → Prop where
  | nil : HeldInOrder files [] []
  | cons {path : String} {paths : List String} {catalog : Catalog}
      {loaded : List (String × Catalog)} (held : catalog.HeldBy files path)
      (behind : HeldInOrder files paths loaded) :
      HeldInOrder files (path :: paths) ((path, catalog) :: loaded)

/-- The rules of the catalogs, one catalog behind the other. -/
def joined (loaded : List (String × Catalog)) : Catalog :=
  loaded.flatMap fun (_, catalog) => catalog

/-- One event for each of the catalogs. -/
def loadEvents (loaded : List (String × Catalog)) : List Event :=
  loaded.map fun (path, catalog) => .catalogLoaded path catalog.length

theorem push_append_loadEvents (log : Array Event) (path : String) (catalog : Catalog)
    (loaded : List (String × Catalog)) :
    log.push (.catalogLoaded path catalog.length) ++ (loadEvents loaded).toArray =
      log ++ (loadEvents ((path, catalog) :: loaded)).toArray := by
  simp [loadEvents]

theorem loadFiles_eq_ok_iff :
    loadFiles files paths log = .ok catalog after ↔
      ∃ loaded, HeldInOrder files paths loaded ∧ catalog = joined loaded ∧
        after = log ++ (loadEvents loaded).toArray := by
  induction paths generalizing log catalog after with
  | nil =>
    constructor
    · intro loads
      obtain ⟨same, sameLog⟩ := EStateM.pure_eq_ok_iff.mp loads
      exact ⟨[], .nil, same.symm, by rw [← sameLog]; simp [loadEvents]⟩
    · rintro ⟨loaded, held, rfl, rfl⟩
      cases held
      exact EStateM.pure_eq_ok_iff.mpr ⟨rfl, by simp [loadEvents]⟩
  | cons path paths ih =>
    constructor
    · intro loads
      obtain ⟨first, middle, loadsFirst, behindFirst⟩ := EStateM.bind_eq_ok_iff.mp loads
      obtain ⟨rest, last, loadsRest, returned⟩ := EStateM.bind_eq_ok_iff.mp behindFirst
      obtain ⟨rfl, rfl⟩ := EStateM.pure_eq_ok_iff.mp returned
      obtain ⟨held, rfl⟩ := loadFile_eq_ok_iff.mp loadsFirst
      obtain ⟨loaded, heldRest, rfl, rfl⟩ := ih.mp loadsRest
      exact ⟨(path, first) :: loaded, .cons held heldRest, rfl,
        push_append_loadEvents log path first loaded⟩
    · rintro ⟨loaded, held, rfl, rfl⟩
      cases held with
      | @cons _ _ first rest held heldRest =>
        have loadsFirst := loadFile_eq_ok_iff.mpr ⟨held, Eq.refl (log.push _)⟩
        have loadsRest := ih.mpr
          ⟨rest, heldRest, rfl, (push_append_loadEvents log path first rest).symm⟩
        apply EStateM.bind_eq_ok_iff.mpr
        refine ⟨first, _, loadsFirst, ?_⟩
        apply EStateM.bind_eq_ok_iff.mpr
        exact ⟨_, _, loadsRest, rfl⟩

theorem loadFiles_eq_error_iff :
    loadFiles files paths log = .error error after ↔
      ∃ before failing behind loaded, paths = before ++ failing :: behind ∧
        HeldInOrder files before loaded ∧ FailsAt files failing error ∧
        after = log ++ (loadEvents loaded).toArray := by
  induction paths generalizing log after with
  | nil =>
    constructor
    · intro impossible
      cases impossible
    · rintro ⟨before, failing, behind, _, split, _⟩
      exact absurd split.symm (List.append_ne_nil_of_right_ne_nil before (List.cons_ne_nil _ _))
  | cons path paths ih =>
    constructor
    · intro fails
      rcases EStateM.bind_eq_error_iff.mp fails with failsFirst | ⟨first, middle, loadsFirst, fails⟩
      · obtain ⟨failsAt, rfl⟩ := loadFile_eq_error_iff.mp failsFirst
        exact ⟨[], path, paths, [], rfl, .nil, failsAt, by simp [loadEvents]⟩
      · rcases EStateM.bind_eq_error_iff.mp fails with failsRest | ⟨_, _, _, impossible⟩
        · obtain ⟨held, rfl⟩ := loadFile_eq_ok_iff.mp loadsFirst
          obtain ⟨before, failing, behind, loaded, rfl, heldBefore, failsAt, rfl⟩ := ih.mp failsRest
          exact ⟨path :: before, failing, behind, (path, first) :: loaded, rfl,
            .cons held heldBefore, failsAt, push_append_loadEvents log path first loaded⟩
        · cases impossible
    · rintro ⟨before, failing, behind, loaded, split, held, failsAt, rfl⟩
      apply EStateM.bind_eq_error_iff.mpr
      cases held with
      | nil =>
        obtain ⟨rfl, rfl⟩ := List.cons.inj split
        exact .inl (loadFile_eq_error_iff.mpr ⟨failsAt, by simp [loadEvents]⟩)
      | @cons _ before first rest held heldBefore =>
        obtain ⟨rfl, rfl⟩ := List.cons.inj split
        have loadsFirst := loadFile_eq_ok_iff.mpr ⟨held, Eq.refl (log.push _)⟩
        have failsRest := ih.mpr ⟨before, failing, behind, rest, rfl, heldBefore, failsAt,
          (push_append_loadEvents log path first rest).symm⟩
        refine .inr ⟨first, _, loadsFirst, ?_⟩
        exact EStateM.bind_eq_error_iff.mpr (.inl failsRest)

theorem exists_heldInOrder_iff :
    (∃ loaded, HeldInOrder files paths loaded) ↔
      ∀ path ∈ paths, ∃ catalog : Catalog, catalog.HeldBy files path := by
  induction paths with
  | nil =>
    refine iff_of_true ⟨[], .nil⟩ ?_
    intro path member
    cases member
  | cons path paths ih =>
    rw [List.forall_mem_cons, ← ih]
    constructor
    · rintro ⟨loaded, held⟩
      cases held with
      | cons held behind => exact ⟨⟨_, held⟩, _, behind⟩
    · rintro ⟨⟨catalog, held⟩, loaded, behind⟩
      exact ⟨(path, catalog) :: loaded, .cons held behind⟩

theorem loadFiles_append (files : FileReader) (left right : List String) :
    loadFiles files (left ++ right) = do
      let first ← loadFiles files left
      return first ++ (← loadFiles files right) := by
  induction left with
  | nil =>
    rw [List.nil_append, loadFiles, pure_bind]
    simp only [List.nil_append, bind_pure]
  | cons path paths ih =>
    rw [List.cons_append, loadFiles, loadFiles, ih]
    simp only [bind_assoc, pure_bind, List.append_assoc]

/-- Files are loaded all or none. The loading succeeds exactly if every file holds a catalog, and
then it gives these catalogs in the order of the paths, with one event for each of them. It fails
exactly with the error of the first file that holds none, with one event for each file in front of
it. So the files of two lists are those of the first list and then, if nothing failed, those of the
second one. -/
theorem loads_files_in_order (files : FileReader) :
    (∀ (paths : List String) (log : Array Event),
      (∃ catalog after, loadFiles files paths log = .ok catalog after) ↔
        ∀ path ∈ paths, ∃ catalog : Catalog, catalog.HeldBy files path) ∧
    (∀ (paths : List String) (log : Array Event) (catalog : Catalog) (after : Array Event),
      loadFiles files paths log = .ok catalog after ↔
        ∃ loaded, HeldInOrder files paths loaded ∧ catalog = joined loaded ∧
          after = log ++ (loadEvents loaded).toArray) ∧
    (∀ (paths : List String) (log : Array Event) (error : CatalogError) (after : Array Event),
      loadFiles files paths log = .error error after ↔
        ∃ before failing behind loaded, paths = before ++ failing :: behind ∧
          HeldInOrder files before loaded ∧ FailsAt files failing error ∧
          after = log ++ (loadEvents loaded).toArray) ∧
    ∀ left right : List String,
      loadFiles files (left ++ right) = do
        let first ← loadFiles files left
        return first ++ (← loadFiles files right) := by
  refine ⟨?_, ?_, ?_, loadFiles_append files⟩
  · intro paths log
    rw [← exists_heldInOrder_iff]
    constructor
    · rintro ⟨catalog, after, loads⟩
      obtain ⟨loaded, held, _⟩ := loadFiles_eq_ok_iff.mp loads
      exact ⟨loaded, held⟩
    · rintro ⟨loaded, held⟩
      exact ⟨_, _, loadFiles_eq_ok_iff.mpr ⟨loaded, held, rfl, rfl⟩⟩
  · intro paths log catalog after
    exact loadFiles_eq_ok_iff
  · intro paths log error after
    exact loadFiles_eq_error_iff

namespace OneFile

open Detour.Json

def document : Value :=
  .array (.item (.array (.item (.text (.plain "Lib")) (.item (.array .closed) .closed))) .closed)

/-- There is one file, with one integration and no rules. -/
def table : FileReader := fun path =>
  if path = "lib.json" then .ok "[[\"Lib\",[]]]" else .error .notFound

def integrations : Catalog := [⟨"Lib", []⟩]

theorem spells : Spells "[[\"Lib\",[]]]" document := by
  have nothing := areBlanks_nil
  have spelledName : Value.SpelledBy (.text (.plain "Lib")) ['"', 'L', 'i', 'b', '"'] :=
    .text (RawText.spelledBy_plain rfl)
  have spelledIntegration := Value.SpelledBy.array
    (.more nothing spelledName nothing (.last nothing (.emptyArray nothing) nothing))
  exact ⟨[], _, [], nothing, .array (.last nothing spelledIntegration nothing), nothing, rfl⟩

theorem heldBy : integrations.HeldBy table "lib.json" := by
  have isRead : Reading.sequence Integration.read document = .ok integrations := rfl
  have parsed := ofText_eq_ok_iff_parse.mp ((ofText_eq_ok_iff_of_spells spells).mpr isRead)
  exact ⟨_, if_pos rfl, parsed⟩

end OneFile

theorem loads_files_in_order_oneFile :
    (∃ after, loadFiles OneFile.table ["lib.json", "lib.json"] #[] =
      .ok [⟨"Lib", []⟩, ⟨"Lib", []⟩] after) ∧
    loadFiles OneFile.table ["lib.json", "gone.json", "lib.json"] #[] =
      .error (.unreadable "gone.json" .notFound) #[.catalogLoaded "lib.json" 1] := by
  obtain ⟨-, loads, fails, -⟩ := loads_files_in_order OneFile.table
  have single : HeldInOrder OneFile.table ["lib.json"] [("lib.json", OneFile.integrations)] :=
    .cons OneFile.heldBy .nil
  constructor
  · exact ⟨_, (loads _ _ _ _).mpr ⟨_, .cons OneFile.heldBy single, rfl, rfl⟩⟩
  · exact (fails _ _ _ _).mpr
      ⟨["lib.json"], "gone.json", ["lib.json"], _, rfl, single, .unreadable rfl, rfl⟩

end Catalog

end Detour.Rule
