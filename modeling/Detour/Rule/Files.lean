import Detour.Event
import Detour.Rule.Document

/-!
# Catalog files

The catalog of a process is the concatenation of the catalogs of several files. Files are read in
order; the first one that cannot be read or parsed ends the loading, and nothing of the catalog is
kept. Every file that was read is noted in the log.
-/

namespace Detour.Rule

/-- Reading a file as text, by its path. -/
abbrev FileReader := String → Except FileFault String

/-- Loading rules, with the log so far. -/
abbrev Loading := EStateM CatalogError (Array Event)

/-- Reads a catalog document that comes from no file. -/
def Catalog.ofText (text : String) : Except CatalogError Catalog :=
  (Catalog.parse text).mapError .document

def Catalog.loadFile (files : FileReader) (path : String) : Loading Catalog :=
  match files path with
  | .error fault => throw (.unreadable path fault)
  | .ok text =>
    match Catalog.parse text with
    | .error error => throw (.unparsable path error)
    | .ok catalog => do
      modify (·.push (.catalogLoaded path catalog.length))
      return catalog

/-- Reads the catalogs in several files, one after the other. -/
def Catalog.loadFiles (files : FileReader) : List String → Loading Catalog
  | [] => return []
  | path :: paths => do
    let first ← Catalog.loadFile files path
    return first ++ (← Catalog.loadFiles files paths)

end Detour.Rule
