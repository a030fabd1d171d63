import Detour.Error

/-!
# Files in memory

A table of files and directories below a working directory. A path is followed component by
component; empty components and single points stay in place, double points go up. Nothing is known
of what lies outside the working directory, except that it is above it.
-/

namespace Detour.InMemory

inductive Node where
  | file (bytes : List UInt8)
  | directory
  deriving DecidableEq, Repr, Inhabited

/-- Files and directories with the components of their paths, in the order of their creation. -/
abbrev FileTable := List (List String × Node)

def pathComponents (path : String) : List String :=
  (path.toList.splitOn '/').map String.ofList

def staysInPlace (component : String) : Bool :=
  component.isEmpty || component == "."

/-- Where a path has led: to a place below the working directory, or out of it. -/
abbrev Place := Option (List String)

namespace Place

/-- Where a path starts: outside if it begins with a slash, otherwise in the working directory. -/
def start (path : String) : Place :=
  if path.toList.head? == some '/' then none else some []

/-- The place one component further from a directory below the working directory. -/
def next (place : List String) (component : String) : Place :=
  if staysInPlace component then some place
  else if component == ".." then (if place.isEmpty then none else some place.dropLast)
  else some (place ++ [component])

end Place

namespace FileTable

/-- What stands at a place. The working directory is always there. -/
def node? (table : FileTable) (place : List String) : Option Node :=
  if place.isEmpty then some .directory else table.reverse.lookup place

/-- The table with a directory at a place where nothing stands yet. -/
def makeDirectory (table : FileTable) (place : List String) : FileTable :=
  if (table.node? place).isSome then table else table ++ [(place, .directory)]

/-- Goes one component further on the way to a new file or directory. Every place that the way
leaves is made a directory if nothing is there, also where the way turns up again. -/
def makeWay : FileTable × Place → String → FileTable × Place
  | (table, none), _ => (table, none)
  | (table, some place), component => (table.makeDirectory place, Place.next place component)

/-- The table with a file or directory in the place of any other of the same path. Nothing is kept
of what is created outside the working directory. -/
def insert (table : FileTable) (path : String) (node : Node) : FileTable :=
  match (pathComponents path).foldl makeWay (table, Place.start path) with
  | (table, none) => table
  | (table, some place) => table ++ [(place, node)]

/-- Goes one component further from a place, which has to be a directory. -/
def enter (table : FileTable) (place : Place) (component : String) : Except FileFault Place :=
  match place with
  | none => if staysInPlace component || component == ".." then .ok none else .error .notFound
  | some path =>
    match table.node? path with
    | none => .error .notFound
    | some (.file _) => .error .notADirectory
    | some .directory => .ok (Place.next path component)

def follow (table : FileTable) (path : String) : Except FileFault Place :=
  if path.isEmpty then .error .notFound
  else (pathComponents path).foldlM table.enter (Place.start path)

def readBytes (table : FileTable) (path : String) : Except FileFault (List UInt8) := do
  match ← table.follow path with
  | none => throw .isDirectory
  | some place =>
    match table.node? place with
    | none => throw .notFound
    | some .directory => throw .isDirectory
    | some (.file bytes) => return bytes

def readText (table : FileTable) (path : String) : Except FileFault String := do
  match String.fromUTF8? ⟨(← table.readBytes path).toArray⟩ with
  | some text => return text
  | none => throw .notText

end FileTable

end Detour.InMemory
