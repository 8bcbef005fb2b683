import FeedDesk.Catalog.Basic
import FeedDesk.Disk.Path

namespace FeedDesk

/-!
A disk held in memory: directories, texts, and catalogs. An empty text becomes a catalog when it is
opened as one, any other text cannot be opened.
-/

/-- Why a catalog cannot be opened. -/
inductive OpenFault
  /-- There is no file at the path and there cannot be one. -/
  | noFile
  /-- The file is something else. -/
  | noCatalog
  deriving DecidableEq

inductive DiskEntry
  | directory
  | text (content : Text)
  | catalog (catalog : Catalog)
  deriving DecidableEq

structure Disk where
  /-- Names on the way from the root to the directory in which paths are used. -/
  current : List Text
  /-- Entries by the names on the way to them; the root is always there. -/
  entries : List (List Text × DiskEntry) := []

namespace Disk

def entryAt? (disk : Disk) (names : List Text) : Option DiskEntry :=
  if names = [] then some .directory else disk.entries.lookup names

def entry? (disk : Disk) (path : Text) : Option DiskEntry :=
  disk.entryAt? (Path.names disk.current path)

/-- Puts an entry in the place of any other one. -/
def putAt (disk : Disk) (names : List Text) (entry : DiskEntry) : Disk :=
  { disk with entries := (names, entry) :: disk.entries.filter fun other => other.1 != names }

/-- Makes the directories on the way that are not there; a file on the way stops it. -/
def makeAt : (done : List Text) → List Text → Disk → Bool × Disk
  | _, [], disk => (true, disk)
  | done, name :: names, disk =>
    let place := done ++ [name]
    match disk.entryAt? place with
    | some .directory => makeAt place names disk
    | some _ => (false, disk)
    | none => makeAt place names (disk.putAt place .directory)

def makeDirectories (disk : Disk) (path : Text) : Bool × Disk :=
  makeAt [] (Path.names disk.current path) disk

/-- Writes a text and makes the directories on its way. -/
def write (disk : Disk) (path content : Text) : Disk :=
  let names := Path.names disk.current path
  (makeAt [] names.dropLast disk).2.putAt names (.text content)

def isFile (disk : Disk) (path : Text) : Bool :=
  match disk.entry? path with
  | some .directory => false
  | some _ => true
  | none => false

/-- The text of a file; a catalog is none. -/
def readText (disk : Disk) (path : Text) : Option Text :=
  match disk.entry? path with
  | some (.text content) => some content
  | _ => none

/-- The path by which a catalog is held in memory alone, and lost after use. -/
def isTransient (path : Text) : Bool :=
  path.isEmpty || path == ":memory:"

/-- Opens the catalog at a path, and begins an empty one where there is no file. -/
def openCatalog (disk : Disk) (path : Text) : Except OpenFault Catalog × Disk :=
  let names := Path.names disk.current path
  let begun := (.ok {}, disk.putAt names (.catalog {}))
  if isTransient path then (.ok {}, disk)
  else if path.getLast? = some '/' then (.error .noFile, disk)
  else
    match disk.entryAt? names with
    | some .directory => (.error .noFile, disk)
    | some (.catalog catalog) => (.ok catalog, disk)
    | some (.text content) => if content.isEmpty then begun else (.error .noCatalog, disk)
    | none =>
      match disk.entryAt? names.dropLast with
      | some .directory => begun
      | _ => (.error .noFile, disk)

/-- Keeps a catalog that was opened at a path. -/
def saveCatalog (disk : Disk) (path : Text) (catalog : Catalog) : Disk :=
  if isTransient path then disk
  else disk.putAt (Path.names disk.current path) (.catalog catalog)

end Disk
end FeedDesk
