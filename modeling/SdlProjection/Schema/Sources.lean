import SdlProjection.Discovery
import SdlProjection.Fragment

/-!
Contract: schemas read from texts, cursors, files and directories.

Owns: `Schema.readText`, `readCursor`, `readFiles` and `readPath`, and with
them the merging of fragments. Files are read in the given order; the root
bindings of earlier ones are in force in later ones. A file that cannot be
read counts as empty. Every function takes the journal so far and gives it
back with its own reports at the end.

Does not own: the reading of one fragment (`Fragment`).
-/

namespace SdlProjection

inductive ReadError where
  | declaration (error : FragmentError)
  | discovery (error : DiscoveryError)
deriving DecidableEq, Repr

namespace ReadError

def message : ReadError → String
  | .declaration error => error.message
  | .discovery error => error.message

/-- The messages of the failures behind this one. -/
def causes : ReadError → List String
  | .declaration error => [error.cause.message]
  | .discovery error => error.causes

end ReadError

/-- A cursor over the lines of a file, and what is said if it cannot be read. -/
def Cursor.load (tree : FileTree) (path : String) : Cursor × List LogRecord :=
  match tree.read path with
  | .ok text => (.ofFile path text.toList, [])
  | .error cause =>
    (.ofFile path [],
      [⟨.warn, "Unable to read schema file " ++ Text.quoted path ++ ": " ++ cause.message⟩])

namespace Schema

def readCursor (cursor : Cursor) (journal : Journal) : Except ReadError Schema × Journal :=
  match Fragment.parse cursor empty journal with
  | (.ok schema, journal) => (.ok schema, journal)
  | (.error error, journal) => (.error (.declaration error), journal)

def readText (text : String) (journal : Journal) : Except ReadError Schema × Journal :=
  readCursor (.ofText text.toList) journal

/-- Adds the files' fragments to a schema, one after the other. -/
def readInto (tree : FileTree) (schema : Schema) (journal : Journal) :
    List String → Except ReadError Schema × Journal
  | [] => (.ok schema, journal)
  | path :: rest =>
    let announced := journal.note .debug ("Parsing schema fragment " ++ Text.quoted path)
    let (cursor, records) := Cursor.load tree path
    match Fragment.parse cursor schema (announced.noteAll records) with
    | (.ok fragment, journal) => readInto tree (schema.merge fragment) journal rest
    | (.error error, journal) => (.error (.declaration error), journal)

def readFiles (tree : FileTree) (paths : List String) (journal : Journal) :
    Except ReadError Schema × Journal :=
  readInto tree empty journal paths

/-- The directory a path stands for: its own, or the one the file is in. -/
def rootDirectory (tree : FileTree) (path : String) : String :=
  if tree.isFile path then
    if Path.parent path = "" then "." else Path.parent path
  else path

/-- Every file in and below the directory a path stands for. -/
def readPath (tree : FileTree) (path : String) (journal : Journal) :
    Except ReadError Schema × Journal :=
  if !tree.pathExists path then
    (.ok empty,
      journal.note .debug ("Schema path " ++ Text.quoted path ++ " does not exist"))
  else
    match discover tree (rootDirectory tree path) .any with
    | (.ok paths, records) =>
      readFiles tree paths (journal.noteAll records)
    | (.error error, records) =>
      (.error (.discovery error), journal.noteAll records)

end Schema

end SdlProjection
