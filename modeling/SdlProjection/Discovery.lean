import SdlProjection.FileTree.Walk
import SdlProjection.Journal
import SdlProjection.Text.Blank
import SdlProjection.Text.Lowercase
import SdlProjection.Text.Quoted

/-!
Contract: which files below a path are schema files.

Owns: the filter by extension, which ignores letter case, and `discover`: a
file stands for itself whatever its extension, a directory for the accepted
files in and below it in the order of the walk, and a path that leads nowhere
for no files. The first failure of the walk ends the search.
-/

namespace SdlProjection

inductive ExtensionFilter where
  | any
  /-- Lower-case extensions without a dot, in ascending order. -/
  | only (extensions : List String)
deriving DecidableEq, Repr

namespace ExtensionFilter

/-- The ascending list with one more text, unless it has it. -/
def insertSorted (text : String) : List String → List String
  | [] => [text]
  | first :: rest =>
    if text = first then first :: rest
    else if text < first then text :: first :: rest
    else first :: insertSorted text rest

/-- An extension as the filter keeps it. -/
def normalize (extension : String) : String :=
  String.ofList
    (Text.lowercase ((Text.trim extension.toList).dropWhile (· == '.')))

/-- The filter for the given extensions; empty ones are dropped. -/
def ofExtensions (extensions : List String) : ExtensionFilter :=
  .only (((extensions.map normalize).filter fun text => text != "").foldr insertSorted [])

def schemaFiles : ExtensionFilter := ofExtensions ["graphql", "graphqls"]

def accepts (filter : ExtensionFilter) (path : String) : Bool :=
  match filter with
  | .any => true
  | .only extensions =>
    match Path.extension? path with
    | some extension => extensions.contains (String.ofList (Text.lowercase extension.toList))
    | none => false

def describe : ExtensionFilter → String
  | .any => "any extension"
  | .only extensions =>
    ", ".intercalate (extensions.map fun text => "\x60." ++ text ++ "\x60")

end ExtensionFilter

/-- The walk below a root has failed. -/
structure DiscoveryError where
  root : String
  failure : WalkFailure
deriving DecidableEq, Repr

def DiscoveryError.message (error : DiscoveryError) : String :=
  "Failed to walk schema files at/under " ++ Text.quoted error.root ++ ": " ++
    error.failure.message

/-- The messages of the failures behind this one. -/
def DiscoveryError.causes (error : DiscoveryError) : List String :=
  error.failure.message :: error.failure.causes

/-- What is said about a path that was met. -/
def visitRecord (filter : ExtensionFilter) (visit : Visit) : LogRecord :=
  if !visit.isFile then ⟨.trace, "Skipping non-file: " ++ Text.quoted visit.path ++ "."⟩
  else if filter.accepts visit.path then
    ⟨.trace, "Found schema file at " ++ Text.quoted visit.path ++ "."⟩
  else
    ⟨.trace, "Skipping file not matching " ++ filter.describe ++ ": " ++
      Text.quoted visit.path ++ "."⟩

/-- The visits before the first failure, and that failure. -/
def splitVisits : List (Except WalkFailure Visit) → List Visit × Option WalkFailure
  | [] => ([], none)
  | .error failure :: _ => ([], some failure)
  | .ok visit :: rest =>
    let (visits, failure) := splitVisits rest
    (visit :: visits, failure)

/-- The schema files a path stands for, and the log of the search. -/
def discover (tree : FileTree) (root : String) (filter : ExtensionFilter) :
    Except DiscoveryError (List String) × List LogRecord :=
  if !tree.pathExists root then
    (.ok [], [⟨.debug, "Schema root " ++ Text.quoted root ++ " does not exist."⟩])
  else if tree.isFile root then (.ok [root], [])
  else
    let (visits, failure) := splitVisits (tree.walk root)
    let records := visits.map (visitRecord filter)
    match failure with
    | some failure => (.error ⟨root, failure⟩, records)
    | none =>
      let found := (visits.filter fun visit => visit.isFile && filter.accepts visit.path).map
        Visit.path
      (.ok found, records ++ [⟨.debug, "Found " ++ toString found.length ++
        " schema files under " ++ Text.quoted root ++ "."⟩])

end SdlProjection
