import SdlProjection.Entries
import SdlProjection.FileTree.Path

/-!
Contract: the files a run can see, as a value.

Owns: `FileTree`, the top directory with everything in it and the place of the
working directory, the way from a path to an entry, reading and writing. A
path is followed piece by piece, from the top if it starts with a slash and
from the working directory otherwise; a symbolic link in it is replaced by its
target, at most forty times. The top directory is its own parent.

A file whose bytes are not UTF-8 has no text.

Does not own: listing a directory with all that is below it
(`FileTree.Walk`).
-/

namespace SdlProjection

inductive IoError where
  | notFound
  | notDirectory
  | isDirectory
  | nameTooLong
  | tooManyLinks
  | notUtf8
  | nulInPath
deriving DecidableEq, Repr

def IoError.message : IoError → String
  | .notFound => "No such file or directory (os error 2)"
  | .notDirectory => "Not a directory (os error 20)"
  | .isDirectory => "Is a directory (os error 21)"
  | .nameTooLong => "File name too long (os error 36)"
  | .tooManyLinks => "Too many levels of symbolic links (os error 40)"
  | .notUtf8 => "stream did not contain valid UTF-8"
  | .nulInPath => "file name contained an unexpected NUL byte"

inductive FileNode where
  | file (text : Option String)
  | directory (entries : List (String × FileNode))
  | link (target : String)

/-- The names on the way from the top of a tree to an entry. -/
abbrev Location : Type := List String

structure FileTree where
  entries : List (String × FileNode)
  /-- The working directory. -/
  current : Location

/-- Where a path leads. -/
inductive Place where
  | entry (location : Location) (node : FileNode)
  /-- An entry that a directory does not have. -/
  | vacant (directory : Location) (name : String)

namespace FileTree

/-- The directories on the way to a location and nothing else. -/
def wayTo : Location → List (String × FileNode)
  | [] => []
  | name :: rest => [(name, .directory (wayTo rest))]

/-- The tree of an empty working directory. -/
def startingAt (current : Location) : FileTree := ⟨wayTo current, current⟩

/-- The entry at a location. -/
def nodeIn (entries : List (String × FileNode)) : Location → Option FileNode
  | [] => some (.directory entries)
  | name :: rest =>
    match Entries.get? entries name, rest with
    | some node, [] => some node
    | some (.directory inner), _ :: _ => nodeIn inner rest
    | _, _ => none

def node? (tree : FileTree) (location : Location) : Option FileNode :=
  nodeIn tree.entries location

/-- Puts an entry into a directory; the directories on the way are there already. -/
def putIn (entries : List (String × FileNode)) : Location → FileNode → List (String × FileNode)
  | [], _ => entries
  | [name], node => Entries.insert entries name node
  | name :: rest, node =>
    match Entries.get? entries name with
    | some (.directory inner) => Entries.insert entries name (.directory (putIn inner rest node))
    | _ => entries

def put (tree : FileTree) (location : Location) (node : FileNode) : FileTree :=
  { tree with entries := putIn tree.entries location node }

/-- How many symbolic links are followed on the way. -/
def linkLimit : Nat := 40

/-- The longest name of an entry and the longest path, in bytes. -/
def nameLimit : Nat := 255

def pathLimit : Nat := 4095

/-- What a path is followed for. -/
inductive Purpose where
  | look
  /-- To write a file there, which may not be there yet. -/
  | create
deriving DecidableEq

/-- Follows the pieces from a directory. -/
def follow (tree : FileTree) (purpose : Purpose) (links : Nat) (location : Location)
    (pieces : List String) : Except IoError Place :=
  match pieces with
  | [] =>
    match tree.node? location with
    | some node => .ok (.entry location node)
    | none => .error .notFound
  | piece :: rest =>
    if piece = "" ∨ piece = "." then follow tree purpose links location rest
    else if piece = ".." then follow tree purpose links location.dropLast rest
    else if purpose = .create ∧ rest ≠ [] ∧ rest.all (· == "") then .error .isDirectory
    else if nameLimit < piece.utf8ByteSize then .error .nameTooLong
    else
      match tree.node? (location ++ [piece]) with
      | none => if rest = [] then .ok (.vacant location piece) else .error .notFound
      | some (.directory _) => follow tree purpose links (location ++ [piece]) rest
      | some (.file text) =>
        if rest = [] then .ok (.entry (location ++ [piece]) (.file text))
        else .error .notDirectory
      | some (.link target) =>
        match links with
        | 0 => .error .tooManyLinks
        | links + 1 =>
          follow tree purpose links (if Path.isAbsolute target then [] else location)
            (Path.pieces target ++ rest)
termination_by (links, pieces.length)

/-- Where a path leads. -/
def place (tree : FileTree) (purpose : Purpose) (path : String) : Except IoError Place :=
  if path.toList.contains '\x00' then .error .nulInPath
  else if path = "" then .error .notFound
  else if pathLimit < path.utf8ByteSize then .error .nameTooLong
  else
    tree.follow purpose linkLimit (if Path.isAbsolute path then [] else tree.current)
      (Path.pieces path)

/-- The entry a path leads to. -/
def find (tree : FileTree) (path : String) : Except IoError Place :=
  match tree.place .look path with
  | .ok (.vacant _ _) => .error .notFound
  | other => other

/-- Whether a path leads anywhere. -/
def pathExists (tree : FileTree) (path : String) : Bool :=
  match tree.find path with
  | .ok _ => true
  | .error _ => false

/-- Whether a path leads to a file. -/
def isFile (tree : FileTree) (path : String) : Bool :=
  match tree.find path with
  | .ok (.entry _ (.file _)) => true
  | _ => false

/-- The text of a file. -/
def read (tree : FileTree) (path : String) : Except IoError String :=
  match tree.find path with
  | .error cause => .error cause
  | .ok (.entry _ (.file (some text))) => .ok text
  | .ok (.entry _ (.file none)) => .error .notUtf8
  | .ok (.entry _ (.link _)) | .ok (.vacant _ _) => .error .notFound
  | .ok (.entry _ (.directory _)) => .error .isDirectory

/-- The tree with an entry at a path, in the place of a file if there is one. A working directory
that is not there any more takes no entry. -/
def writeNode (tree : FileTree) (path : String) (node : FileNode) : Except IoError FileTree :=
  match tree.place .create path with
  | .error cause => .error cause
  | .ok (.vacant directory name) =>
    match tree.node? directory with
    | some (.directory _) => .ok (tree.put (directory ++ [name]) node)
    | _ => .error .notFound
  | .ok (.entry location (.file _)) => .ok (tree.put location node)
  | .ok (.entry _ (.directory _)) | .ok (.entry _ (.link _)) => .error .isDirectory

def write (tree : FileTree) (path : String) (text : String) : Except IoError FileTree :=
  tree.writeNode path (.file (some text))

/-- The tree with a directory at a path, unless there is an entry already. -/
def addDirectory (tree : FileTree) (path : String) : FileTree :=
  match tree.place .look path with
  | .ok (.vacant directory name) => tree.put (directory ++ [name]) (.directory [])
  | _ => tree

/-- The paths that lead to a path's directories, outermost first. -/
def directoriesOf (path : String) : List String :=
  let pieces := Path.pieces path
  (List.range (pieces.length - 1)).map fun count => "/".intercalate (pieces.take (count + 1))

/-- The tree with all directories on the way to a path. -/
def addParents (tree : FileTree) (path : String) : FileTree :=
  (directoriesOf path).foldl addDirectory tree

/-- The tree with one more entry and the directories on the way to it. -/
def add (tree : FileTree) (path : String) (node : FileNode) : FileTree :=
  let prepared := tree.addParents path
  match node with
  | .directory _ => prepared.addDirectory path
  | .file text => (prepared.writeNode path (.file text)).toOption.getD prepared
  | .link target =>
    match prepared.place .look path with
    | .ok (.vacant directory name) => prepared.put (directory ++ [name]) (.link target)
    | _ => prepared

end FileTree

end SdlProjection
