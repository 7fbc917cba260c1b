import SdlProjection.FileTree

/-!
Contract: all that is in and below a directory.

Owns: `FileTree.walk`, which lists a directory before its entries, the entries
in the order of their names, and follows symbolic links. A link that leads
nowhere, or back to a directory on the way to it, is a failure in its place.

Each link that is followed leads to a directory that is not yet on the way,
and between two links the way only goes down, so the number of directories
bounds the depth.
-/

namespace SdlProjection

inductive WalkFailure where
  | io (path : String) (cause : IoError)
  /-- A link to a directory that is on the way to it. -/
  | loop (path ancestor : String)
deriving DecidableEq, Repr

namespace WalkFailure

def message : WalkFailure → String
  | .io path cause => "IO error for operation on " ++ path ++ ": " ++ cause.message
  | .loop path ancestor =>
    "File system loop found: " ++ path ++ " points to an ancestor " ++ ancestor

/-- The messages of the failures behind this one. -/
def causes : WalkFailure → List String
  | .io _ cause => [cause.message]
  | .loop _ _ => []

end WalkFailure

/-- A path that was met, and whether it leads to a file. -/
structure Visit where
  path : String
  isFile : Bool
deriving DecidableEq, Repr

namespace FileTree

mutual

/-- The number of directories in and below an entry. -/
def countDirectories : FileNode → Nat
  | .directory entries => countInside entries + 1
  | .file _ | .link _ => 0
termination_by structural node => node

def countInside : List (String × FileNode) → Nat
  | [] => 0
  | (_, node) :: rest => countDirectories node + countInside rest
termination_by structural entries => entries

end

/-- The entries in the order of their names. -/
def sorted (entries : List (String × FileNode)) : List (String × FileNode) :=
  entries.mergeSort fun left right => decide (left.1 ≤ right.1)

/-- What is below a directory. The way to it holds the location and the path of each
directory, the innermost first. -/
def walkInside (tree : FileTree) (depth : Nat) (way : List (Location × String))
    (path : String) (location : Location) (entries : List (String × FileNode)) :
    List (Except WalkFailure Visit) :=
  match depth with
  | 0 => []
  | depth + 1 =>
    (sorted entries).flatMap fun entry =>
      let path := Path.join path entry.1
      match entry.2 with
      | .file _ => [.ok ⟨path, true⟩]
      | .directory inner =>
        let location := location ++ [entry.1]
        .ok ⟨path, false⟩ :: tree.walkInside depth ((location, path) :: way) path location inner
      | .link _ =>
        match tree.find path with
        | .error cause => [.error (.io path cause)]
        | .ok (.entry location (.directory inner)) =>
          match way.find? fun step => step.1 == location with
          | some step => [.error (.loop path step.2)]
          | none =>
            .ok ⟨path, false⟩ :: tree.walkInside depth ((location, path) :: way) path location inner
        | .ok (.entry _ _) | .ok (.vacant _ _) => [.ok ⟨path, true⟩]

/-- A directory and what is below it; for anything else, the path alone. -/
def walk (tree : FileTree) (root : String) : List (Except WalkFailure Visit) :=
  match tree.find root with
  | .error cause => [.error (.io root cause)]
  | .ok (.entry location (.directory entries)) =>
    let count := countInside tree.entries + 1
    .ok ⟨root, false⟩ ::
      tree.walkInside (count * (count + 1)) [(location, root)] root location entries
  | .ok (.entry _ _) | .ok (.vacant _ _) => [.ok ⟨root, true⟩]

end FileTree

end SdlProjection
