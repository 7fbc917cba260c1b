import SdlProjection.Text.Lines

/-!
Contract: paths as texts.

Owns: the pieces of a path between its slashes, joining a name to it, its
parent and extension, and when two paths are written alike. Empty pieces and
single dots mean nothing, except for a dot at the very start, which counts as
a piece of its own.

Does not own: what a path leads to (`FileTree`).
-/

namespace SdlProjection.Path

/-- What stands between the slashes. -/
def pieces (path : String) : List String :=
  (Text.split '/' path.toList).map String.ofList

def isAbsolute (path : String) : Bool :=
  path.toList.head? == some '/'

/-- The pieces that count. -/
def components (path : String) : List String :=
  match pieces path with
  | [] => []
  | first :: rest =>
    (if first = "" then [] else [first]) ++ rest.filter fun piece => piece != "" && piece != "."

/-- Two paths with the same components. -/
def same (left right : String) : Bool :=
  isAbsolute left == isAbsolute right && components left == components right

/-- The path of an entry of a directory. -/
def join (directory name : String) : String :=
  if directory.toList.getLast? = some '/' then directory ++ name else directory ++ "/" ++ name

/-- What is left of a reversed path when slashes and single dots at its end are dropped.
A dot that is all there is stays. -/
def dropIdleEnd : List Char → List Char
  | '/' :: rest => dropIdleEnd rest
  | '.' :: '/' :: rest => dropIdleEnd rest
  | rest => rest

/-- The path without its last piece; for a path of one piece, the empty path. -/
def parent (path : String) : String :=
  let reversed := path.toList.reverse
  match Text.after? '/' reversed with
  | none => ""
  | some rest =>
    match dropIdleEnd rest with
    | [] => if isAbsolute path then "/" else ""
    | kept => String.ofList kept.reverse

/-- The last component, unless it leads upward or is the dot at the start. -/
def fileName? (path : String) : Option String :=
  match (components path).getLast? with
  | some "." => none
  | some ".." => none
  | other => other

/-- What follows the last dot of the file name, if something stands before that dot. -/
def extension? (path : String) : Option String := do
  let reversed := (← fileName? path).toList.reverse
  match ← Text.after? '.' reversed with
  | [] => none
  | _ => some (String.ofList (Text.before '.' reversed).reverse)

end SdlProjection.Path
