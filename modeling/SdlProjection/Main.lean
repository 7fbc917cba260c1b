import SdlProjection.Command.Run

/-!
Contract: the program itself.

Owns: `main`, which reads what the paths of the command line lead to, runs the
subcommand on that, prints the text of its result and writes the file it
leaves, if any. It decides nothing about schemas.
-/

namespace SdlProjection

def usageText : String :=
  "Usage: sdl-projection [--verbose] <list|convert> [OPTIONS] <FILE_OR_DIR_PATHS>...\n\n" ++
    "  list      Lists the operations declared by a GraphQL schema.\n" ++
    "  convert   Projects one query, mutation or subscription into a JSON Schema document.\n"

/-- A line for the error output. Only warnings are shown unless more is asked for. -/
def LogRecord.line? (record : LogRecord) (verbose : Bool) : Option String :=
  match record.level with
  | .warn => some ("WARN " ++ record.message)
  | .debug => if verbose then some ("DEBUG " ++ record.message) else none
  | .trace => none

/-- The paths a subcommand reads from. -/
def Subcommand.paths : Subcommand → List String
  | .list inputs => inputs.paths
  | .convert conversion => conversion.inputs.paths

/-- The path a subcommand writes to. -/
def Subcommand.out? : Subcommand → Option String
  | .list _ => none
  | .convert conversion => conversion.out

/-- A link target that leads nowhere, since no entry has such a name. -/
def deadTarget : String := "/\x00"

/-- Adds an entry of a directory with all that is below it. A link is added with what it
leads to, unless that is there already. -/
partial def FileTree.addEntry (tree : FileTree) (entry : IO.FS.DirEntry) : IO FileTree := do
  let path := entry.path.toString
  match (← entry.path.symlinkMetadata).type with
  | .file => return tree.add path (.file (String.fromUTF8? (← IO.FS.readBinFile path)))
  | .dir =>
    let mut tree := tree.add path (.directory [])
    for inner in ← entry.path.readDir do
      tree ← tree.addEntry inner
    return tree
  | .symlink =>
    let target ← try IO.FS.realPath path catch _ => pure entry.path
    if target == entry.path then return tree.add path (.link deadTarget)
    let tree := tree.add path (.link target.toString)
    match target.parent, target.fileName with
    | some parent, some name =>
      if tree.pathExists target.toString then return tree else tree.addEntry ⟨parent, name⟩
    | _, _ => return tree
  | .other => return tree

/-- Adds what a path leads to, seen from the working directory. -/
def FileTree.addPath (tree : FileTree) (path : String) : IO FileTree := do
  let full := (← IO.currentDir) / path
  if ← full.pathExists then
    let real ← IO.FS.realPath full
    match real.parent, real.fileName with
    | some parent, some name => (tree.addParents (full / "x").toString).addEntry ⟨parent, name⟩
    | _, _ => return tree
  else return tree

/-- Adds the directory a file is to be written into, and the file's place if it is taken. -/
def FileTree.addTarget (tree : FileTree) (path : String) : IO FileTree := do
  let full := (← IO.currentDir) / path
  match full.parent with
  | none => return tree
  | some directory =>
    if ← directory.isDir then
      let prepared := tree.add directory.toString (.directory [])
      if ← full.isDir then return prepared.add full.toString (.directory [])
      else return prepared
    else return tree

end SdlProjection

open SdlProjection

def main (arguments : List String) : IO UInt32 := do
  match Invocation.parse arguments with
  | .error .help =>
    IO.print usageText
    return 0
  | .error .version =>
    IO.println "sdl-projection 0.1.0"
    return 0
  | .error _ =>
    IO.eprint usageText
    return 2
  | .ok ⟨none, _⟩ =>
    IO.print usageText
    return 0
  | .ok ⟨some subcommand, verbose⟩ =>
    let current := (← IO.currentDir).components.filter fun name => name != ""
    let mut tree := FileTree.startingAt current
    for path in subcommand.paths do
      tree ← tree.addPath path
    match subcommand.out? with
    | some path => tree ← tree.addTarget path
    | none => pure ()
    let outcome := subcommand.run tree
    for record in outcome.log do
      match record.line? verbose with
      | some line => IO.eprintln line
      | none => pure ()
    match outcome.result, subcommand.out? with
    | .ok _, some path =>
      match outcome.files.read path with
      | .ok written => IO.FS.writeFile path written
      | .error _ => pure ()
    | _, _ => pure ()
    let printed := outcome.printed
    for text in printed.stdout do
      IO.println text
    for text in printed.stderr do
      IO.eprintln text
    return if printed.exitCode = .success then 0 else 1
