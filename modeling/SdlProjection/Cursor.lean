import SdlProjection.FileTree.Path

/-!
Contract: a forward-only view over the lines of one fragment.

Owns: `Cursor`, which holds the lines it has passed and the lines that are
left. It starts before the first line and moves one line at a time, at most
to the end. The path tells where the lines come from and is kept unread.
`Cursor.Call` is what a cursor can be asked for, one call after another.

Does not own: reading files (`FileTree`).
-/

namespace SdlProjection

structure Cursor where
  file : Option String
  /-- The lines before the current one, the latest first. -/
  passed : List (List Char)
  /-- The current line and those after it. -/
  rest : List (List Char)
deriving DecidableEq, Repr

namespace Cursor

def ofLines (lines : List (List Char)) : Cursor := ⟨none, [], lines⟩

def ofText (text : List Char) : Cursor := ofLines (Text.lines text)

/-- A cursor over the lines of a file's text. -/
def ofFile (path : String) (text : List Char) : Cursor := ⟨some path, [], Text.lines text⟩

/-- All lines, passed or not. -/
def lines (cursor : Cursor) : List (List Char) :=
  cursor.passed.reverse ++ cursor.rest

def current? (cursor : Cursor) : Option (List Char) :=
  cursor.rest.head?

/-- The number of the current line; lines are counted from one. -/
def lineNumber (cursor : Cursor) : Nat :=
  cursor.passed.length + 1

def hasMore (cursor : Cursor) : Bool :=
  !cursor.rest.isEmpty

/-- The line after the current one. -/
def next? (cursor : Cursor) : Option (List Char) :=
  cursor.rest[1]?

def line? (cursor : Cursor) (number : Nat) : Option (List Char) :=
  match number with
  | 0 => none
  | index + 1 => cursor.lines[index]?

/-- Moves one line forward, unless all lines are passed. -/
def advance (cursor : Cursor) : Cursor :=
  match cursor.rest with
  | [] => cursor
  | line :: rest => { cursor with passed := line :: cursor.passed, rest := rest }

/-- The current line, and the cursor behind it. -/
def take (cursor : Cursor) : Option (List Char) × Cursor :=
  (cursor.current?, cursor.advance)

theorem length_rest_of_take {cursor behind : Cursor} {line : List Char}
    (taken : cursor.take = (some line, behind)) : behind.rest.length < cursor.rest.length := by
  obtain ⟨file, passed, rest⟩ := cursor
  cases rest with
  | nil => cases taken
  | cons first rest =>
      cases taken
      exact Nat.lt_succ_self rest.length

/-- Takes lines until there is none, and gives them with the cursor behind them. -/
def takeAll (cursor : Cursor) : List (List Char) × Cursor :=
  match _ : cursor.take with
  | (none, behind) => ([], behind)
  | (some line, behind) => (line :: behind.takeAll.1, behind.takeAll.2)
termination_by cursor.rest.length
decreasing_by
  all_goals exact length_rest_of_take ‹_›

/-- What a cursor can be asked for. -/
inductive Call where
  /-- To move on, and then for the line it stands on. -/
  | advance
  /-- For the line it stands on, and then to move on. -/
  | take
  | current
  | next
  | line (number : Nat)
deriving DecidableEq, Repr

/-- Whether the cursor is asked to move. -/
def Call.moves : Call → Bool
  | .advance | .take => true
  | .current | .next | .line _ => false

/-- The line that answers a call, if there is one, and the cursor after it. -/
def answer (cursor : Cursor) : Call → Option (List Char) × Cursor
  | .advance => (cursor.advance.current?, cursor.advance)
  | .take => cursor.take
  | .current => (cursor.current?, cursor)
  | .next => (cursor.next?, cursor)
  | .line number => (cursor.line? number, cursor)

/-- The cursor after some calls. -/
def afterCalls (cursor : Cursor) (calls : List Call) : Cursor :=
  calls.foldl (fun cursor call => (cursor.answer call).2) cursor

/-- The lines that are left, with their numbers. -/
def numbered (cursor : Cursor) : List (List Char × Nat) :=
  cursor.rest.zipIdx cursor.lineNumber

/-- The same lines at the same place, from files whose paths are written alike. -/
def agrees (left right : Cursor) : Bool :=
  left.passed == right.passed && left.rest == right.rest &&
    match left.file, right.file with
    | none, none => true
    | some path, some path' => Path.same path path'
    | _, _ => false

end Cursor

end SdlProjection
