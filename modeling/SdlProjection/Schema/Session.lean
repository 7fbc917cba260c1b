import SdlProjection.Schema.Sources

/-!
Contract: one parser that is used again and again.

Owns: `Input`, what a parser can be given to read, and `Request`, which may also be
to hand out what was reported so far. The journal is all that a parser keeps from
one request to the next; handing out empties its diagnostics.

Does not own: the reading itself (`Schema.Sources`).
-/

namespace SdlProjection

inductive Input where
  | text (content : String)
  | lines (cursor : Cursor)
  | files (tree : FileTree) (paths : List String)
  | path (tree : FileTree) (root : String)

namespace Input

def read : Input → Journal → Except ReadError Schema × Journal
  | .text content => Schema.readText content
  | .lines cursor => Schema.readCursor cursor
  | .files tree paths => Schema.readFiles tree paths
  | .path tree root => Schema.readPath tree root

/-- The schema or the error that a fresh parser gives. -/
def result (input : Input) : Except ReadError Schema :=
  (input.read .empty).1

/-- What a fresh parser reports. -/
def recorded (input : Input) : List Diagnostic :=
  (input.read .empty).2.diagnostics

end Input

/-- The diagnostics, and the journal without them. -/
def Journal.drain (journal : Journal) : List Diagnostic × Journal :=
  (journal.diagnostics, { journal with diagnostics := [] })

inductive Request where
  | read (input : Input)
  | drain

namespace Request

/-- What is left in the journal. -/
def serve (journal : Journal) : Request → Journal
  | .read input => (input.read journal).2
  | .drain => journal.drain.2

/-- What a parser has in its journal after some requests. -/
def serveAll (requests : List Request) : Journal :=
  requests.foldl serve .empty

/-- The inputs of which the diagnostics are still there. -/
def gather (inputs : List Input) : Request → List Input
  | .read input => inputs ++ [input]
  | .drain => []

/-- What was read since the diagnostics were last handed out. -/
def sinceDrain (requests : List Request) : List Input :=
  requests.foldl gather []

end Request

end SdlProjection
