/-!
Contract: what a run reports besides its result.

Owns: `Diagnostic`, a line that was skipped, `LogRecord`, a message of some
severity, and `Journal`, which collects both in the order in which they arise.
-/

namespace SdlProjection

inductive LogLevel where
  | warn
  | debug
  | trace
deriving DecidableEq, Repr

structure LogRecord where
  level : LogLevel
  message : String
deriving DecidableEq, Repr

/-- A line that no rule of the grammar could place. -/
structure Diagnostic where
  file : Option String
  number : Nat
  line : String
deriving DecidableEq, Repr

/-- A line of a file, or of a text without one. -/
def location (file : Option String) (number : Nat) : String :=
  match file with
  | some path => path ++ ":" ++ toString number
  | none => "line " ++ toString number

def Diagnostic.message (diagnostic : Diagnostic) : String :=
  location diagnostic.file diagnostic.number ++ ": Unmatched line of text \x60" ++
    diagnostic.line ++ "\x60"

structure Journal where
  diagnostics : List Diagnostic
  log : List LogRecord
deriving DecidableEq, Repr

namespace Journal

def empty : Journal := ⟨[], []⟩

def note (journal : Journal) (level : LogLevel) (message : String) : Journal :=
  { journal with log := journal.log ++ [⟨level, message⟩] }

def noteAll (journal : Journal) (records : List LogRecord) : Journal :=
  { journal with log := journal.log ++ records }

/-- Records a skipped line, in the log too. -/
def report (journal : Journal) (diagnostic : Diagnostic) : Journal :=
  { (journal.note .debug diagnostic.message) with
    diagnostics := journal.diagnostics ++ [diagnostic] }

end Journal

end SdlProjection
