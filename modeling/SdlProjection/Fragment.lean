import SdlProjection.Cursor
import SdlProjection.Journal
import SdlProjection.Line.Definition
import SdlProjection.Model.Field
import SdlProjection.Schema
import SdlProjection.Text.Quoted

/-!
Contract: reading one fragment, line by line.

Owns: `Fragment`, the state between two lines, and `Fragment.step`, which takes
one line into account. The state says which block is open, which declaration
of its body is being put together, and whether a block description is open.
`Fragment.finish` closes whatever is still open after the last line.

A line in a type body is stray if it starts no declaration: in an object body
it is reported and skipped, in an operation block it is taken for a
declaration, which then fails. The first declaration that fails ends the
fragment; the lines after it change nothing.

Does not own: the categories of lines (`Line.Grammar`), single declarations
(`Model.Field`) and the merging of fragments (`Schema.Sources`).
-/

namespace SdlProjection

/-- What the declarations of an open body are added to. -/
inductive Body where
  | object (name : String) (fields : List (String × TypeModel))
  | operations (kind : OperationKind)

/-- A declaration whose type is still to come. -/
structure Pending where
  /-- Its lines so far, trimmed. -/
  parts : List (List Char)
  /-- The depth of open parentheses. -/
  depth : Nat
  /-- The number of its last line. -/
  number : Nat

namespace Pending

/-- Before the first line of a declaration. -/
def nothing : Pending := ⟨[], 0, 0⟩

/-- What a line adds to the depth of parentheses, and whether it has a colon at depth zero. -/
def scan (depth : Nat) : List Char → Nat × Bool
  | [] => (depth, false)
  | c :: rest =>
    let (final, separated) := scan (Field.depthAfter depth c) rest
    (final, separated || (c == ':' && depth == 0))

/-- A declaration with one more line, and whether that line has the colon that completes
it. -/
def extend (pending : Pending) (line : List Char) (number : Nat) : Pending × Bool :=
  let (final, separated) := scan pending.depth line
  (⟨pending.parts ++ [line], final, number⟩, separated)

end Pending

inductive Block where
  | top
  | body (body : Body) (pending : Option Pending)
  | enumeration (name : String) (values : List String)
  | union (name : String) (members : List String)
  /-- A declaration has failed; the number is that of its last line. -/
  | failed (cause : DeclarationError) (number : Nat)

structure Fragment where
  schema : Schema
  block : Block
  /-- The parts of a block description that is still open. -/
  description : Option (List (List Char))
  journal : Journal

namespace Fragment

/-- Before the first line, with root bindings of earlier fragments in force. -/
def start (bindings : Schema) (journal : Journal) : Fragment :=
  ⟨Schema.inheriting bindings, .top, none, journal⟩

def note (fragment : Fragment) (level : LogLevel) (message : String) : Fragment :=
  { fragment with journal := fragment.journal.note level message }

/-- Records a line that was skipped; blank lines are not worth it. -/
def report (fragment : Fragment) (file : Option String) (number : Nat) (line : List Char) :
    Fragment :=
  if (Text.trim line).isEmpty then fragment
  else { fragment with journal := fragment.journal.report ⟨file, number, String.ofList line⟩ }

/-! Descriptions. -/

/-- The parts that are not empty. -/
def addPart (parts : List (List Char)) (part : List Char) : List (List Char) :=
  if part.isEmpty then parts else parts ++ [part]

def discardDescription (fragment : Fragment) (text : List Char) : Fragment :=
  { fragment with
    description := none,
    journal := fragment.journal.note .trace
      ("Discarding description: " ++ Text.quoted (String.ofList text)) }

/-- One more line of an open block description. -/
def describe (fragment : Fragment) (parts : List (List Char)) (line : List Char) : Fragment :=
  if classify (Text.trim line) = .blockDescriptionMarker then
    fragment.discardDescription (Text.joinSpaced (addPart parts (Line.blockClosing line)))
  else { fragment with description := some (addPart parts (Text.trim line)) }

/-- A comment or the start of a description, if the line is one. -/
def remark? (fragment : Fragment) (kind : LineKind) (line : List Char) : Option Fragment :=
  match kind with
  | .comment => some fragment
  | .oneLineBlockDescription | .description =>
    some (fragment.discardDescription (Line.descriptionText line))
  | .blockDescriptionMarker =>
    some { fragment with description := some (addPart [] (Line.blockOpening line)) }
  | _ => none

/-! Bodies of objects and operation blocks. -/

def deprecationNote (body : Body) (key : String) : String :=
  match body with
  | .object name _ => "Field \x60" ++ name ++ "." ++ key ++ "\x60 is deprecated"
  | .operations kind => "The \x60" ++ key ++ "\x60 " ++ kind.name ++ " is deprecated"

/-- A declaration is complete: its field is added to the body, or it fails. -/
def declare (fragment : Fragment) (body : Body) (declaration : List Char) (number : Nat) :
    Fragment :=
  match Field.parse declaration with
  | .error cause => { fragment with block := .failed cause number }
  | .ok field =>
    let noted :=
      if field.deprecated then fragment.note .debug (deprecationNote body field.key) else fragment
    match body with
    | .object name fields =>
      { noted with block := .body (.object name (Entries.insert fields field.key field.type)) none }
    | .operations kind =>
      { noted with
        schema := noted.schema.addOperation kind field.key field.type,
        block := .body body none }

/-- A line that belongs to a declaration; it completes it if it has the colon. -/
def continueDeclaration (fragment : Fragment) (body : Body) (pending : Option Pending)
    (line : List Char) (number : Nat) : Fragment :=
  let (extended, complete) := (pending.getD .nothing).extend line number
  if complete then fragment.declare body (Text.joinSpaced extended.parts) number
  else { fragment with block := .body body (some extended) }

/-- The declaration put together so far ends here, complete or not. -/
def endDeclaration (fragment : Fragment) (body : Body) : Option Pending → Fragment
  | none => fragment
  | some pending => fragment.declare body (Text.joinSpaced pending.parts) pending.number

/-- The end of the open block. -/
def close (fragment : Fragment) : Fragment :=
  match fragment.block with
  | .body (.object name fields) _ =>
    { fragment with
      schema := fragment.schema.addType name (.object fields .nullable), block := .top }
  | .body (.operations _) _ => { fragment with block := .top }
  | .enumeration name values =>
    { fragment with
      schema := fragment.schema.addType name (.enumeration values .nullable), block := .top }
  | .union name members =>
    { fragment with schema := fragment.schema.addUnion name members, block := .top }
  | .top | .failed _ _ => fragment

/-- One line of a body. -/
def bodyStep (fragment : Fragment) (file : Option String) (body : Body)
    (pending : Option Pending) (number : Nat) (untrimmed : List Char) : Fragment :=
  let line := Text.trim untrimmed
  let kind := classify line
  if kind = .closingBrace then (fragment.endDeclaration body pending).close
  else
    match fragment.remark? kind line with
    | some remarked => remarked
    | none =>
      if line.isEmpty then fragment
      else if pending.isNone ∧ kind = .unmatched ∧ line.contains '(' = false then
        match body with
        | .object _ _ => fragment.report file number line
        | .operations _ => fragment.declare body line number
      else fragment.continueDeclaration body pending line number

/-! Enums, unions and the lines between definitions. -/

/-- One line of an enum. -/
def enumStep (fragment : Fragment) (name : String) (values : List String) (line : List Char) :
    Fragment :=
  let kind := classify line
  if kind = .closingBrace then fragment.close
  else
    match fragment.remark? kind line with
    | some remarked => remarked
    | none =>
      let value := Line.enumValue line
      if Text.isName value then
        { fragment with block := .enumeration name (addDistinct values (String.ofList value)) }
      else if value.isEmpty then fragment
      else
        fragment.note .debug ("Skipping non-identifier line in enum \x60" ++ name ++ "\x60: " ++
          Text.quoted (String.ofList line))

/-- A root binding, wherever it stands between definitions. -/
def bind (fragment : Fragment) (kind : OperationKind) (line : List Char) : Fragment :=
  let target := Line.bindingTarget line
  { (fragment.note .trace (kind.name ++ " root type is bound to \x60" ++ target ++ "\x60")) with
    schema := fragment.schema.bindRoot kind target }

/-- One line between definitions. -/
def topStep (fragment : Fragment) (file : Option String) (number : Nat) (line : List Char) :
    Fragment :=
  let kind := classify line
  let noted := fragment.note .trace ("ln " ++ toString number ++ ": " ++ kind.label)
  match kind with
  | .comment | .oneLineBlockDescription | .blockDescriptionMarker | .description =>
    (noted.remark? kind line).getD noted
  | .schemaOpener | .closingBrace => noted
  | .rootBinding operation => noted.bind operation line
  | .operationOpener operation => { noted with block := .body (.operations operation) none }
  | .objectOpener =>
    let name := Line.definitionName "type" line
    match noted.schema.rootKind? name with
    | some operation => { noted with block := .body (.operations operation) none }
    | none => { noted with block := .body (.object name []) none }
  | .scalarDefinition =>
    { noted with schema := noted.schema.addScalar (Line.definitionName "scalar" line) }
  | .unionDefinition =>
    let (name, members) := Line.unionDefinition line
    { noted with block := .union name members }
  | .enumOpener => { noted with block := .enumeration (Line.definitionName "enum" line) [] }
  | .field _ | .unionMember | .unmatched => noted.report file number line

/-- One more line of the fragment. -/
def step (fragment : Fragment) (file : Option String) (line : List Char) (number : Nat) :
    Fragment :=
  match fragment.description with
  | some parts => fragment.describe parts line
  | none =>
    match fragment.block with
    | .top => fragment.topStep file number line
    | .body body pending => fragment.bodyStep file body pending number line
    | .enumeration name values => fragment.enumStep name values line
    | .union name members =>
      if classify line = .unionMember then
        { fragment with block := .union name (members ++ Line.unionMembers line) }
      else fragment.close.topStep file number line
    | .failed _ _ => fragment

/-- After the last line. -/
def finish (fragment : Fragment) : Fragment :=
  let described :=
    match fragment.description with
    | some parts => fragment.discardDescription (Text.joinSpaced parts)
    | none => fragment
  match described.block with
  | .body body pending => (described.endDeclaration body pending).close
  | _ => described.close

/-- All lines that are left to a cursor, in order. -/
def run (fragment : Fragment) (cursor : Cursor) : Fragment :=
  (cursor.numbered.foldl (fun state line => state.step cursor.file line.1 line.2) fragment).finish

end Fragment

/-- The first declaration that failed, and the line on which it ended. -/
structure FragmentError where
  file : Option String
  number : Nat
  cause : DeclarationError
deriving DecidableEq, Repr

def FragmentError.message (error : FragmentError) : String :=
  location error.file error.number ++ ": " ++ error.cause.message

/-- The schema a fragment declares, and the journal with what the reading adds to it. Of
the bindings, only the root type names matter. -/
def Fragment.parse (cursor : Cursor) (bindings : Schema) (journal : Journal) :
    Except FragmentError Schema × Journal :=
  let final := (Fragment.start bindings journal).run cursor
  match final.block with
  | .failed cause number => (.error ⟨cursor.file, number, cause⟩, final.journal)
  | _ => (.ok final.schema, final.journal)

end SdlProjection
