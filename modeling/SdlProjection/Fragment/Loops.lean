import SdlProjection.Fragment

/-!
Contract: the same reading as nested loops over one cursor.

Owns: `loop`, which repeats a pass until one of them leaves, and one pass for
each loop of the reading: between definitions, over the declarations of a body,
over the lines of one declaration, over an enum, a union and a block
description. `Reader.readAll` is the outermost loop.

No loop says itself that it comes to an end. Each is given an allowance of
passes, the same for all of them, and has no result if it needs more.

A declaration that is still open at a closing brace ends there, and the brace
is left for the pass after it.

Does not own: what a declaration says (`Model.Field`), which allowance is
enough, and that all this is what `Fragment.parse` does
(`Proofs.Fragment.Termination`).
-/

namespace SdlProjection

/-- What one pass through the body of a loop leads to. -/
inductive Pass (σ ρ : Type) where
  /-- On with the loop. -/
  | again (state : σ)
  /-- Out of the loop. -/
  | leave (result : ρ)

/-- Repeats a pass, from a state on, until one leaves the loop. There is no result if a pass
has none, or if more passes are needed than allowed. -/
def loop {σ ρ : Type} (pass : σ → Option (Pass σ ρ)) : Nat → σ → Option ρ
  | 0, _ => none
  | allowance + 1, state =>
    match pass state with
    | some (.again next) => loop pass allowance next
    | some (.leave result) => some result
    | none => none

/-- What a reading has come to between two lines. -/
structure Reader where
  cursor : Cursor
  schema : Schema
  journal : Journal

namespace Reader

/-- Before the first line, with root bindings of earlier fragments in force. -/
def start (cursor : Cursor) (bindings : Schema) (journal : Journal) : Reader :=
  ⟨cursor, Schema.inheriting bindings, journal⟩

def advance (reader : Reader) : Reader :=
  { reader with cursor := reader.cursor.advance }

def note (reader : Reader) (level : LogLevel) (message : String) : Reader :=
  { reader with journal := reader.journal.note level message }

/-- Passes over a line that no rule of the grammar could place. -/
def skipUnmatched (reader : Reader) (line : List Char) : Reader :=
  if (Text.trim line).isEmpty then reader.advance
  else
    { reader.advance with
      journal := reader.journal.report
        ⟨reader.cursor.file, reader.cursor.lineNumber, String.ofList line⟩ }

/-! Comments and descriptions. -/

/-- One more line of a block description, with its parts so far. -/
def descriptionPass :
    Cursor × List (List Char) → Option (Pass (Cursor × List (List Char)) (Cursor × List Char))
  | (cursor, parts) =>
    match cursor.take with
    | (none, behind) => some (.leave (behind, Text.joinSpaced parts))
    | (some line, behind) =>
      if classify (Text.trim line) = .blockDescriptionMarker then
        some (.leave
          (behind, Text.joinSpaced (Fragment.addPart parts (Line.blockClosing line))))
      else some (.again (behind, Fragment.addPart parts (Text.trim line)))

section Loops

variable (allowance : Nat)

/-- The text of the block description that the current line opens. -/
def readBlockDescription (cursor : Cursor) : Option (Cursor × List Char) :=
  match cursor.take with
  | (none, behind) => some (behind, [])
  | (some opener, behind) =>
    loop descriptionPass allowance (behind, Fragment.addPart [] (Line.blockOpening opener))

/-- The text of the description that the current line is. -/
def readDescription (cursor : Cursor) : Cursor × List Char :=
  match cursor.take with
  | (none, behind) => (behind, [])
  | (some line, behind) => (behind, Line.descriptionText line)

/-- Goes on behind a description. -/
def discard (reader : Reader) (description : Cursor × List Char) : Reader :=
  { reader.note .trace ("Discarding description: " ++ Text.quoted (String.ofList description.2))
    with cursor := description.1 }

/-- The category of a line that opens a comment or a description. -/
def isRemark : LineKind → Bool
  | .comment | .oneLineBlockDescription | .description | .blockDescriptionMarker => true
  | _ => false

/-- Passes over the comment or description under the cursor. -/
def skipRemark (reader : Reader) (kind : LineKind) : Option Reader :=
  match kind with
  | .blockDescriptionMarker => (readBlockDescription allowance reader.cursor).map reader.discard
  | .oneLineBlockDescription | .description =>
    some (reader.discard (readDescription reader.cursor))
  | _ => some reader.advance

/-! Bodies of objects and operation blocks. -/

/-- The text of a declaration and the number of its last line. -/
abbrev Declaration : Type := List Char × Nat

/-- The declaration whose lines have been put together. -/
def assembled (pending : Pending) : Declaration :=
  (Text.joinSpaced pending.parts, pending.number)

/-- One line of a body, before or in a declaration. -/
def declarationPass (body : Body) :
    Reader × Option Pending →
      Option (Pass (Reader × Option Pending) (Reader × Option Declaration))
  | (reader, pending) =>
    match reader.cursor.current? with
    | none => some (.leave (reader, pending.map assembled))
    | some untrimmed =>
      let line := Text.trim untrimmed
      let kind := classify line
      if kind = .closingBrace then
        match pending with
        | none => some (.leave (reader.advance, none))
        | some pending => some (.leave (reader, some (assembled pending)))
      else if isRemark kind then
        (reader.skipRemark allowance kind).map fun behind => .again (behind, pending)
      else if line.isEmpty then some (.again (reader.advance, pending))
      else if pending.isNone ∧ kind = .unmatched ∧ line.contains '(' = false then
        match body with
        | .object _ _ => some (.again (reader.skipUnmatched line, pending))
        | .operations _ => some (.leave (reader.advance, some (line, reader.cursor.lineNumber)))
      else
        let (extended, complete) := (pending.getD .nothing).extend line reader.cursor.lineNumber
        if complete then some (.leave (reader.advance, some (assembled extended)))
        else some (.again (reader.advance, some extended))

/-- The next declaration of a body; none if the closing brace or the end comes first. -/
def nextDeclaration (body : Body) (reader : Reader) : Option (Reader × Option Declaration) :=
  loop (declarationPass allowance body) allowance (reader, none)

/-- Adds the field of a declaration to the body it stands in. -/
def addField (reader : Reader) (body : Body) (field : Field) : Reader × Body :=
  let noted :=
    if field.deprecated then reader.note .debug (Fragment.deprecationNote body field.key)
    else reader
  match body with
  | .object name fields =>
    (noted, .object name (Entries.insert fields field.key field.type))
  | .operations kind =>
    ({ noted with schema := noted.schema.addOperation kind field.key field.type }, body)

/-- Adds what a body has come to when it ends. -/
def endBody (reader : Reader) : Body → Reader
  | .object name fields =>
    { reader with schema := reader.schema.addType name (.object fields .nullable) }
  | .operations _ => reader

/-- What became of a block: nothing is to be said, or a declaration of it has failed. -/
abbrev Outcome : Type := Except FragmentError Unit × Reader

/-- One declaration of a body. -/
def bodyPass : Reader × Body → Option (Pass (Reader × Body) Outcome)
  | (reader, body) =>
    (nextDeclaration allowance body reader).map fun
      | (behind, none) => .leave (.ok (), behind.endBody body)
      | (behind, some (text, number)) =>
        match Field.parse text with
        | .error cause => .leave (.error ⟨behind.cursor.file, number, cause⟩, behind)
        | .ok field => .again (behind.addField body field)

/-- The block whose opener is the current line. -/
def readBody (reader : Reader) (body : Body) : Option Outcome :=
  loop (bodyPass allowance) allowance (reader.advance, body)

/-! Enums and unions. -/

/-- One line of an enum, with its values so far. -/
def enumPass (name : String) :
    Reader × List String → Option (Pass (Reader × List String) (Reader × List String))
  | (reader, values) =>
    match reader.cursor.current? with
    | none => some (.leave (reader, values))
    | some line =>
      let kind := classify line
      if kind = .closingBrace then some (.leave (reader.advance, values))
      else if isRemark kind then
        (reader.skipRemark allowance kind).map fun behind => .again (behind, values)
      else
        let value := Line.enumValue line
        if Text.isName value then
          some (.again (reader.advance, addDistinct values (String.ofList value)))
        else if value.isEmpty then some (.again (reader.advance, values))
        else
          some (.again (reader.advance.note .debug
            ("Skipping non-identifier line in enum \x60" ++ name ++ "\x60: " ++
              Text.quoted (String.ofList line)), values))

/-- The enum whose opener is the current line. -/
def readEnum (reader : Reader) (opener : List Char) : Option Reader :=
  let name := Line.definitionName "enum" opener
  (loop (enumPass allowance name) allowance (reader.advance, [])).map fun (behind, values) =>
    { behind with schema := behind.schema.addType name (.enumeration values .nullable) }

/-- One line that may continue a union, with its members so far. -/
def unionPass :
    Reader × List String → Option (Pass (Reader × List String) (Reader × List String))
  | (reader, members) =>
    match reader.cursor.current? with
    | none => some (.leave (reader, members))
    | some line =>
      if classify line = .unionMember then
        some (.again (reader.advance, members ++ Line.unionMembers line))
      else some (.leave (reader, members))

/-- The union that the current line defines. -/
def readUnion (reader : Reader) (opener : List Char) : Option Reader :=
  let (name, members) := Line.unionDefinition opener
  (loop unionPass allowance (reader.advance, members)).map fun (behind, members) =>
    { behind with schema := behind.schema.addUnion name members }

/-! Between definitions. -/

/-- Notes the category of the current line. -/
def trace (reader : Reader) (kind : LineKind) : Reader :=
  reader.note .trace ("ln " ++ toString reader.cursor.lineNumber ++ ": " ++ kind.label)

def readBinding (reader : Reader) (kind : OperationKind) (line : List Char) : Reader :=
  let target := Line.bindingTarget line
  let noted :=
    reader.note .trace (kind.name ++ " root type is bound to \x60" ++ target ++ "\x60")
  { noted.advance with schema := noted.schema.bindRoot kind target }

/-- The result of a whole reading, and where it ended. -/
abbrev Reading : Type := Except FragmentError Schema × Reader

/-- A failure within a block ends the reading. -/
def afterBlock : Outcome → Pass Reader Reading
  | (.ok (), behind) => .again behind
  | (.error error, behind) => .leave (.error error, behind)

/-- One definition, or one line between definitions. -/
def topPass (reader : Reader) : Option (Pass Reader Reading) :=
  match reader.cursor.current? with
  | none => some (.leave (.ok reader.schema, reader))
  | some line =>
    let kind := classify line
    let noted := reader.trace kind
    match kind with
    | .comment | .oneLineBlockDescription | .blockDescriptionMarker | .description =>
      (noted.skipRemark allowance kind).map .again
    | .schemaOpener | .closingBrace => some (.again noted.advance)
    | .rootBinding operation => some (.again (noted.readBinding operation line))
    | .operationOpener operation =>
      (noted.readBody allowance (.operations operation)).map afterBlock
    | .objectOpener =>
      let name := Line.definitionName "type" line
      match noted.schema.rootKind? name with
      | some operation => (noted.readBody allowance (.operations operation)).map afterBlock
      | none => (noted.readBody allowance (.object name [])).map afterBlock
    | .scalarDefinition =>
      some (.again
        { noted.advance with
          schema := noted.schema.addScalar (Line.definitionName "scalar" line) })
    | .unionDefinition => (noted.readUnion allowance line).map .again
    | .enumOpener => (noted.readEnum allowance line).map .again
    | .field _ | .unionMember | .unmatched => some (.again (noted.skipUnmatched line))

/-- Everything that is left of a fragment. -/
def readAll (reader : Reader) : Option Reading :=
  loop (topPass allowance) allowance reader

end Loops

end Reader

end SdlProjection
