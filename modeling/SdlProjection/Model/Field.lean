import SdlProjection.Line.Grammar
import SdlProjection.Model.ListSignature

/-!
Contract: field declarations, assembled to one text.

Owns: `Field.parse`, which reads `name[(args)]: Type [@directives]`. The key
is everything before the type clause, its argument list included as it is
written. Directives are cut off first; of them only the deprecation is kept.

Does not own: how a declaration is assembled from lines (`Fragment`).
-/

namespace SdlProjection

structure Field where
  deprecated : Bool
  key : String
  type : TypeModel

namespace Field

/-- Two fields with the same key and mark, and types that agree. -/
def agrees (left right : Field) : Bool :=
  left.deprecated == right.deprecated && left.key == right.key && left.type.agrees right.type

/-- The parenthesis depth after one more character. A closing parenthesis without an
opening one changes nothing. -/
def depthAfter (depth : Nat) (c : Char) : Nat :=
  if c = '(' then depth + 1 else if c = ')' then depth - 1 else depth

/-- What stands before the first `@` outside of parentheses that follows a colon outside
of parentheses. -/
def beforeDirectives (depth : Nat) (separated : Bool) : List Char → List Char
  | [] => []
  | c :: rest =>
    if c = '@' ∧ depth = 0 ∧ separated then []
    else
      c :: beforeDirectives (depthAfter depth c) (separated || (c == ':' && depth == 0)) rest

/-- The text up to and including the last closing parenthesis, with what follows it. -/
def splitArguments? : List Char → Option (List Char × List Char)
  | [] => none
  | c :: rest =>
    match splitArguments? rest with
    | some (arguments, after) => some (c :: arguments, after)
    | none => if c = ')' then some ([c], rest) else none

/-- Brackets around a name that may hold marks; each part may be missing. -/
def clauseForm : Pattern :=
  .parts [.many (.exactly '['),
    .optional (.seq (.one .nameStart) (.star (.alt (.one .namePart) (.one (.exactly '!'))))),
    .star (.alt (.one (.exactly ']')) (.one (.exactly '!')))]

/-- The argument list at the front of a text, empty unless a parenthesis opens it. It
stands on one line. -/
def arguments? (text : List Char) : Option (List Char × List Char) :=
  match text with
  | '(' :: _ =>
    match splitArguments? text with
    | some (arguments, after) => if arguments.contains '\n' then none else some (arguments, after)
    | none => none
  | _ => some ([], text)

/-- The type clause after the colon. -/
def clause? (text : List Char) : Option (List Char) :=
  match text.dropWhile Text.isBlank with
  | ':' :: rest =>
    let clause := Text.trim rest
    if clauseForm.accepts clause then some clause else none
  | _ => none

/-- The key and the type clause of a declaration without directives. -/
def split? (declaration : List Char) : Option (List Char × List Char) :=
  match Text.splitName? (declaration.dropWhile Text.isBlank) with
  | none => none
  | some (name, rest) =>
    match arguments? rest with
    | none => none
    | some (arguments, rest) => (clause? rest).map fun clause => (name ++ arguments, clause)

/-- The type a clause stands for, given what the grammar takes it for. -/
def clauseType (kind : FieldKind) (clause : List Char) : Except DeclarationError TypeModel :=
  let unmarked := Text.dropEndWhile (· == '!') clause
  match kind with
  | .scalar _ =>
    match ScalarKind.parse unmarked with
    | .ok scalar => .ok (.scalar scalar .nullable)
    | .error cause => .error cause
  | .list => ListSignature.parse clause
  | .reference => .ok (.reference (String.ofList unmarked) .nullable)

/-- The declaration without directives and surrounding blanks. -/
def essence (declaration : List Char) : List Char :=
  Text.trim (beforeDirectives 0 false declaration)

def parse (declaration : List Char) : Except DeclarationError Field :=
  let malformed := DeclarationError.malformedDeclaration (String.ofList declaration)
  match classifyField? (essence declaration), split? (essence declaration) with
  | some kind, some (key, clause) =>
    if clause.isEmpty then .error malformed
    else
      match clauseType kind clause with
      | .error cause => .error cause
      | .ok type =>
        .ok ⟨isDeprecated declaration, String.ofList key,
          if (nullabilityShape clause).outerNonNull then type.markNonNull else type⟩
  | _, _ => .error malformed

end Field

end SdlProjection
