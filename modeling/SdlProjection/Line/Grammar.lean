import SdlProjection.Line.Kind
import SdlProjection.Pattern

/-!
Contract: the line grammar, a table of patterns in order of priority.

Owns: `lineRules` and `nullabilityRules`, and what is read off them: the first
rule that matches decides. Three orders matter. A complete one-line block
description comes before the bare marker it also contains, and both before
the quoted description. The openers of the default root types come before
the general object opener. The rules of the built-in scalars come before
the reference rule, which would claim them too. Every line matches the last
rule.

Does not own: how the categories are put together to a schema
(`Fragment`), nor the parts of a declaration (`Model.Field`).
-/

namespace SdlProjection

open Pattern

/-- Parentheses and what lies between a first and a last one, within one line. -/
def argumentList : Pattern :=
  parts [word "(", inlineText, word ")"]

/-- Everything of a field declaration before its type: name, arguments, colon. -/
def fieldLead : Pattern :=
  parts [blanks, name, optional argumentList, blanks, word ":", blanks]

/-- Directives from the first `@` on, if any, and blanks up to the end. -/
def directiveTail : Pattern :=
  parts [blanks, optional (.seq (word "@") inlineText), blanks]

/-- A field whose type clause is the given bare name, with or without `!`. -/
def bareField (typeName : Pattern) : Pattern :=
  parts [fieldLead, typeName, optional (word "!"), directiveTail]

def scalarField (kind : ScalarKind) : LineKind × Pattern :=
  (.field (.scalar kind), bareField (word kind.keyword))

/-- An optional `extend` with one blank. -/
def extending : Pattern :=
  optional (.seq (word "extend") (.one .blank))

def rootBindingRule (operation : OperationKind) : LineKind × Pattern :=
  (.rootBinding operation,
    parts [blanks, word operation.name, blanks, word ":", inlineText])

def operationOpenerRule (operation : OperationKind) : LineKind × Pattern :=
  (.operationOpener operation,
    parts [blanks, extending, word "type", .one .blank, word operation.defaultRoot, blanks,
      word "\x7b", blanks])

/-- A keyword, blanks and a name, as most definitions start. -/
def definitionLead (keyword : String) : Pattern :=
  parts [blanks, word keyword, .one .blank, blanks, name]

/-- One member of a union on the line of its definition. -/
def inlineMember : Pattern :=
  parts [name, optional (.one .blank), optional (word "|"), optional (.one .blank)]

/-- A bracket, a second one perhaps, anything, and the closing brackets with their marks. -/
def listClause : Pattern :=
  parts [word "[", optional (word "["), inlineText, optional (word "!"), optional (word "]"),
    optional (word "!"), word "]", optional (word "!")]

/-- The categories of a line, in order of priority. -/
def lineRules : List (LineKind × Pattern) :=
  [ (.comment, parts [blanks, word "#", inlineText, blanks]),
    (.oneLineBlockDescription,
      parts [blanks, word "\"\"\"", inlineText, word "\"\"\"", blanks]),
    (.blockDescriptionMarker, parts [inlineText, word "\"\"\"", inlineText, blanks]),
    (.description, parts [blanks, word "\"", inlineText, word "\"", blanks]),
    (.schemaOpener, parts [blanks, extending, word "schema", blanks, word "\x7b", blanks]),
    rootBindingRule .query,
    rootBindingRule .mutation,
    rootBindingRule .subscription,
    operationOpenerRule .query,
    operationOpenerRule .mutation,
    operationOpenerRule .subscription,
    scalarField .int,
    scalarField .float,
    scalarField .string,
    scalarField .boolean,
    scalarField .id,
    (.field .reference, bareField (.seq (.one .namePart) (many .namePart))),
    (.objectOpener,
      parts [definitionLead "type", blanks, optional (.seq (word "implements") inlineText),
        blanks, optional (.seq (word "@") inlineText), word "\x7b", blanks]),
    (.scalarDefinition, parts [definitionLead "scalar", directiveTail]),
    (.unionDefinition,
      parts [definitionLead "union", blanks, word "=", blanks, .star inlineMember, blanks]),
    (.unionMember,
      parts [.seq (parts [blanks, word "|", blanks, name])
          (.star (parts [blanks, word "|", blanks, name])), blanks]),
    (.enumOpener, parts [definitionLead "enum", blanks, word "\x7b", blanks]),
    (.field .list, parts [fieldLead, listClause, directiveTail]),
    (.closingBrace, parts [blanks, word "\x7d", blanks]),
    (.unmatched, many .any) ]

/-- Anything, two opening brackets, anything and the given closing text. -/
def multiClause (closing : String) : Pattern :=
  parts [inlineText, word "[[", inlineText, word closing, blanks]

/-- Anything, an opening bracket, anything and the given closing text. -/
def singleClause (closing : String) : Pattern :=
  parts [inlineText, word "[", inlineText, word closing, blanks]

/-- The marked shapes of a type clause, in order of priority. -/
def nullabilityRules : List (NullabilityShape × Pattern) :=
  [ (.multiAll, multiClause "!]!]!"),
    (.multiInnerAndElement, multiClause "!]!]"),
    (.multiElement, multiClause "!]]"),
    (.multiInner, multiClause "]!]"),
    (.multiOuter, multiClause "]]!"),
    (.listAndElement, singleClause "!]!"),
    (.listElement, singleClause "!]"),
    (.list, singleClause "]!"),
    (.bare, parts [inlineText, word "!", blanks]) ]

/-- A `@deprecated` directive with a blank before it. -/
def deprecation : Pattern :=
  parts [inlineText, .one .blank, word "@deprecated", blanks, inlineText]

/-- The values of all rules whose pattern matches, in table order. -/
def matchingRules {α : Type} (rules : List (α × Pattern)) (line : List Char) : List α :=
  (rules.filter fun rule => rule.2.accepts line).map Prod.fst

/-- The value of the first rule whose pattern matches. -/
def firstRule? {α : Type} (rules : List (α × Pattern)) (line : List Char) : Option α :=
  (rules.find? fun rule => rule.2.accepts line).map Prod.fst

/-- The category of a line. -/
def classify (line : List Char) : LineKind :=
  (firstRule? lineRules line).getD .unmatched

/-- The category of a line that may be absent. -/
def classify? (line : Option (List Char)) : LineKind :=
  line.elim .unmatched classify

/-- The rules of the typed fields alone, so that no other rule can claim a field. -/
def fieldRules : List (FieldKind × Pattern) :=
  lineRules.filterMap fun rule => rule.1.fieldKind?.map fun kind => (kind, rule.2)

/-- What a field declaration's type clause names, if it is a field declaration. -/
def classifyField? (declaration : List Char) : Option FieldKind :=
  firstRule? fieldRules declaration

/-- Where a declaration's type clause is marked. -/
def nullabilityShape (declaration : List Char) : NullabilityShape :=
  (firstRule? nullabilityRules declaration).getD .unmarked

def isDeprecated (declaration : List Char) : Bool :=
  deprecation.accepts declaration

end SdlProjection
