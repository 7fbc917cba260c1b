import SdlProjection.Operation
import SdlProjection.Model.Scalar

/-!
Contract: the syntactic categories of a line.

Owns: `LineKind`, the categories of a whole line, `FieldKind`, those of a
field declaration's type clause, and `NullabilityShape`, the places at which
such a clause is marked with `!`. `LineKind.label` is the name a category
has in the parse trace.

Does not own: which line falls into which category (`Line.Grammar`).
-/

namespace SdlProjection

/-- What a field declaration's type clause names. -/
inductive FieldKind where
  | scalar (kind : ScalarKind)
  | reference
  | list
deriving DecidableEq, Repr

inductive LineKind where
  | comment
  /-- A block description that opens and closes on the one line. -/
  | oneLineBlockDescription
  /-- A line with a block description marker that is not complete by itself. -/
  | blockDescriptionMarker
  | description
  /-- The opener of a `schema` block, possibly an extension. -/
  | schemaOpener
  /-- A root binding such as `query: Root`. -/
  | rootBinding (operation : OperationKind)
  /-- The opener of the block of a default root type. -/
  | operationOpener (operation : OperationKind)
  | field (kind : FieldKind)
  | objectOpener
  | scalarDefinition
  | unionDefinition
  /-- A line of `| Member` parts that continues a union. -/
  | unionMember
  | enumOpener
  | closingBrace
  | unmatched
deriving DecidableEq, Repr

namespace LineKind

def fieldKind? : LineKind → Option FieldKind
  | .field kind => some kind
  | _ => none

/-- Lines that add nothing to the schema inside a type body. -/
def ignorableInBody : LineKind → Bool
  | .comment | .description | .oneLineBlockDescription | .blockDescriptionMarker
  | .unmatched => true
  | _ => false

def label : LineKind → String
  | .comment => "Comment"
  | .oneLineBlockDescription => "MultiLineDescriptionInOneLine"
  | .blockDescriptionMarker => "MultiLineDescriptionOpenOrClose"
  | .description => "SingleLineDescription"
  | .schemaOpener => "Schema"
  | .rootBinding .query => "SchemaQuery"
  | .rootBinding .mutation => "SchemaMutation"
  | .rootBinding .subscription => "SchemaSubscription"
  | .operationOpener .query => "Query"
  | .operationOpener .mutation => "Mutation"
  | .operationOpener .subscription => "Subscription"
  | .field (.scalar .int) => "FieldInt"
  | .field (.scalar .float) => "FieldFloat"
  | .field (.scalar .string) => "FieldString"
  | .field (.scalar .boolean) => "FieldBoolean"
  | .field (.scalar .id) => "FieldId"
  | .field .reference => "FieldReference"
  | .field .list => "FieldList"
  | .objectOpener => "ObjectDefinition"
  | .scalarDefinition => "ScalarDefinition"
  | .unionDefinition => "UnionDefinition"
  | .unionMember => "UnionMember"
  | .enumOpener => "EnumDefinition"
  | .closingBrace => "ClosingBrace"
  | .unmatched => "Unmatched"

end LineKind

/-- Where the `!` marks sit on a type clause. -/
inductive NullabilityShape where
  /-- Marks as in `[[T!]!]!`. -/
  | multiAll
  /-- Marks as in `[[T!]!]`. -/
  | multiInnerAndElement
  /-- Marks as in `[[T!]]`. -/
  | multiElement
  /-- Marks as in `[[T]!]`. -/
  | multiInner
  /-- Marks as in `[[T]]!`. -/
  | multiOuter
  /-- Marks as in `[T!]!`. -/
  | listAndElement
  /-- Marks as in `[T!]`. -/
  | listElement
  /-- Marks as in `[T]!`. -/
  | list
  /-- Marks as in `T!`. -/
  | bare
  /-- No mark at the end of the clause or of a bracket. -/
  | unmarked
deriving DecidableEq, Repr

/-- Whether the outermost type of the clause is marked. -/
def NullabilityShape.outerNonNull : NullabilityShape → Bool
  | .multiAll | .multiOuter | .listAndElement | .list | .bare => true
  | .multiInnerAndElement | .multiElement | .multiInner | .listElement | .unmarked => false

end SdlProjection
