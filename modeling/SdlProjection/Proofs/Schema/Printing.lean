import SdlProjection.Proofs.Fragment.Declaring
import SdlProjection.Proofs.Schema.Merging
import SdlProjection.Schema.Sources

/-!
Contract: writing a schema in the schema language.

Owns: `Schema.print`, one definition after the other, each in the order of its
map, and `Schema.Supported`, the schemas that can be written so.

Does not own: that the text is read back (`Proofs.Schema.RoundTrip`).
-/

namespace SdlProjection.Schema

variable (schema : Schema)

/-- The root types that are bound explicitly. -/
def bindings : List (OperationKind × String) :=
  OperationKind.all.filterMap fun kind => (schema.roots.get kind).map fun name => (kind, name)

def bindingBlock : List (List Char) :=
  if schema.bindings.isEmpty then []
  else blockLines "schema \x7b".toList
    (schema.bindings.map fun binding => bindingLine binding.1 binding.2.toList)

/-- The block of a root type, left out if there are no operations of its kind. -/
def operationBlock (kind : OperationKind) : List (List Char) :=
  if (schema.operations.get kind).entries.isEmpty then []
  else blockLines (opener "type" (schema.rootName kind).toList)
    ((schema.operations.get kind).entries.map fieldLine)

def typeBlock (entry : String × TypeModel) : List (List Char) :=
  match entry.2 with
  | .object fields _ => blockLines (opener "type" entry.1.toList) (fields.map fieldLine)
  | .enumeration values _ => blockLines (opener "enum" entry.1.toList) (values.map valueLine)
  | .scalar _ _ => [scalarLine entry.1.toList]
  | .list _ _ _ _ | .reference _ _ => []

def unionBlock (entry : String × List String) : List (List Char) :=
  [unionLine entry.1.toList (entry.2.map String.toList)]

def printedLines : List (List Char) :=
  schema.bindingBlock ++ (OperationKind.all.flatMap schema.operationBlock ++
    (schema.types.entries.flatMap typeBlock ++ schema.unions.entries.flatMap unionBlock))

/-- The schema in the schema language. -/
def print : String :=
  String.ofList (Text.joinLines schema.printedLines)

/-- The types that a definition can give a name to. The block of an object must not be taken for
that of a root type. -/
inductive Definable (name : String) : TypeModel → Prop
  | object {fields : Entries TypeModel} : (∀ kind, name ≠ schema.rootName kind) →
      (∀ kind : OperationKind, name ≠ kind.defaultRoot) → fields.keys.Nodup →
      (∀ field ∈ fields, IsField field) → Definable name (.object fields .nullable)
  | enumeration {values : List String} : (∀ value ∈ values, Text.isName value.toList = true) →
      values.Nodup → Definable name (.enumeration values .nullable)
  | scalar : Definable name (.scalar .string .nullable)

/-- The schemas that the language can express, up to the way they are written. -/
structure Supported : Prop where
  rootsNamed : ∀ kind name, schema.roots.get kind = some name → Text.isName name.toList = true
  rootsDistinct : ∀ kind other, schema.rootName kind = schema.rootName other → kind = other
  defaultsKept : ∀ kind other, schema.roots.get kind = some other.defaultRoot → kind = other
  operations : ∀ kind, ∀ field ∈ (schema.operations.get kind).entries, IsField field
  types : ∀ entry ∈ schema.types.entries,
    Text.isName entry.1.toList = true ∧ schema.Definable entry.1 entry.2
  unions : ∀ entry ∈ schema.unions.entries,
    Text.isName entry.1.toList = true ∧ ∀ member ∈ entry.2, Text.isName member.toList = true

end SdlProjection.Schema
