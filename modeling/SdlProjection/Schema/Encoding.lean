import SdlProjection.Json.Printer
import SdlProjection.Model.Encoding
import SdlProjection.Schema

/-!
Contract: schemas as JSON values.

Owns: the written form of a schema, an object of its eight parts under fixed
keys in alphabetical order. A root type name that is not bound is `null`.

Does not own: reading it back (`Schema.Decoding`).
-/

namespace SdlProjection.Schema

def encodeName : Option String → Json
  | some name => .str name
  | none => .null

def encodeMembers (members : List String) : Json :=
  .arr (members.map .str)

def encodeModels (map : OrderedMap TypeModel) : Json :=
  .obj (TypeModel.encodeFields map.entries)

def encode (schema : Schema) : Json :=
  .obj [("mutation_type_name", encodeName schema.roots.mutation),
    ("mutations", encodeModels schema.operations.mutation),
    ("queries", encodeModels schema.operations.query),
    ("query_type_name", encodeName schema.roots.query),
    ("subscription_type_name", encodeName schema.roots.subscription),
    ("subscriptions", encodeModels schema.operations.subscription),
    ("types", encodeModels schema.types),
    ("unions", .obj (schema.unions.entries.map fun entry => (entry.1, encodeMembers entry.2)))]

/-- The compact text of a schema. -/
def serialize (schema : Schema) : String :=
  schema.encode.render false

end SdlProjection.Schema
