import SdlProjection.Json
import SdlProjection.Model.TypeModel

/-!
Contract: type models as JSON values.

Owns: the written form of a model. A model is an object of one entry, whose
key names the variant and whose value holds its parts under fixed keys in
alphabetical order.

Does not own: reading it back (`Model.Decoding`).
-/

namespace SdlProjection

def Nullability.encode : Nullability → Json
  | .nullable => .str "Nullable"
  | .nonNull => .str "NonNull"

def Dimensionality.encode : Dimensionality → Json
  | .single => .str "Single"
  | .multi => .str "Multi"

def ScalarKind.encode : ScalarKind → Json
  | .boolean => .str "Boolean"
  | .float => .str "Float"
  | .id => .str "Id"
  | .int => .str "Int"
  | .string => .str "String"

namespace TypeModel

mutual

def encode : TypeModel → Json
  | .enumeration values nullability =>
    .obj [("Enum", .obj [("nullability", nullability.encode),
      ("values", .arr (values.map .str))])]
  | .list dimensionality element inner nullability =>
    .obj [("List", .obj [("dimensionality", dimensionality.encode), ("element", encode element),
      ("inner_dimension_nullability", inner.encode), ("nullability", nullability.encode)])]
  | .object fields nullability =>
    .obj [("Object", .obj [("fields", .obj (encodeFields fields)),
      ("nullability", nullability.encode)])]
  | .reference target nullability =>
    .obj [("Reference", .obj [("nullability", nullability.encode), ("target_name", .str target)])]
  | .scalar kind nullability =>
    .obj [("Scalar", .obj [("kind", kind.encode), ("nullability", nullability.encode)])]
termination_by structural model => model

/-- The fields of an object, or any other entries of models. -/
def encodeFields : List (String × TypeModel) → List (String × Json)
  | [] => []
  | (key, type) :: rest => (key, encode type) :: encodeFields rest
termination_by structural fields => fields

end

end TypeModel

end SdlProjection
