import SdlProjection.Json
import SdlProjection.Projection.Expansion

/-!
Contract: the schema node an unfolded model becomes.

Owns: the `type` keyword of a model, a bare kind if the model is non-null and
the kind beside `null` otherwise; the node of a whole tree; and the effect of
a non-null reference on the node of its target, whose `type` it narrows to a
bare kind. A reference that was cut off has only the `type` of its target.

Does not own: which references are inlined (`Projection.Expansion`).
-/

namespace SdlProjection

/-- The value of the `type` keyword for a kind. -/
def kindDefinition (kind : String) : Nullability → Json
  | .nullable => .arr [.str kind, .str "null"]
  | .nonNull => .str kind

/-- The `type` keyword of a model; enums and references have none of their own. -/
def TypeModel.typeDefinition? : TypeModel → Option Json
  | .list _ _ _ nullability => some (kindDefinition "array" nullability)
  | .object _ nullability => some (kindDefinition "object" nullability)
  | .scalar kind nullability => some (kindDefinition kind.jsonType nullability)
  | .enumeration _ _ | .reference _ _ => none

def enumNode (values : List String) : Json :=
  .obj [("enum", .arr (values.map .str))]

/-- The node of a model without its fields, its items or the target of a reference. -/
def TypeModel.shallowNode (model : TypeModel) : Json :=
  match model with
  | .enumeration values _ => enumNode values
  | other =>
    match other.typeDefinition? with
    | some definition => .obj [("type", definition)]
    | none => .obj []

def isNullName (name : String) : Bool :=
  equalIgnoringCase "null".toList name.toList

/-- The last kind name of a `type` keyword that lists at least two, `null` left out. -/
def bareKind? : Json → Option String
  | .arr (first :: second :: rest) =>
    (((first :: second :: rest).filterMap Json.str?).filter fun name => !isNullName name).getLast?
  | _ => none

/-- A node whose `type` keyword is narrowed to a bare kind, if it lists several. -/
def narrowType (node : Json) : Json :=
  match node with
  | .obj entries =>
    match (Entries.get? entries "type").bind bareKind? with
    | some kind => .obj (Entries.insert entries "type" (.str kind))
    | none => node
  | other => other

/-- What the nullability of a reference makes of its target's node. -/
def referenceNode (nullability : Nullability) (node : Json) : Json :=
  match nullability with
  | .nullable => node
  | .nonNull => narrowType node

/-- The node of a list. The rows of a two-dimensional one have the list's own `type`. -/
def listNode (dimensionality : Dimensionality) (element : Json) (nullability : Nullability) :
    Json :=
  let definition := kindDefinition "array" nullability
  match dimensionality with
  | .single => .obj [("type", definition), ("items", element)]
  | .multi =>
    .obj [("type", definition), ("items", .obj [("type", definition), ("items", element)])]

namespace Expansion

mutual

/-- The node of a tree. An unresolved reference has no node of its own and stands for `null`. -/
def node : Expansion → Json
  | .enumeration values => enumNode values
  | .list dimensionality element nullability =>
    listNode dimensionality (node element) nullability
  | .object fields nullability =>
    .obj [("type", kindDefinition "object" nullability), ("properties", .obj (fieldNodes fields))]
  | .inlined _ content nullability => referenceNode nullability (node content)
  | .cutOff _ model nullability => referenceNode nullability model.shallowNode
  | .unresolved _ => .null
  | .scalar kind nullability => .obj [("type", kindDefinition kind.jsonType nullability)]
termination_by structural tree => tree

def fieldNodes : List (String × Expansion) → List (String × Json)
  | [] => []
  | (key, tree) :: rest => (key, node tree) :: fieldNodes rest
termination_by structural fields => fields

end

/-- A reference that was not inlined. -/
inductive Stop where
  | cutOff (target : String)
  | unresolved (target : String)
deriving DecidableEq, Repr

def Stop.unresolved? : Stop → Option String
  | .unresolved target => some target
  | .cutOff _ => none

mutual

/-- The references that were not inlined, in the order in which they are met. -/
def stops : Expansion → List Stop
  | .enumeration _ => []
  | .list _ element _ => stops element
  | .object fields _ => fieldStops fields
  | .inlined _ content _ => stops content
  | .cutOff target _ _ => [.cutOff target]
  | .unresolved target => [.unresolved target]
  | .scalar _ _ => []
termination_by structural tree => tree

def fieldStops : List (String × Expansion) → List Stop
  | [] => []
  | (_, tree) :: rest => stops tree ++ fieldStops rest
termination_by structural fields => fields

end

/-- The first name that is not in the table. -/
def unresolved? (tree : Expansion) : Option String :=
  tree.stops.findSome? Stop.unresolved?

end Expansion

end SdlProjection
