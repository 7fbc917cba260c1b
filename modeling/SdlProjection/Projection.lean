import SdlProjection.Journal
import SdlProjection.Projection.Node

/-!
Contract: the projection of models and operations of a schema.

Owns: `Schema.project`, which fails on the first name that the table lacks,
`Schema.convert`, which looks up an operation by its signature, and
`wrapDocument`, which puts the keywords of a whole document before a node's
own. Also what is logged on the way.
-/

namespace SdlProjection

inductive ProjectionError where
  /-- No operation of the kind has that signature; the known ones are listed in order. -/
  | unknownOperation (kind : OperationKind) (name : String) (known : List String)
  | unresolvedReference (name : String)
deriving DecidableEq, Repr

def ProjectionError.message : ProjectionError → String
  | .unknownOperation kind name known =>
    "Unknown " ++ kind.name ++ " name \x60" ++ name ++ "\x60. Known " ++ kind.name ++
      " names: [" ++ ", ".intercalate known ++ "]"
  | .unresolvedReference name =>
    "Unable to resolve a reference to the type \x60" ++ name ++ "\x60"

/-- The node of a tree, or the first name in it that is not in the table. -/
def Expansion.toNode (tree : Expansion) : Except ProjectionError Json :=
  match tree.unresolved? with
  | some name => .error (.unresolvedReference name)
  | none => .ok tree.node

/-- A message for each reference that is cut off before the first unresolved one. -/
def Expansion.log (tree : Expansion) : List LogRecord :=
  (tree.stops.takeWhile fun stop => stop.unresolved?.isNone).map fun stop =>
    match stop with
    | .cutOff target =>
      ⟨.debug, "Not expanding recursive reference to \x60" ++ target ++ "\x60"⟩
    | .unresolved target => ⟨.debug, target⟩

namespace Schema

/-- The node of a model. -/
def project (schema : Schema) (model : TypeModel) : Except ProjectionError Json :=
  (schema.expand model).toNode

/-- The node of an operation. -/
def convert (schema : Schema) (kind : OperationKind) (name : String) :
    Except ProjectionError Json :=
  match (schema.operations.get kind).get? name with
  | some model => schema.project model
  | none => .error (.unknownOperation kind name (schema.operations.get kind).keys)

def projectLog (schema : Schema) (model : TypeModel) : List LogRecord :=
  (schema.expand model).log

def convertLog (schema : Schema) (kind : OperationKind) (name : String) : List LogRecord :=
  match (schema.operations.get kind).get? name with
  | some model =>
    ⟨.debug, "Projecting " ++ kind.name ++ " \x60" ++ name ++ "\x60"⟩ :: schema.projectLog model
  | none => []

end Schema

/-- The keywords before those of the node. -/
def documentHeader (title : String) : List (String × Json) :=
  [("$schema", .str "http://json-schema.org/draft-04/schema#"), ("title", .str title),
    ("description", .str "JSON schema converted from GraphQL schema.")]

/-- A node as a whole document. An entry of the node under a key of the header replaces the
header's value in its place; a node that is no object becomes the document's `items`. -/
def wrapDocument (title : String) (node : Json) : Json :=
  match node with
  | .obj entries => .obj (Entries.insertAll (documentHeader title) entries)
  | other => .obj (Entries.insert (documentHeader title) "items" other)

end SdlProjection
