import SdlProjection.Model.TypeModel
import SdlProjection.Operation

/-!
Contract: what one or more fragments declare, taken together.

Owns: `Schema` and the ways to add to one. The three operation maps are keyed
by signature, the field's name with its argument list. The last write wins in
every map, within a fragment and when fragments are merged; a root binding of
a later fragment replaces an earlier one.

Does not own: how declarations are read (`Fragment`) or used (`Projection`).
-/

namespace SdlProjection

/-- One value for each kind of operation. -/
structure PerOperation (α : Type) where
  query : α
  mutation : α
  subscription : α
deriving DecidableEq, Repr

namespace PerOperation

variable {α : Type}

def all (value : α) : PerOperation α := ⟨value, value, value⟩

def get (values : PerOperation α) : OperationKind → α
  | .query => values.query
  | .mutation => values.mutation
  | .subscription => values.subscription

def set (values : PerOperation α) (kind : OperationKind) (value : α) : PerOperation α :=
  match kind with
  | .query => { values with query := value }
  | .mutation => { values with mutation := value }
  | .subscription => { values with subscription := value }

/-- Combines two values of each kind. -/
def zipWith {β γ : Type} (combine : α → β → γ) (left : PerOperation α) (right : PerOperation β) :
    PerOperation γ :=
  ⟨combine left.query right.query, combine left.mutation right.mutation,
    combine left.subscription right.subscription⟩

end PerOperation

structure Schema where
  operations : PerOperation (OrderedMap TypeModel)
  types : OrderedMap TypeModel
  unions : OrderedMap (List String)
  /-- The root type names that are bound explicitly. -/
  roots : PerOperation (Option String)

namespace Schema

def empty : Schema := ⟨.all .empty, .empty, .empty, .all none⟩

instance : Inhabited Schema := ⟨empty⟩

def addOperation (schema : Schema) (kind : OperationKind) (key : String) (type : TypeModel) :
    Schema :=
  { schema with
    operations := schema.operations.set kind ((schema.operations.get kind).insert key type) }

def addType (schema : Schema) (name : String) (type : TypeModel) : Schema :=
  { schema with types := schema.types.insert name type }

def addScalar (schema : Schema) (name : String) : Schema :=
  schema.addType name TypeModel.customScalar

def addUnion (schema : Schema) (name : String) (members : List String) : Schema :=
  { schema with unions := schema.unions.insert name members }

def bindRoot (schema : Schema) (kind : OperationKind) (name : String) : Schema :=
  { schema with roots := schema.roots.set kind (some name) }

/-- The effective root type name: the bound one, or else the default. -/
def rootName (schema : Schema) (kind : OperationKind) : String :=
  (schema.roots.get kind).getD kind.defaultRoot

/-- The kind whose root type has that name; of several, the first. -/
def rootKind? (schema : Schema) (name : String) : Option OperationKind :=
  OperationKind.all.find? fun kind => schema.rootName kind == name

/-- A schema that declares nothing but has another one's root bindings. -/
def inheriting (other : Schema) : Schema :=
  { empty with roots := other.roots }

/-- Nothing at all was declared. -/
def isEmpty (schema : Schema) : Bool :=
  schema.operations.query.entries.isEmpty && schema.operations.mutation.entries.isEmpty &&
    schema.operations.subscription.entries.isEmpty && schema.types.entries.isEmpty &&
    schema.unions.entries.isEmpty && schema.roots.query.isNone && schema.roots.mutation.isNone &&
    schema.roots.subscription.isNone

/-- Adds everything of the later schema, which wins where both have an entry. -/
def merge (schema later : Schema) : Schema where
  operations := schema.operations.zipWith (fun map more => map.insertAll more.entries)
    later.operations
  types := schema.types.insertAll later.types.entries
  unions := schema.unions.insertAll later.unions.entries
  roots := schema.roots.zipWith (fun name more => more.or name) later.roots

/-- The same declarations, up to the order of every map. -/
def agrees (left right : Schema) : Bool :=
  left.operations.query.agrees TypeModel.agrees right.operations.query &&
    left.operations.mutation.agrees TypeModel.agrees right.operations.mutation &&
    left.operations.subscription.agrees TypeModel.agrees right.operations.subscription &&
    left.types.agrees TypeModel.agrees right.types &&
    left.unions.agrees (· == ·) right.unions && left.roots == right.roots

end Schema

end SdlProjection
