import SdlProjection.Proofs.Entries
import SdlProjection.Schema

/-!
Contract: merging a schema that grows.

Owns: that an addition to the later schema may as well be made after merging
it, for each way to add to a schema, and that a schema with nothing but the
earlier one's root bindings changes nothing.
-/

namespace SdlProjection

namespace PerOperation

variable {α β γ : Type}

@[simp]
theorem get_zipWith (combine : α → β → γ) (left : PerOperation α) (right : PerOperation β)
    (kind : OperationKind) :
    (left.zipWith combine right).get kind = combine (left.get kind) (right.get kind) := by
  cases kind <;> rfl

theorem get_set (values : PerOperation α) (kind other : OperationKind) (value : α) :
    (values.set kind value).get other = if kind = other then value else values.get other := by
  cases kind <;> cases other <;> rfl

/-- Setting a value of the right side sets the combination. -/
theorem zipWith_set {combine : α → β → γ} {left : PerOperation α} {right : PerOperation β}
    {kind : OperationKind} {value : β} :
    left.zipWith combine (right.set kind value) =
      (left.zipWith combine right).set kind (combine (left.get kind) value) := by
  cases kind <;> rfl

end PerOperation

namespace Schema

variable (schema later : Schema)

theorem merge_addOperation (kind : OperationKind) (key : String) (type : TypeModel) :
    schema.merge (later.addOperation kind key type) =
      (schema.merge later).addOperation kind key type := by
  simp only [merge, addOperation, PerOperation.zipWith_set, PerOperation.get_zipWith,
    OrderedMap.insertAll_insert]

theorem merge_addType (name : String) (type : TypeModel) :
    schema.merge (later.addType name type) = (schema.merge later).addType name type := by
  simp only [merge, addType, OrderedMap.insertAll_insert]

theorem merge_addUnion (name : String) (members : List String) :
    schema.merge (later.addUnion name members) = (schema.merge later).addUnion name members := by
  simp only [merge, addUnion, OrderedMap.insertAll_insert]

theorem merge_bindRoot (kind : OperationKind) (name : String) :
    schema.merge (later.bindRoot kind name) = (schema.merge later).bindRoot kind name := by
  simp only [merge, bindRoot, PerOperation.zipWith_set, Option.some_or]

theorem merge_inheriting : schema.merge (inheriting schema) = schema := by
  obtain ⟨operations, types, unions, ⟨query, mutation, subscription⟩⟩ := schema
  simp only [merge, inheriting, empty, PerOperation.zipWith, Option.or_self]
  rfl

/-- Which kind a root type name stands for is a matter of the bindings alone. -/
theorem rootKind?_congr {left right : Schema} (same : left.roots = right.roots) (name : String) :
    left.rootKind? name = right.rootKind? name := by
  simp only [rootKind?, rootName, same]

end Schema

end SdlProjection
