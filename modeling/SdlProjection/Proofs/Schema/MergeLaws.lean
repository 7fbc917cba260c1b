import SdlProjection.Proofs.Schema.Merging

/-!
Contract: merging as an operation on whole schemas.

Owns: that merging is associative, that the empty schema is neutral and a schema
merged with itself stays as it is, and what a merged schema has: each of its five
maps is the later one laid over the earlier, and the later binding of a root
decides, if there is one.

Does not own: a schema that grows while it is merged (`Proofs.Schema.Merging`).
-/

namespace SdlProjection

namespace PerOperation

variable {α : Type} {combine : α → α → α}

theorem zipWith_assoc (assoc : ∀ x y z, combine (combine x y) z = combine x (combine y z))
    (first second third : PerOperation α) :
    (first.zipWith combine second).zipWith combine third =
      first.zipWith combine (second.zipWith combine third) := by
  simp only [zipWith, assoc]

theorem zipWith_all {neutral : α} (law : ∀ x, combine x neutral = x) (values : PerOperation α) :
    values.zipWith combine (.all neutral) = values := by
  simp only [zipWith, all, law]

theorem all_zipWith {neutral : α} (law : ∀ x, combine neutral x = x) (values : PerOperation α) :
    (all neutral).zipWith combine values = values := by
  simp only [zipWith, all, law]

theorem zipWith_self (law : ∀ x, combine x x = x) (values : PerOperation α) :
    values.zipWith combine values = values := by
  simp only [zipWith, law]

end PerOperation

namespace Schema

variable (schema earlier middle later : Schema)

/-! ### The algebra -/

theorem merge_assoc :
    (earlier.merge middle).merge later = earlier.merge (middle.merge later) := by
  simp only [merge, Schema.mk.injEq, OrderedMap.insertAll_insertAll, true_and]
  exact ⟨PerOperation.zipWith_assoc OrderedMap.insertAll_insertAll _ _ _,
    PerOperation.zipWith_assoc (fun _ _ _ => Option.or_assoc.symm) _ _ _⟩

theorem merge_empty : schema.merge empty = schema := by
  obtain ⟨operations, types, unions, roots⟩ := schema
  rw [merge, Schema.mk.injEq]
  exact ⟨PerOperation.zipWith_all OrderedMap.insertAll_empty operations,
    OrderedMap.insertAll_empty types, OrderedMap.insertAll_empty unions,
    PerOperation.zipWith_all (fun _ => Option.none_or) roots⟩

theorem empty_merge : empty.merge schema = schema := by
  obtain ⟨operations, types, unions, roots⟩ := schema
  rw [merge, Schema.mk.injEq]
  exact ⟨PerOperation.all_zipWith OrderedMap.empty_insertAll operations,
    OrderedMap.empty_insertAll types, OrderedMap.empty_insertAll unions,
    PerOperation.all_zipWith (fun _ => Option.or_none) roots⟩

theorem merge_self : schema.merge schema = schema := by
  obtain ⟨operations, types, unions, roots⟩ := schema
  rw [merge, Schema.mk.injEq]
  exact ⟨PerOperation.zipWith_self OrderedMap.insertAll_self operations,
    OrderedMap.insertAll_self types, OrderedMap.insertAll_self unions,
    PerOperation.zipWith_self (fun _ => Option.or_self) roots⟩

/-! ### What a merged schema has -/

theorem rootName_merge (kind : OperationKind) :
    (earlier.merge later).rootName kind =
      (later.roots.get kind).getD (earlier.rootName kind) := by
  simp only [rootName, merge, PerOperation.get_zipWith]
  cases later.roots.get kind with
  | none => rw [Option.none_or, Option.getD_none]
  | some name => rw [Option.some_or, Option.getD_some, Option.getD_some]

theorem overlay_operations (kind : OperationKind) :
    OrderedMap.Overlay (earlier.operations.get kind) (later.operations.get kind)
      ((earlier.merge later).operations.get kind) := by
  rw [merge, PerOperation.get_zipWith]
  exact OrderedMap.overlay_insertAll _ _

/-- Schemas form a monoid under merging, in which every element is idempotent. Nothing of either
schema is lost in it but what the later one declares again, and orders are kept. -/
theorem merge_laws (first second third : Schema) :
    (first.merge second).merge third = first.merge (second.merge third) ∧
      empty.merge first = first ∧ first.merge empty = first ∧ first.merge first = first ∧
      (∀ kind, OrderedMap.Overlay (first.operations.get kind) (second.operations.get kind)
        ((first.merge second).operations.get kind)) ∧
      OrderedMap.Overlay first.types second.types (first.merge second).types ∧
      OrderedMap.Overlay first.unions second.unions (first.merge second).unions ∧
      ∀ kind, (first.merge second).rootName kind =
        (second.roots.get kind).getD (first.rootName kind) :=
  ⟨merge_assoc first second third, empty_merge first, merge_empty first, merge_self first,
    overlay_operations first second, OrderedMap.overlay_insertAll first.types second.types,
    OrderedMap.overlay_insertAll first.unions second.unions, rootName_merge first second⟩

end Schema

end SdlProjection
