import SdlProjection.Projection
import SdlProjection.Proofs.Model.References

/-!
Contract: what a model unfolds to, constructor by constructor, and where the
unfolding stops.

Owns: the equations of `unfold`, which hide its allowance, and the law of its
stops: each comes from one of the model's own references, directly or further
on. Fields are taken one by one.

Does not own: which allowance is enough (`Proofs.Projection.Resolution`).
-/

namespace SdlProjection.Expansion

/-! ### Fields -/

theorem unfoldFields_eq_map {types : OrderedMap TypeModel}
    {follow : String → TypeModel → Expansion} {expanding : List String}
    (fields : List (String × TypeModel)) :
    unfoldFields types follow expanding fields =
      fields.map fun field => (field.1, unfoldModel types follow expanding field.2) := by
  induction fields with
  | nil => rfl
  | cons head tail inductionHypothesis => simp [unfoldFields, inductionHypothesis]

theorem fieldNodes_eq_map (fields : List (String × Expansion)) :
    fieldNodes fields = fields.map fun field => (field.1, field.2.node) := by
  induction fields with
  | nil => rfl
  | cons head tail inductionHypothesis => simp [fieldNodes, inductionHypothesis]

theorem fieldStops_eq_flatMap (fields : List (String × Expansion)) :
    fieldStops fields = (fields.map fun field => (field.1, field.2.stops)).flatMap Prod.snd := by
  induction fields with
  | nil => rfl
  | cons head tail inductionHypothesis => simp [fieldStops, inductionHypothesis]

theorem mem_fieldStops {fields : List (String × Expansion)} {stop : Stop} :
    stop ∈ fieldStops fields ↔ ∃ field ∈ fields, stop ∈ field.2.stops := by
  induction fields with
  | nil => simp [fieldStops]
  | cons head tail inductionHypothesis =>
      obtain ⟨key, tree⟩ := head
      simp [fieldStops, inductionHypothesis]

/-! ### Unfolding, constructor by constructor -/

section Equations

variable (types : OrderedMap TypeModel) (allowance : Nat) (expanding : List String)

@[simp]
theorem unfold_enumeration (values : List String) (nullability : Nullability) :
    unfold types allowance expanding (.enumeration values nullability) = .enumeration values := by
  cases allowance <;> rfl

@[simp]
theorem unfold_scalar (kind : ScalarKind) (nullability : Nullability) :
    unfold types allowance expanding (.scalar kind nullability) = .scalar kind nullability := by
  cases allowance <;> rfl

@[simp]
theorem unfold_list (dimensionality : Dimensionality) (element : TypeModel)
    (inner nullability : Nullability) :
    unfold types allowance expanding (.list dimensionality element inner nullability) =
      .list dimensionality (unfold types allowance expanding element) nullability := by
  cases allowance <;> rfl

@[simp]
theorem unfold_object (fields : List (String × TypeModel)) (nullability : Nullability) :
    unfold types allowance expanding (.object fields nullability) =
      .object (fields.map fun field => (field.1, unfold types allowance expanding field.2))
        nullability := by
  cases allowance <;> simp [unfold, unfoldModel, unfoldFields_eq_map]

/-- A reference is cut off below its own target, and is else unfolded with that target put
among the names that are being unfolded. -/
theorem unfold_reference {target : String} {entry : TypeModel} (nullability : Nullability)
    (found : types.get? target = some entry) :
    unfold types (allowance + 1) expanding (.reference target nullability) =
      if target ∈ expanding then .cutOff target entry nullability
      else .inlined target (unfold types allowance (target :: expanding) entry) nullability := by
  simp [unfold, unfoldModel, found]

end Equations

/-! ### Stops -/

/-- A stop of an unfolded model comes from one of the model's own references: its target is
missing, or is being unfolded already, or the stop is met below it. -/
theorem mem_stops_unfoldModel {types : OrderedMap TypeModel}
    {follow : String → TypeModel → Expansion} {expanding : List String} {stop : Stop}
    (model : TypeModel) :
    stop ∈ (unfoldModel types follow expanding model).stops ↔
      ∃ target ∈ model.references,
        (types.get? target = none ∧ stop = .unresolved target) ∨
        ∃ entry, types.get? target = some entry ∧
          ((target ∈ expanding ∧ stop = .cutOff target) ∨
            (target ∉ expanding ∧ stop ∈ (follow target entry).stops)) := by
  induction model using TypeModel.inductionOnFields with
  | enumeration values nullability => simp [unfoldModel, stops, TypeModel.references]
  | scalar kind nullability => simp [unfoldModel, stops, TypeModel.references]
  | list dimensionality element inner nullability inductionHypothesis =>
      simpa only [unfoldModel, stops, TypeModel.references] using inductionHypothesis
  | object fields nullability inductionHypothesis =>
      simp only [unfoldModel, stops, TypeModel.references, unfoldFields_eq_map, mem_fieldStops,
        TypeModel.mem_fieldReferences, List.mem_map]
      constructor
      · rintro ⟨_, ⟨field, member, rfl⟩, stopped⟩
        obtain ⟨target, mentioned, rest⟩ := (inductionHypothesis field member).mp stopped
        exact ⟨target, ⟨field, member, mentioned⟩, rest⟩
      · rintro ⟨target, ⟨field, member, mentioned⟩, rest⟩
        exact ⟨_, ⟨field, member, rfl⟩,
          (inductionHypothesis field member).mpr ⟨target, mentioned, rest⟩⟩
  | reference target nullability =>
      simp only [unfoldModel, TypeModel.references, List.mem_singleton, exists_eq_left]
      cases found : types.get? target with
      | none => simp [stops]
      | some entry =>
          by_cases expanded : target ∈ expanding
          · simp [expanded, stops]
          · simp [expanded, stops]

theorem unresolved?_eq_none_iff {tree : Expansion} :
    tree.unresolved? = none ↔ ∀ name, .unresolved name ∉ tree.stops := by
  simp only [unresolved?, List.findSome?_eq_none_iff]
  constructor
  · intro silent name member
    simpa [Stop.unresolved?] using silent (.unresolved name) member
  · intro absent stop member
    cases stop with
    | cutOff target => rfl
    | unresolved target => exact absurd member (absent target)

theorem mem_stops_of_unresolved? {tree : Expansion} {name : String}
    (found : tree.unresolved? = some name) : .unresolved name ∈ tree.stops := by
  obtain ⟨stop, member, isUnresolved⟩ := List.exists_of_findSome?_eq_some found
  cases stop with
  | cutOff target => simp [Stop.unresolved?] at isUnresolved
  | unresolved target =>
      simp only [Stop.unresolved?, Option.some.injEq] at isUnresolved
      exact isUnresolved ▸ member

/-- A tree without unresolved references has the node that it stands for. -/
theorem toNode_eq_ok {tree : Expansion} {node : Json} (projected : tree.toNode = .ok node) :
    (∀ name, .unresolved name ∉ tree.stops) ∧ tree.node = node := by
  simp only [toNode] at projected
  cases first : tree.unresolved? with
  | none =>
      simp only [first, Except.ok.injEq] at projected
      exact ⟨unresolved?_eq_none_iff.mp first, projected⟩
  | some name => simp [first] at projected

end SdlProjection.Expansion
