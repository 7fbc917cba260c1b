import Mathlib.Data.List.Basic
import SdlProjection.Proofs.Entries
import SdlProjection.Proofs.Projection.Unfolding

/-!
Contract: which models have a projection.

Owns: the exact condition. A model is projected if and only if every name
reachable from it is in the table of types; otherwise the error carries such a
name that is missing. Cutting off a recursive reference hides no missing name:
a missing name that is reachable at all is reachable by a way that passes no
name twice, and unfolding follows that way to its end.

Does not own: the node a model becomes (`Proofs.Projection.Conformance`).
-/

namespace SdlProjection

namespace Expansion

/-! ### The allowance -/

/-- The names of the table that are not being unfolded. -/
def remaining (types : OrderedMap TypeModel) (expanding : List String) : List String :=
  types.keys.filter fun name => !expanding.contains name

theorem mem_remaining {types : OrderedMap TypeModel} {expanding : List String} {name : String} :
    name ∈ remaining types expanding ↔ name ∈ types.keys ∧ name ∉ expanding := by
  simp [remaining]

/-- Unfolding one more name leaves fewer. -/
theorem remaining_cons_length_lt {types : OrderedMap TypeModel} {expanding : List String}
    {target : String} (declared : target ∈ types.keys) (fresh : target ∉ expanding) :
    (remaining types (target :: expanding)).length < (remaining types expanding).length := by
  have sublist : (remaining types (target :: expanding)).Sublist (remaining types expanding) := by
    apply List.monotone_filter_right
    intro name kept
    simp only [List.contains_cons, Bool.not_or, Bool.and_eq_true] at kept
    exact kept.2
  have notAll : remaining types (target :: expanding) ≠ remaining types expanding := by
    intro same
    have present : target ∈ remaining types expanding := mem_remaining.mpr ⟨declared, fresh⟩
    rw [← same, mem_remaining] at present
    simp at present
  refine Nat.lt_of_le_of_ne sublist.length_le ?_
  intro sameLength
  exact notAll (sublist.eq_of_length sameLength)

/-- Without allowance, every name of the table is being unfolded. -/
theorem mem_expanding_of_remaining {types : OrderedMap TypeModel} {expanding : List String}
    {target : String} {entry : TypeModel} (enough : (remaining types expanding).length ≤ 0)
    (found : types.get? target = some entry) : target ∈ expanding := by
  have declared : target ∈ types.keys := Entries.exists_get?_iff.mp ⟨entry, found⟩
  have empty : remaining types expanding = [] := List.length_eq_zero_iff.mp (by omega)
  by_contra fresh
  have member : target ∈ remaining types expanding := mem_remaining.mpr ⟨declared, fresh⟩
  simp [empty] at member

/-- The whole table is allowance enough. -/
theorem remaining_length_le (types : OrderedMap TypeModel) (expanding : List String) :
    (remaining types expanding).length ≤ types.size := by
  have atMost : (remaining types expanding).length ≤ types.keys.length := List.length_filter_le _ _
  have counted : types.keys.length = types.size := List.length_map _
  omega

/-- With enough allowance, exactly the missing names that are reachable around those being
unfolded are met. -/
theorem unresolved_mem_unfold {types : OrderedMap TypeModel} {name : String} (allowance : Nat)
    (expanding : List String) (model : TypeModel)
    (enough : (remaining types expanding).length ≤ allowance) :
    .unresolved name ∈ (unfold types allowance expanding model).stops ↔
      types.get? name = none ∧ ReachableAround types expanding model name := by
  induction allowance generalizing expanding model with
  | zero =>
      have noneLeft : ∀ target entry, types.get? target = some entry → target ∈ expanding :=
        fun _ _ found => mem_expanding_of_remaining enough found
      rw [unfold, mem_stops_unfoldModel]
      constructor
      · intro stopped
        rcases stopped with
          ⟨target, mentioned, ⟨missing, same⟩ | ⟨entry, found, ⟨_, same⟩ | ⟨fresh, _⟩⟩⟩
        · cases same
          exact ⟨missing, .direct mentioned⟩
        · cases same
        · exact absurd (noneLeft target entry found) fresh
      · rintro ⟨missing, reached⟩
        rcases reached.first_step with mentioned | ⟨first, entry, _, fresh, found, _⟩
        · exact ⟨name, mentioned, .inl ⟨missing, rfl⟩⟩
        · exact absurd (noneLeft first entry found) fresh
  | succ allowance inductionHypothesis =>
      have step : ∀ target entry, types.get? target = some entry → target ∉ expanding →
          (.unresolved name ∈ (unfold types allowance (target :: expanding) entry).stops ↔
            types.get? name = none ∧ ReachableAround types (target :: expanding) entry name) := by
        intro target entry found fresh
        have declared : target ∈ types.keys := Entries.exists_get?_iff.mp ⟨entry, found⟩
        have fewer := remaining_cons_length_lt declared fresh
        exact inductionHypothesis (target :: expanding) entry (by omega)
      rw [unfold, mem_stops_unfoldModel]
      constructor
      · intro stopped
        rcases stopped with
          ⟨target, mentioned, ⟨missing, same⟩ | ⟨entry, found, ⟨_, same⟩ | ⟨fresh, further⟩⟩⟩
        · cases same
          exact ⟨missing, .direct mentioned⟩
        · cases same
        · obtain ⟨missing, reached⟩ := (step target entry found fresh).mp further
          exact ⟨missing, .after_reference mentioned fresh found reached.unblock⟩
      · rintro ⟨missing, reached⟩
        rcases reached.first_step with mentioned | ⟨first, entry, mentioned, fresh, found, further⟩
        · exact ⟨name, mentioned, .inl ⟨missing, rfl⟩⟩
        · refine ⟨first, mentioned, .inr ⟨entry, found, .inr ⟨fresh, ?_⟩⟩⟩
          exact (step first entry found fresh).mpr ⟨missing, further.without_return found⟩

end Expansion

/-! ### Projections of a schema -/

namespace Schema

theorem unresolved_mem_expand {schema : Schema} {model : TypeModel} {name : String} :
    .unresolved name ∈ (schema.expand model).stops ↔
      schema.types.get? name = none ∧ Reachable schema.types model name := by
  have enough := Expansion.remaining_length_le schema.types []
  rw [expand, expandBelow, Expansion.unresolved_mem_unfold _ _ _ enough, reachableAround_nil_iff]

theorem exists_project_ok_iff {schema : Schema} {model : TypeModel} :
    (∃ node, schema.project model = .ok node) ↔
      ∀ name, Reachable schema.types model name → name ∈ schema.types.keys := by
  have resolved : (∃ node, schema.project model = .ok node) ↔
      (schema.expand model).unresolved? = none := by
    simp only [project, Expansion.toNode]
    cases (schema.expand model).unresolved? with
    | none => simp
    | some name => simp
  rw [resolved, Expansion.unresolved?_eq_none_iff]
  simp only [unresolved_mem_expand, OrderedMap.get?, OrderedMap.keys, Entries.get?_eq_none_iff]
  constructor
  · intro met name reached
    by_contra missing
    exact met name ⟨missing, reached⟩
  · rintro declared name ⟨missing, reached⟩
    exact missing (declared name reached)

/-- An error of a projection is about a name that is reachable and missing. -/
theorem project_error {schema : Schema} {model : TypeModel} {error : ProjectionError}
    (failed : schema.project model = .error error) :
    ∃ name, error = .unresolvedReference name ∧ Reachable schema.types model name ∧
      name ∉ schema.types.keys := by
  simp only [project, Expansion.toNode] at failed
  cases first : (schema.expand model).unresolved? with
  | none => simp [first] at failed
  | some name =>
      simp only [first, Except.error.injEq] at failed
      obtain ⟨missing, reached⟩ :=
        unresolved_mem_expand.mp (Expansion.mem_stops_of_unresolved? first)
      exact ⟨name, failed.symm, reached, Entries.get?_eq_none_iff.mp missing⟩

theorem convert_of_get? {schema : Schema} {kind : OperationKind} {name : String}
    {stored : TypeModel} (found : (schema.operations.get kind).get? name = some stored) :
    schema.convert kind name = schema.project stored := by
  simp [convert, found]

theorem convert_eq_unknownOperation_iff {schema : Schema} {kind asked : OperationKind}
    {name sought : String} {known : List String} :
    schema.convert kind name = .error (.unknownOperation asked sought known) ↔
      name ∉ (schema.operations.get kind).keys ∧ asked = kind ∧ sought = name ∧
        known = (schema.operations.get kind).keys := by
  cases found : (schema.operations.get kind).get? name with
  | none =>
      have absent : name ∉ (schema.operations.get kind).keys := Entries.get?_eq_none_iff.mp found
      simp only [convert, found, Except.error.injEq, ProjectionError.unknownOperation.injEq, absent,
        not_false_eq_true, true_and]
      simp only [eq_comm]
  | some stored =>
      have present : name ∈ (schema.operations.get kind).keys :=
        Entries.exists_get?_iff.mp ⟨stored, found⟩
      rw [convert_of_get? found]
      constructor
      · intro failed
        obtain ⟨target, unresolved, _⟩ := project_error failed
        simp at unresolved
      · rintro ⟨absent, _⟩
        exact absurd present absent

/-- A model is projected exactly if every name reachable from it has an entry in the table of
types; otherwise the error carries a reachable name without one, however often references
come back to names that are being expanded. Unions are no entries of that table. An
operation is unknown exactly if its own map lacks it, and is else projected as its model. -/
theorem project_ok_iff_reachable_declared (schema : Schema) (kind : OperationKind)
    (name : String) (model : TypeModel) :
    ((∃ node, schema.project model = .ok node) ↔
        ∀ target, Reachable schema.types model target → target ∈ schema.types.keys) ∧
      ((¬ ∀ target, Reachable schema.types model target → target ∈ schema.types.keys) →
        ∃ target, schema.project model = .error (.unresolvedReference target) ∧
          Reachable schema.types model target ∧ target ∉ schema.types.keys) ∧
      (∀ union ∈ schema.unions.keys, ∀ nullability node,
        schema.project (.reference union nullability) = .ok node → union ∈ schema.types.keys) ∧
      (∀ asked sought known,
        schema.convert kind name = .error (.unknownOperation asked sought known) ↔
          name ∉ (schema.operations.get kind).keys ∧ asked = kind ∧ sought = name ∧
            known = (schema.operations.get kind).keys) ∧
      ∀ stored, (schema.operations.get kind).get? name = some stored →
        schema.convert kind name = schema.project stored := by
  refine ⟨exists_project_ok_iff, ?_, ?_, fun _ _ _ => convert_eq_unknownOperation_iff,
    fun _ => convert_of_get?⟩
  · intro undeclared
    cases outcome : schema.project model with
    | ok node => exact absurd (exists_project_ok_iff.mp ⟨node, outcome⟩) undeclared
    | error error =>
        obtain ⟨target, rfl, reached, missing⟩ := project_error outcome
        exact ⟨target, rfl, reached, missing⟩
  · intro union _ nullability node projected
    apply exists_project_ok_iff.mp ⟨node, projected⟩
    exact .direct (by simp [TypeModel.references])

end Schema

end SdlProjection
