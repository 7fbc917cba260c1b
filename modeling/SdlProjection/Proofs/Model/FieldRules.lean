import SdlProjection.Proofs.Model.Declaration

/-!
Contract: the rules of the grammar for fields, in their order.

Owns: `Field.tail`, what the rule of a kind asks for behind the colon;
`Field.IsFirst`, the first kind with a property; and that a declaration is taken
for the first kind whose rule accepts it.

Does not own: which declarations a rule accepts (`Proofs.Model.Declaration`,
`Proofs.Model.Decoys`).
-/

namespace SdlProjection

open Pattern

namespace Field

/-- What the rule of a kind asks for behind the colon: the type, and directives if any. -/
def tail : FieldKind → Pattern
  | .scalar kind => bareTail (word kind.keyword)
  | .reference => bareTail referenceName
  | .list => listTail

/-- The kinds in the order of their rules. -/
def fieldKinds : List FieldKind :=
  [.scalar .int, .scalar .float, .scalar .string, .scalar .boolean, .scalar .id, .reference, .list]

/-- The kind has the property, and none before it has. -/
def IsFirst (holds : FieldKind → Prop) (kind : FieldKind) : Prop :=
  holds kind ∧
    ∀ earlier, fieldKinds.idxOf earlier < fieldKinds.idxOf kind → ¬holds earlier

theorem mem_fieldKinds (kind : FieldKind) : kind ∈ fieldKinds := by
  cases kind with
  | scalar kind => cases kind <;> decide
  | reference => decide
  | list => decide

/-- The rules of the scalars come first. -/
theorem scalar_precedes (kind : ScalarKind) {other : FieldKind}
    (notScalar : ∀ scalar, other ≠ .scalar scalar) :
    fieldKinds.idxOf (.scalar kind) < fieldKinds.idxOf other := by
  cases other with
  | scalar scalar => exact absurd rfl (notScalar scalar)
  | reference => cases kind <;> decide
  | list => cases kind <;> decide

theorem fieldRules_eq_map :
    fieldRules = fieldKinds.map fun kind => (kind, .seq fieldLead (tail kind)) := rfl

theorem startsSolid_tail (kind : FieldKind) : StartsSolid (tail kind) := by
  cases kind with
  | scalar kind => exact startsSolid_bareTail (namesOnly_keyword kind)
  | reference => exact startsSolid_bareTail namesOnly_reference
  | list => exact startsSolid_listTail

theorem IsFirst.congr {holds holds' : FieldKind → Prop} (same : ∀ kind, holds kind ↔ holds' kind)
    {kind : FieldKind} : IsFirst holds kind ↔ IsFirst holds' kind := by
  unfold IsFirst
  simp only [same]

theorem IsFirst.unique {holds : FieldKind → Prop} {kind other : FieldKind}
    (first : IsFirst holds kind) (first' : IsFirst holds other) : kind = other := by
  have notBefore : ¬fieldKinds.idxOf other < fieldKinds.idxOf kind :=
    fun precedes => first.2 other precedes first'.1
  have notBehind : ¬fieldKinds.idxOf kind < fieldKinds.idxOf other :=
    fun precedes => first'.2 kind precedes first.1
  apply (List.idxOf_inj (mem_fieldKinds kind)).mp
  omega

theorem isFirst_of_find? {accepted : FieldKind → Bool} {kind : FieldKind}
    (found : fieldKinds.find? accepted = some kind) :
    IsFirst (fun kind => accepted kind = true) kind := by
  obtain ⟨held, before, later, parts, refused⟩ := List.find?_eq_some_iff_append.mp found
  refine ⟨held, ?_⟩
  intro earlier precedes
  have absent : kind ∉ before := by
    intro member
    simpa [held] using refused kind member
  have member : earlier ∈ before := by
    by_contra notBefore
    rw [parts, List.idxOf_append_of_notMem absent, List.idxOf_append_of_notMem notBefore,
      List.idxOf_cons_self] at precedes
    omega
  simpa using refused earlier member

/-- A search among the kinds finds the first one. -/
theorem find?_fieldKinds_eq_some_iff {accepted : FieldKind → Bool} {kind : FieldKind} :
    fieldKinds.find? accepted = some kind ↔ IsFirst (fun kind => accepted kind = true) kind := by
  refine ⟨isFirst_of_find?, ?_⟩
  intro first
  cases found : fieldKinds.find? accepted with
  | none => exact absurd first.1 (List.find?_eq_none.mp found kind (mem_fieldKinds kind))
  | some other => rw [(isFirst_of_find? found).unique first]

theorem classifyField?_eq_find? (text : List Char) : classifyField? text =
    fieldKinds.find? fun kind => (Pattern.seq fieldLead (tail kind)).accepts text := by
  rw [classifyField?, firstRule?, fieldRules_eq_map, List.find?_map, Option.map_map]
  exact Option.map_id'

theorem classifyField?_eq_some_iff {text : List Char} {kind : FieldKind} :
    classifyField? text = some kind ↔
      IsFirst (fun kind => (Pattern.seq fieldLead (tail kind)).accepts text = true) kind := by
  rw [classifyField?_eq_find?, find?_fieldKinds_eq_some_iff]

end Field

end SdlProjection
