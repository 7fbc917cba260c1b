import SdlProjection.Model.Decoding
import SdlProjection.Model.Encoding
import SdlProjection.Proofs.Entries
import SdlProjection.Proofs.Json.RoundTrip
import SdlProjection.Proofs.Model.References

/-!
Contract: that the written form of a type model is read as that model.

Owns: `Json.nesting`, the number of arrays and objects inside one another, which
is what decoding needs as levels, and the law for models: with so many levels,
the written form of a `Keyed` model decodes to the model. The fields of every
object of a `Keyed` model have distinct keys, as fields that were added one after
the other have.

Does not own: text (`Proofs.Json.RoundTrip`) and whole schemas
(`Proofs.Schema.Serialization`).
-/

namespace SdlProjection

/-! ### Nesting -/

namespace Json

mutual

/-- How many arrays and objects stand inside one another. -/
def nesting : Json → Nat
  | .arr items => 1 + itemsNesting items
  | .obj entries => 1 + entriesNesting entries
  | .null | .bool _ | .int _ | .str _ | .foreign _ => 0
termination_by structural json => json

def itemsNesting : List Json → Nat
  | [] => 0
  | item :: rest => max (nesting item) (itemsNesting rest)
termination_by structural items => items

def entriesNesting : List (String × Json) → Nat
  | [] => 0
  | (_, value) :: rest => max (nesting value) (entriesNesting rest)
termination_by structural entries => entries

end

theorem nesting_le_entriesNesting {entries : List (String × Json)} {entry : String × Json}
    (member : entry ∈ entries) : entry.2.nesting ≤ entriesNesting entries := by
  induction entries with
  | nil => cases member
  | cons head tail inductionHypothesis =>
      rcases List.mem_cons.mp member with rfl | later
      · exact Nat.le_max_left _ _
      · exact Nat.le_trans (inductionHypothesis later) (Nat.le_max_right _ _)

end Json

open Json Decoding

/-! ### The parts of models -/

section Parts

variable {levels : Nat}

theorem Nullability.decode?_encode (nullability : Nullability) :
    Nullability.decode? levels nullability.encode = some nullability := by
  cases nullability <;> rfl

theorem Dimensionality.decode?_encode (dimensionality : Dimensionality) :
    Dimensionality.decode? levels dimensionality.encode = some dimensionality := by
  cases dimensionality <;> rfl

theorem ScalarKind.decode?_encode (kind : ScalarKind) :
    ScalarKind.decode? levels kind.encode = some kind := by
  cases kind <;> rfl

theorem mapM_str? (values : List String) : (values.map Json.str).mapM Json.str? = some values := by
  induction values with
  | nil => rfl
  | cons value values inductionHypothesis => simp [List.mapM_cons, Json.str?, inductionHypothesis]

theorem names?_str (values : List String) (positive : 0 < levels) :
    names? levels (.arr (values.map .str)) = some values := by
  rw [names?, if_neg (Nat.ne_of_gt positive), mapM_str?]

theorem textual_strings (values : List String) : Textual (.arr (values.map .str)) := by
  refine .arr ?_
  rw [List.forall_mem_map]
  exact fun value _ => .str value

end Parts

/-! ### Entries -/

/-- Entries whose values are read back are read back as a whole, if no key occurs twice. -/
theorem entries?_map {α : Type} {encode : α → Json} {decode : Json → Option α}
    {entries : Entries α} (distinct : entries.keys.Nodup)
    (decoded : ∀ entry ∈ entries, decode (encode entry.2) = some entry.2) :
    entries? decode (.obj (entries.map fun entry => (entry.1, encode entry.2))) =
      some entries := by
  have each : ∀ later : Entries α, (∀ entry ∈ later, decode (encode entry.2) = some entry.2) →
      (later.map fun entry => (entry.1, encode entry.2)).mapM
        (fun entry => (decode entry.2).map fun value => (entry.1, value)) = some later := by
    intro later decoded
    induction later with
    | nil => rfl
    | cons head tail inductionHypothesis =>
        rw [List.forall_mem_cons] at decoded
        simp [List.mapM_cons, decoded.1, inductionHypothesis decoded.2]
  rw [entries?, each entries decoded, Option.map_some, Entries.insertAll_nil_of_nodup distinct]

namespace TypeModel

theorem encodeFields_eq_map (fields : List (String × TypeModel)) :
    encodeFields fields = fields.map fun field => (field.1, field.2.encode) := by
  induction fields with
  | nil => rfl
  | cons head tail inductionHypothesis => simp [encodeFields, inductionHypothesis]

/-! ### Models -/

/-- No object in the model has two fields with the same key. -/
inductive Keyed : TypeModel → Prop
  | enumeration (values : List String) (nullability : Nullability) :
      Keyed (.enumeration values nullability)
  | list (dimensionality : Dimensionality) {element : TypeModel}
      (inner nullability : Nullability) : Keyed element →
      Keyed (.list dimensionality element inner nullability)
  | object {fields : List (String × TypeModel)} (nullability : Nullability) :
      (Entries.keys fields).Nodup → (∀ field ∈ fields, Keyed field.2) →
      Keyed (.object fields nullability)
  | reference (target : String) (nullability : Nullability) :
      Keyed (.reference target nullability)
  | scalar (kind : ScalarKind) (nullability : Nullability) : Keyed (.scalar kind nullability)

/-- Adding a field keeps the keys apart. -/
theorem Keyed.addField {model type : TypeModel} (keyed : model.Keyed) (key : String)
    (typeKeyed : type.Keyed) : (model.addField key type).Keyed := by
  cases keyed with
  | object nullability distinct fieldsKeyed =>
      exact .object nullability (Entries.nodup_keys_insert distinct)
        (Entries.forall_mem_insert fieldsKeyed typeKeyed)
  | enumeration values nullability => exact .enumeration values nullability
  | list dimensionality inner nullability elementKeyed =>
      exact .list dimensionality inner nullability elementKeyed
  | reference target nullability => exact .reference target nullability
  | scalar kind nullability => exact .scalar kind nullability

theorem textual_encode (model : TypeModel) : Textual model.encode := by
  have nullability : ∀ nullability : Nullability, Textual nullability.encode := by
    intro nullability
    cases nullability with
    | nullable => exact .str _
    | nonNull => exact .str _
  have variant : ∀ (name : String) {parts : List (String × Json)},
      (∀ part ∈ parts, Textual part.2) → Textual (.obj [(name, .obj parts)]) := by
    intro name parts textual
    refine .obj ?_
    intro entry member
    obtain rfl := List.mem_singleton.mp member
    exact .obj textual
  induction model using inductionOnFields with
  | enumeration values own =>
      exact variant "Enum" (by simp [nullability, textual_strings])
  | list dimensionality element inner own inductionHypothesis =>
      have rows : Textual dimensionality.encode := by
        cases dimensionality with
        | single => exact .str _
        | multi => exact .str _
      exact variant "List" (by simp [nullability, rows, inductionHypothesis])
  | object fields own inductionHypothesis =>
      have fieldsTextual : Textual (.obj (encodeFields fields)) := by
        refine .obj ?_
        rw [encodeFields_eq_map, List.forall_mem_map]
        exact inductionHypothesis
      exact variant "Object" (by simp [nullability, fieldsTextual])
  | reference target own =>
      exact variant "Reference" (by simp [nullability, Textual.str])
  | scalar kind own =>
      have kindTextual : Textual kind.encode := by
        cases kind <;> exact .str _
      exact variant "Scalar" (by simp [nullability, kindTextual])

/-- With as many levels as the written form is nested, a model is read back. -/
theorem decode?_encode {model : TypeModel} (keyed : model.Keyed) (levels : Nat)
    (shallow : model.encode.nesting ≤ levels) :
    decode? levels model.encode = some model := by
  induction keyed generalizing levels with
  | enumeration values nullability =>
      obtain ⟨levels, rfl⟩ : ∃ less, levels = less + 3 := by
        apply Nat.exists_eq_add_of_le'
        simp only [encode, nesting, entriesNesting] at shallow
        omega
      simp [encode, decode?, allParts?, parts?, part?, occurrences, names?_str,
        Nullability.decode?_encode]
  | scalar kind nullability =>
      obtain ⟨levels, rfl⟩ : ∃ less, levels = less + 2 := by
        apply Nat.exists_eq_add_of_le'
        simp only [encode, nesting, entriesNesting] at shallow
        omega
      simp [encode, decode?, allParts?, parts?, part?, occurrences, ScalarKind.decode?_encode,
        Nullability.decode?_encode]
  | reference target nullability =>
      obtain ⟨levels, rfl⟩ : ∃ less, levels = less + 2 := by
        apply Nat.exists_eq_add_of_le'
        simp only [encode, nesting, entriesNesting] at shallow
        omega
      simp [encode, decode?, allParts?, parts?, part?, occurrences, Json.str?,
        Nullability.decode?_encode]
  | @list dimensionality element inner nullability elementKeyed inductionHypothesis =>
      simp only [encode, nesting, entriesNesting] at shallow
      obtain ⟨levels, rfl⟩ : ∃ less, levels = less + 2 := Nat.exists_eq_add_of_le' (by omega)
      have decoded := inductionHypothesis levels (by omega)
      simp [encode, decode?, allParts?, parts?, part?, occurrences, decoded,
        Dimensionality.decode?_encode, Nullability.decode?_encode]
  | @object fields nullability distinct fieldsKeyed inductionHypothesis =>
      simp only [encode, nesting, entriesNesting] at shallow
      obtain ⟨levels, rfl⟩ : ∃ less, levels = less + 3 := Nat.exists_eq_add_of_le' (by omega)
      have decoded : entries? (decode? levels) (.obj (encodeFields fields)) = some fields := by
        rw [encodeFields_eq_map]
        refine entries?_map distinct ?_
        intro field member
        refine inductionHypothesis field member levels ?_
        have atMost : field.2.encode.nesting ≤ entriesNesting (encodeFields fields) := by
          rw [encodeFields_eq_map]
          exact nesting_le_entriesNesting
            (List.mem_map_of_mem (f := fun field => (field.1, field.2.encode)) member)
        omega
      simp [encode, decode?, allParts?, parts?, part?, occurrences, decoded,
        Nullability.decode?_encode]

end TypeModel

end SdlProjection
