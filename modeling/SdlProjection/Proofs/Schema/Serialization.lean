import SdlProjection.Proofs.Model.RoundTrip
import SdlProjection.Schema.Decoding
import SdlProjection.Schema.Encoding

/-!
Contract: that the JSON text of a schema is read as that schema.

Owns: the law for whole schemas whose written form is nested no deeper than the
limit. Strings may have any characters.

Does not own: single models (`Proofs.Model.RoundTrip`), and texts that `serialize`
does not write.
-/

namespace SdlProjection.Schema

open Json Decoding

/-- No object in any model of the schema has two fields with the same key. -/
structure Keyed (schema : Schema) : Prop where
  operations : ∀ kind, ∀ entry ∈ (schema.operations.get kind).entries, entry.2.Keyed
  types : ∀ entry ∈ schema.types.entries, entry.2.Keyed

theorem decodeName?_encodeName (name : Option String) :
    decodeName? (some (encodeName name)) = some name := by
  cases name <;> rfl

/-- A map is read back if its values are. -/
theorem decodeMap?_map {α : Type} {encode : α → Json} {decode : Json → Option α}
    (map : OrderedMap α) (decoded : ∀ entry ∈ map.entries, decode (encode entry.2) = some entry.2) :
    decodeMap? decode (some (.obj (map.entries.map fun entry => (entry.1, encode entry.2)))) =
      some map := by
  have read := entries?_map map.distinct decoded
  have same : OrderedMap.ofEntries map.entries = map := map.empty_insertAll
  simp [decodeMap?, read, same]

theorem decodeModels?_encodeModels {map : OrderedMap TypeModel}
    (keyed : ∀ entry ∈ map.entries, entry.2.Keyed)
    (shallow : (encodeModels map).nesting ≤ nestingLimit - 1) :
    decodeModels? (some (encodeModels map)) = some map := by
  rw [decodeModels?, encodeModels, TypeModel.encodeFields_eq_map]
  refine decodeMap?_map map ?_
  intro entry member
  refine TypeModel.decode?_encode (keyed entry member) _ ?_
  have atMost : entry.2.encode.nesting ≤ entriesNesting (TypeModel.encodeFields map.entries) := by
    rw [TypeModel.encodeFields_eq_map]
    exact nesting_le_entriesNesting
      (List.mem_map_of_mem (f := fun entry => (entry.1, entry.2.encode)) member)
  simp only [encodeModels, nesting] at shallow
  omega

theorem decodeUnions?_map (unions : OrderedMap (List String)) :
    decodeUnions? (some (.obj (unions.entries.map fun entry =>
      (entry.1, encodeMembers entry.2)))) = some unions :=
  decodeMap?_map unions fun entry _ => names?_str entry.2 (by decide)

theorem textual_encode (schema : Schema) : Textual schema.encode := by
  have name : ∀ name, Textual (encodeName name) := by
    intro name
    cases name with
    | none => exact .null
    | some name => exact .str name
  have models : ∀ map, Textual (encodeModels map) := by
    intro map
    refine .obj ?_
    rw [TypeModel.encodeFields_eq_map, List.forall_mem_map]
    exact fun entry _ => entry.2.textual_encode
  have unions : Textual (.obj (schema.unions.entries.map fun entry =>
      (entry.1, encodeMembers entry.2))) := by
    refine .obj ?_
    rw [List.forall_mem_map]
    exact fun entry _ => textual_strings entry.2
  exact .obj (by simp [name, models, unions])

theorem decode?_encode {schema : Schema} (keyed : schema.Keyed)
    (shallow : schema.encode.nesting ≤ nestingLimit) : decode? schema.encode = some schema := by
  simp only [encode, nesting, entriesNesting] at shallow
  have queries := decodeModels?_encodeModels (keyed.operations .query) (by
    simp only [PerOperation.get]
    omega)
  have mutations := decodeModels?_encodeModels (keyed.operations .mutation) (by
    simp only [PerOperation.get]
    omega)
  have subscriptions := decodeModels?_encodeModels (keyed.operations .subscription) (by
    simp only [PerOperation.get]
    omega)
  have types := decodeModels?_encodeModels keyed.types (by omega)
  have unions := decodeUnions?_map schema.unions
  simp only [PerOperation.get] at queries mutations subscriptions
  simp [encode, decode?, parts?, part?, occurrences, queries, mutations, subscriptions, types,
    unions, decodeName?_encodeName]

/-- The text of a schema is read as the schema, with all its parts, its bound roots and the order
of every map and of all values, whatever characters its strings have. -/
theorem deserialize_serialize {schema : Schema} (keyed : schema.Keyed)
    (shallow : schema.encode.nesting ≤ nestingLimit) :
    deserialize? schema.serialize = some schema := by
  have read := read?_compact schema.textual_encode
  simp [deserialize?, serialize, render, read, decode?_encode keyed shallow]

/-- All five kinds of models, a bound root and strings that need short and long escapes. -/
def escapes : Schema :=
  ((((empty.addType "Tab\t\"quoted\""
    (((TypeModel.object [] .nonNull).addField "\\"
      (.list .multi (.reference "\x00\x1f" .nonNull) .nonNull .nullable)).addField "é€"
      (.enumeration ["b", "\r\n", "a"] .nullable))).addScalar "\x7f").addUnion
    "" ["z", "/\"", "a"]).addOperation .query "ids(a: Int)"
    (.list .single (.scalar .id .nullable) .nullable .nonNull)).bindRoot .mutation "M\\"

theorem deserialize_escapes :
    escapes.Keyed ∧ escapes.encode.nesting = 9 ∧ deserialize? escapes.serialize = some escapes := by
  have keyed : escapes.Keyed := by
    refine ⟨?_, ?_⟩
    · intro kind entry member
      cases kind with
      | query =>
          obtain rfl := List.mem_singleton.mp member
          exact .list .single .nullable .nonNull (.scalar .id .nullable)
      | mutation => cases member
      | subscription => cases member
    · intro entry member
      rcases List.mem_cons.mp member with rfl | member
      · have noFields : (TypeModel.object [] .nonNull).Keyed :=
          .object .nonNull .nil fun _ none => absurd none List.not_mem_nil
        have oneField := noFields.addField "\\"
          (.list .multi .nonNull .nullable (.reference "\x00\x1f" .nonNull))
        exact oneField.addField "é€" (.enumeration ["b", "\r\n", "a"] .nullable)
      · obtain rfl := List.mem_singleton.mp member
        exact .scalar .string .nullable
  have shallow : escapes.encode.nesting = 9 := rfl
  exact ⟨keyed, shallow, deserialize_serialize keyed (by rw [shallow]; decide)⟩

end SdlProjection.Schema
