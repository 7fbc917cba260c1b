import SdlProjection.Proofs.Projection.Resolution
import SdlProjection.Proofs.Schema.Merging

/-!
Contract: what a projection depends on.

Owns: `Alike`, which relates models that differ at most in the marks of enums
and of the rows of lists, and the comparison of two projections. Over tables
that have alike entries under every name reachable from a model, or no entry
at all, alike models have the same node or fail for the same name. Nothing
else of a schema matters, so merging declarations of other names leaves a
conversion as it was.

Owns too the one exception: the schema that is merged in may declare the
operation itself again. Its model replaces the earlier one, so the conversion
is sure to stay only where the two are alike.

Does not own: which names are reachable (`Proofs.Model.References`).
-/

namespace SdlProjection

/-- Models that differ at most in the nullability of enums and of the rows of lists. Objects
have the same keys in the same order. -/
inductive Alike : TypeModel → TypeModel → Prop
  | enumeration (values : List String) (left right : Nullability) :
      Alike (.enumeration values left) (.enumeration values right)
  | list (dimensionality : Dimensionality) {element element' : TypeModel}
      (left right nullability : Nullability) : Alike element element' →
      Alike (.list dimensionality element left nullability)
        (.list dimensionality element' right nullability)
  | object {fields fields' : List (String × TypeModel)} (nullability : Nullability) :
      fields.map Prod.fst = fields'.map Prod.fst →
      (∀ pair ∈ fields.zip fields', Alike pair.1.2 pair.2.2) →
      Alike (.object fields nullability) (.object fields' nullability)
  | reference (target : String) (nullability : Nullability) :
      Alike (.reference target nullability) (.reference target nullability)
  | scalar (kind : ScalarKind) (nullability : Nullability) :
      Alike (.scalar kind nullability) (.scalar kind nullability)

/-- Fields with the same keys that correspond in what `left` and `right` make of their types. -/
theorem map_eq_of_zip {β : Type} (left right : TypeModel → β)
    {fields fields' : List (String × TypeModel)}
    (sameKeys : fields.map Prod.fst = fields'.map Prod.fst)
    (same : ∀ pair ∈ fields.zip fields', left pair.1.2 = right pair.2.2) :
    fields.map (fun field => (field.1, left field.2)) =
      fields'.map (fun field => (field.1, right field.2)) := by
  induction fields generalizing fields' with
  | nil =>
      rw [List.map_nil, eq_comm, List.map_eq_nil_iff] at sameKeys
      rw [sameKeys, List.map_nil, List.map_nil]
  | cons field fields inductionHypothesis =>
      cases fields' with
      | nil => simp at sameKeys
      | cons field' fields' =>
          simp only [List.map_cons, List.cons.injEq] at sameKeys
          simp only [List.zip_cons_cons, List.forall_mem_cons] at same
          simp only [List.map_cons, List.cons.injEq, Prod.mk.injEq]
          exact ⟨⟨sameKeys.1, same.1⟩, inductionHypothesis sameKeys.2 same.2⟩

theorem Alike.refl (model : TypeModel) : Alike model model := by
  induction model using TypeModel.inductionOnFields with
  | enumeration values nullability => exact .enumeration values nullability nullability
  | list dimensionality element inner nullability inductionHypothesis =>
      exact .list dimensionality inner inner nullability inductionHypothesis
  | object fields nullability inductionHypothesis =>
      refine .object nullability rfl ?_
      intro pair member
      rw [List.zip_eq_zipWith, List.zipWith_self, List.mem_map] at member
      obtain ⟨field, listed, rfl⟩ := member
      exact inductionHypothesis field listed
  | reference target nullability => exact .reference target nullability
  | scalar kind nullability => exact .scalar kind nullability

section Comparison

variable {model model' : TypeModel}

/-- Where a reference is cut off, an alike entry leaves the same node. -/
theorem Alike.shallowNode_eq (alike : Alike model model') :
    model.shallowNode = model'.shallowNode := by
  cases alike with
  | enumeration | list | object | reference | scalar => rfl

/-- Both tables lack the name, or both have an entry under it, and the entries are alike. -/
def EntriesAlike (left right : OrderedMap TypeModel) (name : String) : Prop :=
  (left.get? name = none ∧ right.get? name = none) ∨
    ∃ entry entry', left.get? name = some entry ∧ right.get? name = some entry' ∧
      Alike entry entry'

theorem EntriesAlike.of_get?_eq {left right : OrderedMap TypeModel} {name : String}
    (same : right.get? name = left.get? name) : EntriesAlike left right name := by
  cases found : left.get? name with
  | none => exact .inl ⟨found, same.trans found⟩
  | some entry => exact .inr ⟨entry, entry, found, same.trans found, .refl entry⟩

namespace Expansion

/-- Two trees that no projection tells apart. -/
structure SameReading (left right : Expansion) : Prop where
  node : left.node = right.node
  stops : left.stops = right.stops

/-- Alike models unfold to the same reading if the targets of their references do. -/
theorem sameReading_unfoldModel {types types' : OrderedMap TypeModel}
    {follow follow' : String → TypeModel → Expansion} {expanding : List String}
    (alike : Alike model model')
    (entries : ∀ target ∈ model.references, EntriesAlike types types' target)
    (followed : ∀ target ∈ model.references, target ∉ expanding → ∀ entry entry',
      types.get? target = some entry → types'.get? target = some entry' → Alike entry entry' →
      SameReading (follow target entry) (follow' target entry')) :
    SameReading (unfoldModel types follow expanding model)
      (unfoldModel types' follow' expanding model') := by
  induction alike with
  | enumeration | scalar => exact ⟨rfl, rfl⟩
  | list dimensionality left right nullability _ inductionHypothesis =>
      have element := inductionHypothesis entries followed
      refine ⟨?_, ?_⟩
      · simp only [unfoldModel, node, element.node]
      · simp only [unfoldModel, stops, element.stops]
  | @object fields fields' nullability sameKeys _ inductionHypothesis =>
      have each : ∀ pair ∈ fields.zip fields',
          SameReading (unfoldModel types follow expanding pair.1.2)
            (unfoldModel types' follow' expanding pair.2.2) := by
        intro pair member
        have listed : pair.1 ∈ fields := (List.of_mem_zip member).1
        have mentioned : ∀ target ∈ pair.1.2.references,
            target ∈ (TypeModel.object fields nullability).references := by
          intro target among
          rw [TypeModel.references, TypeModel.mem_fieldReferences]
          exact ⟨pair.1, listed, among⟩
        exact inductionHypothesis pair member
          (fun target among => entries target (mentioned target among))
          (fun target among => followed target (mentioned target among))
      have sameNodes := map_eq_of_zip (fun type => (unfoldModel types follow expanding type).node)
        (fun type => (unfoldModel types' follow' expanding type).node) sameKeys
        fun pair member => (each pair member).node
      have sameStops := map_eq_of_zip (fun type => (unfoldModel types follow expanding type).stops)
        (fun type => (unfoldModel types' follow' expanding type).stops) sameKeys
        fun pair member => (each pair member).stops
      refine ⟨?_, ?_⟩
      · simp only [unfoldModel, unfoldFields_eq_map, node, fieldNodes_eq_map, List.map_map]
        exact congrArg (fun nodes => Json.obj [("type", kindDefinition "object" nullability),
          ("properties", .obj nodes)]) sameNodes
      · simp only [unfoldModel, unfoldFields_eq_map, stops, fieldStops_eq_flatMap, List.map_map]
        exact congrArg (fun stops => stops.flatMap Prod.snd) sameStops
  | reference target nullability =>
      have mentioned : target ∈ (TypeModel.reference target nullability).references := by
        simp [TypeModel.references]
      rcases entries target mentioned with
        ⟨missing, missing'⟩ | ⟨entry, entry', found, found', entryAlike⟩
      · simp only [unfoldModel, missing, missing']
        exact ⟨rfl, rfl⟩
      · simp only [unfoldModel, found, found']
        by_cases expanded : target ∈ expanding
        · rw [if_pos expanded, if_pos expanded]
          refine ⟨?_, rfl⟩
          simp only [node, entryAlike.shallowNode_eq]
        · rw [if_neg expanded, if_neg expanded]
          have content := followed target mentioned expanded entry entry' found found' entryAlike
          refine ⟨?_, ?_⟩
          · simp only [node, content.node]
          · simp only [stops, content.stops]

/-- Two unfoldings with enough allowance, each over its own table. -/
theorem sameReading_unfold {types types' : OrderedMap TypeModel} (allowance allowance' : Nat)
    (expanding : List String) (alike : Alike model model')
    (entries : ∀ name, Reachable types model name → EntriesAlike types types' name)
    (enough : (remaining types expanding).length ≤ allowance)
    (enough' : (remaining types' expanding).length ≤ allowance') :
    SameReading (unfold types allowance expanding model)
      (unfold types' allowance' expanding model') := by
  have direct : ∀ target ∈ model.references, EntriesAlike types types' target :=
    fun target mentioned => entries target (.direct mentioned)
  induction allowance generalizing allowance' expanding model model' with
  | zero =>
      cases allowance' with
      | zero =>
          refine sameReading_unfoldModel alike direct ?_
          intro target _ fresh entry _ found
          exact absurd (mem_expanding_of_remaining enough found) fresh
      | succ allowance' =>
          refine sameReading_unfoldModel alike direct ?_
          intro target _ fresh entry _ found
          exact absurd (mem_expanding_of_remaining enough found) fresh
  | succ allowance inductionHypothesis =>
      cases allowance' with
      | zero =>
          refine sameReading_unfoldModel alike direct ?_
          intro target _ fresh _ entry' _ found'
          exact absurd (mem_expanding_of_remaining enough' found') fresh
      | succ allowance' =>
          refine sameReading_unfoldModel alike direct ?_
          intro target mentioned fresh entry entry' found found' entryAlike
          have fewer := remaining_cons_length_lt (Entries.exists_get?_iff.mp ⟨_, found⟩) fresh
          have fewer' := remaining_cons_length_lt (Entries.exists_get?_iff.mp ⟨_, found'⟩) fresh
          have further : ∀ name, Reachable types entry name → EntriesAlike types types' name :=
            fun name reached => entries name (.trans_entry (.direct mentioned) found reached)
          exact inductionHypothesis allowance' (target :: expanding) entryAlike further
            (by omega) (by omega) (fun name among => further name (.direct among))

end Expansion

end Comparison

namespace Schema

variable {schema other later : Schema} {model model' : TypeModel}

theorem project_eq_of_alike (alike : Alike model model')
    (entries : ∀ name, Reachable schema.types model name →
      EntriesAlike schema.types other.types name) :
    schema.project model = other.project model' := by
  have reading := Expansion.sameReading_unfold schema.types.size other.types.size [] alike entries
    (Expansion.remaining_length_le _ _) (Expansion.remaining_length_le _ _)
  have sameNode : (schema.expand model).node = (other.expand model').node := reading.node
  have sameStops : (schema.expand model).stops = (other.expand model').stops := reading.stops
  simp only [project, Expansion.toNode, Expansion.unresolved?, sameNode, sameStops]

/-- An entry that a later schema does not declare again stays. -/
theorem entriesAlike_merge {name : String} (untouched : name ∉ later.types.keys) :
    EntriesAlike schema.types (schema.merge later).types name := by
  have absent : later.types.entries.get? name = none := Entries.get?_eq_none_iff.mpr untouched
  have looked := @Entries.get?_insertAll _ schema.types.entries _ later.types.distinct name
  rw [absent, Option.none_or] at looked
  exact .of_get?_eq looked

/-- An operation of a merged schema is the later one's, if that has it, or else the earlier
one's. -/
theorem get?_merge_operations (kind : OperationKind) (name : String) :
    ((schema.merge later).operations.get kind).get? name =
      ((later.operations.get kind).get? name).or ((schema.operations.get kind).get? name) := by
  simp only [merge, PerOperation.get_zipWith]
  exact Entries.get?_insertAll (later.operations.get kind).distinct name

/-- A projection depends on nothing but the entries of the names that are reachable from the
model, and neither on the marks of enums nor on those of the rows of lists: alike models over
tables with alike entries have the same node, or fail for the same name. So the order of the
table does not matter, and merging a schema that declares no reachable name changes nothing. An
operation is then converted as before, unless the other schema declares it again, with a model
that is not alike. -/
theorem project_congr_of_reachable (schema : Schema) (model : TypeModel) :
    (∀ (other : Schema) (model' : TypeModel), Alike model model' →
        (∀ name, Reachable schema.types model name →
          EntriesAlike schema.types other.types name) →
        schema.project model = other.project model') ∧
      (∀ other : Schema, schema.types.entries.Perm other.types.entries →
        schema.project model = other.project model) ∧
      ∀ later : Schema,
        (∀ target, Reachable schema.types model target → target ∉ later.types.keys) →
        schema.project model = (schema.merge later).project model ∧
          ∀ (kind : OperationKind) (name : String) (node : Json),
            (schema.operations.get kind).get? name = some model →
            schema.convert kind name = .ok node →
            (∀ replaced, (later.operations.get kind).get? name = some replaced →
              Alike model replaced) →
            (schema.merge later).convert kind name = .ok node := by
  refine ⟨fun other model' => project_eq_of_alike, ?_, ?_⟩
  · intro other permuted
    apply project_eq_of_alike (.refl model)
    intro name _
    have same : schema.types.get? name = other.types.get? name :=
      Entries.get?_eq_of_perm permuted schema.types.distinct name
    exact .of_get?_eq same.symm
  · intro later untouched
    have entries := fun target reached =>
      @entriesAlike_merge schema later target (untouched target reached)
    refine ⟨project_eq_of_alike (.refl model) entries, ?_⟩
    intro kind name node stored converted redeclared
    rw [convert_of_get? stored] at converted
    have looked := @get?_merge_operations schema later kind name
    rw [stored] at looked
    cases again : (later.operations.get kind).get? name with
    | none =>
        rw [again, Option.none_or] at looked
        rw [convert_of_get? looked, ← project_eq_of_alike (.refl model) entries, converted]
    | some replaced =>
        rw [again, Option.some_or] at looked
        rw [convert_of_get? looked, ← project_eq_of_alike (redeclared replaced again) entries,
          converted]

/-- An album of tagged pictures, as one schema has it. -/
def taggedAlbum : Schema :=
  ((empty.addType "Album"
      (.object [("tags", .list .multi (.reference "Tag" .nonNull) .nonNull .nonNull)]
        .nullable)).addType "Tag" (.enumeration ["LAKE", "CITY"] .nullable)).addOperation
    .query "album" (.reference "Album" .nonNull)

/-- The same album with the marks of its enum and its rows set otherwise, the types in another
order and more declarations around them. -/
def retaggedAlbum : Schema :=
  ((((empty.addType "Tag" (.enumeration ["LAKE", "CITY"] .nonNull)).addType "Album"
      (.object [("tags", .list .multi (.reference "Tag" .nonNull) .nullable .nonNull)]
        .nullable)).addType "Owner" (.object [] .nullable)).addUnion "Item" ["Album"]).bindRoot
    .query "Root"

/-- Declarations that the album does not depend on. -/
def owners : Schema :=
  ((empty.addType "Owner" (.object [] .nullable)).addOperation .query "owner"
    (.reference "Owner" .nullable)).addUnion "Album" ["Tag"]

def albumNode : Json :=
  .obj [("type", .str "object"),
    ("properties", .obj [("tags", .obj [("type", .str "array"),
      ("items", .obj [("type", .str "array"),
        ("items", .obj [("enum", .arr [.str "LAKE", .str "CITY"])])])])])]

theorem reachable_taggedAlbum {name : String}
    (reached : Reachable taggedAlbum.types (.reference "Album" .nonNull) name) :
    name = "Album" ∨ name = "Tag" := by
  induction reached with
  | direct member => exact .inl (List.mem_singleton.mp member)
  | through _ found member inductionHypothesis =>
      rcases inductionHypothesis with rfl | rfl
      · cases found
        exact .inr (List.mem_singleton.mp member)
      · cases found
        cases member

theorem albumNode_congr :
    taggedAlbum.project (.reference "Album" .nonNull) = .ok albumNode ∧
      retaggedAlbum.project (.reference "Album" .nonNull) = .ok albumNode ∧
      (taggedAlbum.merge owners).convert .query "album" = .ok albumNode := by
  have projected : taggedAlbum.project (.reference "Album" .nonNull) = .ok albumNode := rfl
  have law := project_congr_of_reachable taggedAlbum (.reference "Album" .nonNull)
  refine ⟨projected, ?_, ?_⟩
  · rw [← law.1 retaggedAlbum _ (.refl _) ?_, projected]
    intro name reached
    rcases reachable_taggedAlbum reached with rfl | rfl
    · refine .inr ⟨_, _, rfl, rfl, .object .nullable rfl ?_⟩
      intro pair member
      rw [List.mem_singleton.mp member]
      exact .list .multi .nonNull .nullable .nonNull (.refl _)
    · exact .inr ⟨_, _, rfl, rfl, .enumeration _ .nullable .nonNull⟩
  · have untouched : ∀ target, Reachable taggedAlbum.types (.reference "Album" .nonNull) target →
        target ∉ owners.types.keys := by
      intro target reached
      rcases reachable_taggedAlbum reached with rfl | rfl
      · decide
      · decide
    refine (law.2.2 owners untouched).2 .query "album" albumNode rfl projected ?_
    intro replaced found
    cases found

/-- Declarations of no type at all, which take the album for a number. -/
def countedAlbum : Schema :=
  empty.addOperation .query "album" (.scalar .int .nonNull)

/-- An operation that is declared again is converted from its later model, although none of the
names that its earlier model reaches is declared again. -/
theorem convert_merge_redeclared :
    (∀ target, Reachable taggedAlbum.types (.reference "Album" .nonNull) target →
        target ∉ countedAlbum.types.keys) ∧
      (taggedAlbum.operations.get .query).get? "album" = some (.reference "Album" .nonNull) ∧
      taggedAlbum.convert .query "album" = .ok albumNode ∧
      (taggedAlbum.merge countedAlbum).convert .query "album" =
        .ok (.obj [("type", .str "integer")]) ∧
      albumNode ≠ .obj [("type", .str "integer")] := by
  refine ⟨?_, rfl, rfl, rfl, ?_⟩
  · intro target _
    exact List.not_mem_nil
  · simp [albumNode]

end Schema

end SdlProjection
