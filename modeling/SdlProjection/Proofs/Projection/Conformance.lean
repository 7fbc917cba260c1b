import SdlProjection.Proofs.Entries
import SdlProjection.Proofs.Json.Validation
import SdlProjection.Proofs.Projection.Unfolding

/-!
Contract: which values the node of a model accepts.

Owns: `Conforms`, the values a model stands for whatever becomes of it, and the
comparison with its node. A node accepts every conforming value. It accepts no
other if nothing was cut off on the way, that is if no name reachable from the
model is reachable from its own entry.

Does not own: the meaning of a node's keywords (`Proofs.Json.Validation`).
-/

namespace SdlProjection

/-- A row of a two-dimensional list is an array, or `null` where the list may be. -/
def IsRow (nullability : Nullability) (row : Json) : Prop :=
  (∃ elements, row = .arr elements) ∨ (nullability = .nullable ∧ row = .null)

/-- The values a model stands for. An enum's own nullability does not count, nor does that of
a list's rows, which follow the list. A non-null reference only takes `null` away. -/
inductive Conforms (types : OrderedMap TypeModel) : TypeModel → Json → Prop
  | scalar {kind : ScalarKind} {nullability : Nullability} {value : Json} :
      value.hasType kind.jsonType → Conforms types (.scalar kind nullability) value
  | scalarNull {kind : ScalarKind} : Conforms types (.scalar kind .nullable) .null
  | enumeration {values : List String} {nullability : Nullability} {text : String} :
      text ∈ values → Conforms types (.enumeration values nullability) (.str text)
  | object {fields : List (String × TypeModel)} {nullability : Nullability}
      {members : List (String × Json)} :
      (∀ key type member, (key, type) ∈ fields → (key, member) ∈ members →
        Conforms types type member) →
      Conforms types (.object fields nullability) (.obj members)
  | objectNull {fields : List (String × TypeModel)} :
      Conforms types (.object fields .nullable) .null
  | single {element : TypeModel} {inner nullability : Nullability} {elements : List Json} :
      (∀ item ∈ elements, Conforms types element item) →
      Conforms types (.list .single element inner nullability) (.arr elements)
  | multi {element : TypeModel} {inner nullability : Nullability} {rows : List Json} :
      (∀ row ∈ rows, IsRow nullability row) →
      (∀ elements, .arr elements ∈ rows → ∀ item ∈ elements, Conforms types element item) →
      Conforms types (.list .multi element inner nullability) (.arr rows)
  | listNull {dimensionality : Dimensionality} {element : TypeModel} {inner : Nullability} :
      Conforms types (.list dimensionality element inner .nullable) .null
  | reference {target : String} {entry : TypeModel} {nullability : Nullability} {value : Json} :
      types.get? target = some entry → Conforms types entry value →
      (nullability = .nonNull → value ≠ .null) →
      Conforms types (.reference target nullability) value

theorem jsonType_not_null (kind : ScalarKind) : isNullName kind.jsonType = false := by
  cases kind <;> decide

section Nodes

variable {value element : Json} {nullability : Nullability}

theorem accepts_scalarNode {kind : ScalarKind} :
    (Json.obj [("type", kindDefinition kind.jsonType nullability)]).Accepts value ↔
      value.hasType kind.jsonType ∨ (nullability = .nullable ∧ value = .null) := by
  rw [accepts_type, admitsType_kindDefinition, hasType_null_iff]

theorem accepts_objectNode {properties : List (String × Json)} :
    (Json.obj [("type", kindDefinition "object" nullability),
        ("properties", .obj properties)]).Accepts value ↔
      (∃ members, value = .obj members ∧ Json.PropertiesAccept properties members) ∨
        (nullability = .nullable ∧ value = .null) := by
  rw [accepts_type_properties, admitsType_kindDefinition, hasType_null_iff, hasType_object_iff]
  constructor
  · intro accepted
    rcases accepted with ⟨⟨members, rfl⟩ | isNull, accepted⟩
    · exact .inl ⟨members, rfl, accepted members rfl⟩
    · exact .inr isNull
  · intro accepted
    rcases accepted with ⟨members, rfl, accepted⟩ | ⟨nullable, rfl⟩
    · exact ⟨.inl ⟨members, rfl⟩, by simpa using accepted⟩
    · exact ⟨.inr ⟨nullable, rfl⟩, by simp⟩

/-- An array node, one-dimensional or a row. -/
theorem accepts_arrayNode :
    (Json.obj [("type", kindDefinition "array" nullability), ("items", element)]).Accepts value ↔
      (∃ elements, value = .arr elements ∧ ∀ item ∈ elements, element.Accepts item) ∨
        (nullability = .nullable ∧ value = .null) := by
  rw [accepts_type_items, admitsType_kindDefinition, hasType_null_iff, hasType_array_iff]
  constructor
  · intro accepted
    rcases accepted with ⟨⟨elements, rfl⟩ | isNull, accepted⟩
    · exact .inl ⟨elements, rfl, accepted elements rfl⟩
    · exact .inr isNull
  · intro accepted
    rcases accepted with ⟨elements, rfl, accepted⟩ | ⟨nullable, rfl⟩
    · exact ⟨.inl ⟨elements, rfl⟩, by simpa using accepted⟩
    · exact ⟨.inr ⟨nullable, rfl⟩, by simp⟩

theorem accepts_listNode_single :
    (listNode .single element nullability).Accepts value ↔
      (∃ elements, value = .arr elements ∧ ∀ item ∈ elements, element.Accepts item) ∨
        (nullability = .nullable ∧ value = .null) :=
  accepts_arrayNode

theorem accepts_listNode_multi :
    (listNode .multi element nullability).Accepts value ↔
      (∃ rows, value = .arr rows ∧ (∀ row ∈ rows, IsRow nullability row) ∧
          ∀ elements, .arr elements ∈ rows → ∀ item ∈ elements, element.Accepts item) ∨
        (nullability = .nullable ∧ value = .null) := by
  simp only [listNode]
  rw [accepts_arrayNode]
  apply or_congr_left
  apply exists_congr
  intro rows
  apply and_congr_right
  intro _
  simp only [accepts_arrayNode]
  constructor
  · intro accepted
    constructor
    · intro row member
      rcases accepted row member with ⟨elements, same, _⟩ | isNull
      · exact .inl ⟨elements, same⟩
      · exact .inr isNull
    · intro elements member
      rcases accepted _ member with ⟨_, same, items⟩ | ⟨_, isNull⟩
      · cases same
        exact items
      · cases isNull
  · rintro ⟨shaped, items⟩ row member
    rcases shaped row member with ⟨elements, rfl⟩ | isNull
    · exact .inl ⟨elements, rfl, items elements member⟩
    · exact .inr isNull

end Nodes

namespace Expansion

/-! ### The shape of a node -/

theorem typedNode_shallowNode (model : TypeModel) :
    TypedNode model.shallowNode ∨ model.shallowNode = .obj [] := by
  cases model with
  | enumeration values nullability => exact .inl (.enumeration values)
  | list dimensionality element inner nullability =>
      exact .inl (.typed nullability [] (by decide))
  | object fields nullability => exact .inl (.typed nullability [] (by decide))
  | reference target nullability => exact .inr rfl
  | scalar kind nullability => exact .inl (.typed nullability [] (jsonType_not_null kind))

/-- A node without any keyword is left only by a reference that was cut off. -/
theorem typedNode_node (tree : Expansion) (resolved : ∀ name, .unresolved name ∉ tree.stops) :
    TypedNode tree.node ∨ (tree.node = .obj [] ∧ tree.stops ≠ []) := by
  cases tree with
  | enumeration values => exact .inl (.enumeration values)
  | list dimensionality element nullability =>
      left
      cases dimensionality <;> exact .typed nullability _ (by decide)
  | object fields nullability => exact .inl (.typed nullability _ (by decide))
  | inlined target content nullability =>
      rcases typedNode_node content resolved with shape | ⟨bare, stopped⟩
      · exact .inl (shape.reference nullability)
      · right
        refine ⟨?_, stopped⟩
        cases nullability <;> simp [node, referenceNode, narrowType, bare, Entries.get?]
  | cutOff target entry nullability =>
      rcases typedNode_shallowNode entry with shape | bare
      · exact .inl (shape.reference nullability)
      · right
        refine ⟨?_, by simp [stops]⟩
        cases nullability <;> simp [node, referenceNode, narrowType, bare, Entries.get?]
  | unresolved target => exact absurd (by simp [stops]) (resolved target)
  | scalar kind nullability => exact .inl (.typed nullability [] (jsonType_not_null kind))

/-! ### Conforming values are accepted -/

theorem accepts_referenceNode_of_present {node value : Json} {nullability : Nullability}
    (shape : TypedNode node ∨ node = .obj []) (accepted : node.Accepts value)
    (present : nullability = .nonNull → value ≠ .null) :
    (referenceNode nullability node).Accepts value := by
  rcases shape with shape | rfl
  · exact shape.accepts_referenceNode.mpr ⟨accepted, present⟩
  · cases nullability <;> simp [referenceNode, narrowType, Entries.get?]

theorem accepts_shallowNode {types : OrderedMap TypeModel} {model : TypeModel} {value : Json}
    (conforms : Conforms types model value) : model.shallowNode.Accepts value := by
  cases conforms with
  | scalar typed =>
      exact accepts_scalarNode.mpr (.inl typed)
  | scalarNull => exact accepts_scalarNode.mpr (.inr ⟨rfl, rfl⟩)
  | enumeration member => exact accepts_enumNode.mpr ⟨_, member, rfl⟩
  | object _ | objectNull =>
      simp [TypeModel.shallowNode, TypeModel.typeDefinition?, admitsType_kindDefinition,
        Json.hasType]
  | single _ | multi _ _ | listNull =>
      simp [TypeModel.shallowNode, TypeModel.typeDefinition?, admitsType_kindDefinition,
        Json.hasType]
  | reference _ _ _ => simp [TypeModel.shallowNode, TypeModel.typeDefinition?]

/-- What conforms to an entry is accepted where a reference to it is cut off. -/
theorem accepts_cutOff {types : OrderedMap TypeModel} {target : String} {entry : TypeModel}
    {nullability : Nullability} {value : Json} (conforms : Conforms types entry value)
    (present : nullability = .nonNull → value ≠ .null) :
    (cutOff target entry nullability).node.Accepts value :=
  accepts_referenceNode_of_present (typedNode_shallowNode entry) (accepts_shallowNode conforms)
    present

/-- What the entry accepts is accepted where a reference to it is inlined. -/
theorem accepts_inlined {target : String} {content : Expansion} {nullability : Nullability}
    {value : Json} (resolved : ∀ name, .unresolved name ∉ content.stops)
    (accepted : content.node.Accepts value) (present : nullability = .nonNull → value ≠ .null) :
    (inlined target content nullability).node.Accepts value := by
  have shape : TypedNode content.node ∨ content.node = .obj [] :=
    (typedNode_node content resolved).imp_right And.left
  exact accepts_referenceNode_of_present shape accepted present

theorem unfold_accepts_of_conforms {types : OrderedMap TypeModel} {model : TypeModel} {value : Json}
    (conforms : Conforms types model value) (allowance : Nat) (expanding : List String)
    (resolved : ∀ name, .unresolved name ∉ (unfold types allowance expanding model).stops) :
    (unfold types allowance expanding model).node.Accepts value := by
  induction conforms generalizing allowance expanding with
  | scalar typed =>
      rw [unfold_scalar]
      exact accepts_scalarNode.mpr (.inl typed)
  | scalarNull =>
      rw [unfold_scalar]
      exact accepts_scalarNode.mpr (.inr ⟨rfl, rfl⟩)
  | enumeration member =>
      rw [unfold_enumeration]
      exact accepts_enumNode.mpr ⟨_, member, rfl⟩
  | @object fields nullability members _ inductionHypothesis =>
      simp only [unfold_object, node, stops, mem_fieldStops, fieldNodes_eq_map, List.map_map,
        List.mem_map] at resolved ⊢
      refine accepts_objectNode.mpr (.inl ⟨members, rfl, Json.propertiesAccept_iff.mpr ?_⟩)
      intro name node member inProperties inMembers
      obtain ⟨⟨key, type⟩, inFields, same⟩ := List.mem_map.mp inProperties
      cases same
      refine inductionHypothesis key type member inFields inMembers allowance expanding ?_
      intro name stopped
      exact resolved name ⟨_, ⟨_, inFields, rfl⟩, stopped⟩
  | objectNull =>
      rw [unfold_object]
      exact accepts_objectNode.mpr (.inr ⟨rfl, rfl⟩)
  | single _ inductionHypothesis =>
      rw [unfold_list] at resolved ⊢
      refine accepts_listNode_single.mpr (.inl ⟨_, rfl, ?_⟩)
      intro item member
      exact inductionHypothesis item member allowance expanding resolved
  | multi shaped _ inductionHypothesis =>
      rw [unfold_list] at resolved ⊢
      refine accepts_listNode_multi.mpr (.inl ⟨_, rfl, shaped, ?_⟩)
      intro elements row item member
      exact inductionHypothesis elements row item member allowance expanding resolved
  | @listNull dimensionality =>
      rw [unfold_list]
      cases dimensionality with
      | single => exact accepts_listNode_single.mpr (.inr ⟨rfl, rfl⟩)
      | multi => exact accepts_listNode_multi.mpr (.inr ⟨rfl, rfl⟩)
  | @reference target entry nullability value found conforms present inductionHypothesis =>
      cases allowance with
      | zero =>
          by_cases expanded : target ∈ expanding
          · have cut : unfold types 0 expanding (.reference target nullability) =
                .cutOff target entry nullability := by
              simp [unfold, unfoldModel, found, expanded]
            rw [cut]
            exact accepts_cutOff conforms present
          · refine absurd ?_ (resolved target)
            simp [unfold, unfoldModel, found, expanded, stops]
      | succ allowance =>
          rw [unfold_reference types allowance expanding nullability found] at resolved ⊢
          split
          · exact accepts_cutOff conforms present
          · next fresh =>
              rw [if_neg fresh] at resolved
              let content := unfold types allowance (target :: expanding) entry
              have contentResolved : ∀ name, .unresolved name ∉ content.stops := resolved
              have contentAccepts : content.node.Accepts value :=
                inductionHypothesis allowance (target :: expanding) contentResolved
              exact accepts_inlined contentResolved contentAccepts present

/-! ### Where nothing is cut off, only conforming values are accepted -/

section Exactness

variable {types : OrderedMap TypeModel}

/-- What holds of references holds of all models. -/
theorem conforms_of_references_conform (allowance : Nat) (expanding : List String)
    (references : ∀ target nullability value,
      (unfold types allowance expanding (.reference target nullability)).stops = [] →
      (unfold types allowance expanding (.reference target nullability)).node.Accepts value →
      Conforms types (.reference target nullability) value)
    (model : TypeModel) (value : Json)
    (whole : (unfold types allowance expanding model).stops = [])
    (accepted : (unfold types allowance expanding model).node.Accepts value) :
    Conforms types model value := by
  induction model using TypeModel.inductionOnFields generalizing value with
  | enumeration values nullability =>
      rw [unfold_enumeration] at accepted
      obtain ⟨text, member, rfl⟩ := accepts_enumNode.mp accepted
      exact .enumeration member
  | scalar kind nullability =>
      rw [unfold_scalar] at accepted
      rcases accepts_scalarNode.mp accepted with typed | ⟨rfl, rfl⟩
      · exact .scalar typed
      · exact .scalarNull
  | list dimensionality element inner nullability inductionHypothesis =>
      rw [unfold_list] at accepted whole
      cases dimensionality with
      | single =>
          rcases accepts_listNode_single.mp accepted with ⟨elements, rfl, items⟩ | ⟨rfl, rfl⟩
          · refine .single ?_
            intro item member
            exact inductionHypothesis item whole (items item member)
          · exact .listNull
      | multi =>
          rcases accepts_listNode_multi.mp accepted with ⟨rows, rfl, shaped, items⟩ | ⟨rfl, rfl⟩
          · refine .multi shaped ?_
            intro elements row item member
            exact inductionHypothesis item whole (items elements row item member)
          · exact .listNull
  | object fields nullability inductionHypothesis =>
      simp only [unfold_object, node, stops, fieldNodes_eq_map, List.map_map] at whole accepted
      rcases accepts_objectNode.mp accepted with ⟨members, rfl, properties⟩ | ⟨rfl, rfl⟩
      · refine .object ?_
        intro key type member inFields inMembers
        have fieldWhole : (unfold types allowance expanding type).stops = [] := by
          rw [List.eq_nil_iff_forall_not_mem] at whole ⊢
          intro stop stopped
          apply whole stop
          rw [mem_fieldStops]
          exact ⟨_, List.mem_map.mpr ⟨_, inFields, rfl⟩, stopped⟩
        refine inductionHypothesis _ inFields member fieldWhole ?_
        exact Json.propertiesAccept_iff.mp properties key _ member
          (List.mem_map.mpr ⟨_, inFields, rfl⟩) inMembers
      · exact .objectNull
  | reference target nullability => exact references target nullability value whole accepted

theorem conforms_of_unfold_accepts (allowance : Nat) (expanding : List String) (model : TypeModel)
    (value : Json) (whole : (unfold types allowance expanding model).stops = [])
    (accepted : (unfold types allowance expanding model).node.Accepts value) :
    Conforms types model value := by
  induction allowance generalizing expanding model value with
  | zero =>
      refine conforms_of_references_conform 0 expanding ?_ model value whole accepted
      -- Without allowance, a reference stops in one way or another.
      intro target nullability _ noStop _
      simp only [unfold, unfoldModel] at noStop
      split at noStop
      · simp [stops] at noStop
      · split at noStop <;> simp [stops] at noStop
  | succ allowance inductionHypothesis =>
      refine conforms_of_references_conform (allowance + 1) expanding ?_ model value whole accepted
      intro target nullability value noStop accepted
      cases found : types.get? target with
      | none => simp [unfold, unfoldModel, found, stops] at noStop
      | some entry =>
          rw [unfold_reference types allowance expanding nullability found] at noStop accepted
          split at noStop
          · simp [stops] at noStop
          · next fresh =>
              rw [if_neg fresh] at accepted
              have shape : TypedNode (unfold types allowance (target :: expanding) entry).node := by
                have noneUnresolved : ∀ name, .unresolved name ∉
                    (unfold types allowance (target :: expanding) entry).stops := by
                  intro name
                  rw [show (unfold types allowance (target :: expanding) entry).stops = [] from
                    noStop]
                  exact List.not_mem_nil
                exact (typedNode_node _ noneUnresolved).resolve_right fun bare => bare.2 noStop
              obtain ⟨entryAccepts, present⟩ := shape.accepts_referenceNode.mp accepted
              exact .reference found
                (inductionHypothesis (target :: expanding) entry value noStop entryAccepts) present

/-- A reference is cut off only below its own target, which then is reachable from its own
entry, or below a name that was being unfolded from the start. -/
theorem cutOff_mem_unfold {target : String} (allowance : Nat) (expanding : List String)
    (model : TypeModel) (cut : .cutOff target ∈ (unfold types allowance expanding model).stops) :
    Reachable types model target ∧
      (target ∈ expanding ∨
        ∃ entry, types.get? target = some entry ∧ Reachable types entry target) := by
  induction allowance generalizing expanding model with
  | zero =>
      rw [unfold, mem_stops_unfoldModel] at cut
      obtain ⟨mentioned, member, ⟨_, same⟩ | ⟨entry, _, ⟨expanded, same⟩ | ⟨_, further⟩⟩⟩ := cut
      · cases same
      · cases same
        exact ⟨.direct member, .inl expanded⟩
      · simp [stops] at further
  | succ allowance inductionHypothesis =>
      rw [unfold, mem_stops_unfoldModel] at cut
      obtain ⟨mentioned, member, ⟨_, same⟩ | ⟨entry, found, ⟨expanded, same⟩ | ⟨_, further⟩⟩⟩ := cut
      · cases same
      · cases same
        exact ⟨.direct member, .inl expanded⟩
      · obtain ⟨reached, origin⟩ := inductionHypothesis (mentioned :: expanding) entry further
        refine ⟨Reachable.trans_entry (.direct member) found reached, ?_⟩
        rcases origin with listed | cyclic
        · rcases List.mem_cons.mp listed with rfl | expanded
          · exact .inr ⟨entry, found, reached⟩
          · exact .inl expanded
        · exact .inr cyclic

end Exactness

end Expansion

namespace Schema

theorem project_eq_ok {schema : Schema} {model : TypeModel} {node : Json}
    (projected : schema.project model = .ok node) :
    (∀ name, .unresolved name ∉ (schema.expand model).stops) ∧
      (schema.expand model).node = node :=
  Expansion.toNode_eq_ok projected

/-- No name that is reachable from the model is reachable from its own entry. -/
def AcyclicBelow (schema : Schema) (model : TypeModel) : Prop :=
  ∀ name entry, Reachable schema.types model name → schema.types.get? name = some entry →
    ¬ Reachable schema.types entry name

theorem stops_eq_nil_of_acyclic {schema : Schema} {model : TypeModel}
    (resolved : ∀ name, .unresolved name ∉ (schema.expand model).stops)
    (acyclic : schema.AcyclicBelow model) : (schema.expand model).stops = [] := by
  rw [List.eq_nil_iff_forall_not_mem]
  intro stop stopped
  cases stop with
  | unresolved name => exact resolved name stopped
  | cutOff target =>
      obtain ⟨reached, listed | ⟨entry, found, cyclic⟩⟩ :=
        Expansion.cutOff_mem_unfold schema.types.size [] model stopped
      · simp at listed
      · exact acyclic target entry reached found cyclic

/-- The node of a model accepts every value that conforms to the model, and no other value if
no name reachable from the model is reachable from its own entry. -/
theorem node_accepts_conforming {schema : Schema} {model : TypeModel} {node : Json}
    (projected : schema.project model = .ok node) (value : Json) :
    (Conforms schema.types model value → node.Accepts value) ∧
      (schema.AcyclicBelow model → (node.Accepts value ↔ Conforms schema.types model value)) := by
  obtain ⟨resolved, rfl⟩ := project_eq_ok projected
  have sound : Conforms schema.types model value → (schema.expand model).node.Accepts value := by
    intro conforms
    exact Expansion.unfold_accepts_of_conforms conforms schema.types.size [] resolved
  refine ⟨sound, fun acyclic => ⟨?_, sound⟩⟩
  intro accepted
  exact Expansion.conforms_of_unfold_accepts schema.types.size [] model value
    (stops_eq_nil_of_acyclic resolved acyclic) accepted

/-- A single type of objects, with rows of tiles. -/
def photos : Schema :=
  empty.addType "Photo"
    (.object [("tiles", .list .multi (.scalar .int .nonNull) .nullable .nullable)] .nullable)

def photoNode : Json :=
  .obj [("type", .str "object"),
    ("properties", .obj [("tiles", .obj [("type", .arr [.str "array", .str "null"]),
      ("items", .obj [("type", .arr [.str "array", .str "null"]),
        ("items", .obj [("type", .str "integer")])])])])]

/-- A photo with a row that is `null` is accepted where a photo must be present, `null` itself
is not. -/
theorem photoNode_accepts_photos_only :
    photos.project (.reference "Photo" .nonNull) = .ok photoNode ∧
      photos.AcyclicBelow (.reference "Photo" .nonNull) ∧
      photoNode.Accepts (.obj [("tiles", .arr [.arr [.int 1, .int 2], .null])]) ∧
      ¬ photoNode.Accepts .null := by
  have projected : photos.project (.reference "Photo" .nonNull) = .ok photoNode := rfl
  have acyclic : photos.AcyclicBelow (.reference "Photo" .nonNull) := by
    have leaf : ∀ via entry, photos.types.get? via = some entry → entry.references = [] := by
      intro via entry found
      have isPhoto := Entries.mem_of_get?_eq_some found
      simp only [photos, addType, OrderedMap.insert, empty, OrderedMap.empty, Entries.insert,
        List.mem_singleton, Prod.mk.injEq] at isPhoto
      rw [isPhoto.2]
      rfl
    intro name entry _ found cyclic
    cases cyclic with
    | direct member => simp [leaf name entry found] at member
    | through _ viaFound member => simp [leaf _ _ viaFound] at member
  refine ⟨projected, acyclic, (node_accepts_conforming projected _).1 ?_, ?_⟩
  · refine .reference rfl (.object ?_) (by simp)
    intro key type member inFields inMembers
    simp only [List.mem_singleton, Prod.mk.injEq] at inFields inMembers
    obtain ⟨rfl, rfl⟩ := inFields
    obtain ⟨_, rfl⟩ := inMembers
    refine .multi ?_ ?_
    · simp [IsRow]
    · simp only [List.mem_cons, Json.arr.injEq, reduceCtorEq, List.not_mem_nil, or_false,
        forall_eq]
      rintro item (rfl | rfl) <;> exact .scalar rfl
  · rw [(node_accepts_conforming projected _).2 acyclic]
    intro conforms
    cases conforms with
    | reference _ _ present => exact present rfl rfl

end Schema

end SdlProjection
