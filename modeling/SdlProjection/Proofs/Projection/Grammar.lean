import SdlProjection.Proofs.Json.Validation
import SdlProjection.Proofs.Projection.Filled
import SdlProjection.Proofs.Projection.Recursion

/-!
Contract: which JSON values nodes are, and which part of a model each part of a
node comes from.

Owns: `IsNode`, the grammar of nodes, and `NodeOf`, the same grammar with the
model beside the node. A reference that is non-null narrows whatever it leads
to, so the rules carry the nullability that stands around a model. What follows
from the rules alone: that nodes of non-null models list no kinds, where empty
nodes come from, and that the keywords of a document stay clear of a node's own.

Does not own: which values a node accepts (`Proofs.Projection.Conformance`).
-/

namespace SdlProjection

open Json Projector

/-! ### The grammar of nodes -/

/-- A kind of values, or the same kind beside null. -/
def IsTypeOf (kind : String) (definition : Json) : Prop :=
  definition = .str kind ∨ definition = .arr [.str kind, .str "null"]

def nodeKinds : List String := ["array", "boolean", "integer", "number", "object", "string"]

/-- The nodes that models become. -/
inductive IsNode : Json → Prop
  | enumeration (values : List String) : IsNode (.obj [("enum", .arr (values.map .str))])
  | typed {kind : String} {definition : Json} : kind ∈ nodeKinds → IsTypeOf kind definition →
      IsNode (.obj [("type", definition)])
  | items {definition item : Json} : IsTypeOf "array" definition → IsNode item →
      IsNode (.obj [("type", definition), ("items", item)])
  | properties {definition : Json} {properties : List (String × Json)} :
      IsTypeOf "object" definition → (∀ property ∈ properties, IsNode property.2) →
      IsNode (.obj [("type", definition), ("properties", .obj properties)])
  | empty : IsNode (.obj [])

theorem isTypeOf_kindDefinition (kind : String) (nullability : Nullability) :
    IsTypeOf kind (kindDefinition kind nullability) := by
  cases nullability with
  | nullable => exact .inr rfl
  | nonNull => exact .inl rfl

/-- No keyword of a node is one of a document. -/
theorem IsNode.wrapDocument_eq {node : Json} (isNode : IsNode node) (title : String) :
    ∃ entries, node = .obj entries ∧
      wrapDocument title node = .obj (documentHeader title ++ entries) := by
  cases isNode with
  | enumeration | typed | items | properties | empty =>
      refine ⟨_, rfl, ?_⟩
      rw [wrapDocument, Entries.insertAll_eq_append]
      simp [documentHeader, Entries.keys]

/-! ### Nullability from around -/

/-- The nullability of a model inside another: it is nullable only if both are. -/
def Nullability.meet : Nullability → Nullability → Nullability
  | .nullable, own => own
  | .nonNull, _ => .nonNull

theorem narrowType_narrowType (node : Json) : narrowType (narrowType node) = narrowType node := by
  cases node with
  | obj entries =>
      cases bare : (Entries.get? entries "type").bind bareKind? with
      | none => simp only [narrowType, bare]
      | some kind =>
          have narrowed : narrowType (.obj entries) =
              .obj (Entries.insert entries "type" (.str kind)) := by simp only [narrowType, bare]
          rw [narrowed, narrowType, Entries.get?_insert, if_pos rfl]
          rfl
  | null | bool _ | int _ | str _ | arr _ | foreign _ => rfl

theorem referenceNode_referenceNode (outer own : Nullability) (node : Json) :
    referenceNode outer (referenceNode own node) = referenceNode (outer.meet own) node := by
  cases outer with
  | nullable => rfl
  | nonNull =>
      cases own with
      | nullable => rfl
      | nonNull => exact narrowType_narrowType node

theorem referenceNode_typed {kind : String} (named : isNullName kind = false)
    (outer own : Nullability) (others : List (String × Json)) :
    referenceNode outer (.obj (("type", kindDefinition kind own) :: others)) =
      .obj (("type", kindDefinition kind (outer.meet own)) :: others) := by
  cases outer with
  | nullable => rfl
  | nonNull => exact narrowType_typed named own others

theorem referenceNode_enumNode (outer : Nullability) (values : List String) :
    referenceNode outer (enumNode values) = enumNode values := by
  cases outer with
  | nullable => rfl
  | nonNull => exact narrowType_enumNode values

/-! ### The node of a model -/

/-- The kind of a model's values; enums and references have none of their own. -/
def TypeModel.kind? : TypeModel → Option String
  | .list _ _ _ _ => some "array"
  | .object _ _ => some "object"
  | .scalar kind _ => some kind.jsonType
  | .enumeration _ _ | .reference _ _ => none

/-- The node of a model below the names that are being expanded, with the nullability around
it. -/
inductive NodeOf (types : OrderedMap TypeModel) :
    List String → Nullability → TypeModel → Json → Prop
  | enumeration {expanding : List String} {outer own : Nullability} {values : List String} :
      NodeOf types expanding outer (.enumeration values own)
        (.obj [("enum", .arr (values.map .str))])
  | scalar {expanding : List String} {outer own : Nullability} {kind : ScalarKind} :
      NodeOf types expanding outer (.scalar kind own)
        (.obj [("type", kindDefinition kind.jsonType (outer.meet own))])
  | single {expanding : List String} {outer inner own : Nullability} {element : TypeModel}
      {item : Json} : NodeOf types expanding .nullable element item →
      NodeOf types expanding outer (.list .single element inner own)
        (.obj [("type", kindDefinition "array" (outer.meet own)), ("items", item)])
  /-- The rows keep the list's own nullability. -/
  | multi {expanding : List String} {outer inner own : Nullability} {element : TypeModel}
      {item : Json} : NodeOf types expanding .nullable element item →
      NodeOf types expanding outer (.list .multi element inner own)
        (.obj [("type", kindDefinition "array" (outer.meet own)),
          ("items", .obj [("type", kindDefinition "array" own), ("items", item)])])
  /-- There is a property for each field and none besides, in the order of the fields. -/
  | object {expanding : List String} {outer own : Nullability}
      {fields : List (String × TypeModel)} {properties : List (String × Json)} :
      properties.map Prod.fst = fields.map Prod.fst →
      (∀ pair ∈ fields.zip properties, NodeOf types expanding .nullable pair.1.2 pair.2.2) →
      NodeOf types expanding outer (.object fields own)
        (.obj [("type", kindDefinition "object" (outer.meet own)),
          ("properties", .obj properties)])
  | inlined {expanding : List String} {outer own : Nullability} {target : String}
      {entry : TypeModel} {node : Json} : types.get? target = some entry → target ∉ expanding →
      NodeOf types (expanding ++ [target]) (outer.meet own) entry node →
      NodeOf types expanding outer (.reference target own) node
  | cutOffEnumeration {expanding : List String} {outer own theirs : Nullability}
      {target : String} {values : List String} :
      types.get? target = some (.enumeration values theirs) → target ∈ expanding →
      NodeOf types expanding outer (.reference target own)
        (.obj [("enum", .arr (values.map .str))])
  | cutOff {expanding : List String} {outer own : Nullability} {target kind : String}
      {entry : TypeModel} : types.get? target = some entry → target ∈ expanding →
      entry.kind? = some kind →
      NodeOf types expanding outer (.reference target own)
        (.obj [("type", kindDefinition kind ((outer.meet own).meet entry.nullability))])
  /-- The entry has no node of its own, for it is a reference again. -/
  | empty {expanding : List String} {outer own : Nullability} {target : String}
      {entry : TypeModel} : types.get? target = some entry → target ∈ expanding →
      entry.isReference = true →
      NodeOf types expanding outer (.reference target own) (.obj [])

section Rules

variable {types : OrderedMap TypeModel} {expanding : List String} {outer : Nullability}
  {model : TypeModel} {node : Json}

theorem jsonType_mem_nodeKinds (kind : ScalarKind) : kind.jsonType ∈ nodeKinds := by
  cases kind <;> decide

theorem kind_mem_nodeKinds {kind : String} (isKind : model.kind? = some kind) :
    kind ∈ nodeKinds := by
  cases model with
  | list dimensionality element inner nullability =>
      obtain rfl := Option.some.inj isKind
      decide
  | object fields nullability =>
      obtain rfl := Option.some.inj isKind
      decide
  | scalar scalarKind nullability =>
      obtain rfl := Option.some.inj isKind
      exact jsonType_mem_nodeKinds scalarKind
  | enumeration values nullability => cases isKind
  | reference target nullability => cases isKind

theorem isNullName_of_mem_nodeKinds {kind : String} (isKind : kind ∈ nodeKinds) :
    isNullName kind = false := by
  have allNamed : ∀ kind ∈ nodeKinds, isNullName kind = false := by decide
  exact allNamed kind isKind

theorem exists_zip_of_mem {fields : List (String × TypeModel)} {properties : List (String × Json)}
    (sameKeys : properties.map Prod.fst = fields.map Prod.fst) {property : String × Json}
    (member : property ∈ properties) : ∃ field, (field, property) ∈ fields.zip properties := by
  have sameLength : properties.length = fields.length := by
    simpa using congrArg List.length sameKeys
  rw [← List.map_snd_zip (Nat.le_of_eq sameLength)] at member
  obtain ⟨⟨field, _⟩, paired, rfl⟩ := List.mem_map.mp member
  exact ⟨field, paired⟩

/-- Forgetting the model leaves the grammar. -/
theorem NodeOf.isNode (shaped : NodeOf types expanding outer model node) : IsNode node := by
  induction shaped with
  | enumeration => exact .enumeration _
  | scalar => exact .typed (jsonType_mem_nodeKinds _) (isTypeOf_kindDefinition _ _)
  | single _ item => exact .items (isTypeOf_kindDefinition _ _) item
  | multi _ item =>
      exact .items (isTypeOf_kindDefinition _ _) (.items (isTypeOf_kindDefinition _ _) item)
  | object sameKeys _ fields =>
      refine .properties (isTypeOf_kindDefinition _ _) ?_
      intro property member
      obtain ⟨field, paired⟩ := exists_zip_of_mem sameKeys member
      exact fields _ paired
  | inlined _ _ _ content => exact content
  | cutOffEnumeration => exact .enumeration _
  | cutOff _ _ isKind => exact .typed (kind_mem_nodeKinds isKind) (isTypeOf_kindDefinition _ _)
  | empty => exact .empty

/-- Where null is excluded, from around or by the model itself, no kinds are listed. -/
theorem NodeOf.type_ne_arr (shaped : NodeOf types expanding outer model node)
    (nonNull : outer.meet model.nullability = .nonNull) (kinds : List Json) :
    node.get? "type" ≠ some (.arr kinds) := by
  induction shaped with
  | enumeration => simp [Json.get?, Entries.get?]
  | cutOffEnumeration => simp [Json.get?, Entries.get?]
  | empty => simp [Json.get?, Entries.get?]
  | scalar | single | multi | object =>
      rw [TypeModel.nullability] at nonNull
      simp [nonNull, Json.get?, Entries.get?, kindDefinition]
  | inlined _ _ _ content =>
      rw [TypeModel.nullability] at nonNull
      exact content (by rw [nonNull]; rfl)
  | cutOff =>
      rw [TypeModel.nullability] at nonNull
      rw [nonNull]
      simp [Json.get?, Entries.get?, kindDefinition, Nullability.meet]

/-- A reference to a name that is being expanded and stands for a reference itself. -/
def IsEmptyCutOff (types : OrderedMap TypeModel) (call : TypeModel × List String) : Prop :=
  ∃ target nullability entry, call.1 = .reference target nullability ∧ target ∈ call.2 ∧
    types.get? target = some entry ∧ entry.isReference = true

/-- Without such a reference on any path of calls, no node is empty. -/
theorem NodeOf.filled (shaped : NodeOf types expanding outer model node)
    (definite : ∀ reached, Relation.ReflTransGen (Calls types) (model, expanding) reached →
      ¬ IsEmptyCutOff types reached) : Filled node := by
  induction shaped with
  | enumeration => exact filled_enumNode _
  | scalar => exact filled_typeNode _
  | single _ item =>
      exact filled_itemsNode _ (item fun reached way => definite reached (.head .element way))
  | multi _ item =>
      exact filled_itemsNode _ (filled_itemsNode _
        (item fun reached way => definite reached (.head .element way)))
  | object sameKeys _ fields =>
      apply filled_propertiesNode
      intro property member
      obtain ⟨field, paired⟩ := exists_zip_of_mem sameKeys member
      have isField := (List.of_mem_zip paired).1
      exact fields _ paired fun reached way => definite reached (.head (.field isField) way)
  | inlined found fresh _ content =>
      exact content fun reached way => definite reached (.head (.entry found fresh) way)
  | cutOffEnumeration => exact filled_enumNode _
  | cutOff => exact filled_typeNode _
  | empty found expanded isReference =>
      exact absurd ⟨_, _, _, rfl, expanded, found, isReference⟩ (definite _ .refl)

/-! ### Unfolded models have nodes of the grammar -/

/-- What a reference leaves of an entry that is not inlined. -/
theorem NodeOf.of_cutOff {target : String} {entry : TypeModel}
    (found : types.get? target = some entry) (expanded : target ∈ expanding)
    (outer own : Nullability) :
    NodeOf types expanding outer (.reference target own)
      (referenceNode outer (referenceNode own entry.shallowNode)) := by
  rw [referenceNode_referenceNode]
  have typed : ∀ kind, entry.kind? = some kind →
      entry.shallowNode = .obj [("type", kindDefinition kind entry.nullability)] →
      NodeOf types expanding outer (.reference target own)
        (referenceNode (outer.meet own) entry.shallowNode) := by
    intro kind isKind shallow
    have named := isNullName_of_mem_nodeKinds (kind_mem_nodeKinds isKind)
    rw [shallow, referenceNode_typed named]
    exact .cutOff found expanded isKind
  cases entry with
  | enumeration values theirs =>
      have shallow : (TypeModel.enumeration values theirs).shallowNode = enumNode values := rfl
      rw [shallow, referenceNode_enumNode]
      exact .cutOffEnumeration found expanded
  | reference next theirs =>
      have shallow : referenceNode (outer.meet own) (TypeModel.reference next theirs).shallowNode =
          .obj [] := by
        cases outer.meet own <;> rfl
      rw [shallow]
      exact .empty found expanded rfl
  | list _ _ _ _ | object _ _ | scalar _ _ => exact typed _ rfl rfl

/-- A tree has a node of the grammar if the targets of its references have. -/
theorem nodeOf_unfoldModel {follow : String → TypeModel → Expansion} {names : List String}
    (same : ∀ name, name ∈ names ↔ name ∈ expanding)
    (followed : ∀ target entry outer, types.get? target = some entry → target ∉ expanding →
      (∀ name, .unresolved name ∉ (follow target entry).stops) →
      NodeOf types (expanding ++ [target]) outer entry
        (referenceNode outer (follow target entry).node))
    (outer : Nullability) (model : TypeModel)
    (resolved : ∀ name, .unresolved name ∉
      (Expansion.unfoldModel types follow names model).stops) :
    NodeOf types expanding outer model
      (referenceNode outer (Expansion.unfoldModel types follow names model).node) := by
  induction model using TypeModel.inductionOnFields generalizing outer with
  | enumeration values nullability =>
      simp only [Expansion.unfoldModel, Expansion.node, referenceNode_enumNode]
      exact .enumeration
  | scalar kind nullability =>
      have named := isNullName_of_mem_nodeKinds (jsonType_mem_nodeKinds kind)
      simp only [Expansion.unfoldModel, Expansion.node, referenceNode_typed named]
      exact .scalar
  | list dimensionality element inner nullability inductionHypothesis =>
      have arrayNamed : isNullName "array" = false := by decide
      simp only [Expansion.unfoldModel, Expansion.stops] at resolved
      have item := inductionHypothesis .nullable resolved
      cases dimensionality with
      | single =>
          simp only [Expansion.unfoldModel, Expansion.node, listNode,
            referenceNode_typed arrayNamed]
          exact .single item
      | multi =>
          simp only [Expansion.unfoldModel, Expansion.node, listNode,
            referenceNode_typed arrayNamed]
          exact .multi item
  | object fields nullability inductionHypothesis =>
      have objectNamed : isNullName "object" = false := by decide
      simp only [Expansion.unfoldModel, Expansion.node, referenceNode_typed objectNamed,
        Expansion.fieldNodes_eq_map, Expansion.unfoldFields_eq_map, List.map_map]
      refine .object (by simp) ?_
      intro pair member
      rw [← List.map_prod_left_eq_zip, List.mem_map] at member
      obtain ⟨field, listed, rfl⟩ := member
      refine inductionHypothesis field listed .nullable ?_
      intro name stopped
      apply resolved name
      simp only [Expansion.unfoldModel, Expansion.stops, Expansion.unfoldFields_eq_map,
        Expansion.mem_fieldStops]
      exact ⟨_, List.mem_map_of_mem listed, stopped⟩
  | reference target nullability =>
      simp only [Expansion.unfoldModel] at resolved ⊢
      cases found : types.get? target with
      | none => simp [found, Expansion.stops] at resolved
      | some entry =>
          by_cases expanded : target ∈ expanding
          · have isName : target ∈ names := (same target).mpr expanded
            simp only [isName, ↓reduceIte, Expansion.node]
            exact .of_cutOff found expanded outer nullability
          · have fresh : target ∉ names := fun isName => expanded ((same target).mp isName)
            simp only [found, fresh, ↓reduceIte, Expansion.stops, Expansion.node] at resolved ⊢
            rw [referenceNode_referenceNode]
            exact .inlined found expanded (followed target entry _ found expanded resolved)

theorem nodeOf_unfold (allowance : Nat) (expanding names : List String) (outer : Nullability)
    (model : TypeModel) (same : ∀ name, name ∈ names ↔ name ∈ expanding)
    (resolved : ∀ name, .unresolved name ∉ (Expansion.unfold types allowance names model).stops) :
    NodeOf types expanding outer model
      (referenceNode outer (Expansion.unfold types allowance names model).node) := by
  induction allowance generalizing expanding names outer model with
  | zero =>
      refine nodeOf_unfoldModel same ?_ outer model resolved
      intro target _ _ _ _ none
      exact absurd (List.mem_singleton.mpr rfl) (none target)
  | succ allowance inductionHypothesis =>
      refine nodeOf_unfoldModel same ?_ outer model resolved
      intro target entry outer found fresh resolved
      refine inductionHypothesis _ _ _ _ ?_ resolved
      intro name
      simp [same, or_comm]

end Rules

namespace Schema

/-- What a model is projected to belongs to the grammar, part by part as the rules say. An empty
node can only come from a reference that is cut off and whose entry is a reference again; a
non-null model has no node whose `type` lists kinds. In a document the three keywords come
first and the entries of the node follow unchanged, whatever names the fields have. -/
theorem node_of_project {schema : Schema} {model : TypeModel} {node : Json}
    (projected : schema.project model = .ok node) :
    IsNode node ∧ NodeOf schema.types [] .nullable model node ∧
      (∀ sub, Subnode sub node → sub = .obj [] →
        ∃ reached, Relation.ReflTransGen (Calls schema.types) (model, []) reached ∧
          IsEmptyCutOff schema.types reached) ∧
      (model.nullability = .nonNull → ∀ kinds, node.get? "type" ≠ some (.arr kinds)) ∧
      ∀ title, ∃ entries, node = .obj entries ∧
        wrapDocument title node =
          .obj (("$schema", .str "http://json-schema.org/draft-04/schema#") ::
            ("title", .str title) ::
            ("description", .str "JSON schema converted from GraphQL schema.") :: entries) := by
  obtain ⟨resolved, isNode⟩ := Expansion.toNode_eq_ok projected
  have shaped : NodeOf schema.types [] .nullable model node :=
    isNode ▸ nodeOf_unfold _ [] [] .nullable model (fun _ => Iff.rfl) resolved
  refine ⟨shaped.isNode, shaped, ?_, shaped.type_ne_arr, shaped.isNode.wrapDocument_eq⟩
  intro sub within empty
  by_contra definite
  refine shaped.filled ?_ sub within empty
  exact fun reached way isCutOff => definite ⟨reached, way, isCutOff⟩

/-- Fields with the names of keywords, and a name that stands for itself. -/
def pages : Schema :=
  ((empty.addType "Page"
    (.object [("type", .list .multi (.reference "Page" .nonNull) .nullable .nonNull),
      ("title", .reference "Alias" .nonNull), ("enum", .reference "Kind" .nonNull)]
      .nullable)).addType "Alias" (.reference "Alias" .nullable)).addType "Kind"
    (.enumeration ["null", "items"] .nullable)

def pageEntries : List (String × Json) :=
  [("type", .str "object"),
    ("properties", .obj [
      ("type", .obj [("type", .str "array"),
        ("items", .obj [("type", .str "array"), ("items", .obj [("type", .str "object")])])]),
      ("title", .obj []),
      ("enum", .obj [("enum", .arr [.str "null", .str "items"])])])]

/-- The fields keep their names, the one empty node comes from the name that stands for itself,
and the document has its own title. -/
theorem node_of_pages :
    pages.project (.reference "Page" .nonNull) = .ok (.obj pageEntries) ∧
      IsNode (.obj pageEntries) ∧
      (∃ reached, Relation.ReflTransGen (Calls pages.types) (.reference "Page" .nonNull, [])
        reached ∧ IsEmptyCutOff pages.types reached) ∧
      (∀ kinds, (Json.obj pageEntries).get? "type" ≠ some (.arr kinds)) ∧
      wrapDocument "Pages" (.obj pageEntries) =
        .obj (("$schema", .str "http://json-schema.org/draft-04/schema#") ::
          ("title", .str "Pages") ::
          ("description", .str "JSON schema converted from GraphQL schema.") :: pageEntries) := by
  have projected : pages.project (.reference "Page" .nonNull) = .ok (.obj pageEntries) := rfl
  obtain ⟨isNode, -, cutOff, noKinds, document⟩ := node_of_project projected
  have within : Subnode (.obj []) (.obj pageEntries) :=
    .property rfl (List.mem_cons_of_mem _ List.mem_cons_self) (.refl _)
  obtain ⟨entries, same, wrapped⟩ := document "Pages"
  obtain rfl := Json.obj.inj same
  exact ⟨projected, isNode, cutOff _ within rfl, noKinds rfl, wrapped⟩

end Schema

end SdlProjection
