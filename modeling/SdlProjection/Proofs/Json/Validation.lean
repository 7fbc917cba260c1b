import SdlProjection.Projection.Node

/-!
Contract: when a JSON value is valid against a schema node.

Owns: the meaning of the four draft-04 keywords `type`, `enum`, `items` and
`properties`, as far as a node uses them: `items` and each of the `properties`
hold a node. Any other keyword is ignored, and a keyword for arrays or objects
says nothing about other values. Also what narrowing a `type` keyword does to
the accepted values.

Does not own: which nodes a model becomes (`Projection.Node`).
-/

namespace SdlProjection

namespace Json

/-- Whether a value has one of the types that are known by name. Every number here is an
integer; text that no other value stands for has no type. -/
def hasType : Json → String → Bool
  | .null, kind => kind == "null"
  | .bool _, kind => kind == "boolean"
  | .int _, kind => kind == "integer" || kind == "number"
  | .str _, kind => kind == "string"
  | .arr _, kind => kind == "array"
  | .obj _, kind => kind == "object"
  | .foreign _, _ => false

/-- The `type` keyword names one type or lists several. -/
def AdmitsType : Json → Json → Prop
  | .str kind, value => value.hasType kind
  | .arr kinds, value => ∃ kind, .str kind ∈ kinds ∧ value.hasType kind
  | _, _ => False

/-- The `enum` keyword lists the accepted values. -/
def AdmitsValue : Json → Json → Prop
  | .arr items, value => value ∈ items
  | _, _ => False

mutual

/-- Whether a node accepts a value. -/
def Accepts : Json → Json → Prop
  | .obj keywords, value => KeywordsAccept keywords value
  | _, _ => False
termination_by structural node => node

def KeywordsAccept : List (String × Json) → Json → Prop
  | [], _ => True
  | (keyword, argument) :: rest, value =>
    (if keyword = "type" then AdmitsType argument value
      else if keyword = "enum" then AdmitsValue argument value
      else if keyword = "items" then
        ∀ elements, value = .arr elements → ∀ element ∈ elements, Accepts argument element
      else if keyword = "properties" then
        match argument with
        | .obj properties => ∀ members, value = .obj members → PropertiesAccept properties members
        | _ => False
      else True) ∧
      KeywordsAccept rest value
termination_by structural keywords => keywords

/-- Whether each member that has a node under its name is accepted by that node. -/
def PropertiesAccept : List (String × Json) → List (String × Json) → Prop
  | [], _ => True
  | (name, node) :: rest, members =>
    (∀ member, (name, member) ∈ members → Accepts node member) ∧ PropertiesAccept rest members
termination_by structural properties => properties

end

theorem propertiesAccept_iff {properties members : List (String × Json)} :
    PropertiesAccept properties members ↔
      ∀ name node member, (name, node) ∈ properties → (name, member) ∈ members →
        node.Accepts member := by
  induction properties with
  | nil => simp [PropertiesAccept]
  | cons head tail inductionHypothesis =>
      obtain ⟨name, node⟩ := head
      rw [PropertiesAccept, inductionHypothesis]
      constructor
      · rintro ⟨headAccepts, tailAccepts⟩ name' node' member' inProperties inMembers
        rcases List.mem_cons.mp inProperties with isHead | inTail
        · cases isHead
          exact headAccepts member' inMembers
        · exact tailAccepts name' node' member' inTail inMembers
      · intro accepted
        refine ⟨fun member inMembers => accepted name node member (by simp) inMembers, ?_⟩
        intro name' node' member' inTail inMembers
        exact accepted name' node' member' (List.mem_cons_of_mem _ inTail) inMembers

end Json

/-! ### The nodes of models -/

section Nodes

variable {value definition items : Json}

theorem admitsType_kindDefinition {kind : String} {nullability : Nullability} :
    (kindDefinition kind nullability).AdmitsType value ↔
      value.hasType kind ∨ (nullability = .nullable ∧ value.hasType "null") := by
  cases nullability with
  | nullable => simp [kindDefinition, Json.AdmitsType]
  | nonNull => simp [kindDefinition, Json.AdmitsType]

theorem hasType_null_iff : value.hasType "null" ↔ value = .null := by
  cases value <;> simp [Json.hasType]

theorem hasType_array_iff : value.hasType "array" ↔ ∃ elements, value = .arr elements := by
  cases value <;> simp [Json.hasType]

theorem hasType_object_iff : value.hasType "object" ↔ ∃ members, value = .obj members := by
  cases value <;> simp [Json.hasType]

@[simp]
theorem accepts_empty : (Json.obj []).Accepts value := by
  simp [Json.Accepts, Json.KeywordsAccept]

@[simp]
theorem accepts_enumNode {values : List String} :
    (enumNode values).Accepts value ↔ ∃ text ∈ values, value = .str text := by
  simp [enumNode, Json.Accepts, Json.KeywordsAccept, Json.AdmitsValue, eq_comm]

@[simp]
theorem accepts_type : (Json.obj [("type", definition)]).Accepts value ↔
    definition.AdmitsType value := by
  simp [Json.Accepts, Json.KeywordsAccept]

@[simp]
theorem accepts_type_items : (Json.obj [("type", definition), ("items", items)]).Accepts value ↔
    definition.AdmitsType value ∧
      ∀ elements, value = .arr elements → ∀ element ∈ elements, items.Accepts element := by
  simp [Json.Accepts, Json.KeywordsAccept]

@[simp]
theorem accepts_type_properties {properties : List (String × Json)} :
    (Json.obj [("type", definition), ("properties", .obj properties)]).Accepts value ↔
      definition.AdmitsType value ∧
        ∀ members, value = .obj members → Json.PropertiesAccept properties members := by
  simp [Json.Accepts, Json.KeywordsAccept]

end Nodes

/-! ### Narrowing -/

/-- The nodes whose accepted values say whether `null` is among them: those of enums, and
those that start with the `type` keyword of a model. -/
inductive TypedNode : Json → Prop
  | enumeration (values : List String) : TypedNode (enumNode values)
  | typed {kind : String} (nullability : Nullability) (others : List (String × Json)) :
      isNullName kind = false →
        TypedNode (.obj (("type", kindDefinition kind nullability) :: others))

section Narrowing

variable {node value : Json}

theorem narrowType_enumNode (values : List String) :
    narrowType (enumNode values) = enumNode values := by
  simp [narrowType, enumNode, Entries.get?]

theorem narrowType_typed {kind : String} (named : isNullName kind = false)
    (nullability : Nullability) (others : List (String × Json)) :
    narrowType (.obj (("type", kindDefinition kind nullability) :: others)) =
      .obj (("type", kindDefinition kind .nonNull) :: others) := by
  cases nullability with
  | nonNull => simp [narrowType, kindDefinition, Entries.get?, bareKind?]
  | nullable =>
      have nullNamed : isNullName "null" = true := by decide
      have bare : bareKind? (kindDefinition kind .nullable) = some kind := by
        simp [bareKind?, kindDefinition, Json.str?, named, nullNamed]
      simp only [narrowType, Entries.get?, ↓reduceIte, Option.bind_some, bare, Entries.insert]
      simp [kindDefinition]

theorem TypedNode.narrow (shape : TypedNode node) : TypedNode (narrowType node) := by
  cases shape with
  | enumeration values => exact narrowType_enumNode values ▸ .enumeration values
  | typed nullability others named =>
      rw [narrowType_typed named]
      exact .typed .nonNull others named

theorem TypedNode.reference (shape : TypedNode node) (nullability : Nullability) :
    TypedNode (referenceNode nullability node) := by
  cases nullability with
  | nullable => exact shape
  | nonNull => exact shape.narrow

/-- Narrowing takes `null` away and nothing else. -/
theorem TypedNode.accepts_narrowType (shape : TypedNode node) :
    (narrowType node).Accepts value ↔ node.Accepts value ∧ value ≠ .null := by
  cases shape with
  | enumeration values =>
      rw [narrowType_enumNode, accepts_enumNode]
      constructor
      · rintro ⟨text, member, rfl⟩
        exact ⟨⟨text, member, rfl⟩, by simp⟩
      · exact And.left
  | @typed kind nullability others named =>
      rw [narrowType_typed named]
      simp only [Json.Accepts, Json.KeywordsAccept, ↓reduceIte, admitsType_kindDefinition,
        hasType_null_iff, reduceCtorEq, false_and, or_false]
      have notNull : value.hasType kind → value ≠ .null := by
        rintro typed rfl
        have isNull : kind = "null" := by simpa [Json.hasType] using typed
        subst isNull
        exact absurd named (by decide)
      constructor
      · rintro ⟨typed, rest⟩
        exact ⟨⟨.inl typed, rest⟩, notNull typed⟩
      · intro accepted
        rcases accepted with ⟨⟨typed | ⟨_, isNull⟩, rest⟩, present⟩
        · exact ⟨typed, rest⟩
        · exact absurd isNull present

theorem TypedNode.accepts_referenceNode (shape : TypedNode node) {nullability : Nullability} :
    (referenceNode nullability node).Accepts value ↔
      node.Accepts value ∧ (nullability = .nonNull → value ≠ .null) := by
  cases nullability with
  | nullable => simp [referenceNode]
  | nonNull => simpa [referenceNode] using shape.accepts_narrowType

end Narrowing

end SdlProjection
