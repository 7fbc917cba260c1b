import SdlProjection.Proofs.Entries
import SdlProjection.Proofs.Projection.Unfolding

/-!
Contract: nodes that say nothing.

Owns: `Json.Subnode`, the nodes that a node consists of, and that none of them is
empty in what a model is projected to, over a table in which no entry is a
reference itself.

Does not own: which tables are like this (`Proofs.Schema.WellFormed`).
-/

namespace SdlProjection

namespace Json

/-- The node itself, or a node below its `items` or its `properties`. -/
inductive Subnode : Json → Json → Prop
  | refl (node : Json) : Subnode node node
  | items {entries : List (String × Json)} {item sub : Json} :
      Entries.get? entries "items" = some item → Subnode sub item → Subnode sub (.obj entries)
  | property {entries properties : List (String × Json)} {key : String} {node sub : Json} :
      Entries.get? entries "properties" = some (.obj properties) → (key, node) ∈ properties →
      Subnode sub node → Subnode sub (.obj entries)

/-- No node in it is empty. -/
def Filled (node : Json) : Prop :=
  ∀ sub, Subnode sub node → sub ≠ .obj []

theorem filled_null : Filled .null := by
  intro sub within
  cases within with
  | refl => exact Json.noConfusion

theorem filled_obj_iff {entries : List (String × Json)} :
    Filled (.obj entries) ↔ entries ≠ [] ∧
      (∀ item, Entries.get? entries "items" = some item → Filled item) ∧
      ∀ properties, Entries.get? entries "properties" = some (.obj properties) →
        ∀ property ∈ properties, Filled property.2 := by
  constructor
  · intro filled
    refine ⟨?_, ?_, ?_⟩
    · rintro rfl
      exact filled _ (.refl _) rfl
    · exact fun item found sub within => filled sub (.items found within)
    · exact fun properties found property listed sub within =>
        filled sub (.property found listed within)
  · rintro ⟨something, items, properties⟩ sub within
    cases within with
    | refl => exact fun nothing => something (Json.obj.inj nothing)
    | items found inside => exact items _ found sub inside
    | property found listed inside => exact properties _ found _ listed sub inside

end Json

open Json

/-! ### The nodes of single models -/

theorem filled_enumNode (values : List String) : Filled (enumNode values) := by
  rw [enumNode, filled_obj_iff]
  simp [Entries.get?]

theorem filled_typeNode (definition : Json) : Filled (.obj [("type", definition)]) := by
  rw [filled_obj_iff]
  simp [Entries.get?]

theorem filled_itemsNode (definition : Json) {item : Json} (filled : Filled item) :
    Filled (.obj [("type", definition), ("items", item)]) := by
  rw [filled_obj_iff]
  simpa [Entries.get?] using filled

theorem filled_listNode (dimensionality : Dimensionality) {element : Json} (filled : Filled element)
    (nullability : Nullability) : Filled (listNode dimensionality element nullability) := by
  cases dimensionality with
  | single => exact filled_itemsNode _ filled
  | multi => exact filled_itemsNode _ (filled_itemsNode _ filled)

theorem filled_propertiesNode (definition : Json) {properties : List (String × Json)}
    (filled : ∀ property ∈ properties, Filled property.2) :
    Filled (.obj [("type", definition), ("properties", .obj properties)]) := by
  rw [filled_obj_iff]
  refine ⟨List.cons_ne_nil _ _, by simp [Entries.get?], ?_⟩
  intro listed found
  have same : properties = listed := by simpa [Entries.get?] using found
  exact same ▸ filled

/-- Narrowing changes nothing but the `type`. -/
theorem filled_narrowType {node : Json} (filled : Filled node) : Filled (narrowType node) := by
  cases node with
  | obj entries =>
      rw [narrowType]
      split
      · next kind _ =>
          rw [filled_obj_iff] at filled ⊢
          obtain ⟨-, items, properties⟩ := filled
          refine ⟨Entries.insert_ne_nil, ?_, ?_⟩
          · simpa [Entries.get?_insert] using items
          · simpa [Entries.get?_insert] using properties
      · exact filled
  | null | bool _ | int _ | str _ | arr _ | foreign _ => exact filled

theorem filled_referenceNode {node : Json} (filled : Filled node) (nullability : Nullability) :
    Filled (referenceNode nullability node) := by
  cases nullability with
  | nullable => exact filled
  | nonNull => exact filled_narrowType filled

namespace TypeModel

/-- The model is itself a reference. -/
def isReference : TypeModel → Bool
  | .reference _ _ => true
  | .enumeration _ _ | .list _ _ _ _ | .object _ _ | .scalar _ _ => false

theorem filled_shallowNode {model : TypeModel} (definite : model.isReference = false) :
    Filled model.shallowNode := by
  cases model with
  | enumeration values nullability => exact filled_enumNode values
  | reference target nullability => cases definite
  | list _ _ _ _ | object _ _ | scalar _ _ => exact filled_typeNode _

end TypeModel

/-! ### Whole trees -/

namespace Expansion

variable {types : OrderedMap TypeModel}

/-- A tree has no empty node if no target of its references has one, or is cut off as one. -/
theorem filled_node_unfoldModel {follow : String → TypeModel → Expansion} {expanding : List String}
    (definite : ∀ name entry, types.get? name = some entry → entry.isReference = false)
    (filled : ∀ name entry, Filled (follow name entry).node) (model : TypeModel) :
    Filled (unfoldModel types follow expanding model).node := by
  induction model using TypeModel.inductionOnFields with
  | enumeration values nullability => exact filled_enumNode values
  | scalar kind nullability => exact filled_typeNode _
  | list dimensionality element inner nullability inductionHypothesis =>
      exact filled_listNode dimensionality inductionHypothesis nullability
  | object fields nullability inductionHypothesis =>
      apply filled_propertiesNode
      simp only [fieldNodes_eq_map, unfoldFields_eq_map, List.map_map, List.mem_map]
      rintro _ ⟨field, member, rfl⟩
      exact inductionHypothesis field member
  | reference target nullability =>
      rw [unfoldModel]
      cases found : types.get? target with
      | none => exact filled_null
      | some entry =>
          dsimp only
          split
          · exact filled_referenceNode (TypeModel.filled_shallowNode (definite target entry found))
              nullability
          · exact filled_referenceNode (filled target entry) nullability

/-- Nothing that is unfolded over a table without references has an empty node. -/
theorem filled_node_unfold
    (definite : ∀ name entry, types.get? name = some entry → entry.isReference = false)
    (allowance : Nat) (expanding : List String) (model : TypeModel) :
    Filled (unfold types allowance expanding model).node := by
  induction allowance generalizing expanding model with
  | zero =>
      apply filled_node_unfoldModel definite
      exact fun _ _ => filled_null
  | succ allowance inductionHypothesis =>
      exact filled_node_unfoldModel definite
        (fun name entry => inductionHypothesis (name :: expanding) entry) model

end Expansion

end SdlProjection
