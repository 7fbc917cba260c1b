import SdlProjection.Proofs.Projection.Resolution

/-!
Contract: how deep nodes are nested.

Owns: `TypeModel.height`, which bounds the node of a model up to its references,
`heightsOutside`, the heights of all entries whose names are not being expanded,
and `Json.nodeDepth`, the depth of a node. A node is at most as deep as its
model and those entries are high together, since an entry is inlined at most
once on the way down.

Does not own: the calls that go down there (`Proofs.Projection.Recursion`).
-/

namespace SdlProjection

/-! ### The height of a model -/

namespace TypeModel

mutual

/-- The depth of the nodes that a model itself becomes. A reference counts as one. -/
def height : TypeModel → Nat
  | .enumeration _ _ => 1
  | .list .single element _ _ => 1 + height element
  | .list .multi element _ _ => 2 + height element
  | .object fields _ => 1 + fieldsHeight fields
  | .reference _ _ => 1
  | .scalar _ _ => 1
termination_by structural model => model

/-- The largest height of a field, or zero if there are no fields. -/
def fieldsHeight : List (String × TypeModel) → Nat
  | [] => 0
  | (_, type) :: rest => max (height type) (fieldsHeight rest)
termination_by structural fields => fields

end

theorem height_pos (model : TypeModel) : 0 < model.height := by
  cases model with
  | list dimensionality element inner nullability =>
      cases dimensionality with
      | single => exact Nat.add_pos_left Nat.one_pos _
      | multi => exact Nat.add_pos_left Nat.two_pos _
  | object fields nullability => exact Nat.add_pos_left Nat.one_pos _
  | enumeration _ _ | reference _ _ | scalar _ _ => exact Nat.one_pos

theorem height_lt_list (dimensionality : Dimensionality) (element : TypeModel)
    (inner nullability : Nullability) :
    element.height < (list dimensionality element inner nullability).height := by
  cases dimensionality with
  | single => simp only [height]; omega
  | multi => simp only [height]; omega

theorem height_le_fieldsHeight {fields : List (String × TypeModel)} {field : String × TypeModel}
    (member : field ∈ fields) : field.2.height ≤ fieldsHeight fields := by
  induction fields with
  | nil => cases member
  | cons head tail inductionHypothesis =>
      rcases List.mem_cons.mp member with rfl | later
      · exact Nat.le_max_left _ _
      · exact Nat.le_trans (inductionHypothesis later) (Nat.le_max_right _ _)

theorem height_lt_object {fields : List (String × TypeModel)} {field : String × TypeModel}
    (member : field ∈ fields) (nullability : Nullability) :
    field.2.height < (object fields nullability).height := by
  have atMost := height_le_fieldsHeight member
  simp only [height]
  omega

end TypeModel

/-! ### The heights of a table -/

/-- The heights of those of the entries whose names are not being expanded, added up. -/
def remainingHeights (expanding : List String) : List (String × TypeModel) → Nat
  | [] => 0
  | (name, type) :: rest =>
    (if name ∈ expanding then 0 else type.height) + remainingHeights expanding rest

/-- What a table adds to the height of a model, below the names that are being expanded. -/
def heightsOutside (types : OrderedMap TypeModel) (expanding : List String) : Nat :=
  remainingHeights expanding types.entries

theorem heightsOutside_congr {types : OrderedMap TypeModel} {expanding names : List String}
    (same : ∀ name, name ∈ names ↔ name ∈ expanding) :
    heightsOutside types names = heightsOutside types expanding := by
  unfold heightsOutside
  induction types.entries with
  | nil => rfl
  | cons head tail inductionHypothesis =>
      simp only [remainingHeights, same, inductionHypothesis]

theorem remainingHeights_cons_le (target : String) (expanding : List String)
    (entries : List (String × TypeModel)) :
    remainingHeights (target :: expanding) entries ≤ remainingHeights expanding entries := by
  induction entries with
  | nil => exact Nat.le_refl 0
  | cons head tail inductionHypothesis =>
      obtain ⟨name, type⟩ := head
      simp only [remainingHeights, List.mem_cons]
      by_cases expanded : name ∈ expanding
      · simp only [expanded, or_true, if_true]
        omega
      · rw [if_neg expanded]
        split
        · omega
        · omega

/-- Once a name is being expanded, the height of its entry no longer counts. -/
theorem height_add_remainingHeights_le {entries : Entries TypeModel} {expanding : List String}
    {target : String} {entry : TypeModel} (found : entries.get? target = some entry)
    (fresh : target ∉ expanding) :
    entry.height + remainingHeights (target :: expanding) entries ≤
      remainingHeights expanding entries := by
  induction entries with
  | nil => cases found
  | cons head tail inductionHypothesis =>
      obtain ⟨name, type⟩ := head
      have fewer := remainingHeights_cons_le target expanding tail
      by_cases same : name = target
      · subst same
        have isEntry : type = entry := by simpa [Entries.get?] using found
        subst isEntry
        simp only [remainingHeights, List.mem_cons, true_or, if_true, if_neg fresh]
        omega
      · have later : Entries.get? tail target = some entry := by
          simpa [Entries.get?, same] using found
        have rest := inductionHypothesis later
        simp only [remainingHeights, List.mem_cons, same, false_or]
        omega

theorem height_add_heightsOutside_le {types : OrderedMap TypeModel} {expanding : List String}
    {target : String} {entry : TypeModel} (found : types.get? target = some entry)
    (fresh : target ∉ expanding) :
    entry.height + heightsOutside types (target :: expanding) ≤ heightsOutside types expanding :=
  height_add_remainingHeights_le found fresh

/-! ### The depth of a node -/

namespace Json

mutual

/-- How many nodes there are, one in the other, along `items` and `properties`. -/
def nodeDepth : Json → Nat
  | .obj entries => 1 + keywordsDepth entries
  | .null | .bool _ | .int _ | .str _ | .arr _ | .foreign _ => 1
termination_by structural json => json

/-- The depth of what stands under the keywords of a node. -/
def keywordsDepth : List (String × Json) → Nat
  | [] => 0
  | (key, value) :: rest =>
    max (if key = "items" then nodeDepth value
      else if key = "properties" then membersDepth value else 0) (keywordsDepth rest)
termination_by structural entries => entries

/-- The depth of the nodes that an object has as its members. -/
def membersDepth : Json → Nat
  | .obj entries => propertiesDepth entries
  | .null | .bool _ | .int _ | .str _ | .arr _ | .foreign _ => 0
termination_by structural json => json

def propertiesDepth : List (String × Json) → Nat
  | [] => 0
  | (_, node) :: rest => max (nodeDepth node) (propertiesDepth rest)
termination_by structural entries => entries

end

theorem propertiesDepth_le {properties : List (String × Json)} {bound : Nat}
    (bounded : ∀ property ∈ properties, property.2.nodeDepth ≤ bound) :
    propertiesDepth properties ≤ bound := by
  induction properties with
  | nil => exact Nat.zero_le bound
  | cons head tail inductionHypothesis =>
      obtain ⟨key, node⟩ := head
      have first : node.nodeDepth ≤ bound := bounded (key, node) List.mem_cons_self
      have rest := inductionHypothesis fun property member =>
        bounded property (List.mem_cons_of_mem _ member)
      simp only [propertiesDepth]
      omega

theorem keywordsDepth_insert_type (entries : List (String × Json)) (definition : Json) :
    keywordsDepth (Entries.insert entries "type" definition) = keywordsDepth entries := by
  induction entries with
  | nil => rfl
  | cons head tail inductionHypothesis =>
      obtain ⟨key, value⟩ := head
      by_cases same : key = "type"
      · subst same
        simp [Entries.insert, keywordsDepth]
      · simp only [Entries.insert, if_neg same, keywordsDepth, inductionHypothesis]

end Json

open Json

theorem nodeDepth_narrowType (node : Json) : (narrowType node).nodeDepth = node.nodeDepth := by
  cases node with
  | obj entries =>
      rw [narrowType]
      split
      · simp only [nodeDepth, keywordsDepth_insert_type]
      · rfl
  | null | bool _ | int _ | str _ | arr _ | foreign _ => rfl

theorem nodeDepth_referenceNode (nullability : Nullability) (node : Json) :
    (referenceNode nullability node).nodeDepth = node.nodeDepth := by
  cases nullability with
  | nullable => rfl
  | nonNull => exact nodeDepth_narrowType node

theorem nodeDepth_shallowNode (model : TypeModel) : model.shallowNode.nodeDepth = 1 := by
  cases model <;> rfl

theorem nodeDepth_listNode_single (element : Json) (nullability : Nullability) :
    (listNode .single element nullability).nodeDepth = 1 + element.nodeDepth := by
  simp [listNode, nodeDepth, keywordsDepth]

theorem nodeDepth_listNode_multi (element : Json) (nullability : Nullability) :
    (listNode .multi element nullability).nodeDepth = 2 + element.nodeDepth := by
  simp only [listNode, nodeDepth, keywordsDepth]
  simp
  omega

theorem nodeDepth_propertiesNode (definition : Json) (properties : List (String × Json)) :
    (Json.obj [("type", definition), ("properties", .obj properties)]).nodeDepth =
      1 + propertiesDepth properties := by
  simp [nodeDepth, keywordsDepth, membersDepth]

/-! ### The depth of a projection -/

namespace Expansion

variable {types : OrderedMap TypeModel}

/-- The bound for a tree, given bounds for the targets of its references. -/
theorem nodeDepth_unfoldModel_le {follow : String → TypeModel → Expansion}
    {expanding : List String}
    (followed : ∀ target entry, types.get? target = some entry → target ∉ expanding →
      (follow target entry).node.nodeDepth ≤ 1 + heightsOutside types expanding)
    (model : TypeModel) :
    (unfoldModel types follow expanding model).node.nodeDepth ≤
      model.height + heightsOutside types expanding := by
  induction model using TypeModel.inductionOnFields with
  | enumeration values nullability => exact Nat.le_add_right 1 _
  | scalar kind nullability => exact Nat.le_add_right 1 _
  | list dimensionality element inner nullability inductionHypothesis =>
      cases dimensionality with
      | single =>
          simp only [unfoldModel, node, nodeDepth_listNode_single, TypeModel.height]
          omega
      | multi =>
          simp only [unfoldModel, node, nodeDepth_listNode_multi, TypeModel.height]
          omega
  | object fields nullability inductionHypothesis =>
      have bounded : propertiesDepth
          (fieldNodes (unfoldFields types follow expanding fields)) ≤
            TypeModel.fieldsHeight fields + heightsOutside types expanding := by
        apply propertiesDepth_le
        simp only [fieldNodes_eq_map, unfoldFields_eq_map, List.map_map, List.mem_map]
        rintro _ ⟨field, member, rfl⟩
        have ofField := inductionHypothesis field member
        have amongFields := TypeModel.height_le_fieldsHeight member
        simp only [Function.comp_apply]
        omega
      simp only [unfoldModel, node, nodeDepth_propertiesNode, TypeModel.height]
      omega
  | reference target nullability =>
      simp only [unfoldModel, TypeModel.height]
      cases found : types.get? target with
      | none => exact Nat.le_add_right 1 _
      | some entry =>
          by_cases expanded : target ∈ expanding
          · simp [expanded, node, nodeDepth_referenceNode, nodeDepth_shallowNode]
          · simpa [expanded, node, nodeDepth_referenceNode] using followed target entry found expanded

/-- On the way down, each entry that is inlined takes its height off what is left. -/
theorem nodeDepth_unfold_le (allowance : Nat) (expanding : List String) (model : TypeModel) :
    (unfold types allowance expanding model).node.nodeDepth ≤
      model.height + heightsOutside types expanding := by
  induction allowance generalizing expanding model with
  | zero =>
      apply nodeDepth_unfoldModel_le
      intro target entry _ _
      exact Nat.le_add_right 1 _
  | succ allowance inductionHypothesis =>
      apply nodeDepth_unfoldModel_le
      intro target entry found fresh
      have further := inductionHypothesis (target :: expanding) entry
      have shrinks := height_add_heightsOutside_le found fresh
      omega

end Expansion

end SdlProjection
