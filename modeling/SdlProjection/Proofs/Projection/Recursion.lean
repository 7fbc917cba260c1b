import Mathlib.Logic.Relation
import SdlProjection.Projection.Recursion
import SdlProjection.Proofs.Projection.Height

/-!
Contract: the recursion over a shared list of names, and where it ends.

Owns: `Projector.Calls`, which calls a call makes itself; that an allowance of
the model's height and the heights of all entries that are not being expanded
is enough for the recursion; that it leaves the list as it has found it and
gives what the unfolded tree gives; and that no name comes twice into the list.

The measure goes down with every call: a field or an element is lower than its
model, and a reference is left for an entry whose height no longer counts.

Does not own: the shape of the node (`Proofs.Projection.Grammar`).
-/

namespace SdlProjection

/-! ### Trees, part by part -/

namespace Expansion

variable {types : OrderedMap TypeModel}

/-- With enough allowance, a reference is cut off below its target or leads on to it. -/
theorem unfold_reference_of_enough {allowance : Nat} {expanding : List String} {target : String}
    {entry : TypeModel} (nullability : Nullability) (found : types.get? target = some entry)
    (enough : (remaining types expanding).length ≤ allowance) :
    unfold types allowance expanding (.reference target nullability) =
      if target ∈ expanding then .cutOff target entry nullability
      else .inlined target (unfold types (allowance - 1) (target :: expanding) entry)
        nullability := by
  cases allowance with
  | zero =>
      have expanded := mem_expanding_of_remaining enough found
      simp [unfold, unfoldModel, found, expanded]
  | succ allowance => exact unfold_reference types allowance expanding nullability found

theorem unfold_reference_missing {allowance : Nat} {expanding : List String} {target : String}
    (nullability : Nullability) (missing : types.get? target = none) :
    unfold types allowance expanding (.reference target nullability) = .unresolved target := by
  cases allowance <;> simp [unfold, unfoldModel, missing]

/-- The nodes of the fields, or the first name in them that is not in the table. -/
def fieldsToNodes : List (String × Expansion) →
    Except ProjectionError (List (String × Json))
  | [] => .ok []
  | (key, tree) :: rest => do
    let node ← tree.toNode
    let nodes ← fieldsToNodes rest
    return (key, node) :: nodes

theorem toNode_list (dimensionality : Dimensionality) (element : Expansion)
    (nullability : Nullability) :
    (list dimensionality element nullability).toNode =
      element.toNode.map fun node => listNode dimensionality node nullability := by
  simp only [toNode, unresolved?, stops, node]
  cases element.stops.findSome? Stop.unresolved? <;> rfl

theorem toNode_inlined (target : String) (content : Expansion) (nullability : Nullability) :
    (inlined target content nullability).toNode =
      content.toNode.map (referenceNode nullability) := by
  simp only [toNode, unresolved?, stops, node]
  cases content.stops.findSome? Stop.unresolved? <;> rfl

theorem fieldsToNodes_eq (fields : List (String × Expansion)) :
    fieldsToNodes fields =
      match (fieldStops fields).findSome? Stop.unresolved? with
      | some name => .error (.unresolvedReference name)
      | none => .ok (fieldNodes fields) := by
  induction fields with
  | nil => rfl
  | cons head tail inductionHypothesis =>
      obtain ⟨key, tree⟩ := head
      simp only [fieldsToNodes, fieldStops, fieldNodes, List.findSome?_append,
        inductionHypothesis, toNode, unresolved?]
      cases tree.stops.findSome? Stop.unresolved? with
      | some name => rfl
      | none => cases (fieldStops tail).findSome? Stop.unresolved? <;> rfl

theorem toNode_object (fields : List (String × Expansion)) (nullability : Nullability) :
    (object fields nullability).toNode =
      (fieldsToNodes fields).map fun properties =>
        .obj [("type", kindDefinition "object" nullability), ("properties", .obj properties)] := by
  simp only [toNode, unresolved?, stops, node, fieldsToNodes_eq]
  cases (fieldStops fields).findSome? Stop.unresolved? <;> rfl

end Expansion

namespace Projector

variable {types : OrderedMap TypeModel} {visit : TypeModel → Visit Json}
  {expanding : List String}

/-! ### Running a visit -/

section Visits

variable {α β : Type}

/-- What a visit leaves behind is where the next one begins; an error ends both. -/
theorem bind_apply (first : Visit α) (next : α → Visit β) (expanding : List String) :
    (first >>= next) expanding =
      match first expanding with
      | none => none
      | some (.error error, after) => some (.error error, after)
      | some (.ok value, after) => next value after := by
  simp only [bind, ExceptT.bind, ExceptT.mk, StateT.bind, Option.bind]
  cases first expanding with
  | none => rfl
  | some outcome =>
      obtain ⟨result, after⟩ := outcome
      cases result with
      | error error => rfl
      | ok value => rfl

/-- A visit that restores the list, and what is made of its value. -/
theorem bind_pure_apply {first : Visit α} {result : Except ProjectionError α}
    (restores : first expanding = some (result, expanding)) (make : α → β) :
    (first >>= fun value => pure (make value)) expanding = some (result.map make, expanding) := by
  rw [bind_apply, restores]
  cases result with
  | error error => rfl
  | ok value => rfl

/-- The target is in the list while its entry is visited, and whatever comes of that, the last
name of the list is taken off again. -/
theorem expand_apply (visit : TypeModel → Visit Json) (target : String) (entry : TypeModel)
    (expanding : List String) :
    expand visit target entry expanding =
      (visit entry (expanding ++ [target])).map fun outcome => (outcome.1, outcome.2.dropLast) := by
  have pushed : expand visit target entry expanding =
      (ExceptT.lift (visit entry).run >>= fun outcome =>
        modify List.dropLast >>= fun _ => ofExcept outcome : Visit Json)
        (expanding ++ [target]) := rfl
  have visited : (ExceptT.lift (visit entry).run : Visit (Except ProjectionError Json))
      (expanding ++ [target]) =
        (visit entry (expanding ++ [target])).map fun outcome => (.ok outcome.1, outcome.2) := by
    show (do
      let outcome ← visit entry (expanding ++ [target])
      pure (Except.ok outcome.1, outcome.2)) = _
    cases visit entry (expanding ++ [target]) with
    | none => rfl
    | some outcome => rfl
  rw [pushed, bind_apply, visited]
  rcases visit entry (expanding ++ [target]) with _ | ⟨_ | _, after⟩
  · rfl
  · rfl
  · rfl

theorem projectStep_missing {target : String} (missing : types.get? target = none)
    (nullability : Nullability) :
    projectStep types visit (.reference target nullability) expanding =
      some (.error (.unresolvedReference target), expanding) := by
  simp only [projectStep, missing]
  rfl

/-- A reference goes on with the list as it is. -/
theorem projectStep_reference {target : String} {entry : TypeModel}
    (found : types.get? target = some entry) (nullability : Nullability) :
    projectStep types visit (.reference target nullability) expanding =
      if target ∈ expanding then
        some (.ok (referenceNode nullability entry.shallowNode), expanding)
      else (visit entry (expanding ++ [target])).map fun outcome =>
        (outcome.1.map (referenceNode nullability), outcome.2.dropLast) := by
  simp only [projectStep, found]
  show (if target ∈ expanding then
      pure entry.shallowNode >>= fun node => pure (referenceNode nullability node)
    else expand visit target entry >>= fun node => pure (referenceNode nullability node) :
      Visit Json) expanding = _
  by_cases expanded : target ∈ expanding
  · rw [if_pos expanded, if_pos expanded]
    rfl
  · rw [if_neg expanded, if_neg expanded, bind_apply, expand_apply]
    rcases visit entry (expanding ++ [target]) with _ | ⟨_ | _, after⟩
    · rfl
    · rfl
    · rfl

end Visits

/-! ### The calls that a call makes -/

/-- The calls that a call makes itself, each for a model and with the names that are being
expanded. -/
inductive Calls (types : OrderedMap TypeModel) :
    TypeModel × List String → TypeModel × List String → Prop
  | element {dimensionality : Dimensionality} {element : TypeModel}
      {inner nullability : Nullability} {expanding : List String} :
      Calls types (.list dimensionality element inner nullability, expanding) (element, expanding)
  | field {fields : List (String × TypeModel)} {nullability : Nullability}
      {expanding : List String} {field : String × TypeModel} : field ∈ fields →
      Calls types (.object fields nullability, expanding) (field.2, expanding)
  | entry {target : String} {nullability : Nullability} {expanding : List String}
      {entry : TypeModel} : types.get? target = some entry → target ∉ expanding →
      Calls types (.reference target nullability, expanding) (entry, expanding ++ [target])

theorem projectFields_congr {visit' : TypeModel → Visit Json} (fields : List (String × TypeModel))
    (same : ∀ field ∈ fields, visit field.2 expanding = visit' field.2 expanding ∧
      ∀ outcome, visit field.2 expanding = some outcome → outcome.2 = expanding) :
    projectFields visit fields expanding = projectFields visit' fields expanding := by
  induction fields with
  | nil => rfl
  | cons head tail inductionHypothesis =>
      obtain ⟨key, type⟩ := head
      obtain ⟨sameFirst, restores⟩ := same (key, type) List.mem_cons_self
      have sameRest := inductionHypothesis fun field member =>
        same field (List.mem_cons_of_mem _ member)
      simp only [projectFields]
      rw [bind_apply, bind_apply, ← sameFirst]
      cases visited : visit type expanding with
      | none => rfl
      | some outcome =>
          obtain ⟨result, after⟩ := outcome
          have restored : after = expanding := restores _ visited
          subst restored
          cases result with
          | error error => rfl
          | ok node =>
              simp only
              rw [bind_apply, bind_apply, sameRest]

/-- A call depends on no other calls than its own. -/
theorem projectStep_congr {visit' : TypeModel → Visit Json} (model : TypeModel)
    (same : ∀ called, Calls types (model, expanding) called →
      visit called.1 called.2 = visit' called.1 called.2 ∧
        ∀ outcome, visit called.1 called.2 = some outcome → outcome.2 = called.2) :
    projectStep types visit model expanding = projectStep types visit' model expanding := by
  cases model with
  | enumeration values nullability => rfl
  | scalar kind nullability => rfl
  | list dimensionality element inner nullability =>
      obtain ⟨sameElement, -⟩ := same _ .element
      simp only [projectStep]
      rw [bind_apply, bind_apply, sameElement]
  | object fields nullability =>
      have sameFields := projectFields_congr fields fun field member => same _ (.field member)
      simp only [projectStep]
      rw [bind_apply, bind_apply, sameFields]
  | reference target nullability =>
      cases found : types.get? target with
      | none => rw [projectStep_missing found, projectStep_missing found]
      | some entry =>
          rw [projectStep_reference found, projectStep_reference found]
          by_cases expanded : target ∈ expanding
          · rw [if_pos expanded, if_pos expanded]
          · obtain ⟨sameEntry, -⟩ := same _ (.entry found expanded)
            rw [if_neg expanded, if_neg expanded, sameEntry]

/-- A step of a path puts no name into the list that is in it, and only names of the table. -/
theorem Calls.extends {state called : TypeModel × List String} (calls : Calls types state called) :
    called.2 = state.2 ∨
      ∃ target ∈ types.keys, target ∉ state.2 ∧ called.2 = state.2 ++ [target] := by
  cases calls with
  | element => exact .inl rfl
  | field member => exact .inl rfl
  | entry found fresh =>
      exact .inr ⟨_, Entries.exists_get?_iff.mp ⟨_, found⟩, fresh, rfl⟩

/-- What a path of calls has put into the list: names of the table, each of them once. -/
theorem path_of_calls {model : TypeModel} (distinct : expanding.Nodup)
    {reached : TypeModel × List String}
    (way : Relation.ReflTransGen (Calls types) (model, expanding) reached) :
    ∃ path, reached.2 = expanding ++ path ∧ (expanding ++ path).Nodup ∧
      ∀ name ∈ path, name ∈ types.keys := by
  induction way with
  | refl => exact ⟨[], by simp, by simpa using distinct, by simp⟩
  | tail _ calls inductionHypothesis =>
      obtain ⟨path, soFar, pathDistinct, declared⟩ := inductionHypothesis
      rcases calls.extends with same | ⟨target, isKey, fresh, longer⟩
      · exact ⟨path, same.trans soFar, pathDistinct, declared⟩
      · rw [soFar] at fresh longer
        refine ⟨path ++ [target], ?_, ?_, ?_⟩
        · rw [longer, List.append_assoc]
        · rw [← List.append_assoc]
          exact List.nodup_append.mpr ⟨pathDistinct, by simp, by
            intro name member _ isTarget same
            rw [List.mem_singleton.mp isTarget] at same
            exact fresh (same ▸ member)⟩
        · intro name member
          rcases List.mem_append.mp member with earlier | last
          · exact declared name earlier
          · exact List.mem_singleton.mp last ▸ isKey

/-! ### The recursion comes to an end -/

/-- What the recursion is to do for a model: to give what the model unfolds to below the same
names, and to leave the list as it is. -/
def Settles (types : OrderedMap TypeModel) (visit : TypeModel → Visit Json)
    (expanding names : List String) (allowance : Nat) (model : TypeModel) : Prop :=
  visit model expanding =
    some ((Expansion.unfold types allowance names model).toNode, expanding)

theorem projectFields_of_settles {names : List String} {allowance : Nat}
    (fields : List (String × TypeModel))
    (settles : ∀ field ∈ fields, Settles types visit expanding names allowance field.2) :
    projectFields visit fields expanding =
      some (Expansion.fieldsToNodes (fields.map fun field =>
        (field.1, Expansion.unfold types allowance names field.2)), expanding) := by
  induction fields with
  | nil => rfl
  | cons head tail inductionHypothesis =>
      obtain ⟨key, type⟩ := head
      have first := settles (key, type) List.mem_cons_self
      have rest := inductionHypothesis fun field member =>
        settles field (List.mem_cons_of_mem _ member)
      simp only [projectFields, List.map_cons, Expansion.fieldsToNodes]
      rw [bind_apply, first]
      cases (Expansion.unfold types allowance names type).toNode with
      | error error => rfl
      | ok node => exact bind_pure_apply rest _

/-- The recursion settles every model that is no higher than its allowance, together with the
entries it may still go into. -/
theorem settles_projectNode (allowance unfolding : Nat) (expanding names : List String)
    (model : TypeModel) (same : ∀ name, name ∈ names ↔ name ∈ expanding)
    (unfoldsAll : (Expansion.remaining types names).length ≤ unfolding)
    (enough : model.height + heightsOutside types expanding ≤ allowance) :
    Settles types (projectNode types allowance) expanding names unfolding model := by
  induction allowance generalizing unfolding expanding names model with
  | zero =>
      have positive := model.height_pos
      omega
  | succ allowance inductionHypothesis =>
      unfold Settles projectNode
      cases model with
      | enumeration values nullability =>
          rw [Expansion.unfold_enumeration]
          rfl
      | scalar kind nullability =>
          rw [Expansion.unfold_scalar]
          rfl
      | list dimensionality element inner nullability =>
          have lower := TypeModel.height_lt_list dimensionality element inner nullability
          have settles := inductionHypothesis unfolding expanding names element same unfoldsAll
            (by omega)
          rw [Expansion.unfold_list, Expansion.toNode_list]
          exact bind_pure_apply settles _
      | object fields nullability =>
          have settles := projectFields_of_settles fields fun field member =>
            inductionHypothesis unfolding expanding names field.2 same unfoldsAll (by
              have lower := TypeModel.height_lt_object member nullability
              omega)
          rw [Expansion.unfold_object, Expansion.toNode_object]
          exact bind_pure_apply settles _
      | reference target nullability =>
          cases found : types.get? target with
          | none =>
              rw [projectStep_missing found, Expansion.unfold_reference_missing nullability found]
              rfl
          | some entry =>
              rw [projectStep_reference found,
                Expansion.unfold_reference_of_enough nullability found unfoldsAll]
              by_cases expanded : target ∈ expanding
              · rw [if_pos expanded, if_pos ((same target).mpr expanded)]
                rfl
              · have fresh : target ∉ names := fun isName => expanded ((same target).mp isName)
                have sameNext : ∀ name, name ∈ target :: names ↔ name ∈ expanding ++ [target] := by
                  intro name
                  simp [same, or_comm]
                have fewer := Expansion.remaining_cons_length_lt
                  (Entries.exists_get?_iff.mp ⟨entry, found⟩) fresh
                have shrinks := height_add_heightsOutside_le found expanded
                have sameHeights : heightsOutside types (expanding ++ [target]) =
                    heightsOutside types (target :: expanding) :=
                  heightsOutside_congr fun name => by simp [or_comm]
                have settles := inductionHypothesis (unfolding - 1) (expanding ++ [target])
                  (target :: names) entry sameNext (by omega)
                  (by simp only [TypeModel.height] at enough; omega)
                rw [if_neg expanded, if_neg fresh, settles, Expansion.toNode_inlined]
                simp

end Projector

namespace Schema

open Projector

/-- However cyclic the table is, the recursion comes to an end: calls need to be nested at most
as deep as the model and the entries that are not being expanded are high together. It gives
the node or the error that the model unfolds to, and leaves the list of names as it has found
it either way. No path of calls puts a name into the list that is in it already, and the
node is nested no deeper than the calls may be. A call depends on nothing but the calls that it
makes. Without names to begin with, all this is the projection of the model. -/
theorem projectNode_settles (schema : Schema) (model : TypeModel) (expanding : List String) :
    (∀ allowance, model.height + heightsOutside schema.types expanding ≤ allowance →
        projectNode schema.types allowance model expanding =
          some ((schema.expandBelow expanding model).toNode, expanding)) ∧
      (∀ allowance, model.height + heightsOutside schema.types [] ≤ allowance →
        projectNode schema.types allowance model [] = some (schema.project model, [])) ∧
      (∀ visit visit' : TypeModel → Visit Json,
        (∀ called, Calls schema.types (model, expanding) called →
          visit called.1 called.2 = visit' called.1 called.2 ∧
            ∀ outcome, visit called.1 called.2 = some outcome → outcome.2 = called.2) →
        projectStep schema.types visit model expanding =
          projectStep schema.types visit' model expanding) ∧
      (expanding.Nodup → ∀ reached,
        Relation.ReflTransGen (Calls schema.types) (model, expanding) reached →
        ∃ path, reached.2 = expanding ++ path ∧ (expanding ++ path).Nodup ∧
          ∀ name ∈ path, name ∈ schema.types.keys) ∧
      ∀ node, (schema.expandBelow expanding model).toNode = .ok node →
        node.nodeDepth ≤ model.height + heightsOutside schema.types expanding := by
  have settles : ∀ allowance names, model.height + heightsOutside schema.types names ≤ allowance →
      projectNode schema.types allowance model names =
        some ((schema.expandBelow names model).toNode, names) :=
    fun allowance names => settles_projectNode allowance schema.types.size names names model
      (fun _ => Iff.rfl) (Expansion.remaining_length_le _ _)
  refine ⟨fun allowance => settles allowance expanding, fun allowance => settles allowance [], ?_,
    ?_, ?_⟩
  · exact fun visit visit' same => projectStep_congr model same
  · exact fun distinct reached way => path_of_calls distinct way
  · intro node projected
    obtain ⟨-, isNode⟩ := Expansion.toNode_eq_ok projected
    rw [← isNode]
    exact Expansion.nodeDepth_unfold_le _ _ _

/-- A type with rows of itself as a field, and a name that stands for itself. -/
def cyclicTypes : Schema :=
  (empty.addType "User"
    (.object [("self", .reference "Self" .nullable),
      ("friends", .list .multi (.reference "User" .nonNull) .nullable .nullable)]
      .nullable)).addType "Self" (.reference "Self" .nullable)

def cyclicNode : Json :=
  .obj [("type", .str "object"),
    ("properties", .obj [
      ("self", .obj []),
      ("friends", .obj [("type", .arr [.str "array", .str "null"]),
        ("items", .obj [("type", .arr [.str "array", .str "null"]),
          ("items", .obj [("type", .str "object")])])])])]

/-- Six calls in each other are enough for both cycles, and the path into the second one has both
names in the list. -/
theorem projectNode_cyclicTypes :
    projectNode cyclicTypes.types 6 (.reference "User" .nonNull) [] = some (.ok cyclicNode, []) ∧
      cyclicNode.nodeDepth ≤ 6 ∧ ["User", "Self"].Nodup := by
  obtain ⟨settles, -, -, paths, deep⟩ :=
    projectNode_settles cyclicTypes (.reference "User" .nonNull) []
  have heights : (TypeModel.reference "User" .nonNull).height +
      heightsOutside cyclicTypes.types [] = 6 := rfl
  have projected : (cyclicTypes.expandBelow [] (.reference "User" .nonNull)).toNode =
      .ok cyclicNode := rfl
  have way : Relation.ReflTransGen (Calls cyclicTypes.types) (.reference "User" .nonNull, [])
      (.reference "Self" .nullable, ["User", "Self"]) := by
    refine .tail (.tail (.tail .refl (.entry rfl ?_)) (.field List.mem_cons_self)) (.entry rfl ?_)
    · decide
    · decide
  refine ⟨?_, ?_, ?_⟩
  · rw [settles 6 (Nat.le_of_eq heights), projected]
  · exact heights ▸ deep cyclicNode projected
  · obtain ⟨path, isPath, distinct, -⟩ := paths List.nodup_nil _ way
    rw [← isPath] at distinct
    exact distinct

end Schema

end SdlProjection
