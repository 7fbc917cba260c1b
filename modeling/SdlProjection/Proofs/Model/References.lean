import SdlProjection.Schema

/-!
Contract: which type names a model depends on.

Owns: the references that occur in a model, the names reachable from it
through a table of types, and the names reachable without passing through
given ones. Also the induction over models that the proofs about them follow:
an object's fields count by membership, not by position.
-/

namespace SdlProjection

/-- Induction over a model; the case of an object may use the property of each field's type. -/
theorem TypeModel.inductionOnFields {motive : TypeModel → Prop}
    (enumeration : ∀ values nullability, motive (.enumeration values nullability))
    (list : ∀ dimensionality element inner nullability, motive element →
      motive (.list dimensionality element inner nullability))
    (object : ∀ fields nullability, (∀ field ∈ fields, motive field.2) →
      motive (.object fields nullability))
    (reference : ∀ target nullability, motive (.reference target nullability))
    (scalar : ∀ kind nullability, motive (.scalar kind nullability)) :
    ∀ model, motive model :=
  @TypeModel.rec motive (fun fields => ∀ field ∈ fields, motive field.2)
    (fun field => motive field.2)
    enumeration
    (fun dimensionality element inner nullability =>
      list dimensionality element inner nullability)
    (fun fields nullability => object fields nullability)
    reference scalar
    (by simp)
    (fun head tail headHolds tailHold => by
      intro field member
      cases List.mem_cons.mp member with
      | inl isHead => exact isHead ▸ headHolds
      | inr inTail => exact tailHold field inTail)
    (fun _ _ typeHolds => typeHolds)

namespace TypeModel

mutual

/-- The targets of the references that occur in a model, in order. -/
def references : TypeModel → List String
  | .enumeration _ _ => []
  | .list _ element _ _ => references element
  | .object fields _ => fieldReferences fields
  | .reference target _ => [target]
  | .scalar _ _ => []
termination_by structural model => model

def fieldReferences : List (String × TypeModel) → List String
  | [] => []
  | (_, type) :: rest => references type ++ fieldReferences rest
termination_by structural fields => fields

end

theorem mem_fieldReferences {fields : List (String × TypeModel)} {name : String} :
    name ∈ fieldReferences fields ↔ ∃ field ∈ fields, name ∈ field.2.references := by
  induction fields with
  | nil => simp [fieldReferences]
  | cons head tail inductionHypothesis =>
      obtain ⟨key, type⟩ := head
      simp [fieldReferences, inductionHypothesis]

end TypeModel

/-- The names a model depends on: the targets of its own references and, in turn, of those
in the entries of such names. A name without an entry leads no further. -/
inductive Reachable (types : OrderedMap TypeModel) (model : TypeModel) : String → Prop
  | direct {name : String} : name ∈ model.references → Reachable types model name
  | through {via name : String} {entry : TypeModel} :
      Reachable types model via → types.get? via = some entry → name ∈ entry.references →
      Reachable types model name

/-- The names a model depends on by a way that leads through none of the blocked ones. The
name at the end of the way may be blocked. -/
inductive ReachableAround (types : OrderedMap TypeModel) (blocked : List String)
    (model : TypeModel) : String → Prop
  | direct {name : String} : name ∈ model.references → ReachableAround types blocked model name
  | through {via name : String} {entry : TypeModel} :
      ReachableAround types blocked model via → via ∉ blocked →
      types.get? via = some entry → name ∈ entry.references →
      ReachableAround types blocked model name

section Reachability

variable {types : OrderedMap TypeModel} {blocked : List String} {model entry : TypeModel}
  {first name : String}

theorem reachableAround_nil_iff :
    ReachableAround types [] model name ↔ Reachable types model name := by
  constructor
  · intro reached
    induction reached with
    | direct member => exact .direct member
    | through _ _ found member inductionHypothesis =>
        exact .through inductionHypothesis found member
  · intro reached
    induction reached with
    | direct member => exact .direct member
    | through _ found member inductionHypothesis =>
        exact .through inductionHypothesis (by simp) found member

/-- A way may start with one more step. -/
theorem ReachableAround.after_reference (member : first ∈ model.references)
    (free : first ∉ blocked) (found : types.get? first = some entry)
    (reached : ReachableAround types blocked entry name) :
    ReachableAround types blocked model name := by
  induction reached with
  | direct inEntry => exact .through (.direct member) free found inEntry
  | through _ viaFree viaFound inEntry inductionHypothesis =>
      exact .through inductionHypothesis viaFree viaFound inEntry

/-- The first step of a way that does not end with it. -/
theorem ReachableAround.first_step (reached : ReachableAround types blocked model name) :
    name ∈ model.references ∨
      ∃ first entry, first ∈ model.references ∧ first ∉ blocked ∧
        types.get? first = some entry ∧ ReachableAround types blocked entry name := by
  induction reached with
  | direct member => exact .inl member
  | @through via name entry _ free found member inductionHypothesis =>
      right
      rcases inductionHypothesis with
        viaDirect | ⟨first, next, inModel, firstFree, firstFound, rest⟩
      · exact ⟨via, entry, viaDirect, free, found, .direct member⟩
      · exact ⟨first, next, inModel, firstFree, firstFound, .through rest free found member⟩

/-- A way that starts at the entry of a name need not come back to that name. -/
theorem ReachableAround.without_return (found : types.get? first = some entry)
    (reached : ReachableAround types blocked entry name) :
    ReachableAround types (first :: blocked) entry name := by
  induction reached with
  | direct member => exact .direct member
  | @through via name next _ free viaFound member inductionHypothesis =>
      by_cases returns : via = first
      · subst returns
        rw [found, Option.some.injEq] at viaFound
        exact .direct (viaFound ▸ member)
      · exact .through inductionHypothesis (by simp [returns, free]) viaFound member

theorem ReachableAround.unblock (reached : ReachableAround types (first :: blocked) model name) :
    ReachableAround types blocked model name := by
  induction reached with
  | direct member => exact .direct member
  | through _ free found member inductionHypothesis =>
      exact .through inductionHypothesis (by simp_all) found member

/-- What the entry of a reachable name depends on is reachable. -/
theorem Reachable.trans_entry (reached : Reachable types model first)
    (found : types.get? first = some entry) (further : Reachable types entry name) :
    Reachable types model name := by
  induction further with
  | direct member => exact .through reached found member
  | through _ viaFound member inductionHypothesis =>
      exact .through inductionHypothesis viaFound member

end Reachability

end SdlProjection
