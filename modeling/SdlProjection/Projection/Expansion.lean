import SdlProjection.Schema

/-!
Contract: the finite tree a model unfolds to when its references are inlined.

Owns: `Expansion` and `expand`. A reference is unfolded unless its target is
already being unfolded on the way down to it, in which case it is cut off and
keeps the target's model. A reference to a name that the table lacks is
unresolved.

Unfolding goes one name deeper at each reference, and never to a name twice on
one path, so the number of names in the table bounds its depth: `unfold` takes
that number as its allowance and recurses on it, while `unfoldModel` recurses
on the model.

Does not own: what becomes of the tree (`Projection.Node`).
-/

namespace SdlProjection

inductive Expansion where
  | enumeration (values : List String)
  | list (dimensionality : Dimensionality) (element : Expansion) (nullability : Nullability)
  | object (fields : List (String × Expansion)) (nullability : Nullability)
  /-- A reference, and what its target unfolds to. -/
  | inlined (target : String) (content : Expansion) (nullability : Nullability)
  /-- A reference to a name that is being unfolded, and the model of that name. -/
  | cutOff (target : String) (model : TypeModel) (nullability : Nullability)
  /-- A reference to a name that is not in the table. -/
  | unresolved (target : String)
  | scalar (kind : ScalarKind) (nullability : Nullability)

namespace Expansion

mutual

/-- Unfolds a model; `follow` unfolds the target of a reference. -/
def unfoldModel (types : OrderedMap TypeModel) (follow : String → TypeModel → Expansion)
    (expanding : List String) : TypeModel → Expansion
  | .enumeration values _ => .enumeration values
  | .list dimensionality element _ nullability =>
    .list dimensionality (unfoldModel types follow expanding element) nullability
  | .object fields nullability => .object (unfoldFields types follow expanding fields) nullability
  | .reference target nullability =>
    match types.get? target with
    | none => .unresolved target
    | some model =>
      if target ∈ expanding then .cutOff target model nullability
      else .inlined target (follow target model) nullability
  | .scalar kind nullability => .scalar kind nullability
termination_by structural model => model

def unfoldFields (types : OrderedMap TypeModel) (follow : String → TypeModel → Expansion)
    (expanding : List String) : List (String × TypeModel) → List (String × Expansion)
  | [] => []
  | (key, type) :: rest =>
    (key, unfoldModel types follow expanding type) :: unfoldFields types follow expanding rest
termination_by structural fields => fields

end

/-- Unfolds a model below the given names, at most so many names deeper. With no allowance
left, every name of the table is among those names. -/
def unfold (types : OrderedMap TypeModel) : Nat → List String → TypeModel → Expansion
  | 0, expanding => unfoldModel types (fun target _ => .unresolved target) expanding
  | allowance + 1, expanding =>
    unfoldModel types (fun target => unfold types allowance (target :: expanding)) expanding

end Expansion

/-- Unfolds a model below the names that are being unfolded already. -/
def Schema.expandBelow (schema : Schema) (expanding : List String) (model : TypeModel) :
    Expansion :=
  Expansion.unfold schema.types schema.types.size expanding model

/-- Unfolds a model. -/
def Schema.expand (schema : Schema) (model : TypeModel) : Expansion :=
  schema.expandBelow [] model

end SdlProjection
