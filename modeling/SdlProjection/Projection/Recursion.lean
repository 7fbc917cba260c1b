import SdlProjection.Projection

/-!
Contract: the same projection as one recursion over a shared list of names.

Owns: `Projector.projectNode`, which goes down into a model and, at a
reference, on into the entry of its target. The names it is in the middle of
stand in a list that all calls share. A reference puts its target at the end of
the list before it goes on and takes the last name off the list behind, whatever
has come of it. The first name that the table lacks ends everything.

The recursion does not say itself that it comes to an end. It is given an
allowance for its depth and has no result if it needs more.

Does not own: which allowance is enough, and that all this is what
`Schema.project` does (`Proofs.Projection.Recursion`).
-/

namespace SdlProjection.Projector

/-- A value or an error, with the list of names that is left behind; or no result at all. -/
abbrev Visit : Type → Type :=
  ExceptT ProjectionError (StateT (List String) Option)

section Step

variable (types : OrderedMap TypeModel) (visit : TypeModel → Visit Json)

/-- The fields of an object, one after the other. -/
def projectFields : List (String × TypeModel) → Visit (List (String × Json))
  | [] => return []
  | (key, type) :: rest => do
    let node ← visit type
    let nodes ← projectFields rest
    return (key, node) :: nodes

/-- Goes on into the entry of a name that is not in the list. -/
def expand (target : String) (entry : TypeModel) : Visit Json := do
  modify fun expanding => expanding ++ [target]
  let outcome ← ExceptT.lift (visit entry).run
  modify List.dropLast
  ofExcept outcome

/-- One call, given what the calls do that it makes itself. -/
def projectStep : TypeModel → Visit Json
  | .enumeration values _ => return enumNode values
  | .list dimensionality element _ nullability => do
    let node ← visit element
    return listNode dimensionality node nullability
  | .object fields nullability => do
    let properties ← projectFields visit fields
    return .obj [("type", kindDefinition "object" nullability), ("properties", .obj properties)]
  | .reference target nullability => do
    match types.get? target with
    | none => throw (.unresolvedReference target)
    | some entry =>
      let expanding ← get
      let node ← if target ∈ expanding then pure entry.shallowNode else expand visit target entry
      return referenceNode nullability node
  | .scalar kind nullability => return (TypeModel.scalar kind nullability).shallowNode

end Step

/-- The node of a model, with calls nested at most so deep. -/
def projectNode (types : OrderedMap TypeModel) : Nat → TypeModel → Visit Json
  | 0, _ => fun _ => none
  | allowance + 1, model => projectStep types (projectNode types allowance) model

end SdlProjection.Projector
