import SdlProjection.Entries
import SdlProjection.Model.Scalar

/-!
Contract: the nodes of a schema's type graph.

Owns: `TypeModel` and the operations that build one: marking it non-null,
adding enum values and object fields. A reference holds the name of its
target; nothing is resolved here. Agreement of two models ignores the order of
object fields and nothing else.

Does not own: the table the names refer to (`Schema`).
-/

namespace SdlProjection

inductive Nullability where
  | nullable
  | nonNull
deriving DecidableEq, Repr, Inhabited

/-- How many levels of brackets stand around a list's element. -/
inductive Dimensionality where
  | single
  | multi
deriving DecidableEq, Repr

inductive TypeModel where
  | enumeration (values : List String) (nullability : Nullability)
  /-- The inner nullability is that of the rows of a two-dimensional list. -/
  | list (dimensionality : Dimensionality) (element : TypeModel) (inner : Nullability)
      (nullability : Nullability)
  | object (fields : List (String × TypeModel)) (nullability : Nullability)
  | reference (target : String) (nullability : Nullability)
  | scalar (kind : ScalarKind) (nullability : Nullability)
deriving Inhabited

/-- The values with one more at the end, unless it is among them. -/
def addDistinct (values : List String) (value : String) : List String :=
  if values.contains value then values else values ++ [value]

namespace TypeModel

/-- The built-in scalar of that keyword, or else a reference to the name. -/
def ofName (name : List Char) : TypeModel :=
  match ScalarKind.ofKeyword? name with
  | some kind => .scalar kind .nullable
  | none => .reference (String.ofList name) .nullable

/-- A custom scalar has no native form and counts as a string. -/
def customScalar : TypeModel := .scalar .string .nullable

def nullability : TypeModel → Nullability
  | .enumeration _ nullability => nullability
  | .list _ _ _ nullability => nullability
  | .object _ nullability => nullability
  | .reference _ nullability => nullability
  | .scalar _ nullability => nullability

/-- Narrows the outermost type. There is no inverse. -/
def markNonNull : TypeModel → TypeModel
  | .enumeration values _ => .enumeration values .nonNull
  | .list dimensionality element inner _ => .list dimensionality element inner .nonNull
  | .object fields _ => .object fields .nonNull
  | .reference target _ => .reference target .nonNull
  | .scalar kind _ => .scalar kind .nonNull

/-- Narrows the rows of a list, whatever its dimensionality; other types stay. -/
def markInnerNonNull : TypeModel → TypeModel
  | .list dimensionality element _ nullability => .list dimensionality element .nonNull nullability
  | other => other

/-- An enum with one more value, unless it has the value; other types stay. -/
def addValue (model : TypeModel) (value : String) : TypeModel :=
  match model with
  | .enumeration values nullability => .enumeration (addDistinct values value) nullability
  | other => other

/-- An object with the field added or replaced; other types stay. -/
def addField (model : TypeModel) (key : String) (type : TypeModel) : TypeModel :=
  match model with
  | .object fields nullability => .object (Entries.insert fields key type) nullability
  | other => other

/-- The type of an object's field. -/
def field? (model : TypeModel) (key : String) : Option TypeModel :=
  match model with
  | .object fields _ => Entries.get? fields key
  | _ => none

/-- Whether an enum has the value. -/
def hasValue (model : TypeModel) (value : String) : Bool :=
  match model with
  | .enumeration values _ => values.contains value
  | _ => false

/-- The nullability of the rows, which only a two-dimensional list has. -/
def innerNullability? : TypeModel → Option Nullability
  | .list .multi _ inner _ => some inner
  | _ => none

mutual

/-- The same model, up to the order of object fields. -/
def agrees : TypeModel → TypeModel → Bool
  | .enumeration values nullability, .enumeration values' nullability' =>
    values == values' && nullability == nullability'
  | .list dimensionality element inner nullability,
      .list dimensionality' element' inner' nullability' =>
    dimensionality == dimensionality' && agrees element element' && inner == inner' &&
      nullability == nullability'
  | .object fields nullability, .object fields' nullability' =>
    fields.length == fields'.length && agreesWithin fields fields' && nullability == nullability'
  | .reference target nullability, .reference target' nullability' =>
    target == target' && nullability == nullability'
  | .scalar kind nullability, .scalar kind' nullability' =>
    kind == kind' && nullability == nullability'
  | _, _ => false
termination_by structural model => model

/-- Every field on the left has one on the right under its key that agrees. -/
def agreesWithin : List (String × TypeModel) → List (String × TypeModel) → Bool
  | [], _ => true
  | (key, type) :: rest, fields =>
    (match Entries.get? fields key with
      | some type' => agrees type type'
      | none => false) && agreesWithin rest fields
termination_by structural fields => fields

end

end TypeModel

end SdlProjection
