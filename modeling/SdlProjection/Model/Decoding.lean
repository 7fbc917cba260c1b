import SdlProjection.Model.Encoding

/-!
Contract: type models read from JSON values.

Owns: `TypeModel.decode?`, which accepts the written form of a model and a few
more: the parts of a model may stand in any order or, without their keys, in an
array in the fixed order; parts with other keys are passed over; and a name of
a fixed set may be the key of an entry whose value is `null`. A part that is
missing or occurs twice is refused.

Every array or object that is read uses up one level; with none left, the value
is refused. What is passed over uses up none.
-/

namespace SdlProjection

namespace Decoding

/-- The values under a key. -/
def occurrences (entries : List (String × Json)) (key : String) : List Json :=
  (entries.filter fun entry => entry.1 == key).map Prod.snd

/-- The value under a key if there is one; no answer if there are several. -/
def part? (entries : List (String × Json)) (key : String) : Option (Option Json) :=
  match occurrences entries key with
  | [] => some none
  | [value] => some (some value)
  | _ => none

/-- The parts with the given keys, in their order. In an array none may be missing. -/
def parts? (keys : List String) : Json → Option (List (Option Json))
  | .obj entries => keys.mapM (part? entries)
  | .arr items => if items.length = keys.length then some (items.map some) else none
  | _ => none

/-- The parts with the given keys, none of which may be missing. -/
def allParts? (keys : List String) (json : Json) : Option (List Json) :=
  (parts? keys json).bind fun values => values.mapM id

/-- The name of a value of a fixed set. -/
def variantName? (levels : Nat) : Json → Option String
  | .str name => some name
  | .obj [(name, .null)] => if levels = 0 then none else some name
  | _ => none

def names? (levels : Nat) : Json → Option (List String)
  | .arr items => if levels = 0 then none else items.mapM Json.str?
  | _ => none

/-- The entries of an object, later ones replacing earlier ones with the same key. -/
def entries? {α : Type} (decode : Json → Option α) : Json → Option (Entries α)
  | .obj entries =>
    (entries.mapM fun entry => (decode entry.2).map fun value => (entry.1, value)).map
      (Entries.insertAll [])
  | _ => none

end Decoding

open Decoding

def Nullability.decode? (levels : Nat) (json : Json) : Option Nullability :=
  match variantName? levels json with
  | some "Nullable" => some .nullable
  | some "NonNull" => some .nonNull
  | _ => none

def Dimensionality.decode? (levels : Nat) (json : Json) : Option Dimensionality :=
  match variantName? levels json with
  | some "Single" => some .single
  | some "Multi" => some .multi
  | _ => none

def ScalarKind.decode? (levels : Nat) (json : Json) : Option ScalarKind :=
  match variantName? levels json with
  | some "Boolean" => some .boolean
  | some "Float" => some .float
  | some "Id" => some .id
  | some "Int" => some .int
  | some "String" => some .string
  | _ => none

namespace TypeModel

def decode? : Nat → Json → Option TypeModel
  | levels + 2, .obj [("Enum", body)] => do
    match ← allParts? ["nullability", "values"] body with
    | [nullability, values] =>
      some (.enumeration (← names? levels values) (← Nullability.decode? levels nullability))
    | _ => none
  | levels + 2, .obj [("List", body)] => do
    match ← allParts? ["dimensionality", "element", "inner_dimension_nullability", "nullability"]
      body with
    | [dimensionality, element, inner, nullability] =>
      some (.list (← Dimensionality.decode? levels dimensionality) (← decode? levels element)
        (← Nullability.decode? levels inner) (← Nullability.decode? levels nullability))
    | _ => none
  | levels + 3, .obj [("Object", body)] => do
    match ← allParts? ["fields", "nullability"] body with
    | [fields, nullability] =>
      some (.object (← entries? (decode? levels) fields)
        (← Nullability.decode? (levels + 1) nullability))
    | _ => none
  | levels + 2, .obj [("Reference", body)] => do
    match ← allParts? ["nullability", "target_name"] body with
    | [nullability, target] =>
      some (.reference (← target.str?) (← Nullability.decode? levels nullability))
    | _ => none
  | levels + 2, .obj [("Scalar", body)] => do
    match ← allParts? ["kind", "nullability"] body with
    | [kind, nullability] =>
      some (.scalar (← ScalarKind.decode? levels kind) (← Nullability.decode? levels nullability))
    | _ => none
  | _, _ => none
termination_by structural levels => levels

end TypeModel

end SdlProjection
