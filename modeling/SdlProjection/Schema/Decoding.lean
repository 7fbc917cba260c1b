import SdlProjection.Json.Reader
import SdlProjection.Model.Decoding
import SdlProjection.Schema

/-!
Contract: schemas read from JSON text.

Owns: `Schema.deserialize?`, which accepts what `Schema.serialize` writes and
the same liberties as for models. Of the eight parts only the three root
type names may be missing; a missing one counts as not bound.
-/

namespace SdlProjection.Schema

open Decoding

/-- How many arrays and objects may stand inside one another. -/
def nestingLimit : Nat := 127

def decodeName? : Option Json → Option (Option String)
  | none => some none
  | some .null => some none
  | some (.str name) => some (some name)
  | some _ => none

/-- A map of the schema, which may not be missing. -/
def decodeMap? {α : Type} (decode : Json → Option α) (part : Option Json) :
    Option (OrderedMap α) := do
  some (OrderedMap.ofEntries (← entries? decode (← part)))

def decodeModels? (part : Option Json) : Option (OrderedMap TypeModel) :=
  decodeMap? (TypeModel.decode? (nestingLimit - 2)) part

def decodeUnions? (part : Option Json) : Option (OrderedMap (List String)) :=
  decodeMap? (names? (nestingLimit - 2)) part

def decode? (json : Json) : Option Schema := do
  match ← parts? ["mutation_type_name", "mutations", "queries", "query_type_name",
      "subscription_type_name", "subscriptions", "types", "unions"] json with
  | [mutationName, mutations, queries, queryName, subscriptionName, subscriptions, types,
      unions] =>
    some
      { operations :=
          ⟨← decodeModels? queries, ← decodeModels? mutations, ← decodeModels? subscriptions⟩
        types := ← decodeModels? types
        unions := ← decodeUnions? unions
        roots :=
          ⟨← decodeName? queryName, ← decodeName? mutationName, ← decodeName? subscriptionName⟩ }
  | _ => none

/-- The schema a text stands for. -/
def deserialize? (text : String) : Option Schema :=
  (Json.read? text.toList).bind decode?

end SdlProjection.Schema
