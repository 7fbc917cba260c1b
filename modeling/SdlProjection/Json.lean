import SdlProjection.Entries

/-!
Contract: JSON values.

Owns: `Json`. The entries of an object keep their order. Numbers are
integers; what JSON text can express beyond that (fractions, exponents, half
a surrogate pair in a string) is kept as its own source text, so that a
reader can pass over it.

Does not own: text in either direction (`Json.Printer`, `Json.Reader`).
-/

namespace SdlProjection

inductive Json where
  | null
  | bool (value : Bool)
  | int (value : Int)
  | str (value : String)
  | arr (items : List Json)
  | obj (entries : List (String × Json))
  /-- Well-formed text that no other value here stands for. -/
  | foreign (source : String)

namespace Json

/-- The value under a key of an object. -/
def get? (json : Json) (key : String) : Option Json :=
  match json with
  | .obj entries => Entries.get? entries key
  | _ => none

def str? : Json → Option String
  | .str value => some value
  | _ => none

def items? : Json → Option (List Json)
  | .arr items => some items
  | _ => none

end Json

end SdlProjection
