/-!
Contract: the five built-in scalars.

Owns: their keywords, the look-up of a keyword (letter case is ignored, ASCII
letters only) and the JSON type each scalar becomes.
-/

namespace SdlProjection

inductive ScalarKind where
  | boolean
  | float
  | id
  | int
  | string
deriving DecidableEq, Repr

namespace ScalarKind

def all : List ScalarKind := [.boolean, .float, .id, .int, .string]

def keyword : ScalarKind → String
  | .boolean => "Boolean"
  | .float => "Float"
  | .id => "ID"
  | .int => "Int"
  | .string => "String"

/-- The JSON type of the scalar's values. -/
def jsonType : ScalarKind → String
  | .boolean => "boolean"
  | .float => "number"
  | .id => "string"
  | .int => "integer"
  | .string => "string"

end ScalarKind

/-- The two texts are equal once ASCII letters are taken in lower case. -/
def equalIgnoringCase (left right : List Char) : Bool :=
  left.map Char.toLower == right.map Char.toLower

/-- The scalar whose keyword the name is, up to ASCII letter case. -/
def ScalarKind.ofKeyword? (name : List Char) : Option ScalarKind :=
  ScalarKind.all.find? fun kind => equalIgnoringCase kind.keyword.toList name

end SdlProjection
