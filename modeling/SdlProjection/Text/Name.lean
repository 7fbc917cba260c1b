/-!
Contract: identifiers of the schema language.

Owns: the two character classes of a name (both ASCII only) and the split of
a text after its leading name.
-/

namespace SdlProjection.Text

/-- A letter of the ASCII alphabet or an underscore. -/
def isNameStart (c : Char) : Bool :=
  c.isAlpha || c == '_'

/-- What may follow in a name: also the ten ASCII digits. -/
def isNamePart (c : Char) : Bool :=
  c.isAlphanum || c == '_'

/-- The longest name at the front of `text`, with what follows it. -/
def splitName? : List Char → Option (List Char × List Char)
  | [] => none
  | c :: rest =>
    if isNameStart c then some (c :: rest.takeWhile isNamePart, rest.dropWhile isNamePart)
    else none

/-- The whole of `text` is one name. -/
def isName : List Char → Bool
  | [] => false
  | c :: rest => isNameStart c && rest.all isNamePart

end SdlProjection.Text
