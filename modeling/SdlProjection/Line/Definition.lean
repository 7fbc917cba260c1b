import SdlProjection.Text.Blank
import SdlProjection.Text.Lines
import SdlProjection.Text.Name

/-!
Contract: the parts of a definition line.

Owns: the name a definition line gives, the members of a union, the value of an
enum line, the target of a root binding and the text of a description. Each
function is meant for a line of the category it is named for; on another line
it gives the empty text or no parts.

Does not own: the categories (`Line.Grammar`).
-/

namespace SdlProjection.Line

/-- What stands after the word, if the text starts with it. -/
def afterWord? : List Char → List Char → Option (List Char)
  | [], text => some text
  | _ :: _, [] => none
  | c :: word, d :: text => if c = d then afterWord? word text else none

/-- The name after the keyword, with what follows it. Blanks may stand before the keyword
and at least one must stand after it. -/
def splitDefinition? (keyword : String) (line : List Char) : Option (List Char × List Char) :=
  match afterWord? keyword.toList (line.dropWhile Text.isBlank) with
  | some (c :: rest) =>
    if Text.isBlank c then Text.splitName? (rest.dropWhile Text.isBlank) else none
  | _ => none

/-- The name a definition line gives after the keyword. -/
def definitionName (keyword : String) (line : List Char) : String :=
  match splitDefinition? keyword line with
  | some (name, _) => String.ofList name
  | none => ""

/-- The names between vertical bars, without blanks and empty ones. -/
def unionMembers (text : List Char) : List String :=
  (((Text.split '|' text).map Text.trim).filter fun member => !member.isEmpty).map String.ofList

/-- The name of a union and the members on its first line. -/
def unionDefinition (line : List Char) : String × List String :=
  match splitDefinition? "union" line with
  | some (name, rest) =>
    match rest.dropWhile Text.isBlank with
    | '=' :: members =>
      if members.contains '\n' then ("", []) else (String.ofList name, unionMembers members)
    | _ => ("", [])
  | none => ("", [])

/-- What stands before the directives of an enum line. -/
def enumValue (line : List Char) : List Char :=
  Text.trim (Text.before '@' line)

/-- What stands after the colon of a root binding. -/
def bindingTarget (line : List Char) : String :=
  match Text.after? ':' line with
  | some target => String.ofList (Text.trim target)
  | none => ""

def isQuote (c : Char) : Bool := c == '"'

/-- The text of a description that stands on one line. -/
def descriptionText (line : List Char) : List Char :=
  Text.trim (Text.dropEndWhile isQuote ((Text.trim line).dropWhile isQuote))

/-- The text on the line that opens a block description. -/
def blockOpening (line : List Char) : List Char :=
  Text.trim ((Text.trim line).dropWhile isQuote)

/-- The text on the line that closes a block description. -/
def blockClosing (line : List Char) : List Char :=
  Text.trim (Text.dropEndWhile isQuote (Text.trim line))

end SdlProjection.Line
