/-!
Contract: cutting a text into lines, and a line into pieces.

Owns: `lines`, which ends a line at a line feed and drops one carriage return
directly before it, and `split`, which cuts at every separator. A final line
feed starts no further line; a carriage return anywhere else stays.
-/

namespace SdlProjection.Text

/-- The lines of a text, terminators dropped. -/
def lines : List Char → List (List Char)
  | [] => []
  | '\n' :: rest => [] :: lines rest
  | '\r' :: '\n' :: rest => [] :: lines rest
  | c :: rest =>
    match lines rest with
    | [] => [[c]]
    | line :: later => (c :: line) :: later

/-- The pieces between the separators; one more than there are separators. -/
def split (separator : Char) : List Char → List (List Char)
  | [] => [[]]
  | c :: rest =>
    if c == separator then [] :: split separator rest
    else
      match split separator rest with
      | [] => [[c]]
      | piece :: later => (c :: piece) :: later

/-- What stands before the first separator, or everything. -/
def before (separator : Char) (text : List Char) : List Char :=
  text.takeWhile (· != separator)

/-- What stands after the first separator, if there is one. -/
def after? (separator : Char) : List Char → Option (List Char)
  | [] => none
  | c :: rest => if c == separator then some rest else after? separator rest

/-- The texts one after the other, with single spaces between them. -/
def joinSpaced : List (List Char) → List Char
  | [] => []
  | [text] => text
  | text :: later => text ++ ' ' :: joinSpaced later

end SdlProjection.Text
