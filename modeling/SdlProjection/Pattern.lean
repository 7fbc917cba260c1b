import SdlProjection.Text.Blank
import SdlProjection.Text.Name

/-!
Contract: patterns over characters, and whether one matches a whole text.

Owns: the character classes the line grammar is written in, the pattern type,
its matcher and the relation `Pattern.Matches` that says what matching means.
The matcher steps a set of patterns over the text, one character at a time:
after a character, the set holds what may still follow. Duplicates are
dropped at each step, so the set stays as small as the pattern, however
ambiguous it is.

Does not own: the patterns themselves (`Line.Grammar`, `Model.ListSignature`).
-/

namespace SdlProjection

inductive CharClass where
  | exactly (c : Char)
  | blank
  | nameStart
  | namePart
  /-- Anything but a line feed. -/
  | inline
  | any
deriving DecidableEq

def CharClass.holds : CharClass → Char → Bool
  | .exactly expected, c => c == expected
  | .blank, c => Text.isBlank c
  | .nameStart, c => Text.isNameStart c
  | .namePart, c => Text.isNamePart c
  | .inline, c => c != '\n'
  | .any, _ => true

inductive Pattern where
  /-- Only the empty text. -/
  | empty
  | one (members : CharClass)
  | seq (first second : Pattern)
  | alt (left right : Pattern)
  | star (body : Pattern)
deriving DecidableEq

namespace Pattern

/-- The texts a pattern stands for. -/
inductive Matches : Pattern → List Char → Prop
  | empty : Matches .empty []
  | one {members : CharClass} {c : Char} : members.holds c = true → Matches (.one members) [c]
  | seq {first second : Pattern} {front back : List Char} :
      Matches first front → Matches second back → Matches (.seq first second) (front ++ back)
  | altLeft {left right : Pattern} {text : List Char} :
      Matches left text → Matches (.alt left right) text
  | altRight {left right : Pattern} {text : List Char} :
      Matches right text → Matches (.alt left right) text
  | starNil {body : Pattern} : Matches (.star body) []
  | starCons {body : Pattern} {front back : List Char} :
      Matches body front → Matches (.star body) back → Matches (.star body) (front ++ back)

/-- Whether the empty text matches. -/
def nullable : Pattern → Bool
  | .empty => true
  | .one _ => false
  | .seq first second => first.nullable && second.nullable
  | .alt left right => left.nullable || right.nullable
  | .star _ => true

/-- The pattern `first`, then `second`, without a leading empty part. -/
def andThen (first second : Pattern) : Pattern :=
  match first with
  | .empty => second
  | other => .seq other second

/-- What may follow once `c` has been read. -/
def after (c : Char) : Pattern → List Pattern
  | .empty => []
  | .one members => if members.holds c then [.empty] else []
  | .seq first second =>
    (first.after c).map (·.andThen second) ++ if first.nullable then second.after c else []
  | .alt left right => left.after c ++ right.after c
  | .star body => (body.after c).map (·.andThen (.star body))

/-- Whether one of the patterns matches the whole text. -/
def anyMatch : List Pattern → List Char → Bool
  | states, [] => states.any nullable
  | states, c :: rest => anyMatch ((states.flatMap (after c)).foldr List.insert []) rest

/-- Whether the pattern matches the whole text. -/
def accepts (pattern : Pattern) (text : List Char) : Bool :=
  anyMatch [pattern] text

/-! Building blocks. -/

def optional (body : Pattern) : Pattern := .alt body .empty

def many (members : CharClass) : Pattern := .star (.one members)

/-- The given characters, one after the other. -/
def word (text : String) : Pattern :=
  text.toList.foldr (fun c rest => .seq (.one (.exactly c)) rest) .empty

/-- The given parts, one after the other. -/
def parts (sequence : List Pattern) : Pattern :=
  sequence.foldr .seq .empty

/-- Any number of blanks. -/
def blanks : Pattern := many .blank

/-- Any text within one line. -/
def inlineText : Pattern := many .inline

def name : Pattern := .seq (.one .nameStart) (many .namePart)

end Pattern

end SdlProjection
