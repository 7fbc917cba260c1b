import SdlProjection.Model.DeclarationError
import SdlProjection.Model.TypeModel
import SdlProjection.Pattern
import SdlProjection.Text.Lines

/-!
Contract: list types written with brackets, such as `[Int!]!` or `[[Photo]!]`.

Owns: the two accepted forms and `ListSignature.parse`, which reads three
independent marks off a signature: the list's at its end, the element's after
its name, and the rows' between the two closing brackets of a two-dimensional
list. The element is a built-in scalar if its name is a keyword in any letter
case.

Does not own: the place of a signature in a field (`Model.Field`).
-/

namespace SdlProjection.ListSignature

open Pattern

/-- The element's name and its mark, with blanks around them. -/
def element : Pattern :=
  parts [blanks, name, optional (word "!"), blanks]

def multiForm : Pattern :=
  parts [word "[[", element, .alt (word "]]") (word "]!]"), optional (word "!")]

def singleForm : Pattern :=
  parts [word "[", element, word "]", optional (word "!")]

/-- The rows of a two-dimensional signature on one line are marked. -/
def markedRows : Pattern :=
  parts [inlineText, word "]!]", optional (word "!")]

def dimensionality? (signature : List Char) : Option Dimensionality :=
  if multiForm.accepts signature then some .multi
  else if singleForm.accepts signature then some .single
  else none

/-- The type between the brackets. -/
def elementType (signature : List Char) : TypeModel :=
  let token := Text.trim (Text.before ']' (signature.dropWhile (· == '[')))
  match token.getLast? with
  | some '!' => (TypeModel.ofName (Text.trim token.dropLast)).markNonNull
  | _ => TypeModel.ofName token

def parse (text : List Char) : Except DeclarationError TypeModel :=
  let signature := Text.trim text
  match dimensionality? signature with
  | none => .error (.malformedListSignature (String.ofList signature))
  | some dimensionality =>
    let inner : Nullability :=
      if dimensionality = .multi ∧ markedRows.accepts signature then .nonNull else .nullable
    let outer : Nullability :=
      if signature.getLast? = some '!' then .nonNull else .nullable
    .ok (.list dimensionality (elementType signature) inner outer)

end SdlProjection.ListSignature
