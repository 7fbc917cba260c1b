import SdlProjection.Model.Scalar
import SdlProjection.Text.Blank

/-!
Contract: why a declaration stands for no type.

Owns: the three causes, each with the text it is about, and their wording,
and the reading of a scalar keyword, which may fail with one of them.
-/

namespace SdlProjection

inductive DeclarationError where
  /-- The text is not of the form `name[(args)]: Type`. -/
  | malformedDeclaration (declaration : String)
  /-- The brackets are those of no list of one or two dimensions. -/
  | malformedListSignature (signature : String)
  | unknownScalarKeyword (keyword : String)
deriving DecidableEq, Repr

namespace DeclarationError

/-- The text the error is about. -/
def subject : DeclarationError → String
  | .malformedDeclaration declaration => declaration
  | .malformedListSignature signature => signature
  | .unknownScalarKeyword keyword => keyword

def message : DeclarationError → String
  | .malformedDeclaration declaration =>
    "Malformed field declaration: \x60" ++ declaration ++ "\x60"
  | .malformedListSignature signature => "Malformed list signature: \x60" ++ signature ++ "\x60"
  | .unknownScalarKeyword keyword => "Unknown scalar keyword: \x60" ++ keyword ++ "\x60"

end DeclarationError

/-- The scalar a keyword names, blanks around it and letter case ignored. -/
def ScalarKind.parse (keyword : List Char) : Except DeclarationError ScalarKind :=
  match ScalarKind.ofKeyword? (Text.trim keyword) with
  | some kind => .ok kind
  | none => .error (.unknownScalarKeyword (String.ofList keyword))

end SdlProjection
