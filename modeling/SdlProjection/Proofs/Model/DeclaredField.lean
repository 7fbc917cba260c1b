import SdlProjection.Proofs.Model.TypeClause

/-!
Contract: the fields that declarations give.

Owns: `IsDeclaredField`, a key with a type that is a scalar, a reference or a list
of such, and that every declaration which is read gives such a field.

Does not own: what the type clause says about the type (`Proofs.Model.TypeClause`).
-/

namespace SdlProjection

open Pattern

namespace TypeModel

/-- The types that are written as a name. -/
inductive IsNamed : TypeModel → Prop
  | scalar (kind : ScalarKind) (nullability : Nullability) : IsNamed (.scalar kind nullability)
  | reference (target : String) (nullability : Nullability) :
      IsNamed (.reference target nullability)

/-- The types a declaration can have. A list holds no lists, and one without rows keeps no mark
for them. -/
inductive IsDeclared : TypeModel → Prop
  | named {type : TypeModel} : IsNamed type → IsDeclared type
  | single {element : TypeModel} (nullability : Nullability) : IsNamed element →
      IsDeclared (.list .single element .nullable nullability)
  | multi {element : TypeModel} (inner nullability : Nullability) : IsNamed element →
      IsDeclared (.list .multi element inner nullability)

theorem isNamed_ofName (name : List Char) : IsNamed (ofName name) := by
  rw [ofName]
  split
  · exact .scalar _ _
  · exact .reference _ _

theorem IsNamed.markNonNull {type : TypeModel} (named : type.IsNamed) :
    type.markNonNull.IsNamed := by
  cases named with
  | scalar kind _ => exact .scalar kind .nonNull
  | reference target _ => exact .reference target .nonNull

theorem IsDeclared.markNonNull {type : TypeModel} (declared : type.IsDeclared) :
    type.markNonNull.IsDeclared := by
  cases declared with
  | named isNamed => exact .named isNamed.markNonNull
  | single _ isNamed => exact .single .nonNull isNamed
  | multi inner _ isNamed => exact .multi inner .nonNull isNamed

end TypeModel

structure IsDeclaredField (field : String × TypeModel) : Prop where
  key : Field.IsKey field.1.toList
  type : field.2.IsDeclared

/-! ### Types -/

theorem ListSignature.isNamed_elementType (signature : List Char) :
    (elementType signature).IsNamed := by
  simp only [elementType]
  split
  · exact (TypeModel.isNamed_ofName _).markNonNull
  · exact TypeModel.isNamed_ofName _

theorem ListSignature.isDeclared_of_parse {text : List Char} {type : TypeModel}
    (parsed : parse text = .ok type) : type.IsDeclared := by
  simp only [parse] at parsed
  split at parsed
  · cases parsed
  · next dimensionality _ =>
      cases parsed
      cases dimensionality with
      | single => exact .single _ (isNamed_elementType _)
      | multi => exact .multi _ _ (isNamed_elementType _)

namespace Field

theorem isDeclared_of_clauseType {kind : FieldKind} {clause : List Char} {type : TypeModel}
    (isType : clauseType kind clause = .ok type) : type.IsDeclared := by
  cases kind with
  | scalar claimed =>
      simp only [clauseType] at isType
      split at isType
      · cases isType
        exact .named (.scalar _ _)
      · cases isType
  | list => exact ListSignature.isDeclared_of_parse isType
  | reference =>
      cases isType
      exact .named (.reference _ _)

theorem exists_split?_of_parse {declaration : List Char} {field : Field}
    (parsed : Field.parse declaration = .ok field) :
    ∃ key clause, split? (essence declaration) = some (key, clause) ∧
      field.key = String.ofList key := by
  simp only [Field.parse] at parsed
  split at parsed
  · next kind key clause _ split =>
      split at parsed
      · cases parsed
      · split at parsed
        · cases parsed
        · cases parsed
          exact ⟨key, clause, split, rfl⟩
  · cases parsed

theorem isDeclaredField_of_parse {declaration : List Char} {field : Field}
    (parsed : Field.parse declaration = .ok field) :
    IsDeclaredField (field.key, field.type) where
  key := by
    obtain ⟨key, clause, split, same⟩ := exists_split?_of_parse parsed
    obtain ⟨indent, gap, rest, -, isKey, -⟩ := split?_eq_some split
    simpa [same] using isKey
  type := by
    obtain ⟨kind, type, -, isType, same⟩ := exists_clauseType_of_parse parsed
    have declared := isDeclared_of_clauseType isType
    rw [same]
    split
    · exact declared.markNonNull
    · exact declared

end Field

end SdlProjection
