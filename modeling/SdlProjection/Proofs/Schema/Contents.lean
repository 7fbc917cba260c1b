import Mathlib.Data.List.Nodup
import SdlProjection.Proofs.Fragment.Moves
import SdlProjection.Proofs.Line.Definition
import SdlProjection.Proofs.Model.DeclaredField
import SdlProjection.Proofs.Schema.Merging

/-!
Contract: what the definitions of a text hold.

Owns: `Schema.Declared`, that operations and the fields of objects are those of
declarations, the values of enums distinct names, and the keys of unions names;
and that each move of a reading keeps it.

Does not own: the keys of the table of types and the kinds of its entries
(`Proofs.Schema.Registering`).
-/

namespace SdlProjection

/-- The values of an enum: names, and each of them once. -/
structure AreValues (values : List String) : Prop where
  distinct : values.Nodup
  named : ∀ value ∈ values, Text.isName value.toList = true

theorem AreValues.addDistinct {values : List String} (areValues : AreValues values) {value : String}
    (named : Text.isName value.toList = true) : AreValues (addDistinct values value) := by
  rw [SdlProjection.addDistinct]
  split
  · exact areValues
  · next fresh =>
      rw [List.contains_iff_mem] at fresh
      have distinct := areValues.distinct.concat fresh
      rw [List.concat_eq_append] at distinct
      refine ⟨distinct, ?_⟩
      rw [List.forall_mem_append]
      exact ⟨areValues.named, by simpa using named⟩

/-- The fields of an object are declared, the values of an enum are distinct names. -/
def TypeModel.HoldsDeclared : TypeModel → Prop
  | .object fields _ => ∀ field ∈ fields, IsDeclaredField field
  | .enumeration values _ => AreValues values
  | .list _ _ _ _ | .reference _ _ | .scalar _ _ => True

structure Schema.Declared (schema : Schema) : Prop where
  operations : ∀ kind, ∀ entry ∈ (schema.operations.get kind).entries, IsDeclaredField entry
  types : ∀ entry ∈ schema.types.entries, entry.2.HoldsDeclared
  unions : ∀ entry ∈ schema.unions.entries, Text.isName entry.1.toList = true

namespace Schema

variable {schema : Schema}

theorem declared_inheriting (bindings : Schema) : (inheriting bindings).Declared where
  operations kind := by cases kind <;> exact fun _ member => absurd member List.not_mem_nil
  types _ member := absurd member List.not_mem_nil
  unions _ member := absurd member List.not_mem_nil

theorem Declared.addOperation (declared : schema.Declared) (kind : OperationKind) {key : String}
    {type : TypeModel} (isField : IsDeclaredField (key, type)) :
    (schema.addOperation kind key type).Declared where
  operations other := by
    rw [Schema.addOperation, PerOperation.get_set]
    split
    · exact Entries.forall_mem_insert (declared.operations kind) isField
    · exact declared.operations other
  types := declared.types
  unions := declared.unions

theorem Declared.addType (declared : schema.Declared) (name : String) {type : TypeModel}
    (holds : type.HoldsDeclared) : (schema.addType name type).Declared where
  operations := declared.operations
  types := Entries.forall_mem_insert declared.types holds
  unions := declared.unions

theorem Declared.addUnion (declared : schema.Declared) {name : String} (members : List String)
    (named : Text.isName name.toList = true) : (schema.addUnion name members).Declared where
  operations := declared.operations
  types := declared.types
  unions := Entries.forall_mem_insert declared.unions named

end Schema

/-- What an open block has collected so far. -/
def Block.HoldsDeclared : Block → Prop
  | .body (.object _ fields) _ => ∀ field ∈ fields, IsDeclaredField field
  | .enumeration _ values => AreValues values
  | .union name _ => Text.isName name.toList = true
  | .top | .body (.operations _) _ | .failed _ _ => True

namespace Fragment

structure Collecting (fragment : Fragment) : Prop where
  schema : fragment.schema.Declared
  block : fragment.block.HoldsDeclared

theorem Opens.holdsDeclared {line : List Char} {block : Block} (inline : '\n' ∉ line)
    (opens : Opens line block) : block.HoldsDeclared := by
  cases opens with
  | operations kind => trivial
  | object isObject => exact fun _ member => absurd member List.not_mem_nil
  | enumeration isEnum => exact ⟨List.nodup_nil, fun _ member => absurd member List.not_mem_nil⟩
  | union isUnion => exact isName_unionDefinition inline isUnion

theorem Collecting.close {fragment : Fragment} (collecting : Collecting fragment) :
    Collecting fragment.close := by
  obtain ⟨declared, holds⟩ := collecting
  cases opened : fragment.block with
  | top | failed _ _ =>
      simp only [Fragment.close, opened]
      exact ⟨declared, holds⟩
  | union name members =>
      rw [opened] at holds
      simp only [Fragment.close, opened]
      exact ⟨declared.addUnion members holds, trivial⟩
  | enumeration name values =>
      rw [opened] at holds
      simp only [Fragment.close, opened]
      exact ⟨declared.addType name holds, trivial⟩
  | body body pending =>
      rw [opened] at holds
      cases body with
      | operations kind =>
          simp only [Fragment.close, opened]
          exact ⟨declared, trivial⟩
      | object name fields =>
          simp only [Fragment.close, opened]
          exact ⟨declared.addType name holds, trivial⟩

/-- No move puts anything into a definition but what was declared there. -/
theorem Collecting.move {file : Option String} {line : List Char} (inline : '\n' ∉ line)
    {number : Nat} {before after : Fragment} (move : Move file line number before after)
    (collecting : Collecting before) : Collecting after := by
  obtain ⟨declared, holds⟩ := collecting
  cases move with
  | note level message => exact ⟨declared, holds⟩
  | report isLine =>
      simp only [Fragment.report]
      split <;> exact ⟨declared, holds⟩
  | describe parts => exact ⟨declared, holds⟩
  | openBlock top opens => exact ⟨declared, opens.holdsDeclared inline⟩
  | bind top isBinding => exact ⟨⟨declared.operations, declared.types, declared.unions⟩, holds⟩
  | addScalar top isScalar => exact ⟨declared.addType _ trivial, holds⟩
  | @pend body pending parts depth opened =>
      rw [opened] at holds
      cases body with
      | object name fields => exact ⟨declared, holds⟩
      | operations kind => exact ⟨declared, trivial⟩
  | addField opened parsed =>
      rw [opened] at holds
      exact ⟨declared, Entries.forall_mem_insert holds (Field.isDeclaredField_of_parse parsed)⟩
  | @addOperation kind pending declaration field opened parsed =>
      exact ⟨declared.addOperation kind (Field.isDeclaredField_of_parse parsed), trivial⟩
  | fail opened failed located => exact ⟨declared, trivial⟩
  | @addValue name values value opened named =>
      rw [opened] at holds
      have areValues : AreValues values := holds
      exact ⟨declared, areValues.addDistinct (by simpa using named)⟩
  | addMembers opened =>
      rw [opened] at holds
      exact ⟨declared, holds⟩
  | close => exact Collecting.close ⟨declared, holds⟩

theorem collecting_run (cursor : Cursor) (bindings : Schema) (journal : Journal)
    (inline : ∀ line ∈ cursor.rest, '\n' ∉ line) :
    Collecting ((start bindings journal).run cursor) :=
  run_keep Collecting.move inline ⟨Schema.declared_inheriting bindings, trivial⟩

end Fragment

end SdlProjection
