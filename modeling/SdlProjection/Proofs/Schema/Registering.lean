import SdlProjection.Proofs.Entries
import SdlProjection.Proofs.Fragment.Moves
import SdlProjection.Proofs.Line.Definition
import SdlProjection.Proofs.Schema.Reading

/-!
Contract: the table of types that a text is read to.

Owns: `Schema.Registered`, that every key of the table is a name and every entry a
nullable object, a nullable enum or a custom scalar, and that each move of a
reading keeps it, so that it holds of whatever a text is read to.

Does not own: which definitions a text has.
-/

namespace SdlProjection

/-- The entries that definitions put into the table. -/
inductive TypeModel.IsEntry : TypeModel → Prop
  | enumeration (values : List String) : IsEntry (.enumeration values .nullable)
  | object (fields : List (String × TypeModel)) : IsEntry (.object fields .nullable)
  | customScalar : IsEntry .customScalar

/-- Every key of the table is a name, and every entry is that of a definition. -/
def Schema.Registered (schema : Schema) : Prop :=
  ∀ name entry, schema.types.get? name = some entry →
    Text.isName name.toList = true ∧ entry.IsEntry

theorem Schema.Registered.addType {schema : Schema} (registered : schema.Registered)
    {name : String} {entry : TypeModel} (named : Text.isName name.toList = true)
    (isEntry : entry.IsEntry) : (schema.addType name entry).Registered := by
  intro other found looked
  have inserted := @Entries.get?_insert _ schema.types.entries name other entry
  have same : (schema.addType name entry).types.get? other =
      if name = other then some entry else schema.types.get? other := inserted
  rw [same] at looked
  split at looked
  · next isOther =>
      cases looked
      exact ⟨isOther ▸ named, isEntry⟩
  · exact registered other found looked

/-- The name of an open block is one, if the block becomes an entry. -/
def Block.Named : Block → Prop
  | .body (.object name _) _ | .enumeration name _ => Text.isName name.toList = true
  | .top | .body (.operations _) _ | .union _ _ | .failed _ _ => True

namespace Fragment

structure Registering (fragment : Fragment) : Prop where
  schema : fragment.schema.Registered
  block : fragment.block.Named

theorem Opens.named {line : List Char} {block : Block} (opens : Opens line block) :
    block.Named := by
  cases opens with
  | operations kind => trivial
  | union isUnion => trivial
  | object isObject => exact isName_definitionName (by decide) (matches_of_classify isObject rfl)
  | enumeration isEnum => exact isName_definitionName (by decide) (matches_of_classify isEnum rfl)

theorem Registering.close {fragment : Fragment} (registering : Registering fragment) :
    Registering fragment.close := by
  obtain ⟨registered, named⟩ := registering
  cases opened : fragment.block with
  | top | failed _ _ =>
      simp only [Fragment.close, opened]
      exact ⟨registered, named⟩
  | union name members =>
      simp only [Fragment.close, opened]
      exact ⟨registered, trivial⟩
  | enumeration name values =>
      rw [opened] at named
      simp only [Fragment.close, opened]
      exact ⟨registered.addType named (.enumeration values), trivial⟩
  | body body pending =>
      rw [opened] at named
      cases body with
      | operations kind =>
          simp only [Fragment.close, opened]
          exact ⟨registered, trivial⟩
      | object name fields =>
          simp only [Fragment.close, opened]
          exact ⟨registered.addType named (.object fields), trivial⟩

/-- No move puts anything else into the table. -/
theorem Registering.move {file : Option String} {line : List Char} {number : Nat}
    {before after : Fragment} (move : Move file line number before after)
    (registering : Registering before) : Registering after := by
  cases move with
  | note level message => exact ⟨registering.schema, registering.block⟩
  | report isLine =>
      simp only [Fragment.report]
      split <;> exact ⟨registering.schema, registering.block⟩
  | describe parts => exact ⟨registering.schema, registering.block⟩
  | openBlock top opens => exact ⟨registering.schema, opens.named⟩
  | bind top isBinding => exact ⟨registering.schema, registering.block⟩
  | addScalar top isScalar =>
      have named : Text.isName (Line.definitionName "scalar" line).toList = true :=
        isName_definitionName (by decide) (matches_of_classify isScalar rfl)
      exact ⟨registering.schema.addType named .customScalar, registering.block⟩
  | @pend body pending parts depth opened =>
      have named := registering.block
      rw [opened] at named
      cases body with
      | object name fields => exact ⟨registering.schema, named⟩
      | operations kind => exact ⟨registering.schema, trivial⟩
  | addField opened parsed =>
      have named := registering.block
      rw [opened] at named
      exact ⟨registering.schema, named⟩
  | addOperation opened parsed => exact ⟨registering.schema, trivial⟩
  | fail opened failed located => exact ⟨registering.schema, trivial⟩
  | addValue opened named =>
      have named := registering.block
      rw [opened] at named
      exact ⟨registering.schema, named⟩
  | addMembers opened => exact ⟨registering.schema, trivial⟩
  | close => exact registering.close

end Fragment

theorem Fragment.registering_run (cursor : Cursor) (bindings : Schema) (journal : Journal)
    (inline : ∀ line ∈ cursor.rest, '\n' ∉ line) :
    Registering ((start bindings journal).run cursor) := by
  have nothing : Registering (start bindings journal) := by
    refine ⟨?_, trivial⟩
    intro name entry found
    cases found
  exact run_keep (fun _ => Registering.move) inline nothing

theorem Schema.registered_of_readText {text : String} {journal after : Journal} {schema : Schema}
    (read : readText text journal = (.ok schema, after)) : schema.Registered := by
  obtain ⟨-, rfl, -⟩ := settled_of_readText read
  exact (Fragment.registering_run (.ofText text.toList) empty journal
    fun _ => Text.noFeed_of_mem_lines).schema

end SdlProjection
