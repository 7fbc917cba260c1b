import SdlProjection.Proofs.Fragment.Declaring
import SdlProjection.Proofs.Fragment.Lockstep

/-!
Contract: the same lines at another place.

Owns: `shifted`, the numbers of lines once others were put in before them;
`Fragment.displacement`, readings of the same lines under other numbers and after
other diagnostics; and when two readings start to be in step in this way.

Does not own: the lines that were put in (`Proofs.Schema.Insertion`,
`Proofs.Schema.StrayLines`, `Proofs.Schema.UnionMembers`).
-/

namespace SdlProjection

/-- The number of a line once so many lines were put in after a position. -/
def shifted (position count number : Nat) : Nat :=
  if number ≤ position then number else number + count

def Diagnostic.renumbered (renumber : Nat → Nat) (diagnostic : Diagnostic) : Diagnostic :=
  { diagnostic with number := renumber diagnostic.number }

namespace Fragment

/-- Readings of the same lines after diagnostics of their own. Those on the right are numbered
anew. -/
def displacement (file : Option String) (before before' : List Diagnostic)
    (renumber : Nat → Nat) : Correspondence where
  toSchemaRelation := .equality
  line := Eq
  diagnostics left right := ∃ own, left = before ++ own ∧
    right = before' ++ own.map (Diagnostic.renumbered renumber)
  renumber := renumber
  counted _ := True
  leftFile := file
  rightFile := file
  readAlike := @Line.ReadAlike.of_eq
  report reported number _ text _ same := by
    obtain rfl := same.elim id id
    obtain ⟨own, rfl, rfl⟩ := reported
    exact ⟨own ++ [⟨file, number, String.ofList text⟩], by simp, by simp [Diagnostic.renumbered]⟩

/-- The lines after the position keep readings in step if those on the right have moved. -/
theorem Lockstep.feed_shifted {file : Option String} {before before' : List Diagnostic}
    {position count : Nat} {left right : Fragment}
    (lockstep : Lockstep (displacement file before before' (shifted position count)) left right)
    (remaining : List (List Char)) :
    Lockstep (displacement file before before' (shifted position count))
      (left.feed file (position + 1) remaining)
      (right.feed file (position + 1 + count) remaining) := by
  have same : List.Forall₂ Eq remaining remaining := List.forall₂_refl remaining
  exact lockstep.feed same fun index (_ : index < remaining.length) =>
    show True ∧ shifted position count (position + 1 + index) = position + 1 + count + index from by
      have after : ¬position + 1 + index ≤ position := by omega
      rw [shifted, if_neg after]
      exact ⟨trivial, by omega⟩

/-- Where the same block is open and the same is declared, readings start in step, whatever was
reported before. -/
theorem Stands.lockstep {left right : Fragment} {block : Block} {schema : Schema}
    {reported reported' : List Diagnostic} (stands : left.Stands block schema reported)
    (stands' : right.Stands block schema reported') {renumber : Nat → Nat}
    (unnumbered : block.renumbered renumber = block) (file : Option String) :
    Lockstep (displacement file reported reported' renumber) left right := by
  refine ⟨stands.schema.trans stands'.schema.symm, ?_, ?_, [], ?_, ?_⟩
  · rw [stands.block, stands'.block]
    exact unnumbered.symm
  · rw [stands.description, stands'.description]
  · rw [stands.reported, List.append_nil]
  · rw [stands'.reported, List.map_nil, List.append_nil]

end Fragment

end SdlProjection
