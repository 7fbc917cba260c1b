import SdlProjection.Proofs.Fragment.Displacement
import SdlProjection.Proofs.Fragment.Numbering
import SdlProjection.Proofs.Fragment.Remarks
import SdlProjection.Proofs.Schema.Reading

/-!
Contract: a text with a remark put between its lines.

Owns: that blank lines, comments and descriptions change nothing of what a text is
read to but the numbers of the lines after them, wherever one of the loops of
the reading comes to its next line, the inside of a declaration included.

Does not own: which lines are passed over (`Proofs.Fragment.Remarks`), and how the
lines after them move (`Proofs.Fragment.Displacement`).
-/

namespace SdlProjection

def ReadError.renumbered (renumber : Nat → Nat) : ReadError → ReadError
  | .declaration error => .declaration { error with number := renumber error.number }
  | .discovery error => .discovery error

namespace Fragment

section Shift

variable {position count : Nat}

theorem Block.renumbered_shifted {block : Block} (below : block.NumbersBelow (position + 1)) :
    block.renumbered (shifted position count) = block := by
  have kept : ∀ {number : Nat}, number < position + 1 → shifted position count number = number :=
    fun below => if_pos (Nat.le_of_lt_succ below)
  cases block with
  | body content pending =>
      cases pending with
      | none => rfl
      | some declaration =>
          simp only [Block.renumbered, Option.map_some, Pending.renumbered,
            kept (below declaration rfl)]
  | failed cause number => simp only [Block.renumbered, kept below]
  | top | enumeration _ _ | union _ _ => rfl

theorem map_renumbered_shifted {own : List Diagnostic}
    (below : ∀ diagnostic ∈ own, diagnostic.number < position + 1) :
    own.map (Diagnostic.renumbered (shifted position count)) = own := by
  have kept : ∀ diagnostic ∈ own,
      Diagnostic.renumbered (shifted position count) diagnostic = diagnostic := by
    intro diagnostic member
    have le := Nat.le_of_lt_succ (below diagnostic member)
    simp only [Diagnostic.renumbered, shifted, if_pos le]
  rw [List.map_congr_left kept, List.map_id']

end Shift

/-- A reading without the lines that were put in on the left, the one with them on the right. -/
def insertionCorrespondence (before : List Diagnostic) (position count : Nat) :
    Correspondence :=
  displacement none before before (shifted position count)

/-- An insertion leaves the reading in step with the one without it. -/
theorem lockstep_insertion {before : List Diagnostic} {position : Nat} {fragment : Fragment}
    {inserted : List (List Char)} (insertion : Insertion inserted)
    (inline : ∀ line ∈ inserted, '\n' ∉ line) (noDescription : fragment.description = none)
    (numbered : Numbered before (position + 1) fragment) :
    Lockstep (insertionCorrespondence before position inserted.length) fragment.closeUnion
      (fragment.feed none (position + 1) inserted) := by
  have closed : Numbered before (position + 1) fragment.closeUnion := by
    rw [closeUnion]
    split
    · exact numbered.close
    · exact numbered
  obtain ⟨remarked, described⟩ :=
    @remarked_feed_insertion fragment none (position + 1) inserted insertion inline noDescription
  refine ⟨remarked.schema.symm, ?_, ?_, ?_⟩
  · rw [remarked.block]
    exact (Block.renumbered_shifted closed.block).symm
  · rw [described, closeUnion_description, noDescription]
  · obtain ⟨own, reported, below⟩ := closed.diagnostics
    refine ⟨own, reported, ?_⟩
    rw [remarked.diagnostics, map_renumbered_shifted below, reported]

/-- So does everything that follows. -/
theorem lockstep_finish {before : List Diagnostic} {position : Nat} {fragment : Fragment}
    {inserted remaining : List (List Char)} (insertion : Insertion inserted)
    (inline : ∀ line ∈ inserted, '\n' ∉ line) (examined : fragment.Examines remaining)
    (numbered : Numbered before (position + 1) fragment) :
    Lockstep (insertionCorrespondence before position inserted.length)
      (fragment.feed none (position + 1) remaining).finish
      (fragment.feed none (position + 1) (inserted ++ remaining)).finish := by
  have started := lockstep_insertion insertion inline examined.1 numbered
  rw [feed_append, ← feed_closeUnion_finish examined]
  exact (started.feed_shifted remaining).finish

end Fragment

namespace Schema

open Fragment

variable {text text' : String} {front inserted back : List (List Char)}

/-- The reading of the text is in step with that of the text with the insertion. -/
theorem lockstep_reading (journal : Journal) (lines : Text.lines text.toList = front ++ back)
    (lines' : Text.lines text'.toList = front ++ (inserted ++ back))
    (insertion : Insertion inserted)
    (examined : ((Fragment.start empty journal).feed none 1 front).Examines back) :
    Lockstep (insertionCorrespondence journal.diagnostics front.length inserted.length)
      (reading text journal) (reading text' journal) := by
  have inline : ∀ line ∈ inserted, '\n' ∉ line := by
    intro line member
    have here : line ∈ Text.lines text'.toList := by
      rw [lines']
      exact List.mem_append_right _ (List.mem_append_left _ member)
    exact Text.noFeed_of_mem_lines here
  have started : Numbered journal.diagnostics 1 (Fragment.start empty journal) :=
    ⟨⟨[], by simp [start], by simp⟩, trivial⟩
  have numbered := started.feed none front
  rw [reading, reading, lines, lines', feed_append, feed_append, Nat.add_comm 1]
  rw [Nat.add_comm 1] at numbered
  exact lockstep_finish insertion inline examined numbered

/-- A blank line, a comment or a description may be put before any line that a loop of the reading
comes to, and after the last line. The text is then read to the same schema, or fails on the same
declaration, and the same lines are reported; all that changes is that the lines after the
position have moved. -/
theorem readText_insert (journal : Journal) (lines : Text.lines text.toList = front ++ back)
    (lines' : Text.lines text'.toList = front ++ (inserted ++ back))
    (insertion : Insertion inserted)
    (examined : ((Fragment.start empty journal).feed none 1 front).Examines back) :
    (readText text' journal).1 = (readText text journal).1.mapError
        (ReadError.renumbered (shifted front.length inserted.length)) ∧
      ∃ own, (readText text journal).2.diagnostics = journal.diagnostics ++ own ∧
        (readText text' journal).2.diagnostics = journal.diagnostics ++
          own.map (Diagnostic.renumbered (shifted front.length inserted.length)) := by
  have lockstep := lockstep_reading journal lines lines' insertion examined
  obtain ⟨own, reported, reported'⟩ := lockstep.diagnostics
  have ended : (reading text journal).Settled ∨
      ∃ cause number, (reading text journal).block = .failed cause number :=
    settled_or_failed_finish _
  rcases ended with settled | ⟨cause, number, failed⟩
  · rw [readText_of_settled settled, readText_of_settled (lockstep.settled settled)]
    refine ⟨?_, own, reported, reported'⟩
    rw [Except.mapError]
    exact congrArg Except.ok lockstep.schema.symm
  · have failed' : (reading text' journal).block =
        .failed cause (shifted front.length inserted.length number) := by
      rw [lockstep.block, failed]
      rfl
    rw [readText_of_failed failed, readText_of_failed failed']
    exact ⟨rfl, own, reported, reported'⟩

/-- A declaration whose arguments span several lines. -/
def argumentsText : String := "type Query \x7b\n  item(\n    id: ID!\n  ): Item\n\x7d\n"

/-- The same declaration, with a block description among its arguments. -/
def describedText : String :=
  "type Query \x7b\n  item(\n    \"\"\"\n    The key: unique\n    \"\"\"\n" ++
    "    id: ID!\n  ): Item\n\x7d\n"

theorem readText_insert_in_arguments :
    ∃ schema, (readText argumentsText .empty).1 = .ok schema ∧
      (readText describedText .empty).1 = .ok schema ∧
      (schema.operations.get .query).keys = ["item( id: ID! )"] := by
  have marks : classify (Text.trim "    \"\"\"".toList) = .blockDescriptionMarker := by
    decide +kernel
  have insertion : Insertion
      ("    \"\"\"".toList :: (["    The key: unique".toList] ++ ["    \"\"\"".toList])) :=
    .blockDescription marks (by decide +kernel) marks
  have lines : Text.lines argumentsText.toList = ["type Query \x7b".toList, "  item(".toList] ++
      ["    id: ID!".toList, "  ): Item".toList, "\x7d".toList] := by
    decide +kernel
  have settled : (reading argumentsText .empty).Settled := by
    rw [reading, lines]
    exact ⟨rfl, rfl⟩
  -- the parenthesis is open when the loop comes to the line of the argument
  have law := (@readText_insert _ describedText _ _ _ .empty lines (by decide +kernel) insertion
    ⟨rfl, fun _ _ opened => by cases opened⟩).1
  rw [readText_of_settled settled] at law ⊢
  refine ⟨_, rfl, law, ?_⟩
  rw [reading, lines]
  decide +kernel

end Schema

end SdlProjection
