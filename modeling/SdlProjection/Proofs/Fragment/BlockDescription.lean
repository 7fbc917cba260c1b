import SdlProjection.Proofs.Fragment.Loops
import SdlProjection.Proofs.Line.BlockMarker

/-!
Contract: where a block description ends.

Owns: `Reader.readBlockDescription_ends`: behind the first line that closes it, as
`Line.ClosesDescription` says, or at the end of the lines. A line that holds the
marker, but is a comment or complete in itself, does not end it, and then the lines
behind such a line belong to the description too.

Does not own: the text of a description, which is discarded.
-/

namespace SdlProjection.Reader

/-- What follows the opener, up to the place where a block description ends: lines of which only
the last one closes it, or all lines, none of which does. -/
inductive EndsBefore (rest : List (List Char)) : List (List Char) → Prop
  | closed {inner : List (List Char)} {closing : List Char} :
      (∀ line ∈ inner, ¬Line.ClosesDescription line) → Line.ClosesDescription closing →
      EndsBefore rest (inner ++ closing :: rest)
  | unclosed {lines : List (List Char)} : rest = [] →
      (∀ line ∈ lines, ¬Line.ClosesDescription line) → EndsBefore rest lines

theorem EndsBefore.cons {rest lines : List (List Char)} {line : List Char}
    (open' : ¬Line.ClosesDescription line) (ends : EndsBefore rest lines) :
    EndsBefore rest (line :: lines) := by
  cases ends with
  | @closed inner closing innerOpen closes =>
      apply @EndsBefore.closed rest (line :: inner) closing _ closes
      exact List.forall_mem_cons.mpr ⟨open', innerOpen⟩
  | unclosed nothing allOpen =>
      exact .unclosed nothing (List.forall_mem_cons.mpr ⟨open', allOpen⟩)

/-- A description is read to the place where it ends. -/
structure ReadsToEnd (state : Cursor × List (List Char)) (result : Cursor × List Char) : Prop where
  reaches : state.1.Reaches result.1
  ends : EndsBefore result.1.rest state.1.rest

theorem readsToEnd_descriptionPass (state : Cursor × List (List Char)) :
    SoundPass Prod.fst ReadsToEnd descriptionPass state := by
  obtain ⟨cursor, parts⟩ := state
  obtain ⟨step, taken, does⟩ := exists_descriptionStep cursor parts
  refine ⟨step, taken, ?_⟩
  cases does with
  | atEnd atEnd =>
      refine ⟨.refl cursor, .unclosed atEnd ?_⟩
      show ∀ line ∈ cursor.rest, ¬Line.ClosesDescription line
      rw [atEnd]
      exact fun _ member => absurd member List.not_mem_nil
  | @closing line rest here isMarker =>
      refine ⟨(Cursor.precedes_advance here).reaches, ?_⟩
      show EndsBefore cursor.advance.rest cursor.rest
      rw [Cursor.rest_advance, here]
      apply @EndsBefore.closed rest [] line
      · exact fun _ member => absurd member List.not_mem_nil
      · exact (Line.closesDescription_iff line).mpr isMarker
  | @part line rest here notMarker =>
      have forward := Cursor.precedes_advance here
      have open' : ¬Line.ClosesDescription line :=
        fun closes => notMarker ((Line.closesDescription_iff line).mp closes)
      refine ⟨forward, ?_⟩
      intro result readsToEnd
      refine ⟨forward.reaches.trans readsToEnd.reaches, ?_⟩
      have behind : EndsBefore result.1.rest cursor.advance.rest := readsToEnd.ends
      rw [Cursor.rest_advance, here, List.tail_cons] at behind
      show EndsBefore result.1.rest cursor.rest
      rw [here]
      exact behind.cons open'

section Reading

variable {allowance : Nat} {cursor : Cursor} {opener : List Char} {later : List (List Char)}

/-- The reading of a block description moves the cursor to the line behind the first later line
that closes it, and to the end of the lines if none does. Of the lines with the marker, those that
are comments or complete descriptions do not close it. -/
theorem readBlockDescription_ends (enough : cursor.rest.length < allowance)
    (here : cursor.rest = opener :: later) :
    ∃ behind text, readBlockDescription allowance cursor = some (behind, text) ∧
      cursor.Reaches behind ∧ EndsBefore behind.rest later := by
  have forward := Cursor.precedes_advance here
  have fewer : cursor.advance.rest.length < allowance := Nat.lt_trans forward.rest_lt enough
  obtain ⟨⟨behind, text⟩, read, readsToEnd⟩ := exists_loop Prod.fst ReadsToEnd
    (cursor.advance, Fragment.addPart [] (Line.blockOpening opener)) fewer
    fun next _ => readsToEnd_descriptionPass next
  refine ⟨behind, text, ?_, forward.reaches.trans readsToEnd.reaches, ?_⟩
  · have taken : cursor.take = (some opener, cursor.advance) := by
      simp [Cursor.take, Cursor.current?, here]
    simp only [readBlockDescription, taken, read]
  · have ends : EndsBefore behind.rest cursor.advance.rest := readsToEnd.ends
    rwa [Cursor.rest_advance, here, List.tail_cons] at ends

end Reading

/-- A description with three markers in it, of which only the last one closes it. -/
def describedLines : List (List Char) :=
  ["\"\"\"", "# not here \"\"\"", "\"\"\"nor here\"\"\"", "but here\"\"\"  ", "type Photo \x7b"].map
    String.toList

theorem readBlockDescription_describedLines :
    (Cursor.ofLines describedLines).rest.length < 6 ∧
      ∃ behind text, readBlockDescription 6 (.ofLines describedLines) = some (behind, text) ∧
        EndsBefore behind.rest describedLines.tail ∧ behind.rest = ["type Photo \x7b".toList] := by
  have enough : (Cursor.ofLines describedLines).rest.length < 6 := by decide
  obtain ⟨behind, text, read, -, ends⟩ := readBlockDescription_ends enough rfl
  have left : (readBlockDescription 6 (.ofLines describedLines)).map (fun result => result.1.rest) =
      some ["type Photo \x7b".toList] := by
    decide +kernel
  rw [read, Option.map_some, Option.some.injEq] at left
  exact ⟨enough, behind, text, read, ends, left⟩

/-- A description that is closed on a line that starts with the sign of a comment. -/
def commentedMarkerLines : List (List Char) :=
  ["\"\"\"", "# all of it \"\"\"", "type Photo \x7b", "id: ID", "\x7d"].map String.toList

/-- The marker on the second line, the first one behind the opener, is passed over. The description
swallows the object that follows, and nothing is said about it. -/
theorem commentedMarker_swallows :
    classify (Text.trim "\"\"\"".toList) = .blockDescriptionMarker ∧
      blockMarker <:+: "# all of it \"\"\"".toList ∧
      (readBlockDescription 6 (.ofLines commentedMarkerLines)).map (fun result => result.1.rest) =
        some [] ∧
      (Fragment.parse (.ofLines commentedMarkerLines) .empty .empty).1 =
        .ok (Schema.inheriting .empty) ∧
      (Fragment.parse (.ofLines commentedMarkerLines) .empty .empty).2.diagnostics = [] := by
  refine ⟨by decide +kernel, ⟨"# all of it ".toList, [], rfl⟩, by decide +kernel, rfl, rfl⟩

end SdlProjection.Reader
