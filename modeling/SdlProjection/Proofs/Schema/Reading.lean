import SdlProjection.Proofs.Fragment.Reading
import SdlProjection.Schema.Sources

/-!
Contract: what becomes of a whole text.

Owns: `Schema.reading`, the fragment after the last line of a text, and that the
result of reading the text is read off it.

Does not own: what the lines do (`Proofs.Fragment.Moves`).
-/

namespace SdlProjection.Schema

/-- The fragment that a text leaves, closed. -/
def reading (text : String) (journal : Journal) : Fragment :=
  ((Fragment.start empty journal).feed none 1 (Text.lines text.toList)).finish

variable {text : String} {journal after : Journal}

/-- A cursor is read as one fragment without earlier bindings. -/
theorem readCursor_eq (cursor : Cursor) (journal : Journal) :
    readCursor cursor journal =
      ((Fragment.parse cursor empty journal).1.mapError .declaration,
        (Fragment.parse cursor empty journal).2) := by
  rw [readCursor]
  split
  · next parsed =>
      rw [parsed]
      rfl
  · next failed =>
      rw [failed]
      rfl

theorem run_ofText : (Fragment.start empty journal).run (.ofText text.toList) =
    reading text journal := rfl

/-- A text is read to the schema of its last state if that is settled. -/
theorem settled_of_readText {schema : Schema}
    (read : readText text journal = (.ok schema, after)) :
    (reading text journal).Settled ∧ (reading text journal).schema = schema ∧
      (reading text journal).journal = after := by
  rw [← run_ofText]
  apply Fragment.settled_of_parse
  simp only [readText, readCursor] at read
  split at read
  · next parsed =>
      cases read
      exact parsed
  · cases read

theorem readText_of_settled (settled : (reading text journal).Settled) :
    readText text journal =
      (.ok (reading text journal).schema, (reading text journal).journal) := by
  rw [← run_ofText] at settled ⊢
  simp only [readText, readCursor, Fragment.parse_of_settled settled]

/-- A text on which a declaration fails is read to that failure. -/
theorem readText_of_failed {cause : DeclarationError} {number : Nat}
    (failed : (reading text journal).block = .failed cause number) :
    readText text journal =
      (.error (.declaration ⟨none, number, cause⟩), (reading text journal).journal) := by
  rw [← run_ofText] at failed ⊢
  simp only [readText, readCursor, Fragment.parse_of_failed failed]
  rfl

end SdlProjection.Schema
