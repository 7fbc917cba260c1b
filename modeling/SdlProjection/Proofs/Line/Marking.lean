import SdlProjection.Line.Grammar
import SdlProjection.Proofs.Pattern.Matching
import SdlProjection.Proofs.Text.Cutting

/-!
Contract: what the marked shapes say about the outermost type.

Owns: that every rule fixes the last character of a clause, blanks aside, and
that the outermost type therefore counts as marked exactly when the clause
ends with the mark, whichever rule comes first.
-/

namespace SdlProjection

open Pattern

variable {text : List Char}

/-- The last character of a text, blanks at its end aside. -/
def lastSolid? (text : List Char) : Option Char :=
  (Text.dropEndWhile Text.isBlank text).getLast?

theorem lastSolid?_append {front tail : List Char} {last : Char}
    (solid : Text.isBlank last = false) (blank : ∀ c ∈ tail, Text.isBlank c = true) :
    lastSolid? (front ++ last :: tail) = some last := by
  have regrouped : front ++ last :: tail = (front ++ [last]) ++ tail := by simp
  rw [lastSolid?, regrouped, Text.dropEndWhile_append_of_all blank,
    Text.dropEndWhile_concat solid, List.getLast?_concat]

theorem exists_of_lastSolid? {last : Char} (ends : lastSolid? text = some last) :
    ∃ front tail, text = front ++ last :: tail ∧ ∀ c ∈ tail, Text.isBlank c = true := by
  obtain ⟨tail, split, blank⟩ := Text.exists_dropped Text.isBlank text
  obtain ⟨front, same⟩ := List.getLast?_eq_some_iff.mp ends
  refine ⟨front, tail, ?_, blank⟩
  rw [split, same]
  simp

/-- The last character that a shape's rule asks for. -/
def NullabilityShape.lastMark (shape : NullabilityShape) : Char :=
  if shape.outerNonNull then '!' else ']'

/-- Whatever leads up to it, a closing text decides on the last character. -/
theorem lastSolid?_of_closing {lead : List Pattern} {closing : String} {last : Char}
    (spelled : closing.toList.getLast? = some last) (solid : Text.isBlank last = false)
    (matched : Matches (parts (lead ++ [word closing, blanks])) text) :
    lastSolid? text = some last := by
  induction lead generalizing text with
  | nil =>
      obtain ⟨ending, rest, rfl, closes, later⟩ := matches_parts_cons_iff.mp matched
      obtain ⟨tail, nothing, rfl, blank, none⟩ := matches_parts_cons_iff.mp later
      obtain ⟨front, same⟩ := List.getLast?_eq_some_iff.mp spelled
      rw [matches_word_iff, same] at closes
      rw [matches_parts_nil_iff] at none
      rw [blanks, matches_many_iff] at blank
      subst closes none
      rw [List.append_nil, List.append_assoc, List.singleton_append]
      exact lastSolid?_append solid blank
  | cons first lead inductionHypothesis =>
      obtain ⟨start, rest, rfl, -, later⟩ := matches_parts_cons_iff.mp matched
      obtain ⟨before, tail, same, blank⟩ := exists_of_lastSolid? (inductionHypothesis later)
      rw [same, ← List.append_assoc]
      exact lastSolid?_append solid blank

theorem lastSolid?_of_multiClause {closing : String} {last : Char}
    (spelled : closing.toList.getLast? = some last) (solid : Text.isBlank last = false)
    (matched : Matches (multiClause closing) text) : lastSolid? text = some last := by
  have regrouped :
      Matches (parts ([inlineText, word "[[", inlineText] ++ [word closing, blanks])) text :=
    matched
  exact lastSolid?_of_closing spelled solid regrouped

theorem lastSolid?_of_singleClause {closing : String} {last : Char}
    (spelled : closing.toList.getLast? = some last) (solid : Text.isBlank last = false)
    (matched : Matches (singleClause closing) text) : lastSolid? text = some last := by
  have regrouped :
      Matches (parts ([inlineText, word "[", inlineText] ++ [word closing, blanks])) text := matched
  exact lastSolid?_of_closing spelled solid regrouped

def bareMark : Pattern := parts [inlineText, word "!", blanks]

theorem lastSolid?_of_bareMark (matched : Matches bareMark text) :
    lastSolid? text = some '!' := by
  have regrouped : Matches (parts ([inlineText] ++ [word "!", blanks])) text := matched
  exact lastSolid?_of_closing rfl (by decide) regrouped

theorem lastSolid?_of_rule {rule : NullabilityShape × Pattern} (listed : rule ∈ nullabilityRules)
    (matched : Matches rule.2 text) : lastSolid? text = some rule.1.lastMark := by
  simp only [nullabilityRules, List.mem_cons, List.not_mem_nil, or_false] at listed
  rcases listed with rfl | rfl | rfl | rfl | rfl | rfl | rfl | rfl | rfl
  · exact lastSolid?_of_multiClause rfl (by decide) matched
  · exact lastSolid?_of_multiClause rfl (by decide) matched
  · exact lastSolid?_of_multiClause rfl (by decide) matched
  · exact lastSolid?_of_multiClause rfl (by decide) matched
  · exact lastSolid?_of_multiClause rfl (by decide) matched
  · exact lastSolid?_of_singleClause rfl (by decide) matched
  · exact lastSolid?_of_singleClause rfl (by decide) matched
  · exact lastSolid?_of_singleClause rfl (by decide) matched
  · exact lastSolid?_of_bareMark matched

/-- A text on one line that ends with the mark matches at least the last rule. -/
theorem matches_bareMark (inline : '\n' ∉ text) (ends : lastSolid? text = some '!') :
    Matches bareMark text := by
  obtain ⟨front, tail, rfl, blank⟩ := exists_of_lastSolid? ends
  have start : Matches inlineText front :=
    matches_inlineText_iff.mpr fun member => inline (List.mem_append_left _ member)
  have finish : Matches blanks tail := matches_many_iff.mpr blank
  rw [← List.append_nil tail]
  exact start.seq ((matches_word "!").seq (finish.seq .empty))

/-- The outermost type counts as marked exactly if the text ends with the mark, blanks aside. -/
theorem outerNonNull_iff (inline : '\n' ∉ text) :
    (nullabilityShape text).outerNonNull = true ↔ lastSolid? text = some '!' := by
  rw [nullabilityShape, firstRule?]
  cases found : nullabilityRules.find? fun rule => rule.2.accepts text with
  | some rule =>
      have listed := List.mem_of_find?_eq_some found
      have accepted := List.find?_some found
      have ends := lastSolid?_of_rule listed (accepts_iff.mp accepted)
      rw [ends, NullabilityShape.lastMark]
      cases marked : rule.1.outerNonNull <;> simp [marked]
  | none =>
      have unmarked : ¬lastSolid? text = some '!' := by
        intro ends
        have last : (NullabilityShape.bare, bareMark) ∈ nullabilityRules := by decide
        have rejected := List.find?_eq_none.mp found _ last
        exact rejected (accepts_iff.mpr (matches_bareMark inline ends))
      simp [unmarked, NullabilityShape.outerNonNull]

end SdlProjection
