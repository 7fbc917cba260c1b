import SdlProjection.Line.Grammar
import SdlProjection.Proofs.Pattern.Padding

/-!
Contract: the category of a line with blanks around it.

Owns: that no rule of the grammar takes note of blanks at the ends of a line, so
that a line has the category of the trimmed line, and that a blank line has
none.

Does not own: categories of lines that are known in outline
(`Proofs.Line.Categories`).
-/

namespace SdlProjection

variable {line : List Char}

theorem lineRules_ignorePadding : ∀ rule ∈ lineRules, rule.2.ignoresPadding = true := by
  decide

/-- Blanks around a line do not change its category. -/
theorem classify_trim (inline : '\n' ∉ line) : classify (Text.trim line) = classify line := by
  have same : ∀ rule ∈ lineRules, rule.2.accepts (Text.trim line) = rule.2.accepts line :=
    fun rule listed => Pattern.accepts_trim (lineRules_ignorePadding rule listed) inline
  have found : ∀ rules : List (LineKind × Pattern), rules ⊆ lineRules →
      (rules.find? fun rule => rule.2.accepts (Text.trim line)) =
        rules.find? fun rule => rule.2.accepts line := by
    intro rules listed
    induction rules with
    | nil => rfl
    | cons rule rules inductionHypothesis =>
        rw [List.cons_subset] at listed
        rw [List.find?_cons, List.find?_cons, same rule listed.1, inductionHypothesis listed.2]
  rw [classify, firstRule?, found lineRules (List.Subset.refl _)]
  rfl

theorem classify_nil : classify [] = .unmatched := by
  decide

theorem classify_of_blank (inline : '\n' ∉ line) (blank : Text.trim line = []) :
    classify line = .unmatched := by
  rw [← classify_trim inline, blank, classify_nil]

end SdlProjection
