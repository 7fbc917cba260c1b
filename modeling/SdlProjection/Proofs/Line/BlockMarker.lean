import SdlProjection.Proofs.Line.Categories

/-!
Contract: the lines at which a block description opens or closes.

Owns: `Line.ClosesDescription`, a line with the marker of block descriptions that is
neither a comment nor a description complete in itself, and that the grammar takes
exactly these lines for markers. Of the three rules that claim a line with the marker,
the rule of the bare marker comes last, so the two others take lines away from it.

Does not own: what is read between two markers (`Proofs.Fragment.BlockDescription`).
-/

namespace SdlProjection

open Pattern

/-! ### Texts without blanks at their ends -/

section Flush

variable {text : List Char} {later lead : List Pattern}

theorem Text.Flush.matches_indented_iff (flush : Text.Flush text) :
    Matches (parts (blanks :: later)) text ↔ Matches (parts later) text := by
  rw [matches_parts_cons_iff]
  constructor
  · rintro ⟨indent, rest, rfl, indented, matched⟩
    have blank : ∀ c ∈ indent, Text.isBlank c = true := matches_many_iff.mp indented
    cases indent with
    | nil => exact matched
    | cons c indent =>
        have solid : Text.isBlank c = false := flush.first c (indent ++ rest) rfl
        rw [blank c List.mem_cons_self] at solid
        cases solid
  · intro matched
    exact ⟨[], text, rfl, matches_noBlanks, matched⟩

/-- The last character is that of every rest, so the last part alone matches no blanks. -/
theorem matches_trailed_iff (solid : ∀ front c, text = front ++ [c] → Text.isBlank c = false) :
    Matches (parts (lead ++ [blanks])) text ↔ Matches (parts lead) text := by
  induction lead generalizing text with
  | nil =>
      rw [List.nil_append, matches_parts_cons_iff, matches_parts_nil_iff]
      constructor
      · rintro ⟨tail, nothing, rfl, trailing, none⟩
        rw [matches_parts_nil_iff] at none
        have blank : ∀ c ∈ tail, Text.isBlank c = true := matches_many_iff.mp trailing
        subst none
        rw [List.append_nil] at solid ⊢
        rcases List.eq_nil_or_concat tail with nothing | ⟨front, c, ends⟩
        · exact nothing
        · rw [List.concat_eq_append] at ends
          have member : c ∈ tail := ends ▸ List.mem_append_right front List.mem_cons_self
          have isSolid : Text.isBlank c = false := solid front c ends
          rw [blank c member] at isSolid
          cases isSolid
      · rintro rfl
        exact ⟨[], [], rfl, matches_noBlanks, .empty⟩
  | cons first lead inductionHypothesis =>
      rw [List.cons_append, matches_parts_cons_iff, matches_parts_cons_iff]
      have behind : ∀ {front rest : List Char}, text = front ++ rest →
          ∀ start c, rest = start ++ [c] → Text.isBlank c = false := by
        rintro front rest split start c rfl
        exact solid (front ++ start) c (by rw [split, List.append_assoc])
      constructor
      · rintro ⟨front, rest, split, starts, matched⟩
        exact ⟨front, rest, split, starts, (inductionHypothesis (behind split)).mp matched⟩
      · rintro ⟨front, rest, split, starts, matched⟩
        exact ⟨front, rest, split, starts, (inductionHypothesis (behind split)).mpr matched⟩

end Flush

/-! ### The three rules with the marker -/

def commentForm : Pattern := parts [blanks, word "#", inlineText, blanks]

def completeBlockForm : Pattern :=
  parts [blanks, word "\"\"\"", inlineText, word "\"\"\"", blanks]

def bareMarkerForm : Pattern := parts [inlineText, word "\"\"\"", inlineText, blanks]

section Forms

variable {text : List Char}

theorem matches_commentForm_iff (flush : Text.Flush text) :
    Matches commentForm text ↔ text.head? = some '#' ∧ '\n' ∉ text := by
  have trailed : Matches (parts ([word "#", inlineText] ++ [blanks])) text ↔ _ :=
    matches_trailed_iff flush.last
  rw [commentForm, flush.matches_indented_iff]
  refine trailed.trans ?_
  constructor
  · intro matched
    obtain ⟨sign, rest, rfl, signs, matched⟩ := matches_parts_cons_iff.mp matched
    obtain ⟨inner, nothing, rfl, inline, none⟩ := matches_parts_cons_iff.mp matched
    rw [matches_word_iff] at signs
    rw [matches_parts_nil_iff] at none
    rw [matches_inlineText_iff] at inline
    subst signs none
    simpa using inline
  · rintro ⟨first, inline⟩
    obtain ⟨rest, rfl⟩ : ∃ rest, text = '#' :: rest := by
      cases text with
      | nil => cases first
      | cons c rest =>
          cases first
          exact ⟨rest, rfl⟩
    have inner : Matches inlineText rest :=
      matches_inlineText_iff.mpr fun feed => inline (List.mem_cons_of_mem _ feed)
    rw [← List.append_nil rest]
    exact (matches_word "#").seq (inner.seq .empty)

theorem matches_completeBlockForm_iff (flush : Text.Flush text) :
    Matches completeBlockForm text ↔
      ∃ inner, text = blockMarker ++ (inner ++ blockMarker) ∧ '\n' ∉ inner := by
  have trailed :
      Matches (parts ([word "\"\"\"", inlineText, word "\"\"\""] ++ [blanks])) text ↔ _ :=
    matches_trailed_iff flush.last
  rw [completeBlockForm, flush.matches_indented_iff]
  refine trailed.trans ?_
  constructor
  · intro matched
    obtain ⟨opening, rest, rfl, opens, matched⟩ := matches_parts_cons_iff.mp matched
    obtain ⟨inner, rest, rfl, inline, matched⟩ := matches_parts_cons_iff.mp matched
    obtain ⟨closing, nothing, rfl, closes, none⟩ := matches_parts_cons_iff.mp matched
    rw [matches_word_iff] at opens closes
    rw [matches_parts_nil_iff] at none
    subst opens closes none
    refine ⟨inner, ?_, matches_inlineText_iff.mp inline⟩
    rw [List.append_nil]
    rfl
  · rintro ⟨inner, rfl, inline⟩
    have between : Matches inlineText inner := matches_inlineText_iff.mpr inline
    rw [← List.append_nil blockMarker]
    exact (matches_word "\"\"\"").seq (between.seq ((matches_word "\"\"\"").seq .empty))

theorem matches_bareMarkerForm_iff (flush : Text.Flush text) :
    Matches bareMarkerForm text ↔ blockMarker <:+: text ∧ '\n' ∉ text := by
  have trailed :
      Matches (parts ([inlineText, word "\"\"\"", inlineText] ++ [blanks])) text ↔ _ :=
    matches_trailed_iff flush.last
  refine trailed.trans ?_
  constructor
  · intro matched
    obtain ⟨front, rest, rfl, before, matched⟩ := matches_parts_cons_iff.mp matched
    obtain ⟨marker, rest, rfl, marks, matched⟩ := matches_parts_cons_iff.mp matched
    obtain ⟨back, nothing, rfl, behind, none⟩ := matches_parts_cons_iff.mp matched
    rw [matches_word_iff] at marks
    rw [matches_parts_nil_iff] at none
    rw [matches_inlineText_iff] at before behind
    subst marks none
    refine ⟨⟨front, back, by rw [List.append_nil, List.append_assoc]; rfl⟩, ?_⟩
    simp [before, behind]
  · rintro ⟨⟨front, back, rfl⟩, inline⟩
    simp only [List.mem_append, not_or] at inline
    have before : Matches inlineText front := matches_inlineText_iff.mpr inline.1.1
    have behind : Matches inlineText back := matches_inlineText_iff.mpr inline.2
    rw [List.append_assoc, ← List.append_nil back]
    exact before.seq ((matches_word "\"\"\"").seq (behind.seq .empty))

end Forms

/-! ### The category -/

/-- A line with the marker of block descriptions, all on one line. It is not a comment, and does
not begin and end with two markers as a description that is complete in itself. -/
structure Line.ClosesDescription (line : List Char) : Prop where
  inline : '\n' ∉ Text.trim line
  marked : blockMarker <:+: Text.trim line
  notComment : (Text.trim line).head? ≠ some '#'
  notComplete : ∀ inner, Text.trim line ≠ blockMarker ++ (inner ++ blockMarker)

/-- Only a line that is refused by the two rules in front of it falls to the bare marker. -/
theorem classify_eq_blockMarker_iff (text : List Char) :
    classify text = .blockDescriptionMarker ↔
      ¬Matches commentForm text ∧ ¬Matches completeBlockForm text ∧ Matches bareMarkerForm text := by
  constructor
  · intro isMarker
    have matched : Matches bareMarkerForm text := matches_of_classify isMarker rfl
    have notComment : ¬Matches commentForm text := by
      intro commented
      have isComment : classify text = .comment :=
        @classify_eq text [] _ _ _ rfl (fun _ listed => absurd listed List.not_mem_nil) commented
      rw [isMarker] at isComment
      cases isComment
    refine ⟨notComment, ?_, matched⟩
    intro complete
    have isComplete : classify text = .oneLineBlockDescription := by
      apply @classify_eq text [(.comment, commentForm)] _ _ _ rfl _ complete
      rw [List.forall_mem_singleton, ← Bool.not_eq_true, accepts_iff]
      exact notComment
    rw [isMarker] at isComplete
    cases isComplete
  · rintro ⟨notComment, notComplete, marked⟩
    apply @classify_eq text
      [(.comment, commentForm), (.oneLineBlockDescription, completeBlockForm)] _ _ _ rfl _ marked
    rw [← accepts_iff, Bool.not_eq_true] at notComment notComplete
    rw [List.forall_mem_cons, List.forall_mem_singleton]
    exact ⟨notComment, notComplete⟩

/-- The lines that open or close a block description, as far as the grammar sees. -/
theorem Line.closesDescription_iff (line : List Char) :
    Line.ClosesDescription line ↔ classify (Text.trim line) = .blockDescriptionMarker := by
  have flush := Text.flush_trim line
  rw [classify_eq_blockMarker_iff, matches_commentForm_iff flush,
    matches_completeBlockForm_iff flush, matches_bareMarkerForm_iff flush]
  constructor
  · rintro ⟨inline, marked, notComment, notComplete⟩
    refine ⟨fun commented => notComment commented.1, ?_, marked, inline⟩
    rintro ⟨inner, complete, -⟩
    exact notComplete inner complete
  · rintro ⟨notComment, notComplete, marked, inline⟩
    refine ⟨inline, marked, fun commented => notComment ⟨commented, inline⟩, ?_⟩
    intro inner complete
    refine notComplete ⟨inner, complete, ?_⟩
    intro feed
    apply inline
    rw [complete]
    exact List.mem_append_right _ (List.mem_append_left _ feed)

end SdlProjection
