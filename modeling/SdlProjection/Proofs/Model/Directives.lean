import SdlProjection.Proofs.Line.Categories
import SdlProjection.Proofs.Model.DeclarationGrammar

/-!
Contract: what cutting directives off does to a declaration.

Owns: that a declaration which is taken for a field without its directives is
taken for one with them too; and `Field.parse_of_unmatched`: a line that no rule
of the grammar places is refused as a declaration.

Does not own: which directives there are.
-/

namespace SdlProjection

open Pattern

namespace Field

variable {text more declaration line : List Char}

/-- What is cut off begins with an at sign. -/
theorem exists_directives (depth : Nat) (separated : Bool) (text : List Char) :
    ∃ directives, text = beforeDirectives depth separated text ++ directives ∧
      (directives = [] ∨ ∃ later, directives = '@' :: later) := by
  fun_induction beforeDirectives depth separated text with
  | case1 => exact ⟨[], rfl, .inl rfl⟩
  | case2 depth separated c rest isDirective =>
      refine ⟨c :: rest, rfl, .inr ⟨rest, ?_⟩⟩
      rw [isDirective.1]
  | case3 depth separated c rest _ inductionHypothesis =>
      obtain ⟨directives, whole, begins⟩ := inductionHypothesis
      exact ⟨directives, by rw [List.cons_append, ← whole], begins⟩

/-- Blanks, and perhaps directives behind them. -/
def Trails (more : List Char) : Prop :=
  ∃ gap directives, more = gap ++ directives ∧ (∀ c ∈ gap, Text.isBlank c = true) ∧
    (directives = [] ∨ ∃ later, directives = '@' :: later)

/-- Directives go on to the end of the line, so more of them may follow. -/
theorem matches_directiveTail_append (trails : Trails more) (inline : '\n' ∉ text ++ more)
    (matched : Matches directiveTail text) : Matches directiveTail (text ++ more) := by
  obtain ⟨before, _, rfl, spaced, matched⟩ := matches_parts_cons_iff.mp matched
  obtain ⟨given, _, rfl, directive, matched⟩ := matches_parts_cons_iff.mp matched
  obtain ⟨after, nothing, rfl, followed, none⟩ := matches_parts_cons_iff.mp matched
  rw [matches_parts_nil_iff] at none
  subst none
  have ended : ∀ {gap directives : List Char}, Matches blanks gap →
      Matches (optional (.seq (word "@") inlineText)) directives →
      Matches directiveTail (gap ++ directives) := by
    intro gap directives blank matched
    have whole : Matches directiveTail _ := blank.seq (matched.seq (matches_noBlanks.seq .empty))
    simpa using whole
  have inlineDirective : ∀ {later : List Char}, '\n' ∉ later →
      Matches (optional (.seq (word "@") inlineText)) ('@' :: later) :=
    fun absent => .altLeft ((matches_word "@").seq (matches_inlineText_iff.mpr absent))
  rw [matches_optional_iff, matches_seq_iff] at directive
  rcases directive with ⟨mark, rest, rfl, isAt, -⟩ | rfl
  · rw [matches_word_iff] at isAt
    subst isAt
    have absent : '\n' ∉ rest ++ (after ++ more) := by
      intro member
      apply inline
      simp only [List.mem_append] at member ⊢
      tauto
    have whole := ended spaced (inlineDirective absent)
    simpa using whole
  · obtain ⟨gap, directives, rfl, blank, begins⟩ := trails
    have blanksFirst : Matches blanks (before ++ (after ++ gap)) := by
      rw [blanks, matches_many_iff] at spaced followed ⊢
      simp only [List.mem_append]
      rintro c (inBefore | inAfter | inGap)
      · exact spaced c inBefore
      · exact followed c inAfter
      · exact blank c inGap
    have directive : Matches (optional (.seq (word "@") inlineText)) directives := by
      rcases begins with rfl | ⟨later, rfl⟩
      · exact matches_skipped _
      · apply inlineDirective
        intro member
        exact inline (by simp [member])
    have whole := ended blanksFirst directive
    simpa using whole

/-- What ends with directives may have more of them. -/
theorem matches_parts_append (trails : Trails more) {before : List Pattern}
    (inline : '\n' ∉ text ++ more) (matched : Matches (parts (before ++ [directiveTail])) text) :
    Matches (parts (before ++ [directiveTail])) (text ++ more) := by
  induction before generalizing text with
  | nil =>
      obtain ⟨front, nothing, rfl, tailMatch, none⟩ := matches_parts_cons_iff.mp matched
      rw [matches_parts_nil_iff] at none
      subst none
      rw [List.append_nil] at inline ⊢
      have longer := matches_directiveTail_append trails inline tailMatch
      rw [← List.append_nil (front ++ more)]
      exact longer.seq .empty
  | cons first before inductionHypothesis =>
      obtain ⟨front, back, rfl, firstMatch, later⟩ := matches_parts_cons_iff.mp matched
      rw [List.append_assoc] at inline ⊢
      have inlineBack : '\n' ∉ back ++ more := fun member => inline (List.mem_append_right _ member)
      exact firstMatch.seq (inductionHypothesis inlineBack later)

theorem matches_tail_append (trails : Trails more) {kind : FieldKind}
    (inline : '\n' ∉ text ++ more) (matched : Matches (tail kind) text) :
    Matches (tail kind) (text ++ more) := by
  cases kind with
  | scalar kind =>
      exact @matches_parts_append _ _ trails [word kind.keyword, optional (word "!")] inline matched
  | reference =>
      exact @matches_parts_append _ _ trails [referenceName, optional (word "!")] inline matched
  | list => exact @matches_parts_append _ _ trails [listClause] inline matched

/-- A field is one with its directives too. -/
theorem exists_classifyField?_of_essence (inline : '\n' ∉ declaration) {kind : FieldKind}
    (isKind : classifyField? (essence declaration) = some kind) :
    ∃ kind', classifyField? declaration = some kind' := by
  obtain ⟨directives, whole, begins⟩ := exists_directives 0 false declaration
  obtain ⟨indent, gap, parts, indented, spaced⟩ :=
    Text.exists_trimmed (beforeDirectives 0 false declaration)
  obtain ⟨front, back, cut, lead, tailMatch⟩ :=
    matches_seq_iff.mp (accepts_iff.mp (classifyField?_eq_some_iff.mp isKind).1)
  rw [← essence, cut] at parts
  rw [parts] at whole
  have trails : Trails (gap ++ directives) := ⟨gap, directives, rfl, spaced, begins⟩
  have inlineBack : '\n' ∉ back ++ (gap ++ directives) := by
    intro member
    apply inline
    rw [whole]
    simp only [List.mem_append] at member ⊢
    tauto
  have longer := matches_tail_append trails inlineBack tailMatch
  have indentedLead : Matches fieldLead (indent ++ front) := by
    obtain ⟨indent', key, between, after, rfl, indented', isKey, followed⟩ :=
      matches_fieldLead_iff.mp lead
    refine matches_fieldLead_iff.mpr
      ⟨indent ++ indent', key, between, after, by simp, ?_, isKey, followed⟩
    intro c member
    exact (List.mem_append.mp member).elim (indented c) (indented' c)
  have accepted : (Pattern.seq fieldLead (tail kind)).accepts declaration = true := by
    rw [accepts_iff, whole]
    have matched := indentedLead.seq longer
    simpa using matched
  cases found : classifyField? declaration with
  | some kind' => exact ⟨kind', rfl⟩
  | none =>
      rw [classifyField?_eq_find?, List.find?_eq_none] at found
      exact absurd accepted (found kind (mem_fieldKinds kind))

/-- A line that no rule places is no declaration, directives or not. -/
theorem parse_of_unmatched (inline : '\n' ∉ line) (unmatched : classify line = .unmatched) :
    Field.parse line = .error (.malformedDeclaration (String.ofList line)) := by
  cases found : classifyField? (essence line) with
  | none => simp only [Field.parse, found]
  | some kind =>
      obtain ⟨kind', isField⟩ := exists_classifyField?_of_essence inline found
      exact absurd unmatched (classify_ne_unmatched_of_field isField)

end Field

end SdlProjection
