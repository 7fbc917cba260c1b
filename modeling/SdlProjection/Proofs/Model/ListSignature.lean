import SdlProjection.Model.ListSignature
import SdlProjection.Proofs.Pattern.Matching
import SdlProjection.Proofs.Text.Cutting

/-!
Contract: the list signatures that are read, and what they are read to.

Owns: `ListSignature.Written`, the two forms of a signature with the list that
each stands for, and that a text is read to a list exactly if it is written so,
blanks around it aside; any other text is refused and quoted.

Does not own: the clause of a field (`Proofs.Model.Clause`), in which no blank may
stand.
-/

namespace SdlProjection

open Pattern

def Nullability.mark : Nullability → List Char
  | .nullable => []
  | .nonNull => ['!']

/-- Narrows the outermost type if the mark says so. -/
def TypeModel.marked (nullability : Nullability) (type : TypeModel) : TypeModel :=
  match nullability with
  | .nullable => type
  | .nonNull => type.markNonNull

/-- What a name between brackets stands for: the scalar whose keyword it is up to the case of
letters, or else a reference. -/
inductive TypeModel.NamedBy (name : List Char) : TypeModel → Prop
  | scalar (kind : ScalarKind) : equalIgnoringCase kind.keyword.toList name = true →
      NamedBy name (.scalar kind .nullable)
  | reference : (∀ kind : ScalarKind, equalIgnoringCase kind.keyword.toList name = false) →
      NamedBy name (.reference (String.ofList name) .nullable)

namespace ListSignature

/-- What stands between the innermost brackets: a name with its mark, and blanks on both
sides. -/
inductive Content : List Char → TypeModel → Prop
  | spaced {before name after : List Char} {type : TypeModel} (mark : Nullability) :
      (∀ c ∈ before, Text.isBlank c = true) → Text.isName name = true → type.NamedBy name →
      (∀ c ∈ after, Text.isBlank c = true) →
      Content (before ++ (name ++ (mark.mark ++ after))) (type.marked mark)

/-- The signatures, with the lists that they stand for. Blanks stand between the innermost brackets
only; a one-dimensional list has no rows to mark. -/
inductive Written : List Char → TypeModel → Prop
  | single {content : List Char} {element : TypeModel} (outer : Nullability) :
      Content content element →
      Written ('[' :: (content ++ ']' :: outer.mark)) (.list .single element .nullable outer)
  | multi {content : List Char} {element : TypeModel} (inner outer : Nullability) :
      Content content element →
      Written ('[' :: '[' :: (content ++ ']' :: (inner.mark ++ ']' :: outer.mark)))
        (.list .multi element inner outer)

end ListSignature

/-! ### Names -/

theorem ScalarKind.mem_all (kind : ScalarKind) : kind ∈ ScalarKind.all := by
  cases kind <;> decide

/-- No two keywords differ in the case of letters alone. -/
theorem ScalarKind.eq_of_equalIgnoringCase {kind other : ScalarKind} {name : List Char}
    (named : equalIgnoringCase kind.keyword.toList name = true)
    (alsoNamed : equalIgnoringCase other.keyword.toList name = true) : kind = other := by
  rw [equalIgnoringCase, beq_iff_eq] at named alsoNamed
  have same : kind.keyword.toList.map Char.toLower = other.keyword.toList.map Char.toLower :=
    named.trans alsoNamed.symm
  revert same
  cases kind <;> cases other <;> decide

theorem ScalarKind.equalIgnoringCase_of_ofKeyword? {name : List Char} {kind : ScalarKind}
    (found : ScalarKind.ofKeyword? name = some kind) :
    equalIgnoringCase kind.keyword.toList name = true := by
  rw [ScalarKind.ofKeyword?] at found
  have held := List.find?_some found
  exact held

theorem ScalarKind.ofKeyword?_eq_some_iff {name : List Char} {kind : ScalarKind} :
    ScalarKind.ofKeyword? name = some kind ↔
      equalIgnoringCase kind.keyword.toList name = true := by
  refine ⟨ScalarKind.equalIgnoringCase_of_ofKeyword?, ?_⟩
  intro named
  cases found : ScalarKind.ofKeyword? name with
  | none => exact absurd named (List.find?_eq_none.mp found kind kind.mem_all)
  | some other =>
      have alsoNamed := ScalarKind.equalIgnoringCase_of_ofKeyword? found
      rw [ScalarKind.eq_of_equalIgnoringCase named alsoNamed]

theorem ScalarKind.ofKeyword?_eq_none_iff {name : List Char} :
    ScalarKind.ofKeyword? name = none ↔
      ∀ kind : ScalarKind, equalIgnoringCase kind.keyword.toList name = false := by
  rw [ScalarKind.ofKeyword?, List.find?_eq_none]
  constructor
  · intro foreign kind
    exact Bool.eq_false_iff.mpr (foreign kind kind.mem_all)
  · intro foreign kind _
    exact Bool.eq_false_iff.mp (foreign kind)

theorem TypeModel.namedBy_iff {name : List Char} {type : TypeModel} :
    type.NamedBy name ↔ type = TypeModel.ofName name := by
  constructor
  · intro named
    cases named with
    | scalar kind named =>
        rw [TypeModel.ofName, ScalarKind.ofKeyword?_eq_some_iff.mpr named]
    | reference foreign =>
        rw [TypeModel.ofName, ScalarKind.ofKeyword?_eq_none_iff.mpr foreign]
  · rintro rfl
    rw [TypeModel.ofName]
    cases found : ScalarKind.ofKeyword? name with
    | some kind => exact .scalar kind (ScalarKind.ofKeyword?_eq_some_iff.mp found)
    | none => exact .reference (ScalarKind.ofKeyword?_eq_none_iff.mp found)

theorem matches_mark_iff {text : List Char} :
    Matches (optional (word "!")) text ↔ ∃ nullability : Nullability, text = nullability.mark := by
  rw [matches_optional_iff, matches_word_iff]
  constructor
  · rintro (rfl | rfl)
    · exact ⟨.nonNull, rfl⟩
    · exact ⟨.nullable, rfl⟩
  · rintro ⟨nullability, rfl⟩
    cases nullability with
    | nullable => exact .inr rfl
    | nonNull => exact .inl rfl

theorem matches_mark (nullability : Nullability) :
    Matches (optional (word "!")) nullability.mark :=
  matches_mark_iff.mpr ⟨nullability, rfl⟩

theorem exists_concat_of_isName {name : List Char} (named : Text.isName name = true) :
    ∃ front last, name = front ++ [last] ∧ Text.isNamePart last = true := by
  rcases List.eq_nil_or_concat name with rfl | ⟨front, last, rfl⟩
  · cases named
  · rw [List.concat_eq_append] at named ⊢
    exact ⟨front, last, rfl, Text.isNamePart_of_mem_name named (by simp)⟩

namespace ListSignature

variable {text content signature : List Char} {type element : TypeModel}

/-! ### The text between the brackets -/

theorem matches_element_iff : Matches ListSignature.element content ↔
    ∃ element, Content content element := by
  constructor
  · intro matched
    obtain ⟨before, _, rfl, indented, matched⟩ := matches_parts_cons_iff.mp matched
    obtain ⟨name, _, rfl, named, matched⟩ := matches_parts_cons_iff.mp matched
    obtain ⟨mark, _, rfl, marks, matched⟩ := matches_parts_cons_iff.mp matched
    obtain ⟨after, nothing, rfl, followed, none⟩ := matches_parts_cons_iff.mp matched
    rw [matches_parts_nil_iff] at none
    obtain ⟨nullability, rfl⟩ := matches_mark_iff.mp marks
    subst none
    rw [List.append_nil]
    exact ⟨_, .spaced nullability (matches_many_iff.mp indented) (matches_name_iff.mp named)
      (TypeModel.namedBy_iff.mpr rfl) (matches_many_iff.mp followed)⟩
  · rintro ⟨_, isContent⟩
    cases isContent with
    | @spaced before name after _ mark indented named _ followed =>
        have first : Matches blanks before := matches_many_iff.mpr indented
        have last : Matches blanks after := matches_many_iff.mpr followed
        rw [← List.append_nil after]
        exact first.seq ((matches_name_iff.mpr named).seq ((matches_mark mark).seq
          (last.seq .empty)))

/-- Nothing but blanks, characters of names and the mark stands between the brackets. -/
theorem Content.not_mem {c : Char} (isContent : Content content element)
    (solid : Text.isBlank c = false) (foreign : Text.isNamePart c = false) (notMark : c ≠ '!') :
    c ∉ content := by
  cases isContent with
  | @spaced before name after _ mark indented named _ followed =>
      simp only [List.mem_append, not_or]
      refine ⟨?_, Text.not_mem_name named foreign, ?_, ?_⟩
      · intro member
        rw [indented c member] at solid
        cases solid
      · cases mark with
        | nullable => exact List.not_mem_nil
        | nonNull => exact fun member => notMark (List.mem_singleton.mp member)
      · intro member
        rw [followed c member] at solid
        cases solid

theorem Content.exists_cons (isContent : Content content element) :
    ∃ c later, content = c :: later ∧ c ≠ '[' := by
  have noBracket := isContent.not_mem (c := '[') (by decide) (by decide) (by decide)
  cases content with
  | nil =>
      generalize nothing : ([] : List Char) = text at isContent
      cases isContent with
      | spaced mark _ named _ _ =>
          obtain ⟨c, later, rfl, -⟩ := Text.exists_cons_of_isName named
          simp at nothing
  | cons c later =>
      simp only [List.mem_cons, not_or] at noBracket
      exact ⟨c, later, rfl, Ne.symm noBracket.1⟩

/-- The element of a signature is what its content stands for. -/
theorem Content.elementType_eq (isContent : Content content element) {opening rest : List Char}
    (brackets : ∀ c ∈ opening, c = '[') :
    elementType (opening ++ (content ++ ']' :: rest)) = element := by
  have opened : ∀ c ∈ opening, (c == '[') = true := by
    intro c member
    rw [beq_iff_eq, brackets c member]
  have inner : (opening ++ (content ++ ']' :: rest)).dropWhile (· == '[') =
      content ++ ']' :: rest := by
    obtain ⟨c, later, rfl, notBracket⟩ := isContent.exists_cons
    rw [List.dropWhile_append_of_pos opened]
    simp [notBracket]
  have unclosed := isContent.not_mem (c := ']') (by decide) (by decide) (by decide)
  rw [elementType, inner, Text.before_append unclosed]
  cases isContent with
  | @spaced before name after type mark indented named isNamed followed =>
      obtain rfl := TypeModel.namedBy_iff.mp isNamed
      have solid : ∀ c ∈ name ++ mark.mark, Text.isBlank c = false := by
        intro c member
        rcases List.mem_append.mp member with inName | inMark
        · exact Text.not_blank_of_isNamePart (Text.isNamePart_of_mem_name named inName)
        · cases mark with
          | nullable => cases inMark
          | nonNull =>
              rw [List.mem_singleton.mp inMark]
              decide
      have token : Text.trim (before ++ (name ++ (mark.mark ++ after))) = name ++ mark.mark := by
        have between := (Text.flush_of_no_blank solid).trim_between indented followed
        simpa only [List.append_assoc] using between
      rw [token]
      cases mark with
      | nullable =>
          obtain ⟨front, last, rfl, part⟩ := exists_concat_of_isName named
          have notMark : last ≠ '!' := by
            rintro rfl
            exact absurd part (by decide)
          simp [Nullability.mark, TypeModel.marked, notMark]
      | nonNull =>
          simp [Nullability.mark, TypeModel.marked, (Text.flush_of_isName named).trim_eq]

/-! ### The brackets -/

theorem matches_singleForm_iff : Matches singleForm text ↔ ∃ content, ∃ outer : Nullability,
    text = '[' :: (content ++ ']' :: outer.mark) ∧ Matches ListSignature.element content := by
  constructor
  · intro matched
    obtain ⟨opening, _, rfl, opens, matched⟩ := matches_parts_cons_iff.mp matched
    obtain ⟨content, _, rfl, isContent, matched⟩ := matches_parts_cons_iff.mp matched
    obtain ⟨closing, _, rfl, closes, matched⟩ := matches_parts_cons_iff.mp matched
    obtain ⟨mark, nothing, rfl, marks, none⟩ := matches_parts_cons_iff.mp matched
    obtain ⟨outer, rfl⟩ := matches_mark_iff.mp marks
    rw [matches_word_iff] at opens closes
    rw [matches_parts_nil_iff] at none
    subst opens closes none
    exact ⟨content, outer, by simp, isContent⟩
  · rintro ⟨content, outer, rfl, isContent⟩
    rw [← List.append_nil outer.mark]
    exact (matches_word "[").seq (isContent.seq
      ((matches_word "]").seq ((matches_mark outer).seq .empty)))

theorem matches_multiForm_iff : Matches multiForm text ↔ ∃ content, ∃ inner outer : Nullability,
    text = '[' :: '[' :: (content ++ ']' :: (inner.mark ++ ']' :: outer.mark)) ∧
      Matches ListSignature.element content := by
  constructor
  · intro matched
    obtain ⟨opening, _, rfl, opens, matched⟩ := matches_parts_cons_iff.mp matched
    obtain ⟨content, _, rfl, isContent, matched⟩ := matches_parts_cons_iff.mp matched
    obtain ⟨closing, _, rfl, closes, matched⟩ := matches_parts_cons_iff.mp matched
    obtain ⟨mark, nothing, rfl, marks, none⟩ := matches_parts_cons_iff.mp matched
    obtain ⟨outer, rfl⟩ := matches_mark_iff.mp marks
    rw [matches_word_iff] at opens
    rw [matches_parts_nil_iff] at none
    rw [matches_alt_iff, matches_word_iff, matches_word_iff] at closes
    subst opens none
    rcases closes with rfl | rfl
    · exact ⟨content, .nullable, outer, by simp [Nullability.mark], isContent⟩
    · exact ⟨content, .nonNull, outer, by simp [Nullability.mark], isContent⟩
  · rintro ⟨content, inner, outer, rfl, isContent⟩
    have closing : Matches (.alt (word "]]") (word "]!]")) (']' :: (inner.mark ++ [']'])) := by
      rw [matches_alt_iff, matches_word_iff, matches_word_iff]
      cases inner with
      | nullable => exact .inl rfl
      | nonNull => exact .inr rfl
    have whole : Matches multiForm _ := (matches_word "[[").seq (isContent.seq
      (closing.seq ((matches_mark outer).seq .empty)))
    simpa [List.append_assoc] using whole

/-- A text of one of the two forms is a signature of some list. -/
theorem exists_written {dimensionality : Dimensionality}
    (found : dimensionality? signature = some dimensionality) :
    ∃ type, Written signature type := by
  rw [dimensionality?] at found
  split at found
  · next multi =>
      obtain ⟨content, inner, outer, rfl, isContent⟩ :=
        matches_multiForm_iff.mp (accepts_iff.mp multi)
      obtain ⟨element, isContent⟩ := matches_element_iff.mp isContent
      exact ⟨_, .multi inner outer isContent⟩
  · split at found
    · next single =>
        obtain ⟨content, outer, rfl, isContent⟩ :=
          matches_singleForm_iff.mp (accepts_iff.mp single)
        obtain ⟨element, isContent⟩ := matches_element_iff.mp isContent
        exact ⟨_, .single outer isContent⟩
    · cases found

theorem dimensionality?_single (isContent : Content content element) (outer : Nullability) :
    dimensionality? ('[' :: (content ++ ']' :: outer.mark)) = some .single := by
  have notMulti : ¬Matches multiForm ('[' :: (content ++ ']' :: outer.mark)) := by
    intro matched
    obtain ⟨content', inner', outer', same, -⟩ := matches_multiForm_iff.mp matched
    obtain ⟨c, later, rfl, notBracket⟩ := isContent.exists_cons
    exact notBracket (List.cons.inj (List.cons.inj same).2).1
  have single : Matches singleForm ('[' :: (content ++ ']' :: outer.mark)) :=
    matches_singleForm_iff.mpr ⟨content, outer, rfl, matches_element_iff.mpr ⟨element, isContent⟩⟩
  rw [← accepts_iff] at notMulti single
  rw [dimensionality?, if_neg notMulti, if_pos single]

theorem dimensionality?_multi (isContent : Content content element) (inner outer : Nullability) :
    dimensionality? ('[' :: '[' :: (content ++ ']' :: (inner.mark ++ ']' :: outer.mark))) =
      some .multi := by
  have multi : Matches multiForm
      ('[' :: '[' :: (content ++ ']' :: (inner.mark ++ ']' :: outer.mark))) :=
    matches_multiForm_iff.mpr
      ⟨content, inner, outer, rfl, matches_element_iff.mpr ⟨element, isContent⟩⟩
  rw [← accepts_iff] at multi
  rw [dimensionality?, if_pos multi]

/-! ### The marks -/

/-- The mark of the rows is the one between the two last brackets. -/
theorem matches_markedRows_iff {front : List Char} (inline : '\n' ∉ front)
    (inner outer : Nullability) :
    Matches markedRows (front ++ ']' :: (inner.mark ++ ']' :: outer.mark)) ↔
      inner = .nonNull := by
  constructor
  · intro matched
    obtain ⟨before, _, whole, -, matched⟩ := matches_parts_cons_iff.mp matched
    obtain ⟨closing, _, rfl, closes, matched⟩ := matches_parts_cons_iff.mp matched
    obtain ⟨mark, nothing, rfl, marks, none⟩ := matches_parts_cons_iff.mp matched
    obtain ⟨outer', rfl⟩ := matches_mark_iff.mp marks
    rw [matches_parts_nil_iff] at none
    rw [matches_word_iff] at closes
    subst none closes
    have reversed := congrArg List.reverse whole
    cases inner with
    | nonNull => rfl
    | nullable => cases outer' <;> cases outer <;> simp [Nullability.mark] at reversed
  · rintro rfl
    have start : Matches inlineText front := matches_inlineText_iff.mpr inline
    rw [← List.append_nil outer.mark]
    exact start.seq ((matches_word "]!]").seq ((matches_mark outer).seq .empty))

theorem getLast?_mark_iff {front : List Char} {nullability : Nullability} :
    (front ++ ']' :: nullability.mark).getLast? = some '!' ↔ nullability = .nonNull := by
  cases nullability <;> simp [Nullability.mark]

/-! ### Reading -/

theorem parse_of_written (written : Written (Text.trim text) type)
    (inline : '\n' ∉ Text.trim text) : parse text = .ok type := by
  rw [parse]
  generalize Text.trim text = signature at written inline
  cases written with
  | @single content element outer isContent =>
      have content_eq := @Content.elementType_eq _ _ isContent ['['] outer.mark (by simp)
      have last := @getLast?_mark_iff ('[' :: content) outer
      simp only [List.cons_append, List.nil_append] at content_eq last
      simp only [dimensionality?_single isContent, content_eq, last]
      cases outer <;> rfl
  | @multi content element inner outer isContent =>
      have content_eq := @Content.elementType_eq _ _ isContent ['[', '[']
        (inner.mark ++ ']' :: outer.mark) (by simp)
      have inlineFront : '\n' ∉ '[' :: '[' :: content := by
        intro member
        apply inline
        simp only [List.mem_cons, List.mem_append] at member ⊢
        tauto
      have rows := matches_markedRows_iff inlineFront inner outer
      have last := @getLast?_mark_iff ('[' :: '[' :: (content ++ ']' :: inner.mark)) outer
      rw [← accepts_iff] at rows
      simp only [List.cons_append, List.nil_append, List.append_assoc] at content_eq rows last
      simp only [dimensionality?_multi isContent, content_eq, rows, last]
      cases outer <;> cases inner <;> rfl

theorem written_of_parse (inline : '\n' ∉ Text.trim text) (parsed : parse text = .ok type) :
    Written (Text.trim text) type := by
  cases found : dimensionality? (Text.trim text) with
  | none => simp [parse, found] at parsed
  | some dimensionality =>
      obtain ⟨type', written⟩ := exists_written found
      have read := parse_of_written written inline
      rw [parsed, Except.ok.injEq] at read
      rwa [read]

/-- A text on one line is read to a list exactly if, blanks around it aside, it is a signature of
that list. Otherwise the error quotes it without these blanks. -/
theorem parse_iff_written (inline : '\n' ∉ text) :
    (∀ type, parse text = .ok type ↔ Written (Text.trim text) type) ∧
      ∀ cause, parse text = .error cause ↔ (∀ type, ¬Written (Text.trim text) type) ∧
        cause = .malformedListSignature (String.ofList (Text.trim text)) := by
  have inlineTrimmed : '\n' ∉ Text.trim text := fun member => inline (Text.mem_of_mem_trim member)
  have read : ∀ type, parse text = .ok type ↔ Written (Text.trim text) type :=
    fun type => ⟨written_of_parse inlineTrimmed, fun written =>
      parse_of_written written inlineTrimmed⟩
  refine ⟨read, ?_⟩
  intro cause
  constructor
  · intro failed
    have refused : ∀ type, ¬Written (Text.trim text) type := by
      intro type written
      rw [(read type).mpr written] at failed
      cases failed
    rw [parse] at failed
    split at failed
    · cases failed
      exact ⟨refused, rfl⟩
    · cases failed
  · rintro ⟨refused, rfl⟩
    cases parsed : parse text with
    | ok type => exact absurd ((read type).mp parsed) (refused type)
    | error cause =>
        rw [parse] at parsed
        split at parsed
        · cases parsed
          rfl
        · cases parsed

/-- Rows of numbers, with blanks at both ends and next to the name; a blank within the name is
refused. -/
theorem parse_spaced_rows :
    parse "\t[[ int!\t]!]! ".toList =
        .ok (.list .multi (.scalar .int .nonNull) .nonNull .nonNull) ∧
      ∀ type, ¬Written "[in t]".toList type := by
  have content : Content " int!\t".toList (.scalar .int .nonNull) :=
    @Content.spaced [' '] "int".toList ['\t'] _ .nonNull (Text.blank_spaces 1) (by decide)
      (.scalar .int (by decide)) (List.forall_mem_singleton.mpr rfl)
  have refused : parse "[in t]".toList = .error (.malformedListSignature "[in t]") := by
    rfl
  exact ⟨((parse_iff_written (by decide)).1 _).mpr (.multi .nonNull .nonNull content),
    (((parse_iff_written (by decide)).2 _).mp refused).1⟩

end ListSignature

end SdlProjection
