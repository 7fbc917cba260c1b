import SdlProjection.Model.Field
import SdlProjection.Proofs.Line.Marking
import SdlProjection.Proofs.Model.ListSignature

/-!
Contract: the type clause of a field, and the type it stands for.

Owns: `Field.Clause`, the clauses with the types they stand for, and that a clause
is read to its type, given what the grammar takes it for; `TypeModel.clause`,
the clause that is written for a model, and the models that have one. The
outermost type of a clause counts as marked exactly when the clause ends with
the mark.

Does not own: the declaration around a clause (`Proofs.Model.Declaration`).
-/

namespace SdlProjection

open Pattern

/-- The type clauses, with the types that they stand for. Bare keywords are told from other names
by the case of their letters too; no blank stands in a clause. -/
inductive Field.Clause : List Char → TypeModel → Prop
  | scalar (kind : ScalarKind) (mark : Nullability) :
      Clause (kind.keyword.toList ++ mark.mark) (.scalar kind mark)
  | reference {name : List Char} (mark : Nullability) : Text.isName name = true →
      (∀ kind : ScalarKind, name ≠ kind.keyword.toList) →
      Clause (name ++ mark.mark) (.reference (String.ofList name) mark)
  | list {signature : List Char} {type : TypeModel} : ListSignature.Written signature type →
      (∀ c ∈ signature, Text.isBlank c = false) → Clause signature type

namespace TypeModel

/-- The type clause of a model. Enums and objects are written by their names only. -/
def clause : TypeModel → List Char
  | .scalar kind nullability => kind.keyword.toList ++ nullability.mark
  | .reference target nullability => target.toList ++ nullability.mark
  | .list .single element _ nullability => '[' :: (clause element ++ ']' :: nullability.mark)
  | .list .multi element inner nullability =>
    '[' :: '[' :: (clause element ++ ']' :: (inner.mark ++ ']' :: nullability.mark))
  | .enumeration _ _ | .object _ _ => []

/-- What the grammar takes the clause of a model for. -/
def fieldKind : TypeModel → FieldKind
  | .scalar kind _ => .scalar kind
  | .list _ _ _ _ => .list
  | .enumeration _ _ | .object _ _ | .reference _ _ => .reference

/-- The element of a list that is written with brackets. A name that is a keyword up to letter
case would be read as the scalar. -/
inductive IsElement : TypeModel → Prop
  | scalar (kind : ScalarKind) (nullability : Nullability) : IsElement (.scalar kind nullability)
  | reference {target : String} (nullability : Nullability) :
      Text.isName target.toList = true → ScalarKind.ofKeyword? target.toList = none →
      IsElement (.reference target nullability)

/-- The types that a field declaration can give. A one-dimensional list has no rows to mark. -/
inductive IsFieldType : TypeModel → Prop
  | scalar (kind : ScalarKind) (nullability : Nullability) : IsFieldType (.scalar kind nullability)
  | reference {target : String} (nullability : Nullability) :
      Text.isName target.toList = true → (∀ kind : ScalarKind, target ≠ kind.keyword) →
      IsFieldType (.reference target nullability)
  | single {element : TypeModel} (nullability : Nullability) : IsElement element →
      IsFieldType (.list .single element .nullable nullability)
  | multi {element : TypeModel} (inner nullability : Nullability) : IsElement element →
      IsFieldType (.list .multi element inner nullability)

end TypeModel

/-! ### Names and marks -/

theorem isName_keyword (kind : ScalarKind) : Text.isName kind.keyword.toList = true := by
  cases kind <;> decide

theorem ofKeyword?_keyword (kind : ScalarKind) :
    ScalarKind.ofKeyword? kind.keyword.toList = some kind := by
  cases kind <;> decide

theorem parse_keyword (kind : ScalarKind) : ScalarKind.parse kind.keyword.toList = .ok kind := by
  have trimmed := (Text.flush_of_isName (isName_keyword kind)).trim_eq
  rw [ScalarKind.parse, trimmed, ofKeyword?_keyword]

theorem dropMark {name : List Char} (named : Text.isName name = true) (nullability : Nullability) :
    Text.dropEndWhile (· == '!') (name ++ nullability.mark) = name := by
  obtain ⟨front, last, rfl, part⟩ := exists_concat_of_isName named
  have kept : (last == '!') = false := by
    rw [beq_eq_false_iff_ne]
    rintro rfl
    exact absurd part (by decide)
  rw [Text.dropEndWhile_append_of_all]
  · exact Text.dropEndWhile_concat kept
  · cases nullability <;> simp [Nullability.mark]

/-! ### The characters of a clause -/

/-- The characters that clauses are made of. -/
def ClauseChar (c : Char) : Prop :=
  Text.isNamePart c = true ∨ c = '[' ∨ c = ']' ∨ c = '!'

theorem ClauseChar.not_blank {c : Char} (ofClause : ClauseChar c) : Text.isBlank c = false := by
  rcases ofClause with part | rfl | rfl | rfl
  · exact Text.not_blank_of_isNamePart part
  · decide
  · decide
  · decide

theorem clauseChar_of_mem_mark {nullability : Nullability} {c : Char}
    (member : c ∈ nullability.mark) : ClauseChar c := by
  cases nullability with
  | nullable => cases member
  | nonNull => exact .inr (.inr (.inr (List.mem_singleton.mp member)))

theorem clauseChar_of_mem_marked {name : List Char} (named : Text.isName name = true)
    (nullability : Nullability) {c : Char} (member : c ∈ name ++ nullability.mark) :
    ClauseChar c := by
  rcases List.mem_append.mp member with inName | inMark
  · exact .inl (Text.isNamePart_of_mem_name named inName)
  · exact clauseChar_of_mem_mark inMark

namespace ListSignature

variable {content signature : List Char} {element type : TypeModel}

/-- Without blanks, what stands between the brackets is a name with its mark. -/
theorem Content.eq_marked (isContent : Content content element)
    (solid : ∀ c ∈ content, Text.isBlank c = false) : ∃ name, ∃ mark : Nullability,
      content = name ++ mark.mark ∧ Text.isName name = true := by
  have noBlanks : ∀ {gap : List Char}, gap ⊆ content → (∀ c ∈ gap, Text.isBlank c = true) →
      gap = [] := by
    intro gap within blank
    rw [List.eq_nil_iff_forall_not_mem]
    intro c member
    have notBlank := solid c (within member)
    rw [blank c member] at notBlank
    cases notBlank
  cases isContent with
  | @spaced before name after _ mark indented named _ followed =>
      have noIndent := noBlanks (List.subset_append_left before _) indented
      have noTail := noBlanks (fun c (member : c ∈ after) => by simp [member]) followed
      subst noIndent noTail
      exact ⟨name, mark, by simp, named⟩

/-- A signature without blanks holds a name with its mark between some brackets. -/
theorem Written.exists_name (written : Written signature type)
    (solid : ∀ c ∈ signature, Text.isBlank c = false) :
    ∃ opening name closing, ∃ mark outer : Nullability,
      signature = '[' :: (opening ++ (name ++ mark.mark) ++ (closing ++ ']' :: outer.mark)) ∧
        Text.isName name = true ∧ (∀ c ∈ opening, c = '[') ∧
        (∀ c ∈ closing, c = ']' ∨ c = '!') ∧ type.nullability = outer ∧ type.fieldKind = .list := by
  cases written with
  | @single content element outer isContent =>
      obtain ⟨name, mark, rfl, named⟩ := isContent.eq_marked fun c member => solid c (by simp [member])
      exact ⟨[], name, [], mark, outer, rfl, named, by simp, by simp, rfl, rfl⟩
  | @multi content element inner outer isContent =>
      obtain ⟨name, mark, rfl, named⟩ := isContent.eq_marked fun c member => solid c (by simp [member])
      refine ⟨['['], name, ']' :: inner.mark, mark, outer, by simp, named, by simp, ?_, rfl, rfl⟩
      intro c member
      rcases List.mem_cons.mp member with rfl | inMark
      · exact .inl rfl
      · cases inner with
        | nullable => cases inMark
        | nonNull => exact .inr (List.mem_singleton.mp inMark)

end ListSignature

namespace Field.Clause

variable {clause : List Char} {type : TypeModel}

theorem clauseChar (isClause : Clause clause type) {c : Char} (member : c ∈ clause) :
    ClauseChar c := by
  cases isClause with
  | scalar kind mark => exact clauseChar_of_mem_marked (isName_keyword kind) mark member
  | reference mark named _ => exact clauseChar_of_mem_marked named mark member
  | list written solid =>
      obtain ⟨opening, name, closing, mark, outer, rfl, named, opens, closes, -, -⟩ :=
        written.exists_name solid
      simp only [List.mem_cons, List.mem_append] at member
      rcases member with rfl | (inOpening | inContent) | inClosing | rfl | inMark
      · exact .inr (.inl rfl)
      · exact .inr (.inl (opens c inOpening))
      · exact clauseChar_of_mem_marked named mark (List.mem_append.mpr inContent)
      · exact .inr (.inr (closes c inClosing))
      · exact .inr (.inr (.inl rfl))
      · exact clauseChar_of_mem_mark inMark

theorem flush (isClause : Clause clause type) : Text.Flush clause :=
  Text.flush_of_no_blank fun _ member => (isClause.clauseChar member).not_blank

theorem inline (isClause : Clause clause type) : '\n' ∉ clause :=
  fun member => absurd (isClause.clauseChar member).not_blank (by decide)

theorem ne_nil (isClause : Clause clause type) : clause ≠ [] := by
  cases isClause with
  | scalar kind mark => cases kind <;> simp [ScalarKind.keyword]
  | reference mark named _ =>
      obtain ⟨c, later, rfl, -⟩ := Text.exists_cons_of_isName named
      simp
  | list written _ => cases written <;> simp

end Field.Clause

/-! ### The type a clause stands for -/

theorem lastSolid?_mark_iff {front : List Char} {last : Char} {nullability : Nullability}
    (solid : Text.isBlank last = false) (notMark : last ≠ '!') :
    lastSolid? (front ++ last :: nullability.mark) = some '!' ↔ nullability = .nonNull := by
  cases nullability with
  | nullable => simp [Nullability.mark, lastSolid?_append solid, notMark]
  | nonNull =>
      have regrouped : front ++ last :: ['!'] = (front ++ [last]) ++ '!' :: [] := by simp
      simp only [Nullability.mark, iff_true]
      rw [regrouped]
      exact lastSolid?_append (by decide) (by simp)

theorem lastSolid?_name_mark_iff {name : List Char} (named : Text.isName name = true)
    {nullability : Nullability} :
    lastSolid? (name ++ nullability.mark) = some '!' ↔ nullability = .nonNull := by
  obtain ⟨front, last, rfl, part⟩ := exists_concat_of_isName named
  rw [List.append_assoc, List.singleton_append]
  apply lastSolid?_mark_iff (Text.not_blank_of_isNamePart part)
  rintro rfl
  exact absurd part (by decide)

namespace Field.Clause

variable {clause : List Char} {type : TypeModel}

/-- The outermost mark of a clause is that of its type. -/
theorem outerNonNull_iff (isClause : Clause clause type) :
    (nullabilityShape clause).outerNonNull = true ↔ type.nullability = .nonNull := by
  rw [SdlProjection.outerNonNull_iff isClause.inline]
  cases isClause with
  | scalar kind mark => exact lastSolid?_name_mark_iff (isName_keyword kind)
  | reference mark named _ => exact lastSolid?_name_mark_iff named
  | list written solid =>
      obtain ⟨opening, name, closing, mark, outer, rfl, -, -, -, isOuter, -⟩ :=
        written.exists_name solid
      have regrouped : '[' :: (opening ++ (name ++ mark.mark) ++ (closing ++ ']' :: outer.mark)) =
          ('[' :: (opening ++ (name ++ mark.mark) ++ closing)) ++ ']' :: outer.mark := by simp
      rw [regrouped, isOuter]
      exact lastSolid?_mark_iff (by decide) (by decide)

/-- Read by its kind and marked as its end says, a clause gives its type. -/
theorem clauseType_eq (isClause : Clause clause type) :
    ∃ read, clauseType type.fieldKind clause = .ok read ∧
      (if (nullabilityShape clause).outerNonNull then read.markNonNull else read) = type := by
  have isMarked := isClause.outerNonNull_iff
  have trimmed := isClause.flush.trim_eq
  have inline := isClause.inline
  simp only [isMarked]
  cases isClause with
  | scalar kind mark =>
      refine ⟨.scalar kind .nullable, ?_, ?_⟩
      · simp only [TypeModel.fieldKind, clauseType, dropMark (isName_keyword kind), parse_keyword]
      · cases mark <;> rfl
  | @reference name mark named _ =>
      refine ⟨.reference (String.ofList name) .nullable, ?_, ?_⟩
      · simp only [TypeModel.fieldKind, clauseType, dropMark named]
      · cases mark <;> rfl
  | list written solid =>
      have read : ListSignature.parse clause = .ok type := by
        apply ListSignature.parse_of_written <;> rwa [trimmed]
      cases written with
      | single outer _ => exact ⟨_, read, by cases outer <;> rfl⟩
      | multi inner outer _ => exact ⟨_, read, by cases outer <;> rfl⟩

end Field.Clause

/-! ### The form of a clause -/

theorem matches_clauseForm {opening name closing : List Char}
    (opens : ∀ c ∈ opening, c = '[') (named : Text.isName name = true)
    (nullability : Nullability) (closes : ∀ c ∈ closing, c = ']' ∨ c = '!') :
    Matches Field.clauseForm (opening ++ (name ++ nullability.mark) ++ closing) := by
  have brackets : Matches (many (.exactly '[')) opening := by
    rw [matches_many_iff]
    intro c member
    rw [CharClass.holds, beq_iff_eq, opens c member]
  have content : Matches (optional (.seq (.one .nameStart)
      (.star (.alt (.one .namePart) (.one (.exactly '!')))))) (name ++ nullability.mark) := by
    obtain ⟨c, later, rfl, starts⟩ := Text.exists_cons_of_isName named
    have first : Matches (.one .nameStart) [c] := .one starts
    refine .altLeft (first.seq (matches_star_of_forall ?_))
    intro d member
    rcases List.mem_append.mp member with inName | inMark
    · exact .altLeft (.one (Text.isNamePart_of_mem_name named (List.mem_cons_of_mem _ inName)))
    · cases nullability with
      | nullable => cases inMark
      | nonNull =>
          rw [List.mem_singleton.mp inMark]
          exact .altRight (.one rfl)
  have ending : Matches (.star (.alt (.one (.exactly ']')) (.one (.exactly '!')))) closing := by
    apply matches_star_of_forall
    intro c member
    rcases closes c member with rfl | rfl
    · exact .altLeft (.one rfl)
    · exact .altRight (.one rfl)
  rw [List.append_assoc, ← List.append_nil closing]
  exact brackets.seq (content.seq (ending.seq .empty))

theorem Field.Clause.clauseForm_accepts {clause : List Char} {type : TypeModel}
    (isClause : Field.Clause clause type) : Field.clauseForm.accepts clause = true := by
  rw [accepts_iff]
  cases isClause with
  | scalar kind mark =>
      have whole := @matches_clauseForm [] _ [] (by simp) (isName_keyword kind) mark (by simp)
      rwa [List.nil_append, List.append_nil] at whole
  | reference mark named _ =>
      have whole := @matches_clauseForm [] _ [] (by simp) named mark (by simp)
      rwa [List.nil_append, List.append_nil] at whole
  | list written solid =>
      obtain ⟨opening, name, closing, mark, outer, rfl, named, opens, closes, -, -⟩ :=
        written.exists_name solid
      apply @matches_clauseForm ('[' :: opening) _ _ _ named mark
      · intro c member
        rcases List.mem_append.mp member with inClosing | inEnd
        · exact closes c inClosing
        · rcases List.mem_cons.mp inEnd with rfl | inMark
          · exact .inl rfl
          · cases outer with
            | nullable => cases inMark
            | nonNull => exact .inr (List.mem_singleton.mp inMark)
      · exact List.forall_mem_cons.mpr ⟨rfl, opens⟩

/-! ### The clause that is written for a model -/

namespace TypeModel

variable {type element : TypeModel}

/-- An element is written as a name with its mark, and is what the name stands for, marked. -/
theorem IsElement.content (isElement : element.IsElement) :
    ListSignature.Content element.clause element ∧
      ∀ c ∈ element.clause, Text.isBlank c = false := by
  have spaced : ∀ {name : List Char} {named : TypeModel} (mark : Nullability),
      Text.isName name = true → named.NamedBy name →
      ListSignature.Content (name ++ mark.mark) (named.marked mark) ∧
        ∀ c ∈ name ++ mark.mark, Text.isBlank c = false := by
    intro name named mark isName isNamed
    refine ⟨?_, fun c member => (clauseChar_of_mem_marked isName mark member).not_blank⟩
    have content := @ListSignature.Content.spaced [] name [] named mark (by simp) isName isNamed
      (by simp)
    rwa [List.nil_append, List.append_nil] at content
  cases isElement with
  | scalar kind nullability =>
      have named : (TypeModel.scalar kind .nullable).NamedBy kind.keyword.toList :=
        .scalar kind (by simp [equalIgnoringCase])
      have content := spaced nullability (isName_keyword kind) named
      cases nullability <;> exact content
  | @reference target nullability isName foreign =>
      have named := NamedBy.reference (ScalarKind.ofKeyword?_eq_none_iff.mp foreign)
      rw [String.ofList_toList] at named
      have content := spaced nullability isName named
      cases nullability <;> exact content

/-- The clause that is written for a model stands for it. -/
theorem IsFieldType.isClause (fieldType : type.IsFieldType) : Field.Clause type.clause type := by
  have solidMark : ∀ {nullability : Nullability} {c : Char}, c ∈ nullability.mark →
      Text.isBlank c = false := fun inMark => (clauseChar_of_mem_mark inMark).not_blank
  cases fieldType with
  | scalar kind nullability => exact .scalar kind nullability
  | @reference target nullability named foreign =>
      have clause := Field.Clause.reference nullability named fun kind same =>
        foreign kind (String.toList_inj.mp same)
      rwa [String.ofList_toList] at clause
  | single nullability isElement =>
      obtain ⟨content, solid⟩ := isElement.content
      refine .list (.single nullability content) ?_
      simp only [TypeModel.clause, List.forall_mem_cons, List.forall_mem_append]
      exact ⟨by decide, solid, by decide, fun c => solidMark⟩
  | multi inner nullability isElement =>
      obtain ⟨content, solid⟩ := isElement.content
      refine .list (.multi inner nullability content) ?_
      simp only [TypeModel.clause, List.forall_mem_cons, List.forall_mem_append]
      exact ⟨by decide, by decide, solid, by decide, fun c => solidMark, by decide,
        fun c => solidMark⟩

theorem IsFieldType.clauseChar (fieldType : type.IsFieldType) {c : Char}
    (member : c ∈ type.clause) : ClauseChar c :=
  fieldType.isClause.clauseChar member

theorem IsFieldType.inline (fieldType : type.IsFieldType) : '\n' ∉ type.clause :=
  fieldType.isClause.inline

end TypeModel

theorem exists_concat_of_clause {type : TypeModel} (fieldType : type.IsFieldType) :
    ∃ front last, type.clause = front ++ [last] ∧ ClauseChar last := by
  rcases List.eq_nil_or_concat type.clause with nothing | ⟨front, last, written⟩
  · exact absurd nothing fieldType.isClause.ne_nil
  · rw [List.concat_eq_append] at written
    exact ⟨front, last, written, fieldType.clauseChar (by simp [written])⟩

end SdlProjection
