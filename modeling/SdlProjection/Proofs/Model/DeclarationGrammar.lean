import SdlProjection.Proofs.Model.FieldRules
import SdlProjection.Proofs.Model.TypeClause

/-!
Contract: which declarations are read, and to what.

Owns: `Field.Declares`, a text that is put together from the key of a field and a
clause for its type; that where a declaration is split it is put together, and
that what is taken from it for the clause is one; `Field.parse_eq_ok_iff`: a
declaration on one line is read exactly if its essence declares a field, and
then to that field.

Does not own: that what is put together is read (`Proofs.Model.Declaration`), and
the texts in which more than one closing parenthesis stands before a colon.
-/

namespace SdlProjection

open Pattern

namespace Field

/-- A text that gives a field by its key and a clause for its type. -/
def Declares (text key : List Char) (type : TypeModel) : Prop :=
  ∃ clause, Cut text key clause ∧ Clause clause type

/-! ### The essence of a declaration -/

theorem beforeDirectives_subset (depth : Nat) (separated : Bool) (text : List Char) :
    beforeDirectives depth separated text ⊆ text := by
  fun_induction beforeDirectives depth separated text with
  | case1 => exact List.nil_subset _
  | case2 => exact List.nil_subset _
  | case3 depth separated c rest _ inductionHypothesis =>
      exact List.cons_subset_cons c inductionHypothesis

theorem inline_essence {declaration : List Char} (inline : '\n' ∉ declaration) :
    '\n' ∉ essence declaration :=
  fun member => inline (beforeDirectives_subset 0 false declaration (Text.mem_of_mem_trim member))

/-! ### Where a declaration is split -/

/-- A text without blanks at its ends is split where it can be cut. -/
theorem cut_of_split? {text key clause : List Char} (flush : Text.Flush text)
    (split : split? text = some (key, clause)) : Cut text key clause := by
  obtain ⟨indent, gap, rest, whole, isKey, indented, spaced, trimmed, -⟩ := split?_eq_some split
  obtain ⟨after, tail, parts, followed, ended⟩ := Text.exists_trimmed rest
  rw [← trimmed] at parts
  have noIndent := Text.indent_eq_nil flush.first indented whole
  have noTail : tail = [] := by
    rcases List.eq_nil_or_concat tail with nothing | ⟨front, last, rfl⟩
    · exact nothing
    · have solid := flush.last (indent ++ (key ++ (gap ++ ':' :: (after ++ (clause ++ front)))))
        last (by simp [whole, parts])
      rw [ended last (by simp)] at solid
      cases solid
  rw [whole, parts, noIndent, noTail, List.append_nil, List.nil_append]
  exact .atColon clause isKey spaced followed

/-! ### What is taken for a clause -/

section Clauses

variable {text key clause : List Char}

/-- What the grammar takes for a scalar fits the rule of that scalar. -/
theorem accepts_of_scalarKind {kind : ScalarKind}
    (isKind : classifyField? text = some (.scalar kind)) :
    (bareField (word kind.keyword)).accepts text = true :=
  (classifyField?_eq_some_iff.mp isKind).1

/-- What the grammar takes for a reference fits its rule, and that of no scalar. -/
theorem accepts_of_referenceKind (isKind : classifyField? text = some .reference) :
    (bareField referenceName).accepts text = true ∧
      ∀ kind : ScalarKind, ¬(bareField (word kind.keyword)).accepts text = true := by
  obtain ⟨accepted, refused⟩ := classifyField?_eq_some_iff.mp isKind
  exact ⟨accepted, fun kind => refused (.scalar kind) (scalar_precedes kind (by simp))⟩

/-- Of what has the form of a clause, the names are those that do not begin with a digit. -/
theorem isName_of_clauseForm {name : List Char} {mark : Nullability}
    (form : Matches clauseForm (name ++ mark.mark)) (something : name ≠ [])
    (parts : ∀ c ∈ name, Text.isNamePart c = true) : Text.isName name = true := by
  obtain ⟨c, later, rfl⟩ := List.exists_cons_of_ne_nil something
  have part := parts c List.mem_cons_self
  rw [Text.isName_cons]
  refine ⟨?_, fun d member => parts d (List.mem_cons_of_mem c member)⟩
  obtain ⟨opening, rest, whole, opens, form⟩ := matches_parts_cons_iff.mp form
  have noOpening : opening = [] := by
    cases opening with
    | nil => rfl
    | cons d opening =>
        have bracket := matches_many_iff.mp opens d List.mem_cons_self
        rw [← (List.cons.inj whole).1, CharClass.holds, beq_iff_eq] at bracket
        rw [bracket] at part
        exact absurd part (by decide)
  subst noOpening
  obtain ⟨content, closing, rfl, contained, ended⟩ := matches_parts_cons_iff.mp form
  rw [matches_optional_iff, matches_seq_iff] at contained
  rcases contained with ⟨first, more, rfl, starts, -⟩ | rfl
  · obtain ⟨d, isStart, rfl⟩ := matches_one_iff.mp starts
    rw [(List.cons.inj whole).1]
    exact isStart
  · -- no name at all: the first character would close a bracket or mark it
    have member : c ∈ closing := by
      rw [List.nil_append, List.nil_append] at whole
      rw [← whole]
      exact List.mem_cons_self
    have inside : (Pattern.parts [.star (.alt (.one (.exactly ']')) (.one (.exactly '!')))]).within
        [.exactly ']', .exactly '!'] = true := by decide
    obtain ⟨members, listed, held⟩ := exists_class_of_within inside ended member
    simp only [List.mem_cons, List.not_mem_nil, or_false] at listed
    rcases listed with rfl | rfl
    all_goals
      rw [beq_iff_eq.mp held] at part
      exact absurd part (by decide)

/-- Whatever the grammar takes a declaration for, what it is read from is a clause. -/
theorem exists_clause (cut : Cut text key clause) (inline : '\n' ∉ text)
    (once : closingsBeforeColon text ≤ 1) (form : Matches clauseForm clause) {kind : FieldKind}
    (isKind : classifyField? text = some kind) {read : TypeModel}
    (isType : clauseType kind clause = .ok read) : ∃ type, Clause clause type := by
  have solid := clauseChar_of_matches form
  have scalarRule := cut.scalarRule_accepts_iff inline once solid
  cases kind with
  | scalar kind =>
      obtain ⟨mark, rfl⟩ := (scalarRule kind).mp (accepts_of_scalarKind isKind)
      exact ⟨_, .scalar kind mark⟩
  | reference =>
      obtain ⟨accepted, noScalar⟩ := accepts_of_referenceKind isKind
      rw [cut.bareField_accepts_iff inline once solid namesOnly_reference,
        matches_bareTail_iff_exists solid] at accepted
      obtain ⟨name, mark, rfl, named⟩ := accepted
      obtain ⟨something, parts⟩ := matches_referenceName_iff.mp named
      refine ⟨_, .reference mark (isName_of_clauseForm form something parts) ?_⟩
      rintro kind rfl
      exact noScalar kind ((scalarRule kind).mpr ⟨mark, rfl⟩)
  | list =>
      have inlineClause : '\n' ∉ clause :=
        fun member => absurd (solid '\n' member).not_blank (by decide)
      have written := ListSignature.written_of_parse (by rwa [trim_clause solid]) isType
      rw [trim_clause solid] at written
      exact ⟨read, .list written fun c member => (solid c member).not_blank⟩

end Clauses

/-! ### Declarations that are read -/

section Reading

variable {declaration : List Char}

theorem declares_of_parse {field : Field} (inline : '\n' ∉ declaration)
    (once : closingsBeforeColon (essence declaration) ≤ 1)
    (parsed : Field.parse declaration = .ok field) :
    ∃ key type, Declares (essence declaration) key type := by
  obtain ⟨key, clause, kind, read, split, isKind, isType, -⟩ := exists_kind_of_parse parsed
  have cut := cut_of_split? (Text.flush_trim _) split
  obtain ⟨type, isClause⟩ := exists_clause cut (inline_essence inline) once
    (clauseForm_of_split? split) isKind isType
  exact ⟨key, type, clause, cut, isClause⟩

/-- A declaration on one line, with at most one closing parenthesis before a colon, is read exactly
if its essence declares a field: to the key as it is written, and to the type the clause stands
for. -/
theorem parse_eq_ok_iff (inline : '\n' ∉ declaration)
    (once : closingsBeforeColon (essence declaration) ≤ 1) (field : Field) :
    Field.parse declaration = .ok field ↔ ∃ key type, Declares (essence declaration) key type ∧
      field = ⟨isDeprecated declaration, String.ofList key, type⟩ := by
  have complete : ∀ {key : List Char} {type : TypeModel},
      Declares (essence declaration) key type →
      Field.parse declaration = .ok ⟨isDeprecated declaration, String.ofList key, type⟩ := by
    rintro key type ⟨clause, cut, isClause⟩
    exact cut.parse_eq (inline_essence inline) once isClause
  constructor
  · intro parsed
    obtain ⟨key, type, declares⟩ := declares_of_parse inline once parsed
    rw [complete declares, Except.ok.injEq] at parsed
    exact ⟨key, type, declares, parsed.symm⟩
  · rintro ⟨key, type, declares, rfl⟩
    exact complete declares

end Reading

/-- An at sign within the argument list belongs to the key; the one behind the type does not. -/
theorem parse_photo :
    Field.parse "photo(by: \"x:@\") : [[Url!]!] @deprecated".toList =
      .ok ⟨true, "photo(by: \"x:@\")",
        .list .multi (.reference "Url" .nonNull) .nonNull .nullable⟩ := by
  have isKey : IsKey "photo(by: \"x:@\")".toList :=
    @IsKey.withArguments "photo".toList "by: \"x:@\"".toList (by decide)
  have written : ListSignature.Written "[[Url!]!]".toList
      (.list .multi (.reference "Url" .nonNull) .nonNull .nullable) :=
    .multi .nonNull .nullable (@ListSignature.Content.spaced [] "Url".toList [] _ .nonNull
      (by simp) (by decide) (.reference fun kind => by cases kind <;> decide) (by simp))
  have solid : ("[[Url!]!]".toList.all fun c => !Text.isBlank c) = true := by decide
  have declares : Declares "photo(by: \"x:@\") : [[Url!]!]".toList
      "photo(by: \"x:@\")".toList
      (.list .multi (.reference "Url" .nonNull) .nonNull .nullable) :=
    ⟨_, @Cut.atColon _ [' '] [' '] "[[Url!]!]".toList isKey (Text.blank_spaces 1)
        (Text.blank_spaces 1),
      .list written fun c member => by simpa using List.all_eq_true.mp solid c member⟩
  refine (parse_eq_ok_iff (by decide) (by decide +kernel) _).mpr ⟨_, _, declares, ?_⟩
  have deprecated : isDeprecated "photo(by: \"x:@\") : [[Url!]!] @deprecated".toList = true := by
    decide +kernel
  rw [deprecated, String.ofList_toList]

end Field

end SdlProjection
