import SdlProjection.Proofs.Model.DeclarationGrammar

/-!
Contract: list signatures that stand in the declaration of a field.

Owns: `Field.embedded`, a name and a signature with `: ` between them, and
`Field.parse_embedded`: what becomes of it, for every signature that is read to a
list. Blanks around the signature do no harm; blanks within it, which the
signature by itself may have, make the declaration malformed.

Does not own: which signatures are read (`Proofs.Model.ListSignature`).
-/

namespace SdlProjection

open Pattern

namespace ListSignature

variable {signature : List Char} {type : TypeModel}

/-- Nothing but brackets, marks, blanks and characters of names stands in a signature. -/
theorem Written.not_mem {c : Char} (written : Written signature type)
    (solid : Text.isBlank c = false) (foreign : ¬ClauseChar c) : c ∉ signature := by
  have notMark : ∀ mark : Nullability, c ∉ mark.mark :=
    fun mark member => foreign (clauseChar_of_mem_mark member)
  simp only [ClauseChar, not_or, Bool.not_eq_true] at foreign
  obtain ⟨notPart, notOpening, notClosing, notExclamation⟩ := foreign
  cases written with
  | single outer isContent =>
      simp [isContent.not_mem solid notPart notExclamation, notMark, notOpening, notClosing]
  | multi inner outer isContent =>
      simp [isContent.not_mem solid notPart notExclamation, notMark, notOpening, notClosing]

theorem Written.ne_nil (written : Written signature type) : signature ≠ [] := by
  cases written <;> simp

end ListSignature

namespace Field

/-- The declaration made of a name and a signature. -/
def embedded (name signature : List Char) : List Char :=
  name ++ ':' :: ' ' :: signature

/-! ### Declarations without directives -/

theorem beforeDirectives_of_not_mem {text : List Char} (absent : '@' ∉ text) (depth : Nat)
    (separated : Bool) : beforeDirectives depth separated text = text := by
  induction text generalizing depth separated with
  | nil => rfl
  | cons c text inductionHypothesis =>
      simp only [List.mem_cons, not_or] at absent
      rw [beforeDirectives, if_neg (fun directive => absent.1 directive.1.symm),
        inductionHypothesis absent.2]

theorem isDeprecated_of_not_mem {text : List Char} (absent : '@' ∉ text) :
    isDeprecated text = false := by
  rw [isDeprecated, ← Bool.not_eq_true, accepts_iff]
  intro matched
  exact absent (mem_of_requires (by decide) matched)

/-! ### Where the declaration is cut -/

section Embedded

variable {name signature : List Char} {type : TypeModel}

theorem not_mem_embedded (named : Text.isName name = true)
    (written : ListSignature.Written (Text.trim signature) type) {c : Char}
    (solid : Text.isBlank c = false) (foreign : ¬ClauseChar c) (notColon : c ≠ ':') :
    c ∉ embedded name signature := by
  obtain ⟨before, after, whole, indented, followed⟩ := Text.exists_trimmed signature
  have notBlank : ∀ {gap : List Char}, (∀ d ∈ gap, Text.isBlank d = true) → c ∉ gap := by
    intro gap blank member
    rw [blank c member] at solid
    cases solid
  have notPart : Text.isNamePart c = false :=
    Bool.eq_false_iff.mpr fun part => foreign (.inl part)
  have notSpace : c ≠ ' ' := by
    rintro rfl
    exact absurd solid (by decide)
  rw [embedded, whole]
  simp [Text.not_mem_name named notPart, written.not_mem solid foreign, notColon, notSpace,
    notBlank indented, notBlank followed]

/-- The essence of the declaration is cut before the signature, blanks around that aside. -/
theorem cut_embedded (named : Text.isName name = true)
    (written : ListSignature.Written (Text.trim signature) type) :
    Cut (essence (embedded name signature)) name (Text.trim signature) := by
  obtain ⟨before, after, whole, indented, followed⟩ := Text.exists_trimmed signature
  have spaced : ∀ c ∈ ' ' :: before, Text.isBlank c = true :=
    List.forall_mem_cons.mpr ⟨by decide, indented⟩
  have cut : Cut (name ++ ([] ++ ':' :: ((' ' :: before) ++ Text.trim signature))) name
      (Text.trim signature) := .atColon (Text.trim signature) (.name named) (by simp) spaced
  have something : name ≠ [] := by
    rintro rfl
    cases named
  have flush := (Text.flush_of_isName named).around (Text.flush_trim signature) something
    written.ne_nil (':' :: ' ' :: before)
  have noDirective : '@' ∉ embedded name signature :=
    not_mem_embedded named written (by decide) (by simp [ClauseChar, Text.isNamePart]) (by decide)
  have trimmed := @Text.Flush.trim_between _ [] after flush (by simp) followed
  have regrouped : embedded name signature =
      name ++ (':' :: ' ' :: before ++ Text.trim signature) ++ after := by
    rw [embedded]
    nth_rewrite 1 [whole]
    simp
  rw [essence, beforeDirectives_of_not_mem noDirective, regrouped]
  rw [List.nil_append] at trimmed
  rw [trimmed]
  exact cut

/-- With blanks in the signature the declaration cannot be split. -/
theorem split?_embedded_eq_none (named : Text.isName name = true)
    (written : ListSignature.Written (Text.trim signature) type)
    (blank : (Text.trim signature).any Text.isBlank = true) :
    split? (essence (embedded name signature)) = none := by
  rw [Option.eq_none_iff_forall_ne_some]
  rintro ⟨key, clause⟩ split
  have cut := cut_of_split? (Text.flush_trim _) split
  have solid := clauseChar_of_matches (clauseForm_of_split? split)
  have flush : Text.Flush clause :=
    Text.flush_of_no_blank fun c member => (solid c member).not_blank
  have notClause : ¬ClauseChar ')' := by simp [ClauseChar, Text.isNamePart]
  have same := (cut_embedded named written).clause_unique cut
    (written.not_mem (by decide) notClause) fun member => notClause (solid ')' member)
  rw [(Text.flush_trim signature).dropWhile_eq, flush.dropWhile_eq] at same
  obtain ⟨c, member, isBlank⟩ := List.any_eq_true.mp blank
  rw [(solid c (same ▸ member)).not_blank] at isBlank
  cases isBlank

theorem parse_embedded_of_solid (named : Text.isName name = true) (inline : '\n' ∉ signature)
    (written : ListSignature.Written (Text.trim signature) type)
    (solid : (Text.trim signature).any Text.isBlank = false) :
    Field.parse (embedded name signature) = .ok ⟨false, String.ofList name, type⟩ := by
  have inlineWhole : '\n' ∉ embedded name signature := by
    simp [embedded, Text.not_mem_name named (show Text.isNamePart '\n' = false by decide), inline]
  have foreign : ∀ {c : Char}, Text.isBlank c = false → ¬ClauseChar c → c ≠ ':' →
      c ∉ embedded name signature := not_mem_embedded named written
  have noDirective : '@' ∉ embedded name signature :=
    foreign (by decide) (by simp [ClauseChar, Text.isNamePart]) (by decide)
  have noParenthesis : ')' ∉ embedded name signature :=
    foreign (by decide) (by simp [ClauseChar, Text.isNamePart]) (by decide)
  have noClosing : ')' ∉ essence (embedded name signature) := fun member =>
    noParenthesis (beforeDirectives_subset 0 false _ (Text.mem_of_mem_trim member))
  have never : closingsBeforeColon (essence (embedded name signature)) ≤ 1 := by
    have counted := @closingsBeforeColon_append_of_not_mem _ [] noClosing
    rw [List.append_nil] at counted
    rw [counted]
    exact Nat.zero_le 1
  have isClause : Clause (Text.trim signature) type :=
    .list written fun c member => by simpa using List.any_eq_false.mp solid c member
  have read := (cut_embedded named written).parse_eq (inline_essence inlineWhole) never isClause
  rwa [isDeprecated_of_not_mem noDirective] at read

/-- A signature that is read to a list makes a field of this list, unless blanks stand within it:
then the declaration is malformed. -/
theorem parse_embedded (named : Text.isName name = true) (inline : '\n' ∉ signature)
    (isList : ListSignature.parse signature = .ok type) :
    Field.parse (embedded name signature) =
      if (Text.trim signature).any Text.isBlank then
        .error (.malformedDeclaration (String.ofList (embedded name signature)))
      else .ok ⟨false, String.ofList name, type⟩ := by
  have written : ListSignature.Written (Text.trim signature) type :=
    ListSignature.written_of_parse (fun feed => inline (Text.mem_of_mem_trim feed)) isList
  split
  · next blank =>
      simp only [Field.parse, split?_embedded_eq_none named written blank]
      split <;> trivial
  · next solid =>
      exact parse_embedded_of_solid named inline written (Bool.not_eq_true _ ▸ solid)

end Embedded

/-- Blanks around a signature do no harm, one within it does. -/
theorem parse_embedded_rows :
    Field.parse (embedded "rows".toList "\t[[int!]!] ".toList) =
        .ok ⟨false, "rows", .list .multi (.scalar .int .nonNull) .nonNull .nullable⟩ ∧
      Field.parse (embedded "rows".toList "[[int! ]]".toList) =
        .error (.malformedDeclaration "rows: [[int! ]]") := by
  have isList : ListSignature.parse "\t[[int!]!] ".toList =
      .ok (.list .multi (.scalar .int .nonNull) .nonNull .nullable) := rfl
  have isSpaced : ListSignature.parse "[[int! ]]".toList =
      .ok (.list .multi (.scalar .int .nonNull) .nullable .nullable) := rfl
  refine ⟨?_, ?_⟩
  · rw [parse_embedded (by decide) (by decide) isList, if_neg (by decide)]
    rfl
  · rw [parse_embedded (by decide) (by decide) isSpaced, if_pos (by decide)]
    rfl

/-- The signature by itself is read to a list, the field that it is embedded in is refused. -/
theorem embedded_blanks_refused :
    ListSignature.parse "[ Int ]".toList =
        .ok (.list .single (.scalar .int .nullable) .nullable .nullable) ∧
      Field.parse (embedded "n".toList "[ Int ]".toList) =
        .error (.malformedDeclaration "n: [ Int ]") :=
  ⟨rfl, rfl⟩

end Field

end SdlProjection
