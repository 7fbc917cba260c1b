import Mathlib.Data.List.DropRight
import SdlProjection.Proofs.Model.Clause
import SdlProjection.Proofs.Model.FieldKey

/-!
Contract: the type clause of any declaration that is read.

Owns: where a declaration is cut; `Field.typeClause`, what stands after its last
colon once directives and blanks are cut off; that this is the clause the reader
takes the type from; and what the clause says about that type: its form from the
first character, its nullability from the last one.

Does not own: the declarations that are written (`Proofs.Model.Declaration`).
-/

namespace SdlProjection

open Pattern

namespace Field

/-- What stands after the last colon, without directives and blanks around it. -/
def typeClause (declaration : List Char) : List Char :=
  Text.trim ((essence declaration).rtakeWhile (· != ':'))

/-! ### Where a declaration is cut -/

theorem splitArguments?_eq_some {text arguments after : List Char}
    (split : splitArguments? text = some (arguments, after)) : text = arguments ++ after := by
  fun_induction splitArguments? text generalizing arguments after with
  | case1 => cases split
  | case2 c rest later behind found inductionHypothesis =>
      cases split
      rw [inductionHypothesis found, List.cons_append]
  | case3 rest missing _ =>
      cases split
      rfl
  | case4 c rest missing notClosing _ => cases split

theorem arguments?_eq_some {text arguments after : List Char}
    (split : arguments? text = some (arguments, after)) : text = arguments ++ after := by
  unfold arguments? at split
  split at split
  · split at split
    · next found =>
        split at split
        · cases split
        · cases split
          exact splitArguments?_eq_some found
    · cases split
  · cases split
    rfl

theorem splitArguments?_closed {text arguments after : List Char}
    (split : splitArguments? text = some (arguments, after)) :
    ∃ front, arguments = front ++ [')'] := by
  fun_induction splitArguments? text generalizing arguments after with
  | case1 => cases split
  | case2 c rest later behind found inductionHypothesis =>
      cases split
      obtain ⟨front, rfl⟩ := inductionHypothesis found
      exact ⟨c :: front, rfl⟩
  | case3 rest missing _ =>
      cases split
      exact ⟨[], rfl⟩
  | case4 c rest missing notClosing _ => cases split

/-- An argument list stands in parentheses. -/
theorem arguments?_enclosed {text arguments after : List Char}
    (listed : arguments? text = some (arguments, after)) :
    arguments = [] ∨ ∃ inner, arguments = '(' :: (inner ++ [')']) := by
  have whole := arguments?_eq_some listed
  unfold arguments? at listed
  split at listed
  · next rest =>
      split at listed
      · next found =>
          split at listed
          · cases listed
          · cases listed
            obtain ⟨front, rfl⟩ := splitArguments?_closed found
            cases front with
            | nil => cases whole
            | cons c inner =>
                cases whole
                exact .inr ⟨inner, rfl⟩
      · cases listed
  · cases listed
    exact .inl rfl

theorem clause?_eq_some {text clause : List Char} (found : clause? text = some clause) :
    ∃ gap rest, text = gap ++ ':' :: rest ∧ (∀ c ∈ gap, Text.isBlank c = true) ∧
      clause = Text.trim rest ∧ Matches clauseForm clause := by
  simp only [clause?] at found
  split at found
  · next rest starts =>
      split at found
      · next accepted =>
          cases found
          refine ⟨text.takeWhile Text.isBlank, rest, ?_, fun c => List.mem_takeWhile_imp, rfl,
            accepts_iff.mp accepted⟩
          rw [← starts, List.takeWhile_append_dropWhile]
      · cases found
  · cases found

/-- A declaration is cut at some colon, between a key and what has the form of a clause. -/
theorem split?_eq_some {text key clause : List Char} (split : split? text = some (key, clause)) :
    ∃ indent gap rest, text = indent ++ (key ++ (gap ++ ':' :: rest)) ∧ IsKey key ∧
      (∀ c ∈ indent, Text.isBlank c = true) ∧ (∀ c ∈ gap, Text.isBlank c = true) ∧
      clause = Text.trim rest ∧ Matches clauseForm clause := by
  rw [split?] at split
  split at split
  · cases split
  · next name afterName named =>
      split at split
      · cases split
      · next arguments afterArguments listed =>
          obtain ⟨clause', found, same⟩ := Option.map_eq_some_iff.mp split
          cases same
          obtain ⟨gap, rest, cut, spaced, trimmed, form⟩ := clause?_eq_some found
          have isName := (Text.splitName?_eq_some named).2
          have whole : text =
              text.takeWhile Text.isBlank ++ (name ++ (arguments ++ (gap ++ ':' :: rest))) := by
            rw [← cut, ← arguments?_eq_some listed, ← (Text.splitName?_eq_some named).1,
              List.takeWhile_append_dropWhile]
          refine ⟨text.takeWhile Text.isBlank, gap, rest, ?_, ?_, fun c => List.mem_takeWhile_imp,
            spaced, trimmed, form⟩
          · rwa [List.append_assoc]
          · rcases arguments?_enclosed listed with rfl | ⟨inner, rfl⟩
            · rw [List.append_nil]
              exact .name isName
            · exact .withArguments inner isName

theorem clauseChar_of_matches {clause : List Char} (form : Matches clauseForm clause) :
    ∀ c ∈ clause, ClauseChar c := by
  intro c member
  have inside : clauseForm.within
      [.nameStart, .namePart, .exactly '[', .exactly ']', .exactly '!'] = true := by decide
  obtain ⟨members, listed, held⟩ := exists_class_of_within inside form member
  simp only [List.mem_cons, List.not_mem_nil, or_false] at listed
  rcases listed with rfl | rfl | rfl | rfl | rfl
  · exact .inl (Text.isNamePart_of_isNameStart held)
  · exact .inl held
  · exact .inr (.inl (beq_iff_eq.mp held))
  · exact .inr (.inr (.inl (beq_iff_eq.mp held)))
  · exact .inr (.inr (.inr (beq_iff_eq.mp held)))

/-- No colon stands in a clause, so the colon before it is the last one. -/
theorem rtakeWhile_colon {before rest : List Char}
    (solid : ∀ c ∈ Text.trim rest, ClauseChar c) :
    (before ++ ':' :: rest).rtakeWhile (· != ':') = rest := by
  obtain ⟨front, tail, split, blankFront, blankTail⟩ := Text.exists_trimmed rest
  have noColon : ∀ c ∈ rest.reverse, (c != ':') = true := by
    intro c member
    rw [List.mem_reverse, split, List.mem_append, List.mem_append] at member
    rw [bne_iff_ne]
    rintro rfl
    rcases member with inFront | inClause | inTail
    · exact absurd (blankFront ':' inFront) (by decide)
    · exact absurd (solid ':' inClause) (by simp [ClauseChar, Text.isNamePart])
    · exact absurd (blankTail ':' inTail) (by decide)
  have reversed : (before ++ ':' :: rest).reverse = rest.reverse ++ ':' :: before.reverse := by
    simp
  rw [List.rtakeWhile, reversed, List.takeWhile_append_of_pos noColon]
  simp

theorem clauseForm_of_split? {text key clause : List Char}
    (split : split? text = some (key, clause)) : Matches clauseForm clause := by
  obtain ⟨-, -, -, -, -, -, -, -, form⟩ := split?_eq_some split
  exact form

theorem typeClause_eq {declaration key clause : List Char}
    (split : split? (essence declaration) = some (key, clause)) :
    typeClause declaration = clause ∧ ∀ c ∈ clause, ClauseChar c := by
  obtain ⟨indent, gap, rest, cut, -, -, -, trimmed, form⟩ := split?_eq_some split
  have solid := clauseChar_of_matches form
  refine ⟨?_, solid⟩
  have atColon : essence declaration = (indent ++ (key ++ gap)) ++ ':' :: rest := by simp [cut]
  rw [trimmed] at solid
  rw [typeClause, atColon, rtakeWhile_colon solid, trimmed]

/-! ### The type a declaration is read to -/

/-- A declaration is read by its clause, given what the grammar takes it for. -/
theorem exists_kind_of_parse {declaration : List Char} {field : Field}
    (parsed : Field.parse declaration = .ok field) :
    ∃ key clause kind type, split? (essence declaration) = some (key, clause) ∧
      classifyField? (essence declaration) = some kind ∧ clauseType kind clause = .ok type ∧
      field.type = if (nullabilityShape clause).outerNonNull then type.markNonNull else type := by
  simp only [Field.parse] at parsed
  split at parsed
  · next kind key clause isKind split =>
      split at parsed
      · cases parsed
      · split at parsed
        · cases parsed
        · next type isType =>
            cases parsed
            exact ⟨key, clause, kind, type, split, isKind, isType, rfl⟩
  · cases parsed

/-- What the clause is, the essence of the declaration says by its last colon. -/
theorem exists_clauseType_of_parse {declaration : List Char} {field : Field}
    (parsed : Field.parse declaration = .ok field) :
    ∃ kind type, (∀ c ∈ typeClause declaration, ClauseChar c) ∧
      clauseType kind (typeClause declaration) = .ok type ∧
      field.type = if (nullabilityShape (typeClause declaration)).outerNonNull
        then type.markNonNull else type := by
  obtain ⟨key, clause, kind, type, split, -, isType, same⟩ := exists_kind_of_parse parsed
  obtain ⟨rfl, solid⟩ := typeClause_eq split
  exact ⟨kind, type, solid, isType, same⟩

/-- The nullability that the end of a clause gives. -/
def clauseMark (clause : List Char) : Nullability :=
  if clause.getLast? = some '!' then .nonNull else .nullable

/-- The types a clause can be read to. A bracket opens a list; the name of a reference is the
clause without the marks at its end. -/
inductive ReadAs (clause : List Char) : TypeModel → Prop
  | scalar (kind : ScalarKind) : clause.head? ≠ some '[' →
      ReadAs clause (.scalar kind (clauseMark clause))
  | list (dimensionality : Dimensionality) (element : TypeModel) (inner : Nullability) :
      clause.head? = some '[' →
      ReadAs clause (.list dimensionality element inner (clauseMark clause))
  | reference : ReadAs clause
      (.reference (String.ofList (Text.dropEndWhile (· == '!') clause)) (clauseMark clause))

section Reading

variable {clause : List Char}

theorem trim_clause (solid : ∀ c ∈ clause, ClauseChar c) : Text.trim clause = clause :=
  (Text.flush_of_no_blank fun c member => (solid c member).not_blank).trim_eq

theorem outerNonNull_iff_getLast? (solid : ∀ c ∈ clause, ClauseChar c) :
    (nullabilityShape clause).outerNonNull = true ↔ clause.getLast? = some '!' := by
  have inline : '\n' ∉ clause :=
    fun feed => absurd (solid '\n' feed).not_blank (by decide)
  have untrimmed : Text.dropEndWhile Text.isBlank clause = clause := by
    rcases List.eq_nil_or_concat clause with rfl | ⟨front, last, rfl⟩
    · rfl
    · rw [List.concat_eq_append] at solid ⊢
      exact Text.dropEndWhile_concat (solid last (by simp)).not_blank
  rw [outerNonNull_iff inline, lastSolid?, untrimmed]

/-- No keyword of a scalar opens a list. -/
theorem head?_of_scalar {kind : ScalarKind} (solid : ∀ c ∈ clause, ClauseChar c)
    (isScalar : ScalarKind.parse (Text.dropEndWhile (· == '!') clause) = .ok kind) :
    clause.head? ≠ some '[' := by
  intro opens
  obtain ⟨tail, split, -⟩ := Text.exists_dropped (· == '!') clause
  have unmarkedSolid : ∀ c ∈ Text.dropEndWhile (· == '!') clause, ClauseChar c := by
    intro c member
    exact solid c (split ▸ List.mem_append_left tail member)
  have opening : (Text.dropEndWhile (· == '!') clause).head? = some '[' := by
    obtain ⟨later, rfl⟩ := List.head?_eq_some_iff.mp opens
    rw [Text.dropEndWhile]
    cases Text.dropEndWhile (· == '!') later <;> rfl
  rw [ScalarKind.parse, trim_clause unmarkedSolid] at isScalar
  obtain ⟨later, same⟩ := List.head?_eq_some_iff.mp opening
  rw [same] at isScalar
  have noKeyword : ScalarKind.ofKeyword? ('[' :: later) = none := by
    rw [ScalarKind.ofKeyword?, List.find?_eq_none]
    intro kind _
    have lower : ∀ kind : ScalarKind, kind.keyword.toList.head?.map Char.toLower ≠
        some (Char.toLower '[') := by
      intro kind
      cases kind <;> decide
    rw [equalIgnoringCase, beq_iff_eq]
    intro equal
    have first := congrArg List.head? equal
    rw [List.head?_map, List.head?_map] at first
    exact lower kind first
  rw [noKeyword] at isScalar
  cases isScalar

theorem head?_of_list {type : TypeModel} (solid : ∀ c ∈ clause, ClauseChar c)
    (isList : ListSignature.parse clause = .ok type) :
    clause.head? = some '[' ∧ ∃ dimensionality element inner,
      type = .list dimensionality element inner (clauseMark clause) := by
  simp only [ListSignature.parse, trim_clause solid] at isList
  cases found : ListSignature.dimensionality? clause with
  | none => simp [found] at isList
  | some dimensionality =>
      simp only [found, Except.ok.injEq] at isList
      refine ⟨?_, dimensionality, _, _, isList.symm⟩
      have ofForm : ∀ {opening : String} {later : List Pattern},
          opening.toList.head? = some '[' → Matches (parts (word opening :: later)) clause →
          clause.head? = some '[' := by
        intro opening later bracket matched
        obtain ⟨front, back, rfl, opens, -⟩ := matches_parts_cons_iff.mp matched
        rw [matches_word_iff] at opens
        rw [opens, List.head?_append, bracket, Option.some_or]
      rw [ListSignature.dimensionality?] at found
      split at found
      · next multi => exact ofForm rfl (accepts_iff.mp multi)
      · split at found
        · next single => exact ofForm rfl (accepts_iff.mp single)
        · cases found

/-- Whatever the grammar takes a clause for, its ends decide on the type. -/
theorem readAs_of_clauseType {kind : FieldKind} {type : TypeModel}
    (solid : ∀ c ∈ clause, ClauseChar c) (isType : clauseType kind clause = .ok type) :
    ReadAs clause (if (nullabilityShape clause).outerNonNull then type.markNonNull else type) := by
  have marked : ∀ {unmarked result : TypeModel},
      result = (if clause.getLast? = some '!' then unmarked.markNonNull else unmarked) →
      ReadAs clause result →
      ReadAs clause (if (nullabilityShape clause).outerNonNull then unmarked.markNonNull
        else unmarked) := by
    intro unmarked result same read
    simp only [outerNonNull_iff_getLast? solid, ← same]
    exact read
  cases kind with
  | scalar claimed =>
      simp only [clauseType] at isType
      split at isType
      · next scalar isScalar =>
          cases isType
          refine marked ?_ (.scalar scalar (head?_of_scalar solid isScalar))
          rw [clauseMark]
          split <;> rfl
      · cases isType
  | list =>
      obtain ⟨opens, dimensionality, element, inner, rfl⟩ := head?_of_list solid isType
      refine marked ?_ (.list dimensionality element inner opens)
      rw [clauseMark]
      split <;> rfl
  | reference =>
      cases isType
      refine marked ?_ .reference
      rw [clauseMark]
      split <;> rfl

end Reading

theorem readAs_of_parse {declaration : List Char} {field : Field}
    (parsed : Field.parse declaration = .ok field) :
    ReadAs (typeClause declaration) field.type := by
  obtain ⟨kind, type, solid, isType, same⟩ := exists_clauseType_of_parse parsed
  rw [same]
  exact readAs_of_clauseType solid isType

end Field

end SdlProjection
