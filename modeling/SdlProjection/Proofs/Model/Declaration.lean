import SdlProjection.Proofs.Model.Clause
import SdlProjection.Proofs.Model.FieldKey

/-!
Contract: the declaration of a field that is put together from a key and a clause.

Owns: what the grammar takes such a declaration for, where it is split, and that
`Field.parse` reads it to the key and to the type that the clause stands for;
`declaration`, the line that is written for a field, and that it is read back.

Does not own: that nothing else is read (`Proofs.Model.DeclarationGrammar`), and
the block a declaration stands in.
-/

namespace SdlProjection

open Pattern

/-- The declaration of a field, on one line. -/
def declaration (signature : List Char) (type : TypeModel) : List Char :=
  signature ++ ':' :: ' ' :: type.clause

theorem matches_spaces (count : Nat) : Matches blanks (List.replicate count ' ') :=
  matches_many_iff.mpr (Text.blank_spaces count)

/-! ### The kind of a declaration -/

/-- What follows the lead of a field with a bare type. -/
def bareTail (typeName : Pattern) : Pattern :=
  parts [typeName, optional (word "!"), directiveTail]

/-- What follows the lead of a field with a list type. -/
def listTail : Pattern :=
  parts [listClause, directiveTail]

/-- The names of types, of references as of scalars, are made of the characters of names. -/
def NamesOnly (typeName : Pattern) : Prop :=
  ∀ text, Matches typeName text → text ≠ [] ∧ ∀ c ∈ text, Text.isNamePart c = true

theorem namesOnly_keyword (kind : ScalarKind) : NamesOnly (word kind.keyword) := by
  intro text matched
  rw [matches_word_iff] at matched
  subst matched
  have named := isName_keyword kind
  refine ⟨?_, fun c member => Text.isNamePart_of_mem_name named member⟩
  intro nothing
  rw [nothing] at named
  cases named

def referenceName : Pattern := .seq (.one .namePart) (many .namePart)

theorem matches_referenceName_iff {text : List Char} :
    Matches referenceName text ↔ text ≠ [] ∧ ∀ c ∈ text, Text.isNamePart c = true := by
  rw [referenceName, matches_seq_iff]
  constructor
  · rintro ⟨front, back, rfl, first, later⟩
    obtain ⟨c, part, rfl⟩ := matches_one_iff.mp first
    exact ⟨by simp, List.forall_mem_cons.mpr ⟨part, matches_many_iff.mp later⟩⟩
  · rintro ⟨something, parts⟩
    cases text with
    | nil => exact absurd rfl something
    | cons c text =>
        rw [List.forall_mem_cons] at parts
        exact ⟨[c], text, rfl, .one parts.1, matches_many_iff.mpr parts.2⟩

theorem namesOnly_reference : NamesOnly referenceName := by
  intro text matched
  exact matches_referenceName_iff.mp matched

/-- Without blanks, directives cannot follow. -/
theorem directiveTail_eq_nil {text : List Char} (solid : ∀ c ∈ text, ClauseChar c)
    (matched : Matches directiveTail text) : text = [] := by
  have noBlank : ∀ {gap : List Char}, Matches blanks gap → (∀ c ∈ gap, ClauseChar c) →
      gap = [] := by
    intro gap blank solid
    rw [blanks, matches_many_iff] at blank
    cases gap with
    | nil => rfl
    | cons c gap =>
        have isBlank : Text.isBlank c = true := blank c List.mem_cons_self
        rw [(solid c List.mem_cons_self).not_blank] at isBlank
        cases isBlank
  obtain ⟨gap, _, rfl, spaced, matched⟩ := matches_parts_cons_iff.mp matched
  obtain ⟨directives, _, rfl, given, matched⟩ := matches_parts_cons_iff.mp matched
  obtain ⟨after, nothing, rfl, followed, none⟩ := matches_parts_cons_iff.mp matched
  rw [matches_parts_nil_iff] at none
  subst none
  simp only [List.append_nil, List.mem_append, or_imp, forall_and] at solid ⊢
  obtain ⟨solidGap, solidDirectives, solidAfter⟩ := solid
  rw [noBlank spaced solidGap, noBlank followed solidAfter]
  rw [matches_optional_iff, matches_seq_iff] at given
  rcases given with ⟨mark, rest, rfl, isAt, -⟩ | rfl
  · rw [matches_word_iff] at isAt
    subst isAt
    have ofClause := solidDirectives '@' (by simp)
    simp [ClauseChar, Text.isNamePart] at ofClause
  · rfl

theorem matches_noDirectives : Matches directiveTail [] := by
  exact matches_noBlanks.seq ((matches_skipped _).seq (matches_noBlanks.seq .empty))

theorem mark_nameEnds (nullability : Nullability) : Text.NameEnds nullability.mark := by
  cases nullability with
  | nullable => exact Text.nameEnds_nil
  | nonNull => exact Text.nameEnds_cons (by decide)

/-- A clause that fits a bare type is a name that does, with a mark or without. -/
theorem matches_bareTail_iff_exists {typeName : Pattern} {text : List Char}
    (solid : ∀ c ∈ text, ClauseChar c) :
    Matches (bareTail typeName) text ↔ ∃ name, ∃ nullability : Nullability,
      text = name ++ nullability.mark ∧ Matches typeName name := by
  constructor
  · intro matched
    obtain ⟨name, _, rfl, named, matched⟩ := matches_parts_cons_iff.mp matched
    obtain ⟨mark, _, rfl, marked, matched⟩ := matches_parts_cons_iff.mp matched
    obtain ⟨directives, nothing, rfl, given, none⟩ := matches_parts_cons_iff.mp matched
    rw [matches_parts_nil_iff] at none
    subst none
    have noDirectives : directives = [] := by
      apply directiveTail_eq_nil _ given
      intro c member
      exact solid c (by simp [member])
    obtain ⟨nullability, rfl⟩ := matches_mark_iff.mp marked
    subst noDirectives
    exact ⟨name, nullability, by simp, named⟩
  · rintro ⟨name, nullability, rfl, named⟩
    rw [← List.append_nil nullability.mark]
    exact named.seq ((matches_mark nullability).seq (matches_noDirectives.seq .empty))

theorem matches_bareKeyword_iff {text : List Char} (solid : ∀ c ∈ text, ClauseChar c)
    (kind : ScalarKind) : Matches (bareTail (word kind.keyword)) text ↔
      ∃ mark : Nullability, text = kind.keyword.toList ++ mark.mark := by
  rw [matches_bareTail_iff_exists solid]
  constructor
  · rintro ⟨name, mark, written, named⟩
    rw [matches_word_iff] at named
    exact ⟨mark, named ▸ written⟩
  · rintro ⟨mark, written⟩
    exact ⟨_, mark, written, matches_word kind.keyword⟩

theorem matches_bareTail_iff {typeName : Pattern} (namesOnly : NamesOnly typeName)
    {name : List Char} (named : Text.isName name = true) (nullability : Nullability) :
    Matches (bareTail typeName) (name ++ nullability.mark) ↔ Matches typeName name := by
  have solid : ∀ c ∈ name ++ nullability.mark, ClauseChar c :=
    fun c member => clauseChar_of_mem_marked named nullability member
  rw [matches_bareTail_iff_exists solid]
  constructor
  · rintro ⟨name', nullability', same, nameMatch⟩
    have parts' := (namesOnly name' nameMatch).2
    have parts : ∀ c ∈ name, Text.isNamePart c = true :=
      fun c member => Text.isNamePart_of_mem_name named member
    have first := (Text.takeWhile_isNamePart parts (mark_nameEnds nullability)).1
    have second := (Text.takeWhile_isNamePart parts' (mark_nameEnds nullability')).1
    rw [same, second] at first
    rwa [first] at nameMatch
  · intro nameMatch
    exact ⟨name, nullability, rfl, nameMatch⟩

/-- A list type is not a bare one. -/
theorem not_matches_bareTail {typeName : Pattern} (namesOnly : NamesOnly typeName)
    {text : List Char} (solid : ∀ c ∈ '[' :: text, ClauseChar c) :
    ¬Matches (bareTail typeName) ('[' :: text) := by
  intro matched
  obtain ⟨name, nullability, same, nameMatch⟩ := (matches_bareTail_iff_exists solid).mp matched
  obtain ⟨something, parts⟩ := namesOnly name nameMatch
  cases name with
  | nil => exact something rfl
  | cons c name =>
      have first : '[' = c := (List.cons.inj same).1
      have part := parts c List.mem_cons_self
      rw [← first] at part
      exact absurd part (by decide)

theorem matches_listTail {content : List Char} (inline : '\n' ∉ content)
    (nullability : Nullability) :
    Matches listTail ('[' :: (content ++ ']' :: nullability.mark)) := by
  have clause : Matches listClause ('[' :: (content ++ ']' :: nullability.mark)) := by
    rw [← List.append_nil nullability.mark]
    exact (matches_word "[").seq ((matches_skipped _).seq ((matches_inlineText_iff.mpr inline).seq
      ((matches_skipped _).seq ((matches_skipped _).seq ((matches_skipped _).seq
        ((matches_word "]").seq ((matches_mark nullability).seq .empty)))))))
  have whole : Matches listTail (_ ++ ([] ++ [])) := clause.seq (matches_noDirectives.seq .empty)
  rwa [List.append_nil, List.append_nil] at whole

theorem startsSolid_bareTail {typeName : Pattern} (namesOnly : NamesOnly typeName) :
    StartsSolid (bareTail typeName) := by
  intro text matched
  obtain ⟨name, rest, rfl, nameMatch, -⟩ := matches_parts_cons_iff.mp matched
  obtain ⟨something, parts⟩ := namesOnly name nameMatch
  cases name with
  | nil => exact absurd rfl something
  | cons c name =>
      exact ⟨c, _, rfl, Text.not_blank_of_isNamePart (parts c List.mem_cons_self)⟩

theorem startsSolid_listTail : StartsSolid listTail := by
  intro text matched
  obtain ⟨clause, rest, rfl, clauseMatch, -⟩ := matches_parts_cons_iff.mp matched
  obtain ⟨opening, content, rfl, opens, -⟩ := matches_parts_cons_iff.mp clauseMatch
  rw [matches_word_iff] at opens
  subst opens
  exact ⟨'[', _, rfl, by decide⟩

theorem firstRule?_cons {α : Type} (value : α) (pattern : Pattern) (rules : List (α × Pattern))
    (line : List Char) :
    firstRule? ((value, pattern) :: rules) line =
      if pattern.accepts line = true then some value else firstRule? rules line := by
  rw [firstRule?, List.find?_cons]
  cases pattern.accepts line <;> rfl

theorem fieldRules_eq :
    fieldRules =
      [(.scalar .int, bareField (word ScalarKind.int.keyword)),
        (.scalar .float, bareField (word ScalarKind.float.keyword)),
        (.scalar .string, bareField (word ScalarKind.string.keyword)),
        (.scalar .boolean, bareField (word ScalarKind.boolean.keyword)),
        (.scalar .id, bareField (word ScalarKind.id.keyword)),
        (.reference, bareField referenceName), (.list, .seq fieldLead listTail)] := rfl

/-! ### A declaration that is cut -/

namespace Field.Cut

variable {text key clause : List Char} {type : TypeModel}

theorem bareField_accepts_iff (cut : Cut text key clause) (inline : '\n' ∉ text)
    (once : closingsBeforeColon text ≤ 1) (solid : ∀ c ∈ clause, ClauseChar c) {typeName : Pattern}
    (namesOnly : NamesOnly typeName) :
    (bareField typeName).accepts text = true ↔ Matches (bareTail typeName) clause := by
  have flush : Text.Flush clause :=
    Text.flush_of_no_blank fun c member => (solid c member).not_blank
  rw [accepts_iff]
  exact cut.matches_iff inline once flush.dropWhile_eq (startsSolid_bareTail namesOnly)

/-- The rule of a scalar claims the clauses of that scalar alone. -/
theorem scalarRule_accepts_iff (cut : Cut text key clause) (inline : '\n' ∉ text)
    (once : closingsBeforeColon text ≤ 1) (solid : ∀ c ∈ clause, ClauseChar c)
    (kind : ScalarKind) :
    (bareField (word kind.keyword)).accepts text = true ↔
      ∃ mark : Nullability, clause = kind.keyword.toList ++ mark.mark := by
  rw [cut.bareField_accepts_iff inline once solid (namesOnly_keyword kind),
    matches_bareKeyword_iff solid]

/-- The grammar takes a declaration for what its clause stands for. -/
theorem classifyField?_eq (cut : Cut text key clause) (inline : '\n' ∉ text)
    (once : closingsBeforeColon text ≤ 1) (isClause : Clause clause type) :
    classifyField? text = some type.fieldKind := by
  have solid := fun c => @Clause.clauseChar _ _ isClause c
  have scalarRule := cut.scalarRule_accepts_iff inline once solid
  cases isClause with
  | scalar kind mark =>
      have claims : ∀ kind' : ScalarKind,
          (bareField (word kind'.keyword)).accepts text = true ↔ kind = kind' := by
        intro kind'
        rw [scalarRule]
        constructor
        · rintro ⟨mark', same⟩
          revert same
          cases kind <;> cases kind' <;> cases mark <;> cases mark' <;> decide
        · rintro rfl
          exact ⟨mark, rfl⟩
      simp only [classifyField?, fieldRules_eq, firstRule?_cons, claims]
      cases kind <;> rfl
  | @reference name mark named foreign =>
      have noScalar : ∀ kind : ScalarKind,
          ¬(bareField (word kind.keyword)).accepts text = true := by
        intro kind
        rw [cut.bareField_accepts_iff inline once solid (namesOnly_keyword kind),
          matches_bareTail_iff (namesOnly_keyword kind) named, matches_word_iff]
        exact foreign kind
      have referenceRule : (bareField referenceName).accepts text = true := by
        rw [cut.bareField_accepts_iff inline once solid namesOnly_reference]
        apply (matches_bareTail_iff namesOnly_reference named mark).mpr
        obtain ⟨c, later, rfl, -⟩ := Text.exists_cons_of_isName named
        rw [matches_referenceName_iff]
        exact ⟨List.cons_ne_nil c later, fun d member => Text.isNamePart_of_mem_name named member⟩
      simp only [classifyField?, fieldRules_eq, firstRule?_cons, noScalar, referenceRule, if_true]
      rfl
  | list written noBlank =>
      have inlineClause := (Clause.list written noBlank).inline
      have unindented := (Clause.list written noBlank).flush.dropWhile_eq
      obtain ⟨opening, name, closing, mark, outer, rfl, -, -, -, -, isList⟩ :=
        written.exists_name noBlank
      have noBare : ∀ {typeName : Pattern}, NamesOnly typeName →
          ¬(bareField typeName).accepts text = true := by
        intro typeName namesOnly
        rw [cut.bareField_accepts_iff inline once solid namesOnly]
        exact not_matches_bareTail namesOnly solid
      have noScalar := fun kind => noBare (namesOnly_keyword kind)
      have noReference := noBare namesOnly_reference
      have listRule : (Pattern.seq fieldLead listTail).accepts text = true := by
        rw [accepts_iff, cut.matches_iff inline once unindented startsSolid_listTail,
          ← List.append_assoc]
        apply matches_listTail
        intro member
        apply inlineClause
        rw [← List.append_assoc]
        exact List.mem_cons_of_mem _ (List.mem_append_left _ member)
      simp only [classifyField?, fieldRules_eq, firstRule?_cons, noScalar, noReference, listRule,
        if_true, if_false, Bool.false_eq_true, isList]

/-! ### The parts of a declaration -/

end Field.Cut

theorem splitArguments?_append {front after : List Char} (open' : ')' ∉ after) :
    Field.splitArguments? (front ++ ')' :: after) = some (front ++ [')'], after) := by
  have nothing : ∀ {text : List Char}, ')' ∉ text → Field.splitArguments? text = none := by
    intro text absent
    induction text with
    | nil => rfl
    | cons c text inductionHypothesis =>
        simp only [List.mem_cons, not_or] at absent
        have different : c ≠ ')' := Ne.symm absent.1
        simp [Field.splitArguments?, inductionHypothesis absent.2, different]
  induction front with
  | nil => simp [Field.splitArguments?, nothing open']
  | cons c front inductionHypothesis => simp [Field.splitArguments?, inductionHypothesis]

namespace Field.Clause

variable {clause gap after : List Char} {type : TypeModel}

theorem clause?_eq (isClause : Clause clause type) (spaced : ∀ c ∈ gap, Text.isBlank c = true)
    (followed : ∀ c ∈ after, Text.isBlank c = true) :
    clause? (gap ++ ':' :: (after ++ clause)) = some clause := by
  have trimmed : Text.trim (after ++ clause) = clause := by
    have between := @Text.Flush.trim_between _ _ [] isClause.flush followed (by simp)
    rwa [List.append_nil] at between
  have colon : (gap ++ ':' :: (after ++ clause)).dropWhile Text.isBlank =
      ':' :: (after ++ clause) := by
    rw [List.dropWhile_append_of_pos spaced, List.dropWhile_cons_of_neg (by decide)]
  simp only [clause?, colon, trimmed, isClause.clauseForm_accepts, if_true]

end Field.Clause

namespace Field.Cut

variable {text key clause : List Char} {type : TypeModel}

/-- A declaration is split where it was put together. -/
theorem split?_eq (cut : Cut text key clause) (inline : '\n' ∉ text)
    (isClause : Clause clause type) : split? text = some (key, clause) := by
  cases cut with
  | @atColon key gap after clause isKey spaced followed =>
      have found := isClause.clause?_eq spaced followed
      cases isKey with
      | name named =>
          have noList : arguments? (gap ++ ':' :: (after ++ clause)) =
              some ([], gap ++ ':' :: (after ++ clause)) := by
            unfold arguments?
            split
            · next same => exact absurd same (gap_ne_opening spaced)
            · rfl
          rw [split?, Text.dropWhile_isBlank_name named]
          simp only [Text.splitName?_append named (nameEnds_gap spaced), noList, found,
            Option.map_some, List.append_nil]
      | @withArguments name inner named =>
          have open' : ')' ∉ gap ++ ':' :: (after ++ clause) := by
            simp only [List.mem_append, List.mem_cons, not_or]
            refine ⟨fun member => ?_, by decide, fun member => ?_, fun member => ?_⟩
            · exact absurd (spaced ')' member) (by decide)
            · exact absurd (followed ')' member) (by decide)
            · exact absurd (isClause.clauseChar member) (by simp [ClauseChar, Text.isNamePart])
          have list := @splitArguments?_append ('(' :: inner) _ open'
          have inlineList : ('(' :: (inner ++ [')'])).contains '\n' = false := by
            simp only [List.mem_append, not_or] at inline
            simpa using inline.1.2
          have split := Text.splitName?_append named
            (@Text.nameEnds_cons (inner ++ ')' :: (gap ++ ':' :: (after ++ clause))) '(' (by decide))
          rw [split?, List.append_assoc, Text.dropWhile_isBlank_name named]
          simp only [List.cons_append, List.append_assoc, List.nil_append] at list ⊢
          simp only [split, arguments?, list, inlineList, Bool.false_eq_true, if_false, found,
            Option.map_some]

/-- A declaration whose essence is cut into a key and a clause is read to these. -/
theorem parse_eq {declaration : List Char} (cut : Cut (essence declaration) key clause)
    (inline : '\n' ∉ essence declaration) (once : closingsBeforeColon (essence declaration) ≤ 1)
    (isClause : Clause clause type) :
    Field.parse declaration = .ok ⟨isDeprecated declaration, String.ofList key, type⟩ := by
  obtain ⟨read, kindRead, marked⟩ := isClause.clauseType_eq
  have something : clause.isEmpty = false := List.isEmpty_eq_false_iff.mpr isClause.ne_nil
  simp only [Field.parse, cut.classifyField?_eq inline once isClause, cut.split?_eq inline isClause,
    something, Bool.false_eq_true, if_false, kindRead]
  rw [marked]

end Field.Cut

section Directives

variable {rest : List Char}

/-- A character that is none of the four that matter to the search for directives. -/
def Inert (c : Char) : Prop :=
  c ≠ '(' ∧ c ≠ ')' ∧ c ≠ ':' ∧ c ≠ '@'

theorem Inert.depthAfter {c : Char} (inert : Inert c) (depth : Nat) :
    Field.depthAfter depth c = depth := by
  simp [Field.depthAfter, inert.1, inert.2.1]

theorem inert_of_isNamePart {c : Char} (part : Text.isNamePart c = true) : Inert c := by
  refine ⟨?_, ?_, ?_, ?_⟩
  all_goals
    rintro rfl
    exact absurd part (by decide)

theorem ClauseChar.inert {c : Char} (ofClause : ClauseChar c) : Inert c := by
  rcases ofClause with part | rfl | rfl | rfl
  · exact inert_of_isNamePart part
  · exact ⟨by decide, by decide, by decide, by decide⟩
  · exact ⟨by decide, by decide, by decide, by decide⟩
  · exact ⟨by decide, by decide, by decide, by decide⟩

theorem beforeDirectives_inert {text : List Char} (inert : ∀ c ∈ text, Inert c) (depth : Nat)
    (separated : Bool) :
    Field.beforeDirectives depth separated (text ++ rest) =
      text ++ Field.beforeDirectives depth separated rest := by
  induction text with
  | nil => rfl
  | cons c text inductionHypothesis =>
      rw [List.forall_mem_cons] at inert
      have notColon : (c == ':') = false := by simp [inert.1.2.2.1]
      rw [List.cons_append, Field.beforeDirectives, inert.1.depthAfter, notColon, Bool.false_and,
        Bool.or_false, inductionHypothesis inert.2]
      simp [inert.1.2.2.2]

/-- Within the parentheses, one more of them stands open than the arguments know of. -/
theorem depthAfter_succ {depth : Nat} {c : Char}
    (opened : (c != ')' || decide (0 < depth)) = true) :
    Field.depthAfter (depth + 1) c = Field.depthAfter depth c + 1 := by
  simp only [Bool.or_eq_true, bne_iff_ne, decide_eq_true_eq] at opened
  simp only [Field.depthAfter]
  split
  · rfl
  · split
    · next isClosing =>
        rcases opened with notClosing | positive
        · exact absurd isClosing notClosing
        · omega
    · rfl

theorem beforeDirectives_nested {arguments : List Char} {depth : Nat}
    (closed : nested depth arguments = true) :
    Field.beforeDirectives (depth + 1) false (arguments ++ rest) =
      arguments ++ Field.beforeDirectives 1 false rest := by
  induction arguments generalizing depth with
  | nil =>
      have noDepth : depth = 0 := by simpa [nested] using closed
      rw [noDepth]
      rfl
  | cons c arguments inductionHypothesis =>
      rw [nested, Bool.and_eq_true] at closed
      rw [List.cons_append, Field.beforeDirectives, depthAfter_succ closed.1]
      simp [inductionHypothesis closed.2]

theorem beforeDirectives_signature {signature : List Char} (isSignature : IsSignature signature) :
    Field.beforeDirectives 0 false (signature ++ rest) =
      signature ++ Field.beforeDirectives 0 false rest := by
  have nameInert : ∀ {name : List Char}, Text.isName name = true → ∀ c ∈ name, Inert c :=
    fun named c member => inert_of_isNamePart (Text.isNamePart_of_mem_name named member)
  cases isSignature with
  | plain named => exact beforeDirectives_inert (nameInert named) 0 false
  | @withArguments name arguments named isArguments =>
      have opening : Field.beforeDirectives 0 false ('(' :: (arguments ++ (')' :: rest))) =
          '(' :: Field.beforeDirectives 1 false (arguments ++ ')' :: rest) := by
        simp [Field.beforeDirectives, Field.depthAfter]
      have closing : Field.beforeDirectives 1 false (')' :: rest) =
          ')' :: Field.beforeDirectives 0 false rest := by
        simp [Field.beforeDirectives, Field.depthAfter]
      simp only [List.append_assoc, List.cons_append, List.nil_append]
      rw [beforeDirectives_inert (nameInert named), opening,
        beforeDirectives_nested isArguments.closed, closing]

end Directives

/-! ### The declaration that is written for a field -/

section Written

variable {signature : List Char} {type : TypeModel}

theorem cut_declaration (isSignature : IsSignature signature) (type : TypeModel) :
    Field.Cut (declaration signature type) signature type.clause :=
  @Field.Cut.atColon signature [] [' '] type.clause isSignature.isKey (by simp)
    (Text.blank_spaces 1)

theorem closingsBeforeColon_declaration (isSignature : IsSignature signature)
    (fieldType : type.IsFieldType) : closingsBeforeColon (declaration signature type) ≤ 1 := by
  apply isSignature.closingsBeforeColon_le
  rw [List.mem_cons, not_or]
  refine ⟨by decide, fun member => ?_⟩
  exact absurd (fieldType.clauseChar member) (by simp [ClauseChar, Text.isNamePart])

theorem inline_declaration (isSignature : IsSignature signature) (fieldType : type.IsFieldType) :
    '\n' ∉ declaration signature type := by
  simp only [declaration, List.mem_append, List.mem_cons, not_or]
  exact ⟨isSignature.inline, by decide, by decide, fieldType.inline⟩

theorem flush_declaration (isSignature : IsSignature signature) (fieldType : type.IsFieldType) :
    Text.Flush (declaration signature type) where
  first := by
    intro c later same
    obtain ⟨d, more, rfl, starts⟩ := isSignature.exists_cons
    have first : d = c := (List.cons.inj same).1
    rw [← first]
    exact Text.not_blank_of_isNameStart starts
  last := by
    intro front c same
    obtain ⟨more, last, written, ofClause⟩ := exists_concat_of_clause fieldType
    have regrouped : declaration signature type =
        (signature ++ ':' :: ' ' :: more) ++ [last] := by
      simp [declaration, written]
    rw [regrouped] at same
    obtain ⟨-, rfl⟩ := List.append_singleton_inj.mp same
    exact ofClause.not_blank

/-- A declaration without directives is its own essence. -/
theorem essence_declaration (isSignature : IsSignature signature) (fieldType : type.IsFieldType) :
    Field.essence (declaration signature type) = declaration signature type := by
  have clauseInert : ∀ c ∈ type.clause, Inert c :=
    fun c member => (fieldType.clauseChar member).inert
  have uncut : Field.beforeDirectives 0 false (':' :: ' ' :: type.clause) =
      ':' :: ' ' :: type.clause := by
    have kept := @beforeDirectives_inert [] _ clauseInert 0 true
    simp only [List.append_nil, Field.beforeDirectives] at kept
    simp [Field.beforeDirectives, Field.depthAfter, kept]
  rw [Field.essence, declaration, beforeDirectives_signature isSignature, uncut]
  exact (flush_declaration isSignature fieldType).trim_eq

/-- The grammar takes a declaration for what its type is. -/
theorem classifyField?_declaration (isSignature : IsSignature signature)
    (fieldType : type.IsFieldType) :
    classifyField? (declaration signature type) = some type.fieldKind :=
  (cut_declaration isSignature type).classifyField?_eq (inline_declaration isSignature fieldType)
    (closingsBeforeColon_declaration isSignature fieldType) fieldType.isClause

/-- A declaration is read to its key and its type. -/
theorem parse_declaration (isSignature : IsSignature signature) (fieldType : type.IsFieldType) :
    Field.parse (declaration signature type) =
      .ok ⟨isDeprecated (declaration signature type), String.ofList signature, type⟩ := by
  have cut := cut_declaration isSignature type
  have inline := inline_declaration isSignature fieldType
  have once := closingsBeforeColon_declaration isSignature fieldType
  rw [← essence_declaration isSignature fieldType] at cut inline once
  exact cut.parse_eq inline once fieldType.isClause

end Written

end SdlProjection
