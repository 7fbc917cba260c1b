import SdlProjection.Proofs.Model.DeclarationGrammar
import SdlProjection.Proofs.Model.References

/-!
Contract: declarations that can be cut in more than one place.

Owns: `Field.Decoy`, a closing parenthesis within an argument list that a rule of
the grammar takes for its end, with what stands behind it for the type;
`Field.classifyField?_eq_some_iff_clause`: the kind of a declaration is the first
one, in the order of the rules, that its clause or a decoy fits; and
`Field.kind_of_clause_or_decoy`, what follows from it. Without decoys the kind is
that of the clause, every keyword is known and every reference is to a name.

Does not own: the texts that can be cut in one place only (`Proofs.Model.FieldKey`)
and what a clause stands for (`Proofs.Model.Clause`).
-/

namespace SdlProjection

open Pattern

namespace Field

/-- The text can also be cut behind a shorter key, and the rest fits the rule of the kind. -/
def Decoy (text key : List Char) (kind : FieldKind) : Prop :=
  ∃ early rest, Cut text early rest ∧ early.length < key.length ∧ Matches (tail kind) rest

/-- The clause without the marks at its end. -/
def unmarked (clause : List Char) : List Char :=
  Text.dropEndWhile (· == '!') clause

/-- The kind that a clause shows by itself: a bracket opens a list, a keyword is that of a scalar
in this very spelling, and any other clause is a reference. -/
structure KindOf (clause : List Char) (kind : FieldKind) : Prop where
  list : kind = .list ↔ clause.head? = some '['
  scalar : ∀ scalar : ScalarKind, kind = .scalar scalar ↔
    unmarked clause = scalar.keyword.toList
  reference : kind = .reference ↔ clause.head? ≠ some '[' ∧
    ∀ scalar : ScalarKind, unmarked clause ≠ scalar.keyword.toList

/-! ### The clause against the decoys -/

section Cutting

variable {text key clause : List Char}

/-- Without indentation, a rule claims the texts that can be cut before what fits its tail. -/
theorem rule_accepts_iff (flush : Text.Flush text) (inline : '\n' ∉ text) (kind : FieldKind) :
    (Pattern.seq fieldLead (tail kind)).accepts text = true ↔
      ∃ key rest, Cut text key rest ∧ Matches (tail kind) rest := by
  rw [accepts_iff]
  constructor
  · intro matched
    obtain ⟨front, back, whole, lead, tailMatch⟩ := matches_seq_iff.mp matched
    obtain ⟨indent, key, gap, after, rfl, indented, ⟨isKey, -⟩, spaced, followed⟩ :=
      matches_fieldLead_iff.mp lead
    rw [List.append_assoc] at whole
    obtain rfl := Text.indent_eq_nil flush.first indented whole
    have cut : Cut (key ++ (gap ++ ':' :: (after ++ back))) key back :=
      .atColon back isKey spaced followed
    rw [whole]
    exact ⟨key, back, by simpa using cut, tailMatch⟩
  · rintro ⟨key, rest, cut, tailMatch⟩
    exact cut.matches_of_tail inline tailMatch

/-- Behind the last closing parenthesis, a rule looks at the clause; it may look behind an earlier
one instead. -/
theorem Cut.rule_accepts_iff (cut : Cut text key clause) (flush : Text.Flush text)
    (inline : '\n' ∉ text) (solid : ∀ c ∈ clause, ClauseChar c) (kind : FieldKind) :
    (Pattern.seq fieldLead (tail kind)).accepts text = true ↔
      Matches (tail kind) clause ∨ Decoy text key kind := by
  rw [Field.rule_accepts_iff flush inline]
  constructor
  · rintro ⟨early, rest, earlyCut, tailMatch⟩
    have open' : ')' ∉ clause :=
      fun member => absurd (solid ')' member) (by simp [ClauseChar, Text.isNamePart])
    have unindented : clause.dropWhile Text.isBlank = clause :=
      (Text.flush_of_no_blank fun c member => (solid c member).not_blank).dropWhile_eq
    rcases cut.eq_or_shorter earlyCut open' with ⟨-, same⟩ | shorter
    · left
      obtain ⟨c, later, rfl, notBlank⟩ := startsSolid_tail kind rest tailMatch
      rw [List.dropWhile_cons_of_neg (by simp [notBlank]), unindented] at same
      rwa [← same]
    · exact .inr ⟨early, rest, earlyCut, shorter, tailMatch⟩
  · rintro (tailMatch | ⟨early, rest, earlyCut, -, tailMatch⟩)
    · exact ⟨key, clause, cut, tailMatch⟩
    · exact ⟨early, rest, earlyCut, tailMatch⟩

end Cutting

/-- The kind of a declaration is the first one that its clause or a decoy fits. -/
theorem classifyField?_eq_some_iff_clause {declaration key clause : List Char} {kind : FieldKind}
    (inline : '\n' ∉ declaration)
    (split : split? (essence declaration) = some (key, clause)) :
    classifyField? (essence declaration) = some kind ↔
      IsFirst (fun kind => Matches (tail kind) clause ∨ Decoy (essence declaration) key kind)
        kind := by
  have flush : Text.Flush (essence declaration) := Text.flush_trim _
  have cut := cut_of_split? flush split
  rw [classifyField?_eq_some_iff]
  exact IsFirst.congr
    (cut.rule_accepts_iff flush (inline_essence inline)
      (clauseChar_of_matches (clauseForm_of_split? split)))

/-! ### The kind that a clause shows -/

section Clauses

variable {clause : List Char}

theorem unmarked_of_scalarTail (solid : ∀ c ∈ clause, ClauseChar c) {kind : ScalarKind}
    (fits : Matches (tail (.scalar kind)) clause) : unmarked clause = kind.keyword.toList := by
  obtain ⟨mark, rfl⟩ := (matches_bareKeyword_iff solid kind).mp fits
  exact dropMark (isName_keyword kind) mark

/-- What fits the rule of references is a name with its mark. -/
theorem exists_name_of_referenceTail (form : Matches clauseForm clause)
    (fits : Matches (tail .reference) clause) :
    ∃ name, ∃ mark : Nullability, clause = name ++ mark.mark ∧ Text.isName name = true := by
  obtain ⟨name, mark, rfl, named⟩ :=
    (matches_bareTail_iff_exists (clauseChar_of_matches form)).mp fits
  obtain ⟨something, parts⟩ := matches_referenceName_iff.mp named
  exact ⟨name, mark, rfl, isName_of_clauseForm form something parts⟩

theorem head?_of_listTail (fits : Matches (tail .list) clause) : clause.head? = some '[' := by
  obtain ⟨clause, rest, rfl, listMatch, -⟩ := matches_parts_cons_iff.mp fits
  obtain ⟨opening, content, rfl, opens, -⟩ := matches_parts_cons_iff.mp listMatch
  rw [matches_word_iff] at opens
  rw [opens]
  rfl

theorem head?_of_unmarked (solid : ∀ c ∈ clause, ClauseChar c) {kind : ScalarKind}
    (isKeyword : unmarked clause = kind.keyword.toList) : clause.head? ≠ some '[' := by
  have isScalar : ScalarKind.parse (unmarked clause) = .ok kind := by
    rw [isKeyword, parse_keyword]
  exact head?_of_scalar solid isScalar

/-- The first kind that a clause fits is the one it shows. -/
theorem kindOf_of_isFirst (form : Matches clauseForm clause) {kind : FieldKind}
    (first : IsFirst (fun kind => Matches (tail kind) clause) kind) : KindOf clause kind := by
  have solid := clauseChar_of_matches form
  obtain ⟨fits, refused⟩ := first
  cases kind with
  | scalar kind =>
      have isKeyword := unmarked_of_scalarTail solid fits
      have notList := head?_of_unmarked solid isKeyword
      refine ⟨iff_of_false (by simp) notList, ?_, iff_of_false (by simp) ?_⟩
      · intro scalar
        rw [isKeyword]
        constructor
        · rintro ⟨rfl⟩
          rfl
        · intro same
          have spelled := congrArg ScalarKind.ofKeyword? same
          rw [ofKeyword?_keyword, ofKeyword?_keyword, Option.some.injEq] at spelled
          rw [spelled]
      · exact fun claimed => claimed.2 kind isKeyword
  | reference =>
      obtain ⟨name, mark, rfl, named⟩ := exists_name_of_referenceTail form fits
      have notList : (name ++ mark.mark).head? ≠ some '[' := by
        obtain ⟨c, later, rfl, starts⟩ := Text.exists_cons_of_isName named
        intro bracket
        obtain rfl : c = '[' := by simpa using bracket
        exact absurd starts (by decide)
      have noKeyword : ∀ scalar : ScalarKind,
          unmarked (name ++ mark.mark) ≠ scalar.keyword.toList := by
        intro scalar isKeyword
        apply refused (.scalar scalar) (scalar_precedes scalar (by simp))
        rw [unmarked, dropMark named] at isKeyword
        exact (matches_bareKeyword_iff solid scalar).mpr ⟨mark, by rw [isKeyword]⟩
      exact ⟨iff_of_false (by simp) notList, fun scalar => iff_of_false (by simp) (noKeyword scalar),
        iff_of_true rfl ⟨notList, noKeyword⟩⟩
  | list =>
      have opens := head?_of_listTail fits
      have noKeyword : ∀ scalar : ScalarKind, unmarked clause ≠ scalar.keyword.toList :=
        fun scalar isKeyword => head?_of_unmarked solid isKeyword opens
      exact ⟨iff_of_true rfl opens, fun scalar => iff_of_false (by simp) (noKeyword scalar),
        iff_of_false (by simp) fun claimed => claimed.1 opens⟩

end Clauses

/-! ### What a declaration is read to -/

section Reading

variable {declaration key clause : List Char}

theorem references_markNonNull (type : TypeModel) :
    type.markNonNull.references = type.references := by
  cases type <;> rfl

/-- The element of a list is a scalar or a reference to a name. -/
theorem isName_of_content {content : List Char} {element : TypeModel}
    (isContent : ListSignature.Content content element) :
    ∀ target ∈ element.references, Text.isName target.toList = true := by
  intro target member
  cases isContent with
  | @spaced _ name _ type mark _ named isNamed _ =>
      have unmarkedMember : target ∈ type.references := by
        cases mark with
        | nullable => exact member
        | nonNull => exact references_markNonNull type ▸ member
      cases isNamed with
      | scalar kind _ => cases unmarkedMember
      | reference _ =>
          obtain rfl := List.mem_singleton.mp unmarkedMember
          rwa [String.toList_ofList]

theorem isName_of_written {signature : List Char} {type : TypeModel}
    (written : ListSignature.Written signature type) :
    ∀ target ∈ type.references, Text.isName target.toList = true := by
  cases written with
  | single _ isContent => exact fun target member => isName_of_content isContent target member
  | multi _ _ isContent => exact fun target member => isName_of_content isContent target member

/-- What a clause is read to refers to names only, if the clause fits the rule of references where
it is taken for one. -/
theorem isName_of_clauseType (form : Matches clauseForm clause) {kind : FieldKind}
    {type : TypeModel} (isType : clauseType kind clause = .ok type)
    (fits : kind = .reference → Matches (tail .reference) clause) :
    ∀ target ∈ type.references, Text.isName target.toList = true := by
  have solid := clauseChar_of_matches form
  intro target member
  cases kind with
  | scalar kind =>
      simp only [clauseType] at isType
      split at isType
      · cases isType
        cases member
      · cases isType
  | reference =>
      obtain ⟨name, mark, rfl, named⟩ := exists_name_of_referenceTail form (fits rfl)
      cases isType
      obtain rfl := List.mem_singleton.mp member
      rwa [dropMark named, String.toList_ofList]
  | list =>
      have inlineClause : '\n' ∉ Text.trim clause := by
        rw [trim_clause solid]
        exact fun feed => absurd (solid '\n' feed).not_blank (by decide)
      exact isName_of_written (ListSignature.written_of_parse inlineClause isType) target member

theorem clauseType_eq_unknown_iff (solid : ∀ c ∈ clause, ClauseChar c) {kind : FieldKind}
    {keyword : String} : clauseType kind clause = .error (.unknownScalarKeyword keyword) ↔
      (∃ scalar, kind = .scalar scalar) ∧ ScalarKind.ofKeyword? (unmarked clause) = none ∧
        keyword = String.ofList (unmarked clause) := by
  have trimmed : Text.trim (unmarked clause) = unmarked clause := by
    obtain ⟨marks, parts, -⟩ := Text.exists_dropped (· == '!') clause
    apply trim_clause
    intro c member
    exact solid c (parts ▸ List.mem_append_left marks member)
  cases kind with
  | scalar kind =>
      unfold unmarked at trimmed ⊢
      simp only [clauseType, ScalarKind.parse, trimmed]
      cases ScalarKind.ofKeyword? (Text.dropEndWhile (· == '!') clause) <;> simp [eq_comm]
  | reference => simp [clauseType]
  | list =>
      simp only [clauseType, ListSignature.parse]
      split <;> simp

theorem parse_eq_unknown_iff {keyword : String} :
    Field.parse declaration = .error (.unknownScalarKeyword keyword) ↔
      ∃ key clause scalar, split? (essence declaration) = some (key, clause) ∧ clause ≠ [] ∧
        classifyField? (essence declaration) = some (.scalar scalar) ∧
        ScalarKind.ofKeyword? (unmarked clause) = none ∧
        keyword = String.ofList (unmarked clause) := by
  have solidClause : ∀ {key clause : List Char},
      split? (essence declaration) = some (key, clause) → ∀ c ∈ clause, ClauseChar c :=
    fun split => clauseChar_of_matches (clauseForm_of_split? split)
  constructor
  · intro failed
    simp only [Field.parse] at failed
    split at failed
    · next kind key clause isKind split =>
        split at failed
        · cases failed
        · next something =>
            split at failed
            · next cause isType =>
                cases failed
                obtain ⟨⟨scalar, rfl⟩, unknown, named⟩ :=
                  (clauseType_eq_unknown_iff (solidClause split)).mp isType
                exact ⟨key, clause, scalar, split, by simpa using something, isKind, unknown, named⟩
            · cases failed
    · cases failed
  · rintro ⟨key, clause, scalar, split, something, isKind, unknown, named⟩
    have isType : clauseType (.scalar scalar) clause = .error (.unknownScalarKeyword keyword) :=
      (clauseType_eq_unknown_iff (solidClause split)).mpr ⟨⟨scalar, rfl⟩, unknown, named⟩
    simp only [Field.parse, isKind, split, List.isEmpty_eq_false_iff.mpr something, isType,
      Bool.false_eq_true, if_false]

/-- A decoy of a scalar makes the declaration one of a scalar, perhaps of another one. -/
theorem exists_scalar_of_decoy {text : List Char} (inline : '\n' ∉ text) {kind : ScalarKind}
    (decoy : Decoy text key (.scalar kind)) :
    ∃ scalar, classifyField? text = some (.scalar scalar) := by
  have accepted : (Pattern.seq fieldLead (tail (.scalar kind))).accepts text = true := by
    obtain ⟨early, rest, cut, -, tailMatch⟩ := decoy
    exact accepts_iff.mpr (cut.matches_of_tail inline tailMatch)
  cases found : classifyField? text with
  | none =>
      rw [classifyField?_eq_find?, List.find?_eq_none] at found
      exact absurd accepted (found (.scalar kind) (mem_fieldKinds _))
  | some first =>
      by_contra notScalar
      have precedes : fieldKinds.idxOf (.scalar kind) < fieldKinds.idxOf first :=
        scalar_precedes kind fun scalar same => notScalar ⟨scalar, by rw [same]⟩
      exact (classifyField?_eq_some_iff.mp found).2 (.scalar kind) precedes accepted

/-- What is read for a scalar without being the keyword of one stands behind a decoy. -/
theorem parse_eq_unknown_iff_decoy (inline : '\n' ∉ declaration) {keyword : String} :
    Field.parse declaration = .error (.unknownScalarKeyword keyword) ↔
      ∃ key clause scalar, split? (essence declaration) = some (key, clause) ∧ clause ≠ [] ∧
        Decoy (essence declaration) key (.scalar scalar) ∧
        ScalarKind.ofKeyword? (unmarked clause) = none ∧
        keyword = String.ofList (unmarked clause) := by
  rw [parse_eq_unknown_iff]
  constructor
  · rintro ⟨key, clause, scalar, split, something, isKind, unknown, named⟩
    refine ⟨key, clause, scalar, split, something, ?_, unknown, named⟩
    rcases ((classifyField?_eq_some_iff_clause inline split).mp isKind).1 with fits | decoy
    · have solid := clauseChar_of_matches (clauseForm_of_split? split)
      rw [unmarked_of_scalarTail solid fits, ofKeyword?_keyword] at unknown
      cases unknown
    · exact decoy
  · rintro ⟨key, clause, scalar, split, something, decoy, unknown, named⟩
    obtain ⟨other, isKind⟩ := exists_scalar_of_decoy (inline_essence inline) decoy
    exact ⟨key, clause, other, split, something, isKind, unknown, named⟩

/-- Nowhere before the clause does the text look like a declaration. -/
def FreeOfDecoys (text : List Char) : Prop :=
  ∀ key clause kind, split? text = some (key, clause) → ¬Decoy text key kind

theorem freeOfDecoys_of_once {text : List Char} (flush : Text.Flush text)
    (once : closingsBeforeColon text ≤ 1) : FreeOfDecoys text := by
  rintro key clause kind split ⟨early, rest, earlyCut, shorter, -⟩
  have cut := cut_of_split? flush split
  rw [cut.key_eq earlyCut once] at shorter
  omega

section Free

variable (free : FreeOfDecoys (essence declaration)) (inline : '\n' ∉ declaration)
include free inline

theorem FreeOfDecoys.isFirst (split : split? (essence declaration) = some (key, clause))
    {kind : FieldKind} (isKind : classifyField? (essence declaration) = some kind) :
    IsFirst (fun kind => Matches (tail kind) clause) kind := by
  refine (IsFirst.congr fun kind => ?_).mp
    ((classifyField?_eq_some_iff_clause inline split).mp isKind)
  exact or_iff_left (free key clause kind split)

theorem FreeOfDecoys.isName_of_parse {field : Field} (parsed : Field.parse declaration = .ok field) :
    ∀ target ∈ field.type.references, Text.isName target.toList = true := by
  obtain ⟨key, clause, kind, type, split, isKind, isType, same⟩ := exists_kind_of_parse parsed
  have named : ∀ target ∈ type.references, Text.isName target.toList = true := by
    apply isName_of_clauseType (clauseForm_of_split? split) isType
    rintro rfl
    exact (free.isFirst inline split isKind).1
  rw [same]
  split
  · rwa [references_markNonNull]
  · exact named

end Free

end Reading

/-- The kind of a declaration is settled by its type clause and by the decoys in its argument list.
Exactly the decoys of scalars make a clause an unknown keyword. Without any, the kind is that of
the clause, and every reference is to a name. -/
theorem kind_of_clause_or_decoy {declaration : List Char} (inline : '\n' ∉ declaration) :
    (∀ key clause kind, split? (essence declaration) = some (key, clause) →
      (classifyField? (essence declaration) = some kind ↔
        IsFirst (fun kind => Matches (tail kind) clause ∨ Decoy (essence declaration) key kind)
          kind)) ∧
      (∀ keyword, Field.parse declaration = .error (.unknownScalarKeyword keyword) ↔
        ∃ key clause scalar, split? (essence declaration) = some (key, clause) ∧ clause ≠ [] ∧
          Decoy (essence declaration) key (.scalar scalar) ∧
          ScalarKind.ofKeyword? (unmarked clause) = none ∧
          keyword = String.ofList (unmarked clause)) ∧
      (FreeOfDecoys (essence declaration) →
        (∀ key clause kind, split? (essence declaration) = some (key, clause) →
          classifyField? (essence declaration) = some kind → KindOf clause kind) ∧
        (∀ keyword, Field.parse declaration ≠ .error (.unknownScalarKeyword keyword)) ∧
        ∀ field, Field.parse declaration = .ok field →
          ∀ target ∈ field.type.references, Text.isName target.toList = true) := by
  refine ⟨fun key clause kind split => classifyField?_eq_some_iff_clause inline split,
    fun keyword => parse_eq_unknown_iff_decoy inline, ?_⟩
  intro free
  refine ⟨?_, ?_, fun field parsed => free.isName_of_parse inline parsed⟩
  · intro key clause kind split isKind
    exact kindOf_of_isFirst (clauseForm_of_split? split) (free.isFirst inline split isKind)
  · intro keyword failed
    obtain ⟨key, clause, scalar, split, -, decoy, -⟩ := (parse_eq_unknown_iff_decoy inline).mp failed
    exact free key clause (.scalar scalar) split decoy

/-- A default value that is written like the end of a field and its directives. -/
def decoyedReference : List Char := "f(s: String = \"(x): Int @y\"): Foo".toList

/-- The parenthesis in the default value is taken for the end of the arguments, and what follows it
for the type; where the arguments do end in one place only, the clause is the type. -/
theorem parse_decoyedReference :
    Field.parse decoyedReference = .error (.unknownScalarKeyword "Foo") ∧
      KindOf "[[Url!]!]".toList .list := by
  have cut : Cut decoyedReference "f(s: String = \"(x)".toList "Int @y\"): Foo".toList :=
    @Cut.atColon _ [] [' '] "Int @y\"): Foo".toList
      (@IsKey.withArguments "f".toList "s: String = \"(x".toList (by decide)) (by simp)
      (Text.blank_spaces 1)
  have essential : essence decoyedReference = decoyedReference := by decide +kernel
  have fits : Matches (tail (.scalar .int)) "Int @y\"): Foo".toList :=
    accepts_iff.mp (by decide +kernel)
  refine ⟨?_, ?_⟩
  · apply ((kind_of_clause_or_decoy (by decide +kernel)).2.1 "Foo").mpr
    refine ⟨"f(s: String = \"(x): Int @y\")".toList, "Foo".toList, .int, by decide +kernel, by decide,
      ⟨_, _, essential ▸ cut, by decide, fits⟩, by decide, by decide⟩
  · have once : closingsBeforeColon (essence "photo(by: \"x:@\") : [[Url!]!] @deprecated".toList) ≤ 1 :=
      by decide +kernel
    have free := freeOfDecoys_of_once (Text.flush_trim _) once
    exact ((kind_of_clause_or_decoy (by decide +kernel)).2.2 free).1 "photo(by: \"x:@\")".toList _ .list
      (by decide +kernel) (by decide +kernel)

/-- Neither the kind nor the name of a reference need be those of the clause. -/
theorem decoys_taken_for_types :
    split? (essence decoyedReference) =
        some ("f(s: String = \"(x): Int @y\")".toList, "Foo".toList) ∧
      classifyField? (essence decoyedReference) = some (.scalar .int) ∧
      ¬KindOf "Foo".toList (.scalar .int) ∧
      Field.parse decoyedReference = .error (.unknownScalarKeyword "Foo") ∧
      (Field.parse "f(s: String = \"(x): Foo @y\"): [Bar]".toList).toOption.map
        (·.type.references) = some ["[Bar]"] := by
  refine ⟨by decide +kernel, by decide +kernel, ?_, ?_, by decide +kernel⟩
  · intro shown
    exact absurd ((shown.scalar .int).mp rfl) (by decide)
  · exact parse_eq_unknown_iff.mpr ⟨"f(s: String = \"(x): Int @y\")".toList, "Foo".toList, .int,
      by decide +kernel, by decide, by decide +kernel, by decide, by decide⟩

end Field

end SdlProjection
