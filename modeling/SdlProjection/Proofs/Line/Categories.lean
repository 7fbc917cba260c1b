import SdlProjection.Proofs.Model.Declaration

/-!
Contract: the category of a line that is known in outline.

Owns: how the first matching rule is found, which rules a start of a line
rules out, and with them the categories of the lines that open definitions,
bind roots or stand in a body.

Does not own: what such a line does to a fragment.
-/

namespace SdlProjection

open Pattern

variable {line : List Char}

/-! ### The first rule -/

/-- The rule that decides on a line is one of the table, and it matches. -/
theorem exists_rule_of_classify (line : List Char) :
    ∃ pattern, (classify line, pattern) ∈ lineRules ∧ Matches pattern line := by
  rw [classify, firstRule?]
  cases found : lineRules.find? fun rule => rule.2.accepts line with
  | some rule =>
      have accepted := List.find?_some found
      exact ⟨rule.2, List.mem_of_find?_eq_some found, accepts_iff.mp accepted⟩
  | none =>
      have last : (LineKind.unmatched, many .any) ∈ lineRules := by decide
      exact ⟨many .any, last, matches_many_iff.mpr fun _ _ => rfl⟩

/-- A line is of the category whose rule matches if no earlier rule does. -/
theorem classify_eq {earlier later : List (LineKind × Pattern)} {kind : LineKind}
    {pattern : Pattern} (table : lineRules = earlier ++ (kind, pattern) :: later)
    (rejected : ∀ rule ∈ earlier, rule.2.accepts line = false) (matched : Matches pattern line) :
    classify line = kind := by
  have accepted := accepts_iff.mpr matched
  have noEarlier : (earlier.find? fun rule => rule.2.accepts line) = none := by
    rw [List.find?_eq_none]
    intro rule listed
    simp [rejected rule listed]
  rw [classify, firstRule?, table, List.find?_append, noEarlier]
  simp [accepted]

/-- A line that starts so is of the category whose rule matches if the start, or a character
that the line lacks, rules out the earlier ones. -/
theorem classify_of_start {earlier later : List (LineKind × Pattern)} {kind : LineKind}
    {pattern : Pattern} {start absent rest : List Char}
    (table : lineRules = earlier ++ (kind, pattern) :: later)
    (out : (earlier.all fun rule => rule.2.ruledOut start absent) = true)
    (without : ∀ c ∈ absent, c ∉ start ++ rest) (matched : Matches pattern (start ++ rest)) :
    classify (start ++ rest) = kind := by
  apply classify_eq table _ matched
  intro rule listed
  exact not_accepts_of_ruledOut (List.all_eq_true.mp out rule listed) without

/-- If a rule at the front of the table matches, the category is that of a rule at the front. -/
theorem exists_front_of_classify {front later : List (LineKind × Pattern)}
    {rule : LineKind × Pattern} (table : lineRules = front ++ later) (listed : rule ∈ front)
    (matched : Matches rule.2 line) : ∃ first ∈ front, classify line = first.1 := by
  have accepted := accepts_iff.mpr matched
  rw [classify, firstRule?, table, List.find?_append]
  cases found : front.find? fun rule => rule.2.accepts line with
  | some first => exact ⟨first, List.mem_of_find?_eq_some found, rfl⟩
  | none => exact absurd accepted (List.find?_eq_none.mp found rule listed)

/-- Only a line that matches no other rule is unmatched. -/
theorem classify_ne_unmatched {rule : LineKind × Pattern} (listed : rule ∈ lineRules.dropLast)
    (matched : Matches rule.2 line) : classify line ≠ .unmatched := by
  have table : lineRules = lineRules.dropLast ++ [(.unmatched, many .any)] := rfl
  have labelled : ∀ rule ∈ lineRules.dropLast, rule.1 ≠ .unmatched := by decide
  obtain ⟨first, among, same⟩ := exists_front_of_classify table listed matched
  rw [same]
  exact labelled first among

/-! ### Lines that are neither remarks nor closing braces -/

/-- A line that opens, declares or is skipped, but neither remarks on anything nor closes it. -/
def LineKind.ordinary : LineKind → Bool
  | .comment | .oneLineBlockDescription | .blockDescriptionMarker | .description
  | .closingBrace => false
  | _ => true

theorem first_of_matches {text : List Char} {expected : String} {first : Char}
    {later : List Pattern} (spelled : expected.toList.head? = some first)
    (solid : Text.isBlank first = false)
    (matched : Matches (parts (blanks :: word expected :: later)) text) :
    (text.dropWhile Text.isBlank).head? = some first := by
  obtain ⟨indent, rest, rfl, indented, matched⟩ := matches_parts_cons_iff.mp matched
  obtain ⟨keyword, more, rfl, spells, -⟩ := matches_parts_cons_iff.mp matched
  have blank : ∀ c ∈ indent, Text.isBlank c = true := matches_many_iff.mp indented
  rw [matches_word_iff] at spells
  subst spells
  rw [List.dropWhile_append_of_pos blank]
  cases characters : expected.toList with
  | nil => simp [characters] at spelled
  | cons c rest =>
      have same : c = first := by simpa [characters] using spelled
      subst same
      rw [List.cons_append, List.dropWhile_cons_of_neg (by simp [solid])]
      rfl

theorem marker_of_matches {text : List Char} {before after : List Pattern}
    (matched : Matches (parts (before ++ word "\"\"\"" :: after)) text) :
    blockMarker <:+: text := by
  induction before generalizing text with
  | nil =>
      obtain ⟨marker, rest, rfl, marks, -⟩ := matches_parts_cons_iff.mp matched
      rw [matches_word_iff] at marks
      exact ⟨[], rest, by rw [marks]; rfl⟩
  | cons first before inductionHypothesis =>
      obtain ⟨start, rest, rfl, -, later⟩ := matches_parts_cons_iff.mp matched
      exact (inductionHypothesis later).trans (List.suffix_append start rest).isInfix

theorem pattern_of_kind {kind : LineKind} {pattern : Pattern}
    (listed : (kind, pattern) ∈ lineRules) :
    pattern ∈ (lineRules.filter fun rule => rule.1 = kind).map Prod.snd := by
  rw [List.mem_map]
  exact ⟨(kind, pattern), List.mem_filter.mpr ⟨listed, decide_eq_true rfl⟩, rfl⟩

/-- A line of a category with a single rule matches that rule. -/
theorem matches_of_classify {kind : LineKind} {pattern : Pattern} (same : classify line = kind)
    (only : (lineRules.filter fun rule => rule.1 = kind).map Prod.snd = [pattern]) :
    Matches pattern line := by
  obtain ⟨claimed, listed, matched⟩ := exists_rule_of_classify line
  rw [same] at listed
  have rule := pattern_of_kind listed
  rw [only, List.mem_singleton] at rule
  exact rule ▸ matched

theorem classify_ne_blockDescriptionMarker (noMarker : ¬blockMarker <:+: line) :
    classify line ≠ .blockDescriptionMarker :=
  fun isMarker => noMarker (@marker_of_matches _ [inlineText] _ (matches_of_classify isMarker rfl))

/-- A line that starts with a name and holds no block marker is ordinary. -/
theorem ordinary_classify {first : Char}
    (starts : (line.dropWhile Text.isBlank).head? = some first)
    (named : Text.isNameStart first = true) (noMarker : ¬blockMarker <:+: line) :
    (classify line).ordinary = true := by
  obtain ⟨pattern, listed, matched⟩ := exists_rule_of_classify line
  have foreign : ∀ {c : Char}, Text.isNameStart c = false →
      (line.dropWhile Text.isBlank).head? ≠ some c := by
    intro c notName same
    rw [starts, Option.some.injEq] at same
    rw [← same, named] at notName
    cases notName
  cases kind : classify line with
  | comment | description | closingBrace | oneLineBlockDescription =>
      rw [kind] at listed
      have rule := List.mem_singleton.mp (pattern_of_kind listed)
      subst rule
      exact absurd (first_of_matches rfl (by decide) matched) (foreign (by decide))
  | blockDescriptionMarker => exact absurd kind (classify_ne_blockDescriptionMarker noMarker)
  | schemaOpener | rootBinding _ | operationOpener _ | field _ | objectOpener | scalarDefinition
  | unionDefinition | unionMember | enumOpener | unmatched => rfl

/-! ### Declarations -/

theorem head?_dropWhile_declaration {signature : List Char} (isSignature : IsSignature signature)
    (type : TypeModel) : ∃ first,
      ((declaration signature type).dropWhile Text.isBlank).head? = some first ∧
        Text.isNameStart first = true := by
  obtain ⟨c, later, rfl, starts⟩ := isSignature.exists_cons
  have solid := Text.not_blank_of_isNameStart starts
  refine ⟨c, ?_, starts⟩
  rw [declaration, List.cons_append, List.dropWhile_cons_of_neg (by simp [solid])]
  rfl

/-- A block marker in a text is inside the part that has the quotes. -/
theorem blockMarker_infix_of_append {front back : List Char} (noQuote : '"' ∉ front)
    (marked : blockMarker <:+: front ++ back) : blockMarker <:+: back := by
  induction front with
  | nil => exact marked
  | cons c front inductionHypothesis =>
      simp only [List.mem_cons, not_or] at noQuote
      rcases List.infix_cons_iff.mp marked with atStart | later
      · have first : '"' = c := (List.cons_prefix_cons.mp atStart).1
        exact absurd first noQuote.1
      · exact inductionHypothesis noQuote.2 later

theorem blockMarker_infix_of_append_right {front back : List Char} (noQuote : '"' ∉ back)
    (marked : blockMarker <:+: front ++ back) : blockMarker <:+: front := by
  rw [← List.reverse_infix, List.reverse_append] at marked
  have reversed : blockMarker.reverse = blockMarker := rfl
  rw [reversed] at marked
  have inFront := blockMarker_infix_of_append (by simpa using noQuote) marked
  rwa [← reversed, List.reverse_infix] at inFront

theorem not_blockMarker_infix_declaration {signature : List Char} {type : TypeModel}
    (isSignature : IsSignature signature) (fieldType : type.IsFieldType) :
    ¬blockMarker <:+: declaration signature type := by
  have noQuote : ∀ {text : List Char}, '"' ∉ text → ¬blockMarker <:+: text := by
    intro text absent marked
    exact absent (marked.subset List.mem_cons_self)
  have clauseQuote : '"' ∉ ':' :: ' ' :: type.clause := by
    simp only [List.mem_cons, not_or]
    refine ⟨by decide, by decide, ?_⟩
    intro member
    have ofClause := fieldType.clauseChar member
    simp [ClauseChar, Text.isNamePart] at ofClause
  intro marked
  have inSignature := blockMarker_infix_of_append_right clauseQuote marked
  cases isSignature with
  | plain named => exact noQuote (Text.not_mem_name named (by decide)) inSignature
  | @withArguments name arguments named isArguments =>
      have nameQuote : '"' ∉ name := Text.not_mem_name named (by decide)
      have inArguments := blockMarker_infix_of_append nameQuote inSignature
      have inList := @blockMarker_infix_of_append ['('] _ (by decide) inArguments
      exact isArguments.noMarker (blockMarker_infix_of_append_right (by decide) inList)

theorem ordinary_classify_declaration {signature : List Char} {type : TypeModel}
    (isSignature : IsSignature signature) (fieldType : type.IsFieldType) :
    (classify (declaration signature type)).ordinary = true := by
  obtain ⟨first, starts, named⟩ := head?_dropWhile_declaration isSignature type
  exact ordinary_classify starts named (not_blockMarker_infix_declaration isSignature fieldType)

/-- The rules of the typed fields are among those of lines, so they leave no field unmatched. -/
theorem classify_ne_unmatched_of_field {kind : FieldKind}
    (isField : classifyField? line = some kind) : classify line ≠ .unmatched := by
  rw [classifyField?, firstRule?, Option.map_eq_some_iff] at isField
  obtain ⟨fieldRule, found, -⟩ := isField
  have listed := List.mem_of_find?_eq_some found
  have accepted := List.find?_some found
  rw [fieldRules, List.mem_filterMap] at listed
  obtain ⟨rule, ofTable, isFieldRule⟩ := listed
  obtain ⟨kind', isKind, rfl⟩ := Option.map_eq_some_iff.mp isFieldRule
  have inFront : rule ∈ lineRules.dropLast := by
    have table : lineRules = lineRules.dropLast ++ [(.unmatched, many .any)] := rfl
    rw [table, List.mem_append, List.mem_singleton] at ofTable
    rcases ofTable with inFront | rfl
    · exact inFront
    · cases isKind
  exact classify_ne_unmatched inFront (accepts_iff.mp accepted)

theorem classify_declaration_ne_unmatched {signature : List Char} {type : TypeModel}
    (isSignature : IsSignature signature) (fieldType : type.IsFieldType) :
    classify (declaration signature type) ≠ .unmatched :=
  classify_ne_unmatched_of_field (classifyField?_declaration isSignature fieldType)

/-! ### Lines that open definitions -/

/-- A keyword and what follows it after a blank. -/
def headed (keyword : String) (rest : List Char) : List Char :=
  keyword.toList ++ ' ' :: rest

theorem headed_append (keyword : String) (front back : List Char) :
    headed keyword (front ++ back) = headed keyword front ++ back := by
  simp [headed]

/-- A keyword, a name and an opening brace. -/
def opener (keyword : String) (name : List Char) : List Char :=
  headed keyword (name ++ [' ', '\x7b'])

def scalarLine (name : List Char) : List Char :=
  headed "scalar" name

/-- The members of a union with bars between them. -/
def joinMembers : List (List Char) → List Char
  | [] => []
  | [member] => member
  | member :: later => member ++ ' ' :: '|' :: ' ' :: joinMembers later

def unionLine (name : List Char) (members : List (List Char)) : List Char :=
  headed "union" (name ++ ' ' :: '=' :: ' ' :: joinMembers members)

def bindingLine (kind : OperationKind) (name : List Char) : List Char :=
  ' ' :: ' ' :: (kind.name.toList ++ ':' :: ' ' :: name)

/-- A field that can be written on one line. -/
structure IsField (field : String × TypeModel) : Prop where
  signature : IsSignature field.1.toList
  type : field.2.IsFieldType

def fieldLine (field : String × TypeModel) : List Char :=
  ' ' :: ' ' :: declaration field.1.toList field.2

def valueLine (value : String) : List Char :=
  ' ' :: ' ' :: value.toList

/-- An opener, the lines of the body and a closing brace. -/
def blockLines (opener : List Char) (body : List (List Char)) : List (List Char) :=
  opener :: (body ++ [['\x7d']])

section Openers

variable {name : List Char}

theorem matches_definitionLead (named : Text.isName name = true) (keyword : String) :
    Matches (definitionLead keyword) (headed keyword name) := by
  have blank : Matches (.one .blank) [' '] := .one (by decide)
  have nameMatch : Matches Pattern.name name := matches_name_iff.mpr named
  rw [← List.append_nil name]
  exact matches_noBlanks.seq ((matches_word keyword).seq (blank.seq (matches_noBlanks.seq
    (nameMatch.seq .empty))))

/-- Around a name, the marks of fields and of descriptions are not on the line. -/
theorem absent_of_name (named : Text.isName name = true) {start finish : List Char}
    (noColon : ':' ∉ start ++ finish) (noQuote : '"' ∉ start ++ finish) :
    ∀ c ∈ [':', '"'], c ∉ start ++ (name ++ finish) := by
  intro c listed
  simp only [List.mem_append, not_or, List.mem_cons, List.not_mem_nil, or_false] at *
  rcases listed with rfl | rfl
  · exact ⟨noColon.1, Text.not_mem_name named (by decide), noColon.2⟩
  · exact ⟨noQuote.1, Text.not_mem_name named (by decide), noQuote.2⟩

theorem classify_enumOpener (named : Text.isName name = true) :
    classify (opener "enum" name) = .enumOpener := by
  have own : Matches (parts [definitionLead "enum", blanks, word "\x7b", blanks])
      (opener "enum" name) := by
    have blank : Matches blanks [' '] := matches_spaces 1
    rw [opener, headed_append]
    exact (matches_definitionLead named "enum").seq (blank.seq ((matches_word "\x7b").seq
      (matches_noBlanks.seq .empty)))
  have table : lineRules = lineRules.take 21 ++
      (.enumOpener, parts [definitionLead "enum", blanks, word "\x7b", blanks]) ::
        lineRules.drop 22 := rfl
  have split : opener "enum" name = headed "enum" [] ++ (name ++ [' ', '\x7b']) :=
    headed_append "enum" [] _
  rw [split] at own ⊢
  exact classify_of_start table (by decide)
    (absent_of_name named (by decide) (by decide)) own

theorem classify_scalarLine (named : Text.isName name = true) :
    classify (scalarLine name) = .scalarDefinition := by
  have own : Matches (parts [definitionLead "scalar", directiveTail]) (scalarLine name) := by
    rw [← List.append_nil (scalarLine name)]
    exact (matches_definitionLead named "scalar").seq (matches_noDirectives.seq .empty)
  have table : lineRules = lineRules.take 18 ++
      (.scalarDefinition, parts [definitionLead "scalar", directiveTail]) ::
        lineRules.drop 19 := rfl
  have split : scalarLine name = headed "scalar" [] ++ (name ++ []) := by
    rw [List.append_nil]
    exact headed_append "scalar" [] name
  rw [split] at own ⊢
  exact classify_of_start table (by decide)
    (absent_of_name named (by decide) (by decide)) own

theorem matches_joinMembers {members : List (List Char)}
    (named : ∀ member ∈ members, Text.isName member = true) :
    Matches (.star inlineMember) (joinMembers members) := by
  induction members with
  | nil => exact .starNil
  | cons member later inductionHypothesis =>
      rw [List.forall_mem_cons] at named
      have nameMatch : Matches Pattern.name member := matches_name_iff.mpr named.1
      have blank : Matches (optional (.one .blank)) [' '] := .altLeft (.one (by decide))
      have bar : Matches (optional (word "|")) ['|'] := .altLeft (matches_word "|")
      cases later with
      | nil =>
          have alone : Matches inlineMember member := by
            rw [← List.append_nil member]
            exact nameMatch.seq ((matches_skipped _).seq ((matches_skipped _).seq
              ((matches_skipped _).seq .empty)))
          rw [joinMembers, ← List.append_nil member]
          exact .starCons alone .starNil
      | cons next rest =>
          have first : Matches inlineMember (member ++ [' ', '|', ' ']) :=
            nameMatch.seq (blank.seq (bar.seq (blank.seq .empty)))
          have whole := Matches.starCons first (inductionHypothesis named.2)
          simpa [joinMembers] using whole

theorem mem_joinMembers {members : List (List Char)} {c : Char} (member : c ∈ joinMembers members) :
    c = ' ' ∨ c = '|' ∨ ∃ name ∈ members, c ∈ name := by
  induction members with
  | nil => cases member
  | cons first later inductionHypothesis =>
      cases later with
      | nil => exact .inr (.inr ⟨first, List.mem_cons_self, member⟩)
      | cons next rest =>
          simp only [joinMembers, List.mem_append, List.mem_cons] at member
          rcases member with inFirst | rfl | rfl | rfl | inLater
          · exact .inr (.inr ⟨first, List.mem_cons_self, inFirst⟩)
          · exact .inl rfl
          · exact .inr (.inl rfl)
          · exact .inl rfl
          · rcases inductionHypothesis inLater with blank | bar | ⟨name, listed, inName⟩
            · exact .inl blank
            · exact .inr (.inl bar)
            · exact .inr (.inr ⟨name, List.mem_cons_of_mem _ listed, inName⟩)

theorem not_mem_joinMembers {members : List (List Char)}
    (named : ∀ member ∈ members, Text.isName member = true) {c : Char}
    (foreign : Text.isNamePart c = false) (notBlank : c ≠ ' ') (notBar : c ≠ '|') :
    c ∉ joinMembers members := by
  intro member
  rcases mem_joinMembers member with blank | bar | ⟨name, listed, inName⟩
  · exact notBlank blank
  · exact notBar bar
  · exact Text.not_mem_name (named name listed) foreign inName

theorem classify_unionLine (named : Text.isName name = true) {members : List (List Char)}
    (membersNamed : ∀ member ∈ members, Text.isName member = true) :
    classify (unionLine name members) = .unionDefinition := by
  let pattern :=
    parts [definitionLead "union", blanks, word "=", blanks, .star inlineMember, blanks]
  have own : Matches pattern (unionLine name members) := by
    have blank : Matches blanks [' '] := matches_spaces 1
    rw [unionLine, headed_append, ← List.append_nil (joinMembers members)]
    exact (matches_definitionLead named "union").seq (blank.seq ((matches_word "=").seq (blank.seq
      ((matches_joinMembers membersNamed).seq (matches_noBlanks.seq .empty)))))
  have table : lineRules = lineRules.take 19 ++ (.unionDefinition, pattern) :: lineRules.drop 20 :=
    rfl
  have split : unionLine name members =
      headed "union" [] ++ (name ++ ' ' :: '=' :: ' ' :: joinMembers members) :=
    headed_append "union" [] _
  rw [split] at own ⊢
  have outside : ∀ {c : Char}, Text.isNamePart c = false → c ≠ ' ' → c ≠ '|' → c ≠ '=' →
      c ∉ headed "union" [] ++ ' ' :: '=' :: ' ' :: joinMembers members := by
    intro c foreign notBlank notBar notEquals
    have notMember := not_mem_joinMembers membersNamed foreign notBlank notBar
    have keywordNamed : Text.isName "union".toList = true := by decide
    simp only [headed, List.mem_append, List.mem_cons, List.not_mem_nil, or_false, not_or]
    exact ⟨⟨Text.not_mem_name keywordNamed foreign, notBlank⟩, notBlank, notEquals, notBlank,
      notMember⟩
  have noColon := @outside ':' (by decide) (by decide) (by decide) (by decide)
  have noQuote := @outside '"' (by decide) (by decide) (by decide) (by decide)
  exact classify_of_start table (by decide) (absent_of_name named noColon noQuote) own

/-- The openers of the default roots differ from other openers by the name alone. -/
theorem name_of_operationOpener (named : Text.isName name = true) {kind : OperationKind}
    (matched : Matches (operationOpenerRule kind).2 (opener "type" name)) :
    name = kind.defaultRoot.toList := by
  have remaining : statesAfter [(operationOpenerRule kind).2] (headed "type" []) =
      [parts [word kind.defaultRoot, blanks, word "\x7b", blanks]] := by
    cases kind <;> rfl
  have split : opener "type" name = headed "type" [] ++ (name ++ [' ', '\x7b']) :=
    headed_append "type" [] _
  rw [← accepts_iff, accepts, split, anyMatch_append, remaining, anyMatch_iff] at matched
  obtain ⟨pattern, listed, matched⟩ := matched
  rw [List.mem_singleton] at listed
  subst listed
  obtain ⟨root, _, whole, spelled, matched⟩ := matches_parts_cons_iff.mp matched
  obtain ⟨gap, _, rfl, spaced, matched⟩ := matches_parts_cons_iff.mp matched
  obtain ⟨brace, _, rfl, opens, -⟩ := matches_parts_cons_iff.mp matched
  rw [matches_word_iff] at spelled opens
  subst spelled opens
  have rootNamed : Text.isName kind.defaultRoot.toList = true := by
    cases kind <;> decide
  have blank : ∀ c ∈ gap, Text.isBlank c = true := matches_many_iff.mp spaced
  refine (Text.name_append_inj named rootNamed (Text.nameEnds_cons (by decide)) ?_ whole).1
  cases gap with
  | nil => exact Text.nameEnds_cons (by decide)
  | cons c gap => exact Text.nameEnds_cons_of_blank (blank c List.mem_cons_self)

theorem classify_typeOpener (named : Text.isName name = true)
    (notDefault : ∀ kind : OperationKind, name ≠ kind.defaultRoot.toList) :
    classify (opener "type" name) = .objectOpener := by
  let pattern := parts [definitionLead "type", blanks,
    optional (.seq (word "implements") inlineText), blanks,
    optional (.seq (word "@") inlineText), word "\x7b", blanks]
  have own : Matches pattern (opener "type" name) := by
    have blank : Matches blanks [' '] := matches_spaces 1
    rw [opener, headed_append]
    exact (matches_definitionLead named "type").seq (blank.seq ((matches_skipped _).seq
      (matches_noBlanks.seq ((matches_skipped _).seq ((matches_word "\x7b").seq
        (matches_noBlanks.seq .empty))))))
  have table : lineRules = lineRules.take 17 ++ (.objectOpener, pattern) :: lineRules.drop 18 := rfl
  have split : opener "type" name = headed "type" [] ++ (name ++ [' ', '\x7b']) :=
    headed_append "type" [] _
  have out : ∀ rule ∈ lineRules.take 17, rule.2.ruledOut (headed "type" []) [':', '"'] = true ∨
      rule ∈ OperationKind.all.map operationOpenerRule := by decide
  apply classify_eq table _ own
  intro rule listed
  rcases out rule listed with ruled | isDefault
  · rw [split]
    exact not_accepts_of_ruledOut ruled (absent_of_name named (by decide) (by decide))
  · obtain ⟨kind, -, rfl⟩ := List.mem_map.mp isDefault
    rw [← Bool.not_eq_true, accepts_iff]
    intro matched
    exact notDefault kind (name_of_operationOpener named matched)

end Openers

theorem classify_defaultOpener (kind : OperationKind) :
    classify (opener "type" kind.defaultRoot.toList) = .operationOpener kind := by
  cases kind <;> decide

theorem classify_schemaOpener : classify "schema \x7b".toList = .schemaOpener := by
  decide

theorem classify_closingBrace : classify ['\x7d'] = .closingBrace := by
  decide

/-- No rule before a root binding's can match a line that starts with its keyword. -/
theorem rules_before_binding (kind : OperationKind) :
    ∃ earlier later, lineRules = earlier ++ rootBindingRule kind :: later ∧
      (earlier.all fun rule =>
        rule.2.ruledOut (' ' :: ' ' :: kind.name.toList) ['"']) = true := by
  cases kind with
  | query => exact ⟨lineRules.take 5, lineRules.drop 6, rfl, by decide⟩
  | mutation => exact ⟨lineRules.take 6, lineRules.drop 7, rfl, by decide⟩
  | subscription => exact ⟨lineRules.take 7, lineRules.drop 8, rfl, by decide⟩

theorem classify_bindingLine {name : List Char} (named : Text.isName name = true)
    (kind : OperationKind) : classify (bindingLine kind name) = .rootBinding kind := by
  obtain ⟨earlier, later, table, out⟩ := rules_before_binding kind
  have split : bindingLine kind name =
      (' ' :: ' ' :: kind.name.toList) ++ (':' :: ' ' :: name) := rfl
  have own : Matches (rootBindingRule kind).2 (bindingLine kind name) := by
    have indent : Matches blanks [' ', ' '] := matches_spaces 2
    have target : Matches inlineText (' ' :: name) := by
      rw [matches_inlineText_iff, List.mem_cons, not_or]
      exact ⟨by decide, Text.not_mem_name named (by decide)⟩
    have regrouped : bindingLine kind name = [' ', ' '] ++ (kind.name.toList ++ ([] ++
        ([':'] ++ ((' ' :: name) ++ [])))) := by
      simp only [bindingLine, List.cons_append, List.nil_append, List.append_nil]
    rw [regrouped]
    exact indent.seq ((matches_word kind.name).seq (matches_noBlanks.seq ((matches_word ":").seq
      (target.seq .empty))))
  have noQuote : '"' ∉ (' ' :: ' ' :: kind.name.toList) ++ (':' :: ' ' :: name) := by
    have inKeyword : '"' ∉ (' ' :: ' ' :: kind.name.toList) := by
      cases kind <;> decide
    rw [List.mem_append, not_or]
    refine ⟨inKeyword, ?_⟩
    simp only [List.mem_cons, not_or]
    exact ⟨by decide, by decide, Text.not_mem_name named (by decide)⟩
  rw [split] at own ⊢
  apply classify_of_start table out _ own
  intro c listed
  rw [List.mem_singleton.mp listed]
  exact noQuote

/-! ### Values of enums -/

theorem ordinary_classify_valueLine {value : String} (named : Text.isName value.toList = true) :
    (classify (valueLine value)).ordinary = true := by
  obtain ⟨c, later, same, starts⟩ := Text.exists_cons_of_isName named
  have solid := Text.not_blank_of_isNameStart starts
  have unindented : ((valueLine value).dropWhile Text.isBlank).head? = some c := by
    rw [valueLine, List.dropWhile_cons_of_pos (by decide), List.dropWhile_cons_of_pos (by decide),
      same, List.dropWhile_cons_of_neg (by simp [solid])]
    rfl
  apply ordinary_classify unindented starts
  intro marked
  have quote : '"' ∈ valueLine value := marked.subset List.mem_cons_self
  simp only [valueLine, List.mem_cons] at quote
  rcases quote with blank | blank | inValue
  · exact absurd blank (by decide)
  · exact absurd blank (by decide)
  · exact Text.not_mem_name named (by decide) inValue

end SdlProjection
