import SdlProjection.Proofs.Line.Definition
import SdlProjection.Proofs.Model.FieldRules

/-!
Contract: which lines the whole grammar takes for fields.

Owns: `Line.BindsRoot`, the form of a root binding; that a line with the lead of
a field meets the rules of no other category but block description markers and
root bindings; and that the whole table therefore takes for a field what the
rules of fields do, unless one of these two comes before them.

What tells a field from a definition is the character behind the first name on
the line: the name of the definition after its keyword, or else a parenthesis or
a colon. Rules that leave no room for a colon need no such look.

Does not own: which kind of field a line is (`Proofs.Model.Decoys`).
-/

namespace SdlProjection

open Pattern

variable {line : List Char}

/-- Blanks, the name of an operation kind, blanks, a colon and anything behind it. -/
def Line.BindsRoot (operation : OperationKind) (line : List Char) : Prop :=
  ∃ indent gap target, line = indent ++ (operation.name.toList ++ (gap ++ ':' :: target)) ∧
    (∀ c ∈ indent, Text.isBlank c = true) ∧ ∀ c ∈ gap, Text.isBlank c = true

/-- The first character behind the first name on a line, blanks aside. -/
def Line.behindName? (line : List Char) : Option Char :=
  (Text.splitName? (line.dropWhile Text.isBlank)).bind fun split =>
    (split.2.dropWhile Text.isBlank).head?

/-- What the start of a field's line shows. -/
structure Line.LeadsField (line : List Char) : Prop where
  named : ∃ first, (line.dropWhile Text.isBlank).head? = some first ∧
    Text.isNameStart first = true
  colon : ':' ∈ line
  behind : behindName? line = some '(' ∨ behindName? line = some ':'

/-- The categories whose rules accept lines with the lead of a field: the fields themselves, the
two that come before them, and the category of every line. -/
def LineKind.meetsFields : LineKind → Bool
  | .field _ | .blockDescriptionMarker | .rootBinding _ | .unmatched => true
  | _ => false

/-! ### The start of a field and of a definition -/

theorem behindName?_append {indent name rest : List Char}
    (indented : ∀ c ∈ indent, Text.isBlank c = true) (named : Text.isName name = true)
    (ends : Text.NameEnds rest) :
    Line.behindName? (indent ++ (name ++ rest)) = (rest.dropWhile Text.isBlank).head? := by
  rw [Line.behindName?, List.dropWhile_append_of_pos indented,
    Text.dropWhile_isBlank_name named, Text.splitName?_append named ends]
  rfl

theorem leadsField_of_matches {tail : Pattern} (matched : Matches (.seq fieldLead tail) line) :
    Line.LeadsField line := by
  obtain ⟨front, back, rfl, lead, -⟩ := matches_seq_iff.mp matched
  obtain ⟨indent, key, gap, after, rfl, indented, ⟨isKey, -⟩, spaced, -⟩ :=
    matches_fieldLead_iff.mp lead
  have colon : ':' ∈ indent ++ (key ++ (gap ++ ':' :: after)) ++ back := by simp
  rw [List.append_assoc] at colon ⊢
  refine ⟨?_, colon, ?_⟩
  · obtain ⟨c, later, rfl, starts⟩ := isKey.exists_cons
    have solid : ¬Text.isBlank c = true := by simp [Text.not_blank_of_isNameStart starts]
    refine ⟨c, ?_, starts⟩
    rw [List.dropWhile_append_of_pos indented, List.cons_append, List.cons_append,
      List.dropWhile_cons_of_neg solid]
    rfl
  · cases isKey with
    | name named =>
        right
        rw [List.append_assoc, List.append_assoc, List.cons_append,
          behindName?_append indented named (nameEnds_gap spaced), head?_dropWhile_gap spaced]
    | withArguments inner named =>
        left
        rw [List.append_assoc, List.append_assoc, List.cons_append,
          behindName?_append indented named (Text.nameEnds_cons (by decide)),
          List.dropWhile_cons_of_neg (by decide)]
        rfl

/-- Behind the keyword of a definition stands the first character of the name it gives. -/
theorem exists_behindName?_of_definition {keyword : String} {later : List Pattern}
    (keywordNamed : Text.isName keyword.toList = true)
    (matched : Matches (parts (definitionLead keyword :: later)) line) :
    ∃ c, Line.behindName? line = some c ∧ Text.isNameStart c = true := by
  obtain ⟨lead, rest, rfl, leads, -⟩ := matches_parts_cons_iff.mp matched
  obtain ⟨indent, blank, gap, name, rfl, indented, isBlank, spaced, named⟩ :=
    exists_of_matches_definitionLead leads
  obtain ⟨c, more, rfl, starts⟩ := Text.exists_cons_of_isName named
  have solid : ¬Text.isBlank c = true := by simp [Text.not_blank_of_isNameStart starts]
  refine ⟨c, ?_, starts⟩
  rw [List.append_assoc, List.append_assoc, List.cons_append, List.append_assoc,
    behindName?_append indented keywordNamed (Text.nameEnds_cons_of_blank isBlank),
    List.dropWhile_cons_of_pos isBlank, List.dropWhile_append_of_pos spaced, List.cons_append,
    List.dropWhile_cons_of_neg solid]
  rfl

/-! ### The rules that meet fields -/

namespace Line.LeadsField

theorem head?_ne (leads : Line.LeadsField line) {c : Char} (foreign : Text.isNameStart c = false) :
    (line.dropWhile Text.isBlank).head? ≠ some c := by
  obtain ⟨first, starts, named⟩ := leads.named
  intro same
  rw [starts, Option.some.injEq] at same
  rw [← same, named] at foreign
  cases foreign

theorem behindName?_ne (leads : Line.LeadsField line) {c : Char}
    (starts : Text.isNameStart c = true) : Line.behindName? line ≠ some c := by
  intro same
  rcases leads.behind with behind | behind <;> rw [behind, Option.some.injEq] at same <;>
    subst same <;> cases starts

theorem not_definition (leads : Line.LeadsField line) {keyword : String} {later : List Pattern}
    (keywordNamed : Text.isName keyword.toList = true) :
    ¬Matches (parts (definitionLead keyword :: later)) line := by
  intro matched
  obtain ⟨c, behind, starts⟩ := exists_behindName?_of_definition keywordNamed matched
  exact leads.behindName?_ne starts behind

theorem not_matches_of_lacks (leads : Line.LeadsField line) {pattern : Pattern}
    (lacking : pattern.lacks ':' = true) : ¬Matches pattern line :=
  fun matched => not_mem_of_lacks lacking matched leads.colon

/-- A line with the lead of a field meets no rule of comments, of descriptions on one line, of
definitions, of unions or of braces. -/
theorem meetsFields (leads : Line.LeadsField line) {rule : LineKind × Pattern}
    (listed : rule ∈ lineRules) (matched : Matches rule.2 line) : rule.1.meetsFields = true := by
  obtain ⟨kind, pattern⟩ := rule
  -- By its first character, by what stands behind the keyword, or for want of a colon.
  cases kind with
  | field _ | blockDescriptionMarker | rootBinding _ | unmatched => rfl
  | comment | description | oneLineBlockDescription =>
      have only := List.mem_singleton.mp (pattern_of_kind listed)
      subst only
      exact absurd (first_of_matches rfl (by decide) matched) (leads.head?_ne (by decide))
  | objectOpener | scalarDefinition =>
      have only := List.mem_singleton.mp (pattern_of_kind listed)
      subst only
      exact absurd matched (leads.not_definition (by decide))
  | operationOpener operation =>
      cases operation <;>
        · have only := List.mem_singleton.mp (pattern_of_kind listed)
          subst only
          exact absurd matched (leads.not_matches_of_lacks (by decide))
  | schemaOpener | unionDefinition | unionMember | enumOpener | closingBrace =>
      have only := List.mem_singleton.mp (pattern_of_kind listed)
      subst only
      exact absurd matched (leads.not_matches_of_lacks (by decide))

end Line.LeadsField

/-! ### The whole table -/

theorem matches_rootBindingRule_iff (inline : '\n' ∉ line) (operation : OperationKind) :
    Matches (rootBindingRule operation).2 line ↔ Line.BindsRoot operation line := by
  constructor
  · intro matched
    obtain ⟨indent, _, rfl, indented, matched⟩ := matches_parts_cons_iff.mp matched
    obtain ⟨name, _, rfl, named, matched⟩ := matches_parts_cons_iff.mp matched
    obtain ⟨gap, _, rfl, spaced, matched⟩ := matches_parts_cons_iff.mp matched
    obtain ⟨colon, target, rfl, separated, -⟩ := matches_parts_cons_iff.mp matched
    rw [matches_word_iff] at named separated
    subst named separated
    exact ⟨indent, gap, target, rfl, matches_many_iff.mp indented, matches_many_iff.mp spaced⟩
  · rintro ⟨indent, gap, target, rfl, indented, spaced⟩
    have inlineTarget : '\n' ∉ target := fun member => inline (by simp [member])
    have first : Matches blanks indent := matches_many_iff.mpr indented
    have second : Matches blanks gap := matches_many_iff.mpr spaced
    have last : Matches inlineText target := matches_inlineText_iff.mpr inlineTarget
    have whole : Matches (rootBindingRule operation).2 _ :=
      first.seq ((matches_word operation.name).seq (second.seq ((matches_word ":").seq
        (last.seq .empty))))
    simpa using whole

theorem bindsRoot_of_classify (inline : '\n' ∉ line) {operation : OperationKind}
    (isBinding : classify line = .rootBinding operation) : Line.BindsRoot operation line := by
  have only : (lineRules.filter fun rule => rule.1 = .rootBinding operation).map Prod.snd =
      [(rootBindingRule operation).2] := by
    cases operation <;> rfl
  exact (matches_rootBindingRule_iff inline operation).mp (matches_of_classify isBinding only)

/-- The rules of root bindings come before those of fields. -/
theorem classify_ne_field_of_bindsRoot (inline : '\n' ∉ line) {operation : OperationKind}
    (binds : Line.BindsRoot operation line) (kind : FieldKind) : classify line ≠ .field kind := by
  have table : lineRules = lineRules.take 11 ++ lineRules.drop 11 := rfl
  have listed : rootBindingRule operation ∈ lineRules.take 11 := by cases operation <;> decide
  have noField : ∀ rule ∈ lineRules.take 11, rule.1.fieldKind? = none := by decide
  obtain ⟨first, among, same⟩ :=
    exists_front_of_classify table listed ((matches_rootBindingRule_iff inline operation).mpr binds)
  intro isField
  have noKind := noField first among
  rw [← same, isField] at noKind
  cases noKind

/-- A rule of the whole table as one of the rules of fields, if it is that. -/
def fieldRule? (rule : LineKind × Pattern) : Option (FieldKind × Pattern) :=
  rule.1.fieldKind?.map fun kind => (kind, rule.2)

theorem fieldRules_eq_filterMap : fieldRules = lineRules.filterMap fieldRule? := rfl

/-- The first rule of all that matches is also the first among those of fields, if it is one. -/
theorem classifyField?_of_classify {kind : FieldKind} (isField : classify line = .field kind) :
    classifyField? line = some kind := by
  rw [classify, firstRule?] at isField
  cases found : lineRules.find? fun rule => rule.2.accepts line with
  | none =>
      rw [found] at isField
      cases isField
  | some rule =>
      rw [found] at isField
      have ofKind : rule.1 = .field kind := isField
      have own : fieldRule? rule = some (kind, rule.2) := by
        rw [fieldRule?, ofKind]
        rfl
      obtain ⟨accepted, before, later, table, rejected⟩ :=
        List.find?_eq_some_iff_append.mp found
      have noneBefore :
          ((before.filterMap fieldRule?).find? fun rule => rule.2.accepts line) = none := by
        rw [List.find?_eq_none]
        intro fieldRule among
        obtain ⟨earlier, inBefore, made⟩ := List.mem_filterMap.mp among
        obtain ⟨-, -, rfl⟩ := Option.map_eq_some_iff.mp made
        simpa using rejected earlier inBefore
      rw [classifyField?, firstRule?, fieldRules_eq_filterMap, table, List.filterMap_append,
        List.filterMap_cons_some own, List.find?_append, noneBefore, Option.none_or]
      simp [accepted]

theorem leadsField_of_classifyField? {kind : FieldKind}
    (isField : classifyField? line = some kind) : Line.LeadsField line :=
  leadsField_of_matches (accepts_iff.mp (Field.classifyField?_eq_some_iff.mp isField).1)

/-- What the rules of fields take for a field is one for the whole table, unless a block
description marker is on the line or it has the form of a root binding: a field's line meets the
rules of no other categories. -/
theorem classify_agrees_on_fields (line : List Char) (kind : FieldKind) :
    ('\n' ∉ line → ¬blockMarker <:+: line →
      (classify line = .field kind ↔
        classifyField? line = some kind ∧ ¬∃ operation, Line.BindsRoot operation line)) ∧
    (classifyField? line = some kind →
      ∀ rule ∈ lineRules, rule.2.accepts line = true → rule.1.meetsFields = true) := by
  have meets : classifyField? line = some kind →
      ∀ rule ∈ lineRules, rule.2.accepts line = true → rule.1.meetsFields = true :=
    fun isField rule listed accepted =>
      (leadsField_of_classifyField? isField).meetsFields listed (accepts_iff.mp accepted)
  refine ⟨?_, meets⟩
  intro inline noMarker
  constructor
  · intro isField
    refine ⟨classifyField?_of_classify isField, ?_⟩
    rintro ⟨operation, binds⟩
    exact classify_ne_field_of_bindsRoot inline binds kind isField
  · rintro ⟨isField, noBinding⟩
    -- The deciding rule is one that meets fields; all but those of fields are ruled out.
    obtain ⟨pattern, listed, matched⟩ := exists_rule_of_classify line
    have met := meets isField _ listed (accepts_iff.mpr matched)
    cases found : classify line with
    | field other =>
        rw [classifyField?_of_classify found, Option.some.injEq] at isField
        rw [isField]
    | unmatched => exact absurd found (classify_ne_unmatched_of_field isField)
    | rootBinding operation =>
        exact absurd ⟨operation, bindsRoot_of_classify inline found⟩ noBinding
    | blockDescriptionMarker =>
        exact absurd found (classify_ne_blockDescriptionMarker noMarker)
    | comment | oneLineBlockDescription | description | schemaOpener | operationOpener _
    | objectOpener | scalarDefinition | unionDefinition | unionMember | enumOpener
    | closingBrace =>
        rw [found] at met
        cases met

/-- A list with definitions written in its argument and in its directive. -/
def quotedDefinitions : List Char :=
  "tags(of: \"type T \x7b\"): [Tag!] @on(\"scalar S @x\") \x7b".toList

/-- A field with the name of an operation kind. -/
def queryField : List Char := "query : [Foo]".toList

/-- Definitions that are only written in a field leave it a field; the name of an operation kind
does not. -/
theorem classify_agrees_on_quotedDefinitions :
    classify quotedDefinitions = .field .list ∧
      (∀ rule ∈ lineRules, rule.2.accepts quotedDefinitions = true →
        rule.1.meetsFields = true) ∧
      classifyField? queryField = some .list ∧ classify queryField ≠ .field .list := by
  have agrees := classify_agrees_on_fields quotedDefinitions .list
  have noBinding : ¬∃ operation, Line.BindsRoot operation quotedDefinitions := by
    rintro ⟨operation, binds⟩
    have bound := (matches_rootBindingRule_iff (by decide) operation).mpr binds
    cases operation <;> exact absurd (accepts_iff.mpr bound) (by decide +kernel)
  have binds : Line.BindsRoot .query queryField :=
    ⟨[], [' '], " [Foo]".toList, rfl, by simp, Text.blank_spaces 1⟩
  have isField : classifyField? quotedDefinitions = some .list := by decide +kernel
  refine ⟨(agrees.1 (by decide) (by decide +kernel)).mpr ⟨isField, noBinding⟩, agrees.2 isField,
    by decide +kernel, ?_⟩
  intro same
  have unbound := ((classify_agrees_on_fields queryField .list).1 (by decide)
    (by decide +kernel)).mp same
  exact unbound.2 ⟨.query, binds⟩

end SdlProjection
