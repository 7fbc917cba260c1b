import SdlProjection.Line.Definition
import SdlProjection.Proofs.Line.Categories

/-!
Contract: what a definition line gives.

Owns: that the names, the members of a union and the target of a root binding
are read off a line as they were written on it, and that a definition line
gives a name whatever else is written on it.

Does not own: the categories of these lines (`Proofs.Line.Categories`).
-/

namespace SdlProjection

open Pattern

theorem afterWord?_append (word rest : List Char) :
    Line.afterWord? word (word ++ rest) = some rest := by
  induction word with
  | nil => rfl
  | cons c word inductionHypothesis => simp [Line.afterWord?, inductionHypothesis]

theorem splitDefinition?_append {keyword : String} {name rest : List Char}
    (keywordNamed : Text.isName keyword.toList = true) (named : Text.isName name = true)
    (ends : Text.NameEnds rest) :
    Line.splitDefinition? keyword (headed keyword (name ++ rest)) = some (name, rest) := by
  have unindented := Text.dropWhile_isBlank_name keywordNamed (' ' :: (name ++ rest))
  have nameFirst := Text.dropWhile_isBlank_name named rest
  have blank : Text.isBlank ' ' = true := by decide
  simp only [headed, Line.splitDefinition?, unindented, afterWord?_append, blank, if_true,
    nameFirst, Text.splitName?_append named ends]

theorem exists_of_matches_definitionLead {keyword : String} {text : List Char}
    (matched : Matches (definitionLead keyword) text) :
    ∃ indent c gap name, text = indent ++ (keyword.toList ++ c :: (gap ++ name)) ∧
      (∀ d ∈ indent, Text.isBlank d = true) ∧ Text.isBlank c = true ∧
      (∀ d ∈ gap, Text.isBlank d = true) ∧ Text.isName name = true := by
  obtain ⟨indent, _, rfl, indented, matched⟩ := matches_parts_cons_iff.mp matched
  obtain ⟨word, _, rfl, spelled, matched⟩ := matches_parts_cons_iff.mp matched
  obtain ⟨blank, _, rfl, isBlank, matched⟩ := matches_parts_cons_iff.mp matched
  obtain ⟨gap, _, rfl, spaced, matched⟩ := matches_parts_cons_iff.mp matched
  obtain ⟨name, nothing, rfl, named, none⟩ := matches_parts_cons_iff.mp matched
  obtain ⟨c, separates, rfl⟩ := matches_one_iff.mp isBlank
  rw [matches_word_iff] at spelled
  rw [matches_parts_nil_iff] at none
  subst spelled none
  refine ⟨indent, c, gap, name, ?_, matches_many_iff.mp indented, separates,
    matches_many_iff.mp spaced, matches_name_iff.mp named⟩
  simp

/-- After a keyword, a blank and a name, what is split off is the name, with what goes on with
it. -/
theorem splitDefinition?_of_lead {keyword : String} {lead : List Char}
    (keywordNamed : Text.isName keyword.toList = true)
    (leads : Matches (definitionLead keyword) lead) :
    ∃ name, Text.isName name = true ∧ ∀ rest,
      Line.splitDefinition? keyword (lead ++ rest) = Text.splitName? (name ++ rest) := by
  obtain ⟨indent, c, gap, name, rfl, indented, separates, spaced, named⟩ :=
    exists_of_matches_definitionLead leads
  refine ⟨name, named, ?_⟩
  intro rest
  have unindented : (indent ++ (keyword.toList ++ c :: (gap ++ name)) ++ rest).dropWhile
      Text.isBlank = keyword.toList ++ c :: (gap ++ (name ++ rest)) := by
    rw [List.append_assoc, List.dropWhile_append_of_pos indented, List.append_assoc,
      Text.dropWhile_isBlank_name keywordNamed]
    simp
  have ungapped : (gap ++ (name ++ rest)).dropWhile Text.isBlank = name ++ rest := by
    rw [List.dropWhile_append_of_pos spaced, Text.dropWhile_isBlank_name named]
  rw [Line.splitDefinition?, unindented, afterWord?_append]
  simp only [separates, if_true, ungapped]

/-- A line that starts with a keyword, a blank and a name gives a name. -/
theorem isName_definitionName {keyword : String} {line : List Char} {later : List Pattern}
    (keywordNamed : Text.isName keyword.toList = true)
    (matched : Matches (parts (definitionLead keyword :: later)) line) :
    Text.isName (Line.definitionName keyword line).toList = true := by
  obtain ⟨lead, rest, rfl, leads, -⟩ := matches_parts_cons_iff.mp matched
  obtain ⟨name, named, splits⟩ := splitDefinition?_of_lead keywordNamed leads
  rw [Line.definitionName, splits]
  cases split : Text.splitName? (name ++ rest) with
  | some parts =>
      simp only [String.toList_ofList]
      exact (Text.splitName?_eq_some split).2
  | none =>
      obtain ⟨first, more, rfl, starts⟩ := Text.exists_cons_of_isName named
      simp [Text.splitName?, starts] at split

/-- The line of a union gives a name: what follows the name there is a blank or the sign that
the members come after. -/
theorem isName_unionDefinition {line : List Char} (inline : '\n' ∉ line)
    (isUnion : classify line = .unionDefinition) :
    Text.isName (Line.unionDefinition line).1.toList = true := by
  obtain ⟨lead, rest, rfl, leads, matched⟩ :=
    matches_parts_cons_iff.mp (matches_of_classify isUnion rfl)
  obtain ⟨gap, _, rfl, spaced, matched⟩ := matches_parts_cons_iff.mp matched
  obtain ⟨sign, members, rfl, equals, -⟩ := matches_parts_cons_iff.mp matched
  obtain ⟨name, named, splits⟩ := splitDefinition?_of_lead (by decide) leads
  rw [matches_word_iff] at equals
  subst equals
  have blank : ∀ c ∈ gap, Text.isBlank c = true := matches_many_iff.mp spaced
  have ends : Text.NameEnds (gap ++ ("=".toList ++ members)) := by
    cases gap with
    | nil => exact Text.nameEnds_cons (by decide)
    | cons c gap => exact Text.nameEnds_cons_of_blank (blank c List.mem_cons_self)
  have ungapped : (gap ++ ("=".toList ++ members)).dropWhile Text.isBlank = '=' :: members := by
    rw [List.dropWhile_append_of_pos blank]
    rfl
  have noFeed : members.contains '\n' = false := by
    simp only [List.mem_append, not_or] at inline
    simpa using inline.2.2.2
  rw [Line.unionDefinition, splits, Text.splitName?_append named ends]
  simp only [ungapped, noFeed, Bool.false_eq_true, if_false, String.toList_ofList]
  exact named

section Parts

variable {name : List Char}

theorem definitionName_opener {keyword : String} (keywordNamed : Text.isName keyword.toList = true)
    (named : Text.isName name = true) :
    Line.definitionName keyword (opener keyword name) = String.ofList name := by
  rw [Line.definitionName, opener,
    splitDefinition?_append keywordNamed named (Text.nameEnds_cons (by decide))]

theorem definitionName_scalarLine (named : Text.isName name = true) :
    Line.definitionName "scalar" (scalarLine name) = String.ofList name := by
  have split := @splitDefinition?_append "scalar" _ _ (by decide) named Text.nameEnds_nil
  rw [List.append_nil] at split
  rw [Line.definitionName, scalarLine, split]

theorem bindingTarget_bindingLine (named : Text.isName name = true) (kind : OperationKind) :
    Line.bindingTarget (bindingLine kind name) = String.ofList name := by
  have before : ':' ∉ ' ' :: ' ' :: kind.name.toList := by
    cases kind <;> decide
  have trimmed : Text.trim (' ' :: name) = name := by
    have between := @Text.Flush.trim_between _ [' '] [] (Text.flush_of_isName named)
      (Text.blank_spaces 1) (Text.blank_spaces 0)
    simpa using between
  have after := @Text.after?_append _ (' ' :: name) _ before
  rw [Line.bindingTarget, bindingLine]
  simp only [List.cons_append] at after
  rw [after]
  exact congrArg String.ofList trimmed

theorem unionMembers_joinMembers {members : List (List Char)}
    (named : ∀ member ∈ members, Text.isName member = true) :
    Line.unionMembers (' ' :: joinMembers members) = members.map String.ofList := by
  induction members with
  | nil => decide
  | cons member later inductionHypothesis =>
      rw [List.forall_mem_cons] at named
      have flush := Text.flush_of_isName named.1
      have something : member.isEmpty = false := by
        obtain ⟨c, rest, rfl, -⟩ := Text.exists_cons_of_isName named.1
        rfl
      have noBar : '|' ∉ ' ' :: member := by
        rw [List.mem_cons, not_or]
        exact ⟨by decide, Text.not_mem_name named.1 (by decide)⟩
      cases later with
      | nil =>
          have trimmed := @Text.Flush.trim_between _ [' '] [] flush (Text.blank_spaces 1)
            (Text.blank_spaces 0)
          simp only [List.append_nil, List.cons_append, List.nil_append] at trimmed
          simp [Line.unionMembers, joinMembers, Text.split_of_not_mem noBar, trimmed, something]
      | cons next rest =>
          have noBarAfter : '|' ∉ ' ' :: (member ++ [' ']) := by
            have apart := noBar
            rw [List.mem_cons, not_or] at apart
            simp [apart.2]
          have cut := @Text.split_append _ (' ' :: joinMembers (next :: rest)) _ noBarAfter
          have trimmed := @Text.Flush.trim_between _ [' '] [' '] flush (Text.blank_spaces 1)
            (Text.blank_spaces 1)
          simp only [List.append_assoc, List.cons_append, List.nil_append] at cut trimmed
          have others := inductionHypothesis named.2
          have joined : joinMembers (member :: next :: rest) =
              member ++ ' ' :: '|' :: ' ' :: joinMembers (next :: rest) := rfl
          rw [Line.unionMembers] at others
          rw [Line.unionMembers, joined, cut, List.map_cons, trimmed,
            List.filter_cons_of_pos (by simp [something]), List.map_cons, others]
          rfl

theorem unionDefinition_unionLine (named : Text.isName name = true) {members : List (List Char)}
    (membersNamed : ∀ member ∈ members, Text.isName member = true) :
    Line.unionDefinition (unionLine name members) =
      (String.ofList name, members.map String.ofList) := by
  have split := @splitDefinition?_append "union" _ (' ' :: '=' :: ' ' :: joinMembers members)
    (by decide) named (Text.nameEnds_cons (by decide))
  have spaced : (' ' :: '=' :: ' ' :: joinMembers members).dropWhile Text.isBlank =
      '=' :: ' ' :: joinMembers members := by
    rw [List.dropWhile_cons_of_pos (by decide), List.dropWhile_cons_of_neg (by decide)]
  have inline : (' ' :: joinMembers members).contains '\n' = false := by
    have absent := not_mem_joinMembers membersNamed (c := '\n') (by decide) (by decide) (by decide)
    simp [absent]
  rw [unionLine, Line.unionDefinition, split]
  simp only [spaced, inline, Bool.false_eq_true, if_false, unionMembers_joinMembers membersNamed]

end Parts

theorem enumValue_valueLine {value : String} (named : Text.isName value.toList = true) :
    Line.enumValue (valueLine value) = value.toList := by
  have noDirective : '@' ∉ valueLine value := by
    simp only [valueLine, List.mem_cons, not_or]
    exact ⟨by decide, by decide, Text.not_mem_name named (by decide)⟩
  have between := @Text.Flush.trim_between _ [' ', ' '] [] (Text.flush_of_isName named)
    (Text.blank_spaces 2) (Text.blank_spaces 0)
  rw [Line.enumValue, Text.before_of_not_mem noDirective]
  simpa [valueLine] using between

end SdlProjection
