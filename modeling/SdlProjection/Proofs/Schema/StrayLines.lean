import SdlProjection.Proofs.Fragment.Displacement
import SdlProjection.Proofs.Fragment.Quiet

/-!
Contract: lines in the body of an object that begin no field.

Owns: `Line.Stray`, a line that can neither be passed over nor begin a name;
`Glued`, a declaration that such a line has begun, which no further line can save;
and `Fragment.parse_stray`, which of the two becomes of a stray line: it is
reported and the rest is read as if it were absent, or it fails together with the
lines after it.

Does not own: how readings with and without a line are compared
(`Proofs.Fragment.Displacement`).
-/

namespace SdlProjection

open Fragment

/-- A line that is not blank, neither a comment nor a description nor a closing brace, and does not
begin with a name. -/
structure Line.Stray (line : List Char) : Prop where
  ordinary : (classify (Text.trim line)).ordinary = true
  noName : ∃ c rest, Text.trim line = c :: rest ∧ Text.isNameStart c = false

/-- A stray line that no argument list can begin on. -/
def Line.Skipped (line : List Char) : Prop :=
  classify (Text.trim line) = .unmatched ∧ '(' ∉ Text.trim line

instance (line : List Char) : Decidable (Line.Skipped line) :=
  inferInstanceAs (Decidable (_ ∧ _))

/-! ### Declarations without a name -/

namespace Text

theorem exists_trim_cons {c : Char} (solid : isBlank c = false) (rest : List Char) :
    ∃ later, trim (c :: rest) = c :: later := by
  rw [trim, List.dropWhile_cons_of_neg (by simp [solid]), dropEndWhile]
  split
  · rw [solid]
    exact ⟨[], rfl⟩
  · exact ⟨_, rfl⟩

theorem prefix_joinSpaced (lead : List Char) (later : List (List Char)) :
    lead <+: joinSpaced (lead :: later) := by
  cases later with
  | nil => exact List.prefix_rfl
  | cons next later => exact List.prefix_append lead _

end Text

/-- A declaration that does not begin with a name is refused, directives or not. -/
theorem Field.parse_of_noName {c : Char} {rest : List Char} (solid : Text.isBlank c = false)
    (noName : Text.isNameStart c = false) :
    Field.parse (c :: rest) = .error (.malformedDeclaration (String.ofList (c :: rest))) := by
  have kept : ∃ later, beforeDirectives 0 false (c :: rest) = c :: later :=
    ⟨_, by rw [beforeDirectives, if_neg (by simp)]⟩
  obtain ⟨before, cut⟩ := kept
  obtain ⟨later, trimmed⟩ := Text.exists_trim_cons solid before
  have noSplit : split? (essence (c :: rest)) = none := by
    rw [essence, cut, trimmed, split?, List.dropWhile_cons_of_neg (by simp [solid])]
    simp only [Text.splitName?, noName, Bool.false_eq_true, if_false]
  simp only [Field.parse, noSplit]
  cases classifyField? (essence (c :: rest)) <;> rfl

/-- A declaration has failed that begins with the given text and ends with the given line or a later
one. -/
def Block.FailedOn (lead : List Char) (least : Nat) (block : Block) : Prop :=
  ∃ declaration number, lead <+: declaration ∧ least ≤ number ∧
    block = .failed (.malformedDeclaration (String.ofList declaration)) number

/-- The declaration that begins with the given text is still being put together, or has failed. -/
inductive Glued (lead : List Char) (least : Nat) : Block → Prop
  | pending (body : Body) {declaration : Pending} (later : List (List Char)) :
      declaration.parts = lead :: later → least ≤ declaration.number →
      Glued lead least (.body body (some declaration))
  | failed {block : Block} : block.FailedOn lead least → Glued lead least block

section Gluing

variable {fragment : Fragment} {file : Option String} {stray line : List Char}
  {number least : Nat}

/-! ### One line -/

/-- What a stray line has begun fails wherever it ends. -/
theorem Line.Stray.failedOn_declare (isStray : Line.Stray stray) (fragment : Fragment)
    (body : Body) (later : List (List Char)) (behind : least ≤ number) :
    (fragment.declare body (Text.joinSpaced (Text.trim stray :: later))
      number).block.FailedOn (Text.trim stray) least := by
  obtain ⟨c, rest, trimmed, noName⟩ := isStray.noName
  have solid := (Text.flush_trim stray).first c rest trimmed
  have isPrefix := Text.prefix_joinSpaced (Text.trim stray) later
  have fails : Field.parse (Text.joinSpaced (Text.trim stray :: later)) =
      .error (.malformedDeclaration
        (String.ofList (Text.joinSpaced (Text.trim stray :: later)))) := by
    obtain ⟨more, joined⟩ := isPrefix
    rw [← joined, trimmed, List.cons_append]
    exact Field.parse_of_noName solid noName
  simp only [Fragment.declare, fails]
  exact ⟨_, number, isPrefix, behind, rfl⟩

theorem Line.Stray.glued_continueDeclaration (isStray : Line.Stray stray) (fragment : Fragment)
    (body : Body) {pending : Option Pending} {later : List (List Char)}
    (begun : (pending.getD .nothing).parts ++ [line] = Text.trim stray :: later)
    (behind : least ≤ number) :
    Glued (Text.trim stray) least
      (fragment.continueDeclaration body pending line number).block := by
  simp only [Fragment.continueDeclaration, Pending.extend, begun]
  split
  · exact .failed (isStray.failedOn_declare fragment body later behind)
  · exact .pending body later rfl behind

theorem Line.Stray.failedOn_endDeclaration (isStray : Line.Stray stray) (fragment : Fragment)
    (body : Body) {declaration : Pending} {later : List (List Char)}
    (begun : declaration.parts = Text.trim stray :: later) (behind : least ≤ declaration.number) :
    (fragment.endDeclaration body (some declaration)).close.block.FailedOn (Text.trim stray)
      least := by
  have failed := isStray.failedOn_declare fragment body later behind
  rw [Fragment.endDeclaration, begun]
  obtain ⟨whole, number, isPrefix, bound, same⟩ := failed
  refine ⟨whole, number, isPrefix, bound, ?_⟩
  simp only [Fragment.close, same]

theorem remark?_block {remarked : Fragment} {kind : LineKind} {text : List Char}
    (remarks : fragment.remark? kind text = some remarked) : remarked.block = fragment.block := by
  simp only [Fragment.remark?] at remarks
  split at remarks <;> cases remarks <;> rfl

theorem describe_block (fragment : Fragment) (parts : List (List Char)) (line : List Char) :
    (fragment.describe parts line).block = fragment.block := by
  simp only [Fragment.describe]
  split <;> rfl

/-- No line saves the declaration, and none of its lines is reported. -/
theorem Line.Stray.glued_step (isStray : Line.Stray stray)
    (glued : Glued (Text.trim stray) least fragment.block) (behind : least ≤ number) :
    Glued (Text.trim stray) least (fragment.step file line number).block ∧
      (fragment.step file line number).journal.diagnostics = fragment.journal.diagnostics := by
  cases described : fragment.description with
  | some parts =>
      rw [step_of_description described, describe_block]
      exact ⟨glued, (quiet_describe fragment parts line).diagnostics⟩
  | none =>
      generalize opened : fragment.block = block at glued
      cases glued with
      | failed failed =>
          obtain ⟨declaration, last, isPrefix, bound, rfl⟩ := failed
          rw [step_of_failed described opened, opened]
          exact ⟨.failed ⟨declaration, last, isPrefix, bound, rfl⟩, rfl⟩
      | @pending body declaration later begun bound =>
          rw [step_of_body described opened]
          rcases fragment.quiet_or_report_bodyStep file body (some declaration) number line with
            quiet | ⟨noDeclaration, -⟩
          · refine ⟨?_, quiet.diagnostics⟩
            simp only [bodyStep, Option.isNone_some, Bool.false_eq_true, false_and, if_false]
            split
            · exact .failed (isStray.failedOn_endDeclaration fragment body begun bound)
            · split
              · next remarked remarks =>
                  rw [remark?_block remarks, opened]
                  exact .pending body later begun bound
              · split
                · rw [opened]
                  exact .pending body later begun bound
                · have extended : ((some declaration).getD .nothing).parts ++ [Text.trim line] =
                      Text.trim stray :: (later ++ [Text.trim line]) := by simp [begun]
                  exact isStray.glued_continueDeclaration fragment body extended behind
          · cases noDeclaration

/-! ### All lines -/

theorem Line.Stray.glued_feed (isStray : Line.Stray stray) {lines : List (List Char)}
    (glued : Glued (Text.trim stray) least fragment.block) (behind : least ≤ number) :
    Glued (Text.trim stray) least (fragment.feed file number lines).block ∧
      (fragment.feed file number lines).journal.diagnostics = fragment.journal.diagnostics := by
  induction lines generalizing fragment number with
  | nil => exact ⟨glued, rfl⟩
  | cons line lines inductionHypothesis =>
      obtain ⟨next, silent⟩ := @glued_step fragment file stray line number least isStray glued behind
      obtain ⟨last, silentLater⟩ := inductionHypothesis next (Nat.le_succ_of_le behind)
      rw [feed_cons]
      exact ⟨last, silentLater.trans silent⟩

/-- At the end at the latest, the declaration fails. -/
theorem Line.Stray.failedOn_finish (isStray : Line.Stray stray)
    (glued : Glued (Text.trim stray) least fragment.block) :
    fragment.finish.block.FailedOn (Text.trim stray) least := by
  have closed : ∀ state : Fragment, Glued (Text.trim stray) least state.block →
      state.closeOpen.block.FailedOn (Text.trim stray) least := by
    intro state glued
    generalize opened : state.block = block at glued
    cases glued with
    | pending body later begun bound =>
        simp only [closeOpen, opened]
        exact isStray.failedOn_endDeclaration state body begun bound
    | failed failed =>
        obtain ⟨declaration, last, isPrefix, bound, rfl⟩ := failed
        refine ⟨declaration, last, isPrefix, bound, ?_⟩
        simp only [closeOpen, close, opened]
  cases described : fragment.description with
  | none =>
      rw [finish_of_no_description described]
      exact closed fragment glued
  | some parts =>
      rw [finish_of_description described]
      exact closed _ glued

/-! ### The stray line itself -/

section Between

variable {name : String} {fields : List (String × TypeModel)} {schema : Schema}
  {reported : List Diagnostic}
  (stands : fragment.Stands (.body (.object name fields) none) schema reported)
include stands

theorem Line.Stray.step_eq (isStray : Line.Stray line) :
    fragment.step file line number =
      if Line.Skipped line then fragment.report file number (Text.trim line)
      else fragment.continueDeclaration (.object name fields) none (Text.trim line) number := by
  obtain ⟨c, rest, trimmed, -⟩ := isStray.noName
  have notBrace : classify (Text.trim line) ≠ .closingBrace := by
    intro closing
    have ordinary := isStray.ordinary
    rw [closing] at ordinary
    cases ordinary
  have noRemark := remark?_of_ordinary isStray.ordinary fragment (Text.trim line)
  have something : (Text.trim line).isEmpty = false := by rw [trimmed, List.isEmpty_cons]
  have skips : ((none : Option Pending).isNone = true ∧ classify (Text.trim line) = .unmatched ∧
      (Text.trim line).contains '(' = false) ↔ Line.Skipped line := by
    simp [Line.Skipped]
  rw [step_of_body stands.description stands.block]
  simp only [bodyStep, if_neg notBrace, noRemark, something, Bool.false_eq_true, if_false]
  exact if_congr skips rfl rfl

/-- A line that is skipped leaves nothing but its diagnostic. -/
theorem Line.Stray.stands_of_skipped (isStray : Line.Stray line) (skipped : Line.Skipped line) :
    (fragment.step file line number).Stands (.body (.object name fields) none) schema
      (reported ++ [⟨file, number, String.ofList (Text.trim line)⟩]) := by
  obtain ⟨c, rest, trimmed, -⟩ := isStray.noName
  have something : (Text.trim (Text.trim line)).isEmpty = false := by
    rw [Text.trim_trim, trimmed, List.isEmpty_cons]
  rw [isStray.step_eq stands, if_pos skipped, Fragment.report, something]
  refine ⟨stands.description, stands.block, stands.schema, ?_⟩
  rw [← stands.reported]
  rfl

/-- Any other stray line begins a declaration. -/
theorem Line.Stray.glued_of_not_skipped (isStray : Line.Stray line)
    (notSkipped : ¬Line.Skipped line) :
    Glued (Text.trim line) number (fragment.step file line number).block ∧
      (fragment.step file line number).journal.diagnostics = reported := by
  rw [isStray.step_eq stands, if_neg notSkipped]
  have begun : ((none : Option Pending).getD .nothing).parts ++ [Text.trim line] =
      Text.trim line :: [] := rfl
  have quiet := quiet_continueDeclaration fragment (.object name fields) none (Text.trim line) number
  exact ⟨isStray.glued_continueDeclaration fragment _ begun (Nat.le_refl number),
    quiet.diagnostics.trans stands.reported⟩

end Between

end Gluing

namespace Fragment

section Readings

variable {cursor : Cursor} {front back : List (List Char)} {line : List Char} {name : String}
  {fields : List (String × TypeModel)} {schema : Schema} {reported : List Diagnostic}

/-- With a line that is skipped, the reading stays in step with the one without it. -/
theorem lockstep_skipped (bindings : Schema) (journal : Journal) (isStray : Line.Stray line)
    (lines : cursor.rest = front ++ line :: back)
    (stands : (after cursor bindings journal front).Stands (.body (.object name fields) none)
      schema reported) (skipped : Line.Skipped line) :
    Lockstep (displacement cursor.file reported
        (reported ++
          [⟨cursor.file, cursor.lineNumber + front.length, String.ofList (Text.trim line)⟩])
        (shifted (cursor.passed.length + front.length) 1))
      ((start bindings journal).run { cursor with rest := front ++ back })
      ((start bindings journal).run cursor) := by
  have numbered : cursor.lineNumber + front.length = cursor.passed.length + front.length + 1 :=
    Nat.add_right_comm _ _ _
  have stands' := @Line.Stray.stands_of_skipped _ cursor.file line
    (cursor.lineNumber + front.length) _ _ _ _ stands isStray skipped
  have started := @Stands.lockstep _ _ _ _ _ _ stands stands'
    (shifted (cursor.passed.length + front.length) 1) rfl cursor.file
  have fed := started.feed_shifted back
  rw [← numbered] at fed
  rw [run_eq_after, run_eq_after, lines, after_append, after_append, feed_cons]
  exact fed.finish

/-- With any other stray line, the reading fails. -/
theorem failedOn_run (bindings : Schema) (journal : Journal) (isStray : Line.Stray line)
    (lines : cursor.rest = front ++ line :: back)
    (stands : (after cursor bindings journal front).Stands (.body (.object name fields) none)
      schema reported) (notSkipped : ¬Line.Skipped line) :
    ((start bindings journal).run cursor).block.FailedOn (Text.trim line)
        (cursor.lineNumber + front.length) ∧
      ((start bindings journal).run cursor).journal.diagnostics = reported := by
  obtain ⟨begun, silent⟩ := @Line.Stray.glued_of_not_skipped _ cursor.file line
    (cursor.lineNumber + front.length) _ _ _ _ stands isStray notSkipped
  obtain ⟨fed, silentLater⟩ := @Line.Stray.glued_feed _ cursor.file line
    (cursor.lineNumber + front.length + 1) _ isStray back begun (Nat.le_succ _)
  rw [run_eq_after, lines, after_append, feed_cons]
  exact ⟨isStray.failedOn_finish fed, ((quiet_finish _).diagnostics.trans silentLater).trans silent⟩

/-- What becomes of a stray line between the fields of an object. If it is an unmatched line without
an opening parenthesis, it is reported, and the other lines are read as if it were absent. Otherwise
it is taken for the start of a declaration, and that declaration fails, whatever follows. -/
theorem parse_stray (bindings : Schema) (journal : Journal) (isStray : Line.Stray line)
    (lines : cursor.rest = front ++ line :: back)
    (stands : (after cursor bindings journal front).Stands (.body (.object name fields) none)
      schema reported) :
    (Line.Skipped line →
      (parse cursor bindings journal).1 =
          (parse { cursor with rest := front ++ back } bindings journal).1.mapError
            (FragmentError.renumbered (shifted (cursor.passed.length + front.length) 1)) ∧
        ∃ later, (parse { cursor with rest := front ++ back } bindings journal).2.diagnostics =
            reported ++ later ∧
          (parse cursor bindings journal).2.diagnostics = reported ++
            ⟨cursor.file, cursor.lineNumber + front.length, String.ofList (Text.trim line)⟩ ::
              later.map
                (Diagnostic.renumbered (shifted (cursor.passed.length + front.length) 1))) ∧
    (¬Line.Skipped line → ∃ declaration number,
      Text.trim line <+: declaration ∧ cursor.lineNumber + front.length ≤ number ∧
        (parse cursor bindings journal).1 =
          .error ⟨cursor.file, number, .malformedDeclaration (String.ofList declaration)⟩ ∧
        (parse cursor bindings journal).2.diagnostics = reported) := by
  constructor
  · intro skipped
    have lockstep := lockstep_skipped bindings journal isStray lines stands skipped
    obtain ⟨same, later, alone, together⟩ := lockstep.parse_renumbered id rfl
    refine ⟨same, later, alone, together.trans ?_⟩
    rw [List.append_assoc]
    rfl
  · intro notSkipped
    obtain ⟨⟨declaration, number, isPrefix, behind, failed⟩, silent⟩ :=
      failedOn_run bindings journal isStray lines stands notSkipped
    rw [parse_of_failed failed]
    exact ⟨declaration, number, isPrefix, behind, rfl, silent⟩

end Readings

/-- An object with the given line before its only field. -/
def directiveLines (directive : List Char) : List (List Char) :=
  ["type Photo \x7b".toList, directive, "id: ID".toList, "\x7d".toList]

theorem stray_keyDirective : Line.Stray "@key(fields: \"id\")".toList :=
  ⟨by decide +kernel, _, _, rfl, by decide⟩

theorem stands_directiveLines (directive : List Char) :
    (after (.ofLines (directiveLines directive)) .empty .empty
      ["type Photo \x7b".toList]).Stands (.body (.object "Photo" []) none)
      (Schema.inheriting .empty) [] := ⟨rfl, rfl, rfl, rfl⟩

/-- A directive without arguments is skipped; one with arguments is not. -/
theorem parse_directiveLines :
    (∃ schema, (parse (.ofLines (directiveLines "@shareable".toList)) .empty .empty).1 =
          .ok schema ∧ schema.types.keys = ["Photo"]) ∧
      (parse (.ofLines (directiveLines "@shareable".toList)) .empty .empty).2.diagnostics =
        [⟨none, 2, "@shareable"⟩] ∧
      ∃ declaration number, "@key(fields: \"id\")".toList <+: declaration ∧ 2 ≤ number ∧
        (parse (.ofLines (directiveLines "@key(fields: \"id\")".toList)) .empty .empty).1 =
          .error ⟨none, number, .malformedDeclaration (String.ofList declaration)⟩ := by
  have shareable : Line.Stray "@shareable".toList := ⟨by decide +kernel, _, _, rfl, by decide⟩
  have without : ∃ schema, (parse (.ofLines ["type Photo \x7b".toList, "id: ID".toList,
      "\x7d".toList]) .empty .empty).1 = .ok schema ∧ schema.types.keys = ["Photo"] :=
    ⟨_, rfl, rfl⟩
  obtain ⟨schema, read, keys⟩ := without
  obtain ⟨same, later, reported, reported'⟩ :=
    (@parse_stray (.ofLines (directiveLines "@shareable".toList)) ["type Photo \x7b".toList]
      ["id: ID".toList, "\x7d".toList] _ _ _ _ _ .empty .empty shareable rfl
      (stands_directiveLines _)).1
      ⟨by decide +kernel, by decide⟩
  obtain ⟨declaration, number, isPrefix, behind, failed, -⟩ :=
    (@parse_stray (.ofLines (directiveLines "@key(fields: \"id\")".toList))
      ["type Photo \x7b".toList] ["id: ID".toList, "\x7d".toList] _ _ _ _ _ .empty .empty
      stray_keyDirective rfl (stands_directiveLines _)).2 (by decide +kernel)
  have nothing : later = [] := reported.symm
  refine ⟨⟨schema, ?_, keys⟩, ?_, declaration, number, isPrefix, behind, failed⟩
  · rw [same]
    exact congrArg (Except.mapError _) read
  · rw [reported', nothing]
    rfl

/-- The stray line takes the field after it with it. Without the line, the field is read. -/
theorem parse_keyDirective :
    Line.Stray "@key(fields: \"id\")".toList ∧
      (after (.ofLines (directiveLines "@key(fields: \"id\")".toList)) .empty .empty
        ["type Photo \x7b".toList]).Stands (.body (.object "Photo" []) none)
        (Schema.inheriting .empty) [] ∧
      (∃ schema, (parse (.ofLines ["type Photo \x7b".toList, "id: ID".toList, "\x7d".toList])
        .empty .empty).1 = .ok schema) ∧
      parse (.ofLines (directiveLines "@key(fields: \"id\")".toList)) .empty .empty =
        (.error ⟨none, 3, .malformedDeclaration "@key(fields: \"id\") id: ID"⟩,
          ⟨[], [⟨.trace, "ln 1: ObjectDefinition"⟩]⟩) := by
  exact ⟨stray_keyDirective, stands_directiveLines _, ⟨_, rfl⟩, rfl⟩

end Fragment

end SdlProjection
