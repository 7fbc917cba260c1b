import SdlProjection.Proofs.Fragment.Moves
import SdlProjection.Proofs.Fragment.Quiet

/-!
Contract: which lines of a fragment are reported.

Owns: `Cursor.Reports`, what every list of diagnostics that a reading leaves is
like: each quotes the line of its number, and the numbers increase. A line
reports at most itself, and then no declaration is being put together, so that
a declaration that fails ends behind all lines that were reported.

Does not own: diagnostics from before the fragment (`Proofs.Schema.Session`).
-/

namespace SdlProjection

/-- Diagnostics of lines at or after a cursor's place, in order, none of them twice. Each quotes
its line, with the blanks around it or without them, and has more than blanks to quote. -/
structure Cursor.Reports (cursor : Cursor) (diagnostics : List Diagnostic) : Prop where
  increasing : diagnostics.Pairwise fun earlier later => earlier.number < later.number
  located : ∀ diagnostic ∈ diagnostics, diagnostic.file = cursor.file ∧
    cursor.lineNumber ≤ diagnostic.number ∧ diagnostic.number ≤ cursor.lines.length
  quoted : ∀ diagnostic ∈ diagnostics, Text.trim diagnostic.line.toList ≠ [] ∧
    ∃ line, cursor.line? diagnostic.number = some line ∧
      (diagnostic.line = String.ofList line ∨ diagnostic.line = String.ofList (Text.trim line))

/-- The number of the declaration that is being put together, or of the one that has failed. -/
def Block.numbers : Block → List Nat
  | .body _ (some pending) => [pending.number]
  | .failed _ number => [number]
  | .top | .body _ none | .enumeration _ _ | .union _ _ => []

namespace Cursor

variable {cursor : Cursor} {line : List Char}

theorem number_le_of_line? {number : Nat} (isLine : cursor.line? number = some line) :
    number ≤ cursor.lines.length := by
  cases number with
  | zero => exact Nat.zero_le _
  | succ index => exact (List.getElem?_eq_some_iff.mp isLine).1

theorem line?_rest {index : Nat} (isLine : cursor.rest[index]? = some line) :
    cursor.line? (cursor.lineNumber + index) = some line := by
  have number : cursor.lineNumber + index = cursor.passed.reverse.length + index + 1 := by
    simp only [lineNumber, List.length_reverse]
    omega
  rw [number, line?, lines, List.getElem?_append_right (Nat.le_add_right _ _),
    Nat.add_sub_cancel_left, isLine]

end Cursor

namespace Fragment

/-- What a line adds to the diagnostics: nothing, or itself, and then the block has no number. -/
inductive LineReport (file : Option String) (line : List Char) (number : Nat)
    (before after : Fragment) : Prop
  | silent : after.journal.diagnostics = before.journal.diagnostics →
      LineReport file line number before after
  | reported {text : List Char} : text = line ∨ text = Text.trim line → Text.trim text ≠ [] →
      after.journal.diagnostics =
        before.journal.diagnostics ++ [⟨file, number, String.ofList text⟩] →
      after.block.numbers = [] → LineReport file line number before after

section Steps

variable {fragment : Fragment} {file : Option String} {line : List Char} {number : Nat}

/-! ### One line -/

theorem lineReport_report {text : List Char} (isLine : text = line ∨ text = Text.trim line)
    (free : fragment.block.numbers = []) :
    LineReport file line number fragment (fragment.report file number text) := by
  simp only [report]
  split
  · exact .silent rfl
  · next notBlank =>
      refine .reported isLine ?_ rfl free
      simpa using notBlank

theorem Quiet.lineReport {next : Fragment} (quiet : Quiet fragment next) :
    LineReport file line number fragment next :=
  .silent quiet.diagnostics

theorem lineReport_bodyStep {body : Body} {pending : Option Pending}
    (opened : fragment.block = .body body pending) :
    LineReport file line number fragment (fragment.bodyStep file body pending number line) := by
  rcases fragment.quiet_or_report_bodyStep file body pending number line with
    quiet | ⟨rfl, reports⟩
  · exact quiet.lineReport
  · rw [reports]
    exact lineReport_report (.inr rfl) (by rw [opened]; rfl)

theorem lineReport_topStep (top : fragment.block = .top) :
    LineReport file line number fragment (fragment.topStep file number line) := by
  simp only [topStep]
  cases classify line with
  | comment | oneLineBlockDescription | blockDescriptionMarker | description => exact .silent rfl
  | schemaOpener | closingBrace | rootBinding _ | operationOpener _ => exact .silent rfl
  | scalarDefinition | unionDefinition | enumOpener => exact .silent rfl
  | objectOpener =>
      dsimp only
      split
      · exact .silent rfl
      · exact .silent rfl
  | field _ | unionMember | unmatched =>
      have noted : ∀ message, LineReport file line number fragment
          ((fragment.note .trace message).report file number line) := by
        intro message
        have free : (fragment.note .trace message).block.numbers = [] := by
          show fragment.block.numbers = []
          rw [top]
          rfl
        rcases lineReport_report (Or.inl rfl) free with same | ⟨isLine, notBlank, added, still⟩
        · exact .silent same
        · exact .reported isLine notBlank added still
      exact noted _

theorem lineReport_step (fragment : Fragment) (file : Option String) (line : List Char)
    (number : Nat) : LineReport file line number fragment (fragment.step file line number) := by
  cases described : fragment.description with
  | some parts =>
      rw [step_of_description described]
      exact (quiet_describe fragment parts line).lineReport
  | none =>
      cases opened : fragment.block with
      | top =>
          rw [step_of_top described opened]
          exact lineReport_topStep opened
      | body body pending =>
          rw [step_of_body described opened]
          exact lineReport_bodyStep opened
      | enumeration name values =>
          rw [step_of_enumeration described opened]
          exact (quiet_enumStep fragment name values line).lineReport
      | failed cause last =>
          rw [step_of_failed described opened]
          exact .silent rfl
      | union name members =>
          rw [step_of_union described opened]
          split
          · exact .silent rfl
          · have closedTop := close_block_of_union fragment opened
            have same := (quiet_close fragment).diagnostics
            rcases @lineReport_topStep fragment.close file line number closedTop with
              silent | ⟨isLine, notBlank, added, free⟩
            · exact .silent (silent.trans same)
            · exact .reported isLine notBlank (added.trans (by rw [same])) free

/-! ### The numbers of blocks -/

theorem numbers_close (fragment : Fragment) :
    ∀ held ∈ fragment.close.block.numbers, held ∈ fragment.block.numbers := by
  rcases fragment.close_block with top | ⟨cause, last, failed, same⟩
  · rw [top]
    exact fun _ member => absurd member List.not_mem_nil
  · rw [same]
    exact fun _ member => member

/-- A number of a block is that of the line, or was there before. -/
theorem numbers_of_move {state next : Fragment} (move : Move file line number state next) :
    ∀ held ∈ next.block.numbers, held = number ∨ held ∈ state.block.numbers := by
  cases move with
  | note | describe | bind | addScalar => exact fun _ member => .inr member
  | report _ =>
      simp only [report]
      split
      · exact fun _ member => .inr member
      · exact fun _ member => .inr member
  | openBlock top opens => cases opens <;> exact fun _ member => absurd member List.not_mem_nil
  | pend parts depth opened => exact fun _ member => .inl (List.mem_singleton.mp member)
  | addField | addOperation | addValue | addMembers =>
      exact fun _ member => absurd member List.not_mem_nil
  | @fail body pending declaration cause last opened failed located =>
      intro held member
      obtain rfl : held = last := List.mem_singleton.mp member
      rcases located with same | ⟨earlier, isPending, rfl⟩
      · exact .inl same
      · obtain rfl : pending = some earlier := isPending
        rw [opened]
        exact .inr (List.mem_singleton.mpr rfl)
  | close => exact fun held member => .inr (numbers_close state held member)

theorem numbers_of_moves {state next : Fragment} (moves : Moves file line number state next) :
    ∀ held ∈ next.block.numbers, held = number ∨ held ∈ state.block.numbers := by
  induction moves with
  | refl => exact fun _ member => .inr member
  | tail _ move inductionHypothesis =>
      intro held member
      rcases numbers_of_move move held member with same | before
      · exact .inl same
      · exact inductionHypothesis held before

end Steps

/-! ### Whole readings -/

/-- All that was reported is before the given number, and before any declaration that is being
put together or has failed. -/
structure Reporting (cursor : Cursor) (bound : Nat) (fragment : Fragment) : Prop where
  reports : cursor.Reports fragment.journal.diagnostics
  below : ∀ diagnostic ∈ fragment.journal.diagnostics, diagnostic.number < bound
  ahead : ∀ diagnostic ∈ fragment.journal.diagnostics, ∀ held ∈ fragment.block.numbers,
    diagnostic.number < held

section Readings

variable {cursor : Cursor} {fragment : Fragment} {number : Nat}

/-- What a line or the end does to the block keeps its numbers behind the diagnostics. -/
theorem Reporting.ahead_of_moves (reporting : Reporting cursor number fragment)
    {file : Option String} {line : List Char} {next : Fragment}
    (moves : Moves file line number fragment next) :
    ∀ diagnostic ∈ fragment.journal.diagnostics, ∀ held ∈ next.block.numbers,
      diagnostic.number < held := by
  intro diagnostic member held isHeld
  rcases numbers_of_moves moves held isHeld with rfl | before
  · exact reporting.below diagnostic member
  · exact reporting.ahead diagnostic member held before

/-- The line of a number, read with that number, is reported once at most. -/
theorem Reporting.step (reporting : Reporting cursor number fragment)
    (started : cursor.lineNumber ≤ number) {line : List Char}
    (isLine : cursor.line? number = some line) :
    Reporting cursor (number + 1) (fragment.step cursor.file line number) := by
  have ahead := reporting.ahead_of_moves (moves_step fragment cursor.file line number)
  obtain ⟨⟨increasing, located, quoted⟩, below, -⟩ := reporting
  rcases lineReport_step fragment cursor.file line number with
    silent | ⟨isText, notBlank, added, free⟩
  · rw [← silent] at increasing located quoted below ahead
    exact ⟨⟨increasing, located, quoted⟩,
      fun diagnostic member => Nat.lt_succ_of_lt (below diagnostic member), ahead⟩
  · refine ⟨⟨?_, ?_, ?_⟩, ?_, ?_⟩
    · rw [added, List.pairwise_append]
      refine ⟨increasing, List.pairwise_singleton _ _, ?_⟩
      intro earlier member last isLast
      rw [List.mem_singleton.mp isLast]
      exact below earlier member
    · rw [added, List.forall_mem_append]
      refine ⟨located, ?_⟩
      rw [List.forall_mem_singleton]
      exact ⟨rfl, started, cursor.number_le_of_line? isLine⟩
    · rw [added, List.forall_mem_append]
      refine ⟨quoted, ?_⟩
      rw [List.forall_mem_singleton]
      refine ⟨by simpa using notBlank, line, isLine, ?_⟩
      rcases isText with rfl | rfl
      · exact .inl rfl
      · exact .inr rfl
    · rw [added, List.forall_mem_append]
      refine ⟨fun diagnostic member => Nat.lt_succ_of_lt (below diagnostic member), ?_⟩
      rw [List.forall_mem_singleton]
      exact Nat.lt_succ_self number
    · rw [free]
      exact fun _ _ _ isHeld => absurd isHeld List.not_mem_nil

theorem Reporting.feed (reporting : Reporting cursor number fragment)
    (started : cursor.lineNumber ≤ number) {lines : List (List Char)}
    (numbered : ∀ index line, lines[index]? = some line →
      cursor.line? (number + index) = some line) :
    Reporting cursor (number + lines.length) (fragment.feed cursor.file number lines) := by
  induction lines generalizing fragment number with
  | nil => exact reporting
  | cons line lines inductionHypothesis =>
      have first : cursor.line? number = some line := numbered 0 line rfl
      have next := reporting.step started first
      rw [feed_cons, List.length_cons, Nat.add_comm lines.length, ← Nat.add_assoc]
      refine inductionHypothesis next (Nat.le_succ_of_le started) ?_
      intro index later isLater
      rw [Nat.add_assoc, Nat.add_comm 1]
      exact numbered (index + 1) later isLater

theorem Reporting.finish (reporting : Reporting cursor number fragment) :
    Reporting cursor number fragment.finish := by
  have ahead := reporting.ahead_of_moves (moves_finish fragment cursor.file [] number)
  have same := (quiet_finish fragment).diagnostics
  obtain ⟨reports, below, -⟩ := reporting
  rw [← same] at reports below ahead
  exact ⟨reports, below, ahead⟩

/-- A reading that starts without diagnostics leaves those of its own lines. -/
theorem reporting_run (cursor : Cursor) (bindings : Schema) {journal : Journal}
    (fresh : journal.diagnostics = []) :
    Reporting cursor (cursor.lineNumber + cursor.rest.length)
      ((start bindings journal).run cursor) := by
  have started : Reporting cursor cursor.lineNumber (start bindings journal) := by
    have noDiagnostics : (start bindings journal).journal.diagnostics = [] := fresh
    refine ⟨⟨?_, ?_, ?_⟩, ?_, ?_⟩ <;> rw [noDiagnostics]
    · exact .nil
    · exact fun _ member => absurd member List.not_mem_nil
    · exact fun _ member => absurd member List.not_mem_nil
    · exact fun _ member => absurd member List.not_mem_nil
    · exact fun _ member => absurd member List.not_mem_nil
  rw [run_eq_feed]
  exact (started.feed (Nat.le_refl _) fun index line => cursor.line?_rest).finish

/-- What the reading of one fragment reports. If a declaration fails, it ends behind all lines that
were reported. -/
theorem reports_of_parse (cursor : Cursor) (bindings : Schema) {journal : Journal}
    (fresh : journal.diagnostics = []) :
    cursor.Reports (parse cursor bindings journal).2.diagnostics ∧
      ∀ error, (parse cursor bindings journal).1 = .error error → error.file = cursor.file ∧
        ∀ diagnostic ∈ (parse cursor bindings journal).2.diagnostics,
          diagnostic.number < error.number := by
  have reporting := reporting_run cursor bindings fresh
  rcases settled_or_failed_run (start bindings journal) cursor with
    settled | ⟨cause, number, failed⟩
  · rw [parse_of_settled settled]
    exact ⟨reporting.reports, fun error isError => by cases isError⟩
  · have ahead := reporting.ahead
    rw [failed] at ahead
    rw [parse_of_failed failed]
    refine ⟨reporting.reports, ?_⟩
    intro error isError
    obtain rfl := Except.error.inj isError
    exact ⟨rfl, fun diagnostic member => ahead diagnostic member number (List.mem_singleton_self _)⟩

end Readings

end Fragment

end SdlProjection
