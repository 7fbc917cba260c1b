import SdlProjection.Proofs.Body.Assembly
import SdlProjection.Proofs.Fragment.Remarks
import SdlProjection.Proofs.Fragment.Reporting

/-!
Contract: where a declaration fails, and which lines it is made of.

Owns: `Covers`, what some lines of a body come to whatever follows them;
`Refusal`, the lines of a declaration that has failed, found in the lines of
the fragment; `Tracked`, which every line of a reading preserves: the lines of
the declaration that is pending or has failed are known, and those behind its
last line add nothing to it.

Does not own: what is wrong with the declaration (`Model.Field`).
-/

namespace SdlProjection

open Reader (Declaration Begun isRemark)

/-- From a line with the given number on, in a block description or not, the lines come to those
given that matter, and whatever follows them is read on as it is, in a block description or not. -/
def Covers (described : Bool) (number : Nat) (lines : List (List Char))
    (taken : List Declaration) (described' : Bool) : Prop :=
  ∀ more, bodyLines described number (lines ++ more) =
    (bodyLines described' (number + lines.length) more).after taken

section Covers

variable {described described' described'' : Bool} {number : Nat} {line : List Char}
  {lines later : List (List Char)} {taken more : List Declaration}

theorem covers_nil (described : Bool) (number : Nat) : Covers described number [] [] described :=
  fun _ => rfl

theorem Covers.append (covers : Covers described number lines taken described')
    (further : Covers described' (number + lines.length) later more described'') :
    Covers described number (lines ++ later) (taken ++ more) described'' := by
  intro behind
  rw [List.append_assoc, covers, further, List.length_append, Nat.add_assoc]
  simp only [BodyLines.after, List.append_assoc]

/-! ### One line -/

theorem covers_described (number : Nat) (line : List Char) :
    Covers true number [line] [] (classify (Text.trim line) != .blockDescriptionMarker) := by
  intro more
  rw [List.singleton_append, bodyLines]
  rfl

theorem covers_remark (remarks : isRemark (classify (Text.trim line)) = true) (number : Nat) :
    Covers false number [line] [] (classify (Text.trim line) == .blockDescriptionMarker) := by
  intro more
  have notClosing : classify (Text.trim line) ≠ .closingBrace := by
    intro closing
    rw [closing] at remarks
    cases remarks
  rw [List.singleton_append, bodyLines]
  simp only [if_neg notClosing, remarks, if_true]
  rfl

theorem covers_blank (notClosing : classify (Text.trim line) ≠ .closingBrace)
    (notRemark : isRemark (classify (Text.trim line)) = false)
    (blank : (Text.trim line).isEmpty = true) (number : Nat) :
    Covers false number [line] [] false := by
  intro more
  rw [List.singleton_append, bodyLines]
  simp only [if_neg notClosing, notRemark, Bool.false_eq_true, if_false, if_pos blank]
  rfl

theorem covers_solid (notClosing : classify (Text.trim line) ≠ .closingBrace)
    (notRemark : isRemark (classify (Text.trim line)) = false)
    (notBlank : ¬(Text.trim line).isEmpty = true) (number : Nat) :
    Covers false number [line] [(Text.trim line, number)] false := by
  intro more
  rw [List.singleton_append, bodyLines]
  simp only [if_neg notClosing, notRemark, Bool.false_eq_true, if_false, if_neg notBlank]
  rfl

/-- At the brace no line of the body is left. -/
theorem significant_closing (closing : classify (Text.trim line) = .closingBrace) (number : Nat)
    (more : List (List Char)) : (bodyLines false number (line :: more)).significant = [] := by
  rw [bodyLines]
  simp only [if_pos closing]

end Covers

/-- Why the lines of a declaration are no more than these, the last one apart, before the lines
that are left of the body. -/
inductive Body.EndsBefore (body : Body) (left : BodyLines) :
    List Declaration → Declaration → Prop
  /-- A line that begins no declaration is one by itself in a block of operations. -/
  | stray {kind : OperationKind} {line : Declaration} : body = .operations kind →
      Line.Skipped line.1 → EndsBefore body left [] line
  /-- The last line is the first with a colon outside of parentheses. -/
  | separated {front : List Declaration} {last : Declaration} : Begins (front ++ [last]) →
      Unseparated front → Separates front last.1 → EndsBefore body left front last
  /-- The body ends, and no line before its end matters. -/
  | cutShort {front : List Declaration} {last : Declaration} : Begins (front ++ [last]) →
      Unseparated (front ++ [last]) → left.significant = [] → EndsBefore body left front last

namespace Fragment

/-- In a body, between two of its declarations. -/
structure InBody (fragment : Fragment) (body : Body) : Prop where
  block : fragment.block = .body body none
  description : fragment.description = none

section Refusals

variable (cursor : Cursor) (bindings : Schema) (journal : Journal)

/-- The reading stands in a body behind the lines before; of the lines that follow, those that
matter are the given ones, and the last of these is the last of the lines. -/
structure Assembled (before lines : List (List Char)) (body : Body) (front : List Declaration)
    (last : Declaration) : Prop where
  inBody : (after cursor bindings journal before).InBody body
  covers : Covers false (cursor.lineNumber + before.length) lines (front ++ [last]) false
  atLast : ∃ earlier line, lines = earlier ++ [line] ∧
    last = (Text.trim line, cursor.lineNumber + before.length + earlier.length)

/-- A declaration among the given lines that is refused: its lines joined by single spaces are what
no field can be read from, and its last line has the given number. -/
def Refusal (all : List (List Char)) (cause : DeclarationError) (number : Nat) : Prop :=
  ∃ before lines behind body front last, all = before ++ lines ++ behind ∧
    Assembled cursor bindings journal before lines body front last ∧ last.2 = number ∧
    body.EndsBefore (bodyLines false (number + 1) behind) front last ∧
    Field.parse (Text.joinSpaced ((front ++ [last]).map Prod.fst)) = .error cause

/-- A declaration is pending that is made of the lines up to its last one; those behind that one do
not matter. -/
def Underway (read : List (List Char)) (body : Body) (pending : Pending) (described : Bool) :
    Prop :=
  ∃ before lines passed front last, read = before ++ lines ++ passed ∧
    Assembled cursor bindings journal before lines body front last ∧
    Begun (some pending) (front ++ [last]) ∧ Covers false (last.2 + 1) passed [] described

/-- The lines of the declaration that is pending, or of the one that has failed, are known. No
further line takes anything from a failure. -/
structure Tracked (read : List (List Char)) (fragment : Fragment) : Prop where
  pending : ∀ body pending, fragment.block = .body body (some pending) →
    Underway cursor bindings journal read body pending fragment.description.isSome
  failed : ∀ cause number, fragment.block = .failed cause number →
    ∀ more, Refusal cursor bindings journal (read ++ more) cause number

end Refusals

/-! ### One line of a body -/

section Turns

variable {fragment : Fragment} {file : Option String} {body : Body} {pending : Option Pending}
  {number : Nat} {line : List Char}

/-- What a line of a body does, when no description is open. -/
inductive BodyTurn (fragment : Fragment) (body : Body) (pending : Option Pending) (number : Nat)
    (line : List Char) : Fragment → Prop
  | closing : classify (Text.trim line) = .closingBrace →
      BodyTurn fragment body pending number line (fragment.endDeclaration body pending).close
  /-- A blank line, a comment, or the start of a description. -/
  | passed {next : Fragment} : next.block = fragment.block →
      Covers false number [line] [] next.description.isSome →
      BodyTurn fragment body pending number line next
  | strayOfObject {next : Fragment} : next.block.numbers = [] →
      BodyTurn fragment body pending number line next
  | strayOfOperations {kind : OperationKind} : body = .operations kind → pending = none →
      Line.Skipped (Text.trim line) →
      Covers false number [line] [(Text.trim line, number)] false →
      BodyTurn fragment body pending number line
        (fragment.declare body (Text.trim line) number)
  | continued : (pending = none → ¬Line.Skipped (Text.trim line)) →
      Covers false number [line] [(Text.trim line, number)] false →
      BodyTurn fragment body pending number line
        (fragment.continueDeclaration body pending (Text.trim line) number)

theorem isRemark_iff {kind : LineKind} : isRemark kind = true ↔
    kind = .comment ∨ kind = .description ∨ kind = .oneLineBlockDescription ∨
      kind = .blockDescriptionMarker := by
  cases kind <;> simp [isRemark]

theorem bodyTurn_bodyStep (noDescription : fragment.description = none)
    (opened : fragment.block = .body body pending) (file : Option String) (number : Nat)
    (line : List Char) :
    BodyTurn fragment body pending number line
      (fragment.bodyStep file body pending number line) := by
  have taken := bodyStep.eq_def fragment file body pending number line
  by_cases closing : classify (Text.trim line) = .closingBrace
  · simp only [if_pos closing] at taken
    rw [taken]
    exact .closing closing
  · simp only [if_neg closing] at taken
    cases remarks : isRemark (classify (Text.trim line)) with
    | true =>
        obtain ⟨next, isNext, remarked, described⟩ :=
          exists_remark? noDescription (isRemark_iff.mp remarks) (Text.trim line)
        simp only [isNext] at taken
        rw [taken]
        refine .passed remarked.block ?_
        rw [described]
        exact covers_remark remarks number
    | false =>
        simp only [Reader.remark?_eq_none remarks] at taken
        by_cases blank : (Text.trim line).isEmpty = true
        · simp only [if_pos blank] at taken
          rw [taken]
          refine .passed rfl ?_
          rw [noDescription]
          exact covers_blank closing remarks blank number
        · simp only [if_neg blank] at taken
          have solid := covers_solid closing remarks blank number
          by_cases stray : Reader.Stray pending (Text.trim line)
          · simp only [if_pos stray] at taken
            obtain ⟨isNone, skipped⟩ := (Reader.stray_iff pending line).mp stray
            rw [taken]
            cases body with
            | object name fields =>
                refine .strayOfObject ?_
                simp only [report]
                split <;> simp [opened, isNone, Block.numbers]
            | operations kind => exact .strayOfOperations rfl isNone skipped solid
          · simp only [if_neg stray] at taken
            rw [taken]
            refine .continued ?_ solid
            intro isNone skipped
            exact stray ((Reader.stray_iff pending line).mpr ⟨isNone, skipped⟩)

/-- A declaration that is complete is added to its body, or is refused. -/
theorem block_declare (fragment : Fragment) (body : Body) (declaration : List Char)
    (number : Nat) :
    (∃ cause, Field.parse declaration = .error cause ∧
        (fragment.declare body declaration number).block = .failed cause number) ∨
      ∃ body', (fragment.declare body declaration number).block = .body body' none := by
  cases parsed : Field.parse declaration with
  | error cause =>
      refine .inl ⟨cause, rfl, ?_⟩
      simp only [declare, parsed]
  | ok field =>
      refine .inr ?_
      simp only [declare, parsed]
      cases body with
      | object name fields => exact ⟨_, rfl⟩
      | operations kind => exact ⟨_, rfl⟩

theorem refused_of_declare {declaration : List Char} {number' : Nat} {cause : DeclarationError}
    (failed : (fragment.declare body declaration number).block = .failed cause number') :
    Field.parse declaration = .error cause ∧ number = number' := by
  cases block_declare fragment body declaration number with
  | inl refused =>
      obtain ⟨cause', refused, failed'⟩ := refused
      cases failed'.symm.trans failed
      exact ⟨refused, rfl⟩
  | inr added =>
      obtain ⟨body', opened⟩ := added
      cases opened.symm.trans failed

theorem failed_of_close {cause : DeclarationError}
    (failed : fragment.close.block = .failed cause number) :
    fragment.block = .failed cause number := by
  cases fragment.close_block with
  | inl top => cases top.symm.trans failed
  | inr failed' =>
      obtain ⟨-, -, -, same⟩ := failed'
      rw [← same]
      exact failed

end Turns

/-! ### The lines of a declaration -/

section Tracking

variable {cursor : Cursor} {bindings : Schema} {journal : Journal}
  {before lines read behind : List (List Char)} {body : Body} {front begun : List Declaration}
  {last : Declaration} {fragment next : Fragment} {pending : Pending} {described described' : Bool}
  {line : List Char} {cause : DeclarationError}

theorem Assembled.number_last
    (assembled : Assembled cursor bindings journal before lines body front last) :
    last.2 + 1 = cursor.lineNumber + before.length + lines.length := by
  obtain ⟨earlier, line, rfl, rfl⟩ := assembled.atLast
  rw [List.length_append, List.length_singleton]
  exact Nat.add_assoc _ _ _

theorem Assembled.number_passed
    (assembled : Assembled cursor bindings journal before lines body front last)
    (passed : List (List Char)) :
    last.2 + 1 + passed.length = cursor.lineNumber + (before ++ lines ++ passed).length := by
  rw [assembled.number_last]
  simp only [List.length_append]
  omega

theorem Underway.passes (underway : Underway cursor bindings journal read body pending described)
    (covers : Covers described (cursor.lineNumber + read.length) [line] [] described') :
    Underway cursor bindings journal (read ++ [line]) body pending described' := by
  obtain ⟨before, lines, passed, front, last, rfl, assembled, isBegun, silent⟩ := underway
  refine ⟨before, lines, passed ++ [line], front, last, List.append_assoc _ _ _, assembled,
    isBegun, silent.append ?_⟩
  rw [assembled.number_passed]
  exact covers

/-- The declaration is refused when the body ends and no other line matters. -/
theorem Underway.refusal (underway : Underway cursor bindings journal read body pending described)
    (noMore : (bodyLines described (cursor.lineNumber + read.length) behind).significant = [])
    (refused : Field.parse (Text.joinSpaced pending.parts) = .error cause) :
    Refusal cursor bindings journal (read ++ behind) cause pending.number := by
  obtain ⟨before, lines, passed, front, last, rfl, assembled, isBegun, silent⟩ := underway
  have isPending := isBegun.pending
  rw [pendingOf_concat, Option.some.injEq] at isPending
  rw [isPending] at refused ⊢
  refine ⟨before, lines, passed ++ behind, body, front, last, ?_, assembled, rfl, ?_, refused⟩
  · simp only [List.append_assoc]
  · apply Body.EndsBefore.cutShort isBegun.begins isBegun.unseparated
    rw [silent behind, assembled.number_passed]
    exact noMore

/-! ### What a line preserves -/

theorem tracked_of_free (free : fragment.block.numbers = []) :
    Tracked cursor bindings journal read fragment := by
  constructor
  · intro body pending opened
    rw [opened] at free
    cases free
  · intro cause number failed
    rw [failed] at free
    cases free

/-- A line that leaves the block as it is. -/
theorem Tracked.keeps (tracked : Tracked cursor bindings journal read fragment)
    (block : next.block = fragment.block)
    (covers : ∀ body pending, fragment.block = .body body (some pending) →
      Covers fragment.description.isSome (cursor.lineNumber + read.length) [line] []
        next.description.isSome) :
    Tracked cursor bindings journal (read ++ [line]) next := by
  constructor
  · intro body pending opened
    rw [block] at opened
    exact (tracked.pending body pending opened).passes (covers body pending opened)
  · intro cause number failed more
    rw [block] at failed
    rw [List.append_assoc]
    exact tracked.failed cause number failed ([line] ++ more)

theorem tracked_declare {declaration : List Char} {number : Nat}
    (refusal : ∀ cause, Field.parse declaration = .error cause →
      ∀ more, Refusal cursor bindings journal (read ++ more) cause number) :
    Tracked cursor bindings journal read (fragment.declare body declaration number) := by
  cases block_declare fragment body declaration number with
  | inl refused =>
      obtain ⟨cause, refused, failed⟩ := refused
      constructor
      · intro body pending opened
        cases failed.symm.trans opened
      · intro cause' number' failed'
        cases failed.symm.trans failed'
        exact refusal cause refused
  | inr added =>
      obtain ⟨body', opened⟩ := added
      apply tracked_of_free
      rw [opened]
      rfl

/-- The end of a body, with the lines that are left of it, ends the declaration that is pending. -/
theorem Tracked.refusal_of_endDeclaration
    (tracked : Tracked cursor bindings journal read fragment) {pending : Option Pending}
    (opened : fragment.block = .body body pending)
    (noMore : (bodyLines fragment.description.isSome (cursor.lineNumber + read.length)
      behind).significant = [])
    (block : next.block = fragment.block) {number : Nat}
    (failed : (next.endDeclaration body pending).block = .failed cause number) :
    Refusal cursor bindings journal (read ++ behind) cause number := by
  cases pending with
  | none =>
      have same : next.block = .failed cause number := failed
      rw [block, opened] at same
      cases same
  | some pending =>
      obtain ⟨refused, rfl⟩ := refused_of_declare failed
      exact (tracked.pending body pending opened).refusal noMore refused

theorem Tracked.closingBrace (tracked : Tracked cursor bindings journal read fragment)
    (noDescription : fragment.description = none) {pending : Option Pending}
    (opened : fragment.block = .body body pending)
    (closing : classify (Text.trim line) = .closingBrace) :
    Tracked cursor bindings journal (read ++ [line])
      (fragment.endDeclaration body pending).close := by
  constructor
  · intro body' pending' opened'
    cases (fragment.endDeclaration body pending).close_block with
    | inl top => cases top.symm.trans opened'
    | inr failed =>
        obtain ⟨cause, number, failed, same⟩ := failed
        rw [same] at opened'
        cases failed.symm.trans opened'
  · intro cause number failed more
    rw [List.append_assoc]
    apply tracked.refusal_of_endDeclaration opened _ rfl (failed_of_close failed)
    rw [noDescription]
    exact significant_closing closing _ more

/-- Where a declaration may go on or begin, the lines that it has come to are known. -/
theorem Tracked.exists_begun
    (tracked : Tracked cursor bindings journal read (after cursor bindings journal read))
    (noDescription : (after cursor bindings journal read).description = none)
    {pending : Option Pending}
    (opened : (after cursor bindings journal read).block = .body body pending) :
    ∃ before lines begun, read = before ++ lines ∧
      (after cursor bindings journal before).InBody body ∧
      Covers false (cursor.lineNumber + before.length) lines begun false ∧
      Begun pending begun := by
  cases pending with
  | none =>
      -- a declaration would begin here
      exact ⟨read, [], [], (List.append_nil read).symm, ⟨opened, noDescription⟩,
        covers_nil _ _, Reader.begun_nothing⟩
  | some pending =>
      have underway := tracked.pending body pending opened
      rw [noDescription] at underway
      obtain ⟨before, lines, passed, front, last, rfl, assembled, isBegun, silent⟩ := underway
      refine ⟨before, lines ++ passed, front ++ [last], List.append_assoc _ _ _,
        assembled.inBody, ?_, isBegun⟩
      rw [assembled.number_last] at silent
      simpa using assembled.covers.append silent

/-- A line that goes on with a declaration is the last of its lines so far. -/
theorem assembled_concat (inBody : (after cursor bindings journal before).InBody body)
    (covers : Covers false (cursor.lineNumber + before.length) lines begun false)
    (solid : Covers false (cursor.lineNumber + (before ++ lines).length) [line]
      [(Text.trim line, cursor.lineNumber + (before ++ lines).length)] false) :
    Assembled cursor bindings journal before (lines ++ [line]) body begun
      (Text.trim line, cursor.lineNumber + (before ++ lines).length) := by
  rw [List.length_append, ← Nat.add_assoc] at solid ⊢
  exact ⟨inBody, covers.append solid, lines, line, rfl, rfl⟩

theorem Tracked.continueDeclaration
    (tracked : Tracked cursor bindings journal read (after cursor bindings journal read))
    (noDescription : (after cursor bindings journal read).description = none)
    {pending : Option Pending}
    (opened : (after cursor bindings journal read).block = .body body pending)
    (notStray : pending = none → ¬Line.Skipped (Text.trim line))
    (solid : Covers false (cursor.lineNumber + read.length) [line]
      [(Text.trim line, cursor.lineNumber + read.length)] false) :
    Tracked cursor bindings journal (read ++ [line])
      ((after cursor bindings journal read).continueDeclaration body pending (Text.trim line)
        (cursor.lineNumber + read.length)) := by
  obtain ⟨before, lines, begun, rfl, inBody, covers, isBegun⟩ :=
    tracked.exists_begun noDescription opened
  have assembled := assembled_concat inBody covers solid
  have begins := isBegun.begins_concat (cursor.lineNumber + (before ++ lines).length) notStray
  obtain ⟨extends', separates⟩ :=
    extend_pendingOf begun (Text.trim line) (cursor.lineNumber + (before ++ lines).length)
  rw [← isBegun.pending] at extends' separates
  simp only [Fragment.continueDeclaration]
  split
  · next complete =>
      -- the line is the first that separates
      apply tracked_declare
      intro cause refused more
      rw [pendingOf_concat, Option.some.injEq] at extends'
      rw [extends'] at refused
      exact ⟨before, lines ++ [line], more, body, begun, _, by simp only [List.append_assoc],
        assembled, rfl, .separated begins isBegun.unseparated (separates.mp complete), refused⟩
  · next incomplete =>
      have unseparated : Unseparated
          (begun ++ [(Text.trim line, cursor.lineNumber + (before ++ lines).length)]) :=
        unseparated_concat_iff.mpr
          ⟨isBegun.unseparated, fun separating => incomplete (separates.mpr separating)⟩
      constructor
      · intro body' pending' opened'
        cases opened'
        refine ⟨before, lines ++ [line], [], begun, _,
          by simp only [List.append_assoc, List.append_nil], assembled,
          ⟨extends', begins, unseparated⟩, ?_⟩
        show Covers false _ [] []
          (after cursor bindings journal (before ++ lines)).description.isSome
        rw [noDescription]
        exact covers_nil _ _
      · intro cause number failed
        cases failed

theorem Tracked.bodyStep
    (tracked : Tracked cursor bindings journal read (after cursor bindings journal read))
    (noDescription : (after cursor bindings journal read).description = none)
    {pending : Option Pending}
    (opened : (after cursor bindings journal read).block = .body body pending)
    (line : List Char) :
    Tracked cursor bindings journal (read ++ [line])
      ((after cursor bindings journal read).bodyStep cursor.file body pending
        (cursor.lineNumber + read.length) line) := by
  have turn := bodyTurn_bodyStep noDescription opened cursor.file
    (cursor.lineNumber + read.length) line
  generalize (after cursor bindings journal read).bodyStep cursor.file body pending
    (cursor.lineNumber + read.length) line = next at turn ⊢
  cases turn with
  | closing closes =>
      exact tracked.closingBrace noDescription opened closes
  | passed block covers =>
      apply tracked.keeps block
      intro _ _ _
      rw [noDescription]
      exact covers
  | strayOfObject free => exact tracked_of_free free
  | strayOfOperations isOperations isNone skipped solid =>
      rw [isNone] at opened
      have assembled : Assembled cursor bindings journal read [line] body []
          (Text.trim line, cursor.lineNumber + read.length) :=
        ⟨⟨opened, noDescription⟩, solid, [], line, rfl, rfl⟩
      apply tracked_declare
      intro cause refused more
      exact ⟨read, [line], more, body, [], _, rfl, assembled, rfl, .stray isOperations skipped,
        refused⟩
  | continued notStray solid =>
      exact tracked.continueDeclaration noDescription opened notStray solid

theorem numbers_topStep (top : fragment.block = .top) (file : Option String) (number : Nat)
    (line : List Char) : (fragment.topStep file number line).block.numbers = [] := by
  have free : fragment.block.numbers = [] := by
    rw [top]
    rfl
  simp only [topStep]
  cases classify line with
  | comment | oneLineBlockDescription | blockDescriptionMarker | description => exact free
  | schemaOpener | closingBrace | rootBinding _ | scalarDefinition => exact free
  | operationOpener _ | unionDefinition | enumOpener => rfl
  | objectOpener =>
      dsimp only
      split
      · rfl
      · rfl
  | field _ | unionMember | unmatched =>
      simp only [report]
      split
      · exact free
      · exact free

theorem numbers_enumStep {name : String} {values : List String}
    (opened : fragment.block = .enumeration name values) (line : List Char) :
    (fragment.enumStep name values line).block.numbers = [] := by
  have free : fragment.block.numbers = [] := by
    rw [opened]
    rfl
  simp only [enumStep]
  split
  · simp only [close, opened]
    rfl
  · split
    · next remarks =>
        rw [remark?_block remarks]
        exact free
    · split
      · rfl
      · split
        · exact free
        · exact free

/-- One more line: the lines of a declaration that is pending or has failed stay known. -/
theorem Tracked.step
    (tracked : Tracked cursor bindings journal read (after cursor bindings journal read))
    (line : List Char) :
    Tracked cursor bindings journal (read ++ [line])
      (after cursor bindings journal (read ++ [line])) := by
  rw [after_append, feed_cons, feed_nil]
  cases noDescription : (after cursor bindings journal read).description with
  | some parts =>
      have described : (after cursor bindings journal read).description.isSome = true := by
        rw [noDescription]
        rfl
      obtain ⟨remarked, still⟩ := @step_of_open_description _ cursor.file line
        (cursor.lineNumber + read.length) described
      apply tracked.keeps remarked.block
      intro _ _ _
      rw [described, still]
      exact covers_described _ line
  | none =>
      cases opened : (after cursor bindings journal read).block with
      | top =>
          rw [step_of_top noDescription opened]
          exact tracked_of_free (numbers_topStep opened _ _ line)
      | body body pending =>
          rw [step_of_body noDescription opened]
          exact tracked.bodyStep noDescription opened line
      | enumeration name values =>
          rw [step_of_enumeration noDescription opened]
          exact tracked_of_free (numbers_enumStep opened line)
      | union name members =>
          rw [step_of_union noDescription opened]
          have closedTop := Fragment.close_block_of_union _ opened
          split
          · exact tracked_of_free rfl
          · exact tracked_of_free (numbers_topStep closedTop _ _ line)
      | failed cause number =>
          rw [step_of_failed noDescription opened]
          apply tracked.keeps rfl
          intro body pending opened'
          cases opened.symm.trans opened'

theorem Tracked.feed
    (tracked : Tracked cursor bindings journal read (after cursor bindings journal read))
    (more : List (List Char)) :
    Tracked cursor bindings journal (read ++ more)
      (after cursor bindings journal (read ++ more)) := by
  induction more generalizing read with
  | nil =>
      rw [List.append_nil]
      exact tracked
  | cons line more inductionHypothesis =>
      have next := inductionHypothesis (tracked.step line)
      rw [List.append_assoc, List.singleton_append] at next
      exact next

/-! ### Whole readings -/

/-- The end of the lines ends what is open. What it cuts short might go on in further lines, so
this is said of the lines that were read only, other than in `Tracked.failed`. -/
theorem Tracked.refusal_of_closeOpen (tracked : Tracked cursor bindings journal read fragment)
    (block : next.block = fragment.block) {number : Nat}
    (failed : next.closeOpen.block = .failed cause number) :
    Refusal cursor bindings journal read cause number := by
  have nothing : ∀ described, (bodyLines described (cursor.lineNumber + read.length)
      []).significant = [] := by
    intro described
    cases described <;> rfl
  rw [← List.append_nil read]
  simp only [closeOpen] at failed
  split at failed
  · next body pending opened =>
      exact tracked.refusal_of_endDeclaration (block.symm.trans opened) (nothing _) block
        (failed_of_close failed)
  · have failedBefore := failed_of_close failed
    rw [block] at failedBefore
    exact tracked.failed cause number failedBefore []

theorem Tracked.refusal_of_finish (tracked : Tracked cursor bindings journal read fragment)
    {number : Nat} (failed : fragment.finish.block = .failed cause number) :
    Refusal cursor bindings journal read cause number := by
  cases described : fragment.description with
  | none =>
      rw [finish_of_no_description described] at failed
      exact tracked.refusal_of_closeOpen rfl failed
  | some parts =>
      rw [finish_of_description described] at failed
      exact tracked.refusal_of_closeOpen (discardDescription_block fragment _) failed

/-- A reading that fails has come to a declaration among its lines that is refused. -/
theorem refusal_of_run {number : Nat}
    (failed : ((start bindings journal).run cursor).block = .failed cause number) :
    Refusal cursor bindings journal cursor.rest cause number := by
  have started : Tracked cursor bindings journal [] (after cursor bindings journal []) :=
    tracked_of_free rfl
  rw [run_eq_after] at failed
  exact (started.feed cursor.rest).refusal_of_finish failed

end Tracking

/-- A reading from whatever place that fails gives the file of its cursor and the number of one of
the lines from there on. The cause is what a declaration fails with, which begins behind some lines
within a body and ends with the line of that number. Its text is made of its lines that matter,
trimmed and joined by single spaces; the last of them is that line, and none of those behind it
belongs to them, be it that the declaration is complete, or that only blank lines, comments and
descriptions are left of the body. -/
theorem located_of_error (cursor : Cursor) (bindings : Schema) (journal : Journal)
    {error : FragmentError} (failed : (parse cursor bindings journal).1 = .error error) :
    error.file = cursor.file ∧ 1 ≤ error.number ∧ cursor.lineNumber ≤ error.number ∧
      error.number ≤ cursor.lines.length ∧
      ∃ before lines behind body front last, cursor.rest = before ++ lines ++ behind ∧
        Assembled cursor bindings journal before lines body front last ∧
        last.2 = error.number ∧
        (∃ line, cursor.line? error.number = some line ∧ last.1 = Text.trim line) ∧
        body.EndsBefore (bodyLines false (error.number + 1) behind) front last ∧
        Field.parse (Text.joinSpaced ((front ++ [last]).map Prod.fst)) = .error error.cause := by
  cases settled_or_failed_run (start bindings journal) cursor with
  | inl settled =>
      rw [parse_of_settled settled] at failed
      cases failed
  | inr stopped =>
      obtain ⟨cause, number, stopped⟩ := stopped
      rw [parse_of_failed stopped] at failed
      cases failed
      obtain ⟨before, lines, behind, body, front, last, whole, assembled, isNumber, ends,
        refused⟩ := refusal_of_run stopped
      obtain ⟨earlier, line, isLines, isLast⟩ := assembled.atLast
      have index : number = cursor.lineNumber + (before.length + earlier.length) := by
        rw [← isNumber, isLast, Nat.add_assoc]
      have here : cursor.rest[before.length + earlier.length]? = some line := by
        rw [whole, isLines]
        simp
      have isLine : cursor.line? number = some line := by
        rw [index]
        exact Cursor.line?_rest here
      have behindStart : cursor.lineNumber ≤ number := by
        rw [index]
        exact Nat.le_add_right _ _
      refine ⟨rfl, Nat.le_trans (Nat.le_add_left 1 _) behindStart, behindStart,
        Cursor.number_le_of_line? isLine, before, lines, behind, body, front, last, whole,
        assembled, isNumber, ⟨line, isLine, ?_⟩, ends, refused⟩
      rw [isLast]

/-- An argument list that no line closes, with a comment in it and one behind it. -/
def openList : Cursor :=
  ⟨some "photos.graphql", [], ["type Query \x7b", "photo(", "# of the owner", "  id: ID",
    "# or none", "", "\x7d", "scalar Size"].map String.toList⟩

/-- The fourth line is the last one of the declaration. -/
theorem located_of_openList :
    (parse openList .empty .empty).1 =
        .error ⟨some "photos.graphql", 4, .malformedDeclaration "photo( id: ID"⟩ ∧
      ∃ front last, last.2 = 4 ∧ last.1 = "id: ID".toList ∧
        Field.parse (Text.joinSpaced ((front ++ [last]).map Prod.fst)) =
          .error (.malformedDeclaration "photo( id: ID") := by
  have failed : (parse openList .empty .empty).1 =
      .error ⟨some "photos.graphql", 4, .malformedDeclaration "photo( id: ID"⟩ := rfl
  obtain ⟨-, -, -, -, -, -, -, -, front, last, -, -, isNumber, ⟨line, isLine, isLast⟩, -,
    refused⟩ := located_of_error openList .empty .empty failed
  have same : "  id: ID".toList = line := Option.some.inj isLine
  rw [← same] at isLast
  exact ⟨failed, front, last, isNumber, isLast, refused⟩

end Fragment

end SdlProjection
