import SdlProjection.Fragment

/-!
Contract: the state of a fragment between two lines.

Owns: `Fragment.feed`, the reading of further lines, which splits wherever the
lines do; when a fragment stands between definitions; and that a failure
stays. A union stays open until a line does not continue it, so at such a line
it counts as closed.

Does not own: what a line does (`Fragment.step`).
-/

namespace SdlProjection.Fragment

/-- Reads further lines, of which the first has the given number. -/
def feed (fragment : Fragment) (file : Option String) (number : Nat) (lines : List (List Char)) :
    Fragment :=
  (lines.zipIdx number).foldl (fun state line => state.step file line.1 line.2) fragment

section Feed

variable (fragment : Fragment) (file : Option String) (number : Nat)

@[simp]
theorem feed_nil : fragment.feed file number [] = fragment := rfl

theorem feed_cons (line : List Char) (lines : List (List Char)) :
    fragment.feed file number (line :: lines) =
      (fragment.step file line number).feed file (number + 1) lines := rfl

theorem feed_append (front back : List (List Char)) :
    fragment.feed file number (front ++ back) =
      (fragment.feed file number front).feed file (number + front.length) back := by
  simp [feed, List.zipIdx_append]

theorem run_eq_feed (cursor : Cursor) :
    fragment.run cursor = (fragment.feed cursor.file cursor.lineNumber cursor.rest).finish := rfl

end Feed

/-- What the first lines that are left to a cursor are read to. -/
def after (cursor : Cursor) (bindings : Schema) (journal : Journal) (front : List (List Char)) :
    Fragment :=
  (start bindings journal).feed cursor.file cursor.lineNumber front

theorem after_append (cursor : Cursor) (bindings : Schema) (journal : Journal)
    (front back : List (List Char)) :
    after cursor bindings journal (front ++ back) =
      (after cursor bindings journal front).feed cursor.file (cursor.lineNumber + front.length)
        back :=
  feed_append _ _ _ front back

theorem run_eq_after (cursor : Cursor) (bindings : Schema) (journal : Journal) :
    (start bindings journal).run cursor = (after cursor bindings journal cursor.rest).finish := rfl

/-! ### One line, by what is open -/

section Step

variable {fragment : Fragment} {file : Option String} {line : List Char} {number : Nat}

theorem step_of_description {parts : List (List Char)}
    (described : fragment.description = some parts) :
    fragment.step file line number = fragment.describe parts line := by
  simp only [step, described]

theorem step_of_top (noDescription : fragment.description = none)
    (opened : fragment.block = .top) :
    fragment.step file line number = fragment.topStep file number line := by
  simp only [step, noDescription, opened]

theorem step_of_body {body : Body} {pending : Option Pending}
    (noDescription : fragment.description = none) (opened : fragment.block = .body body pending) :
    fragment.step file line number = fragment.bodyStep file body pending number line := by
  simp only [step, noDescription, opened]

theorem step_of_enumeration {name : String} {values : List String}
    (noDescription : fragment.description = none)
    (opened : fragment.block = .enumeration name values) :
    fragment.step file line number = fragment.enumStep name values line := by
  simp only [step, noDescription, opened]

theorem step_of_failed {cause : DeclarationError} {failure : Nat}
    (noDescription : fragment.description = none)
    (failed : fragment.block = .failed cause failure) :
    fragment.step file line number = fragment := by
  simp only [step, noDescription, failed]

theorem step_of_union {name : String} {members : List String}
    (noDescription : fragment.description = none) (opened : fragment.block = .union name members) :
    fragment.step file line number =
      if classify line = .unionMember then
        { fragment with block := .union name (members ++ Line.unionMembers line) }
      else fragment.close.topStep file number line := by
  simp only [step, noDescription, opened]

end Step

/-! ### Between definitions -/

/-- No block is open, or only a union that the next line, if any, does not continue. -/
def Block.ClosedBefore (next : Option (List Char)) : Block → Prop
  | .top => True
  | .union _ _ => ∀ line, next = some line → classify line ≠ .unionMember
  | .body _ _ | .enumeration _ _ | .failed _ _ => False

/-- The next line, if any, is read as one between definitions: either all lines are read, or
nothing is open before the remaining ones. -/
def BetweenDefinitions (fragment : Fragment) (remaining : List (List Char)) : Prop :=
  remaining = [] ∨
    (fragment.description = none ∧ Block.ClosedBefore remaining.head? fragment.block)

/-- Neither a block nor a description is open. -/
structure Settled (fragment : Fragment) : Prop where
  block : fragment.block = .top
  description : fragment.description = none

theorem Settled.finish_eq {fragment : Fragment} (settled : fragment.Settled) :
    fragment.finish = fragment := by
  obtain ⟨schema, block, description, journal⟩ := fragment
  obtain ⟨rfl, rfl⟩ := settled
  rfl

section Finish

variable {fragment : Fragment} {line : List Char} {lines : List (List Char)}

/-- What is open before a line that is read between definitions is closed by finishing. -/
theorem settled_finish (between : fragment.BetweenDefinitions (line :: lines)) :
    fragment.finish.Settled := by
  obtain ⟨schema, block, description, journal⟩ := fragment
  rcases between with noLines | ⟨noDescription, closed⟩
  · cases noLines
  · cases noDescription
    cases block with
    | top => exact ⟨rfl, rfl⟩
    | union name members => exact ⟨rfl, rfl⟩
    | body body pending => exact closed.elim
    | enumeration name values => exact closed.elim
    | failed cause number => exact closed.elim

/-- A line between definitions may be read after finishing. -/
theorem step_finish (between : fragment.BetweenDefinitions (line :: lines))
    (file : Option String) (number : Nat) :
    fragment.finish.step file line number = fragment.step file line number := by
  obtain ⟨schema, block, description, journal⟩ := fragment
  rcases between with noLines | ⟨noDescription, closed⟩
  · cases noLines
  · cases noDescription
    cases block with
    | top => rfl
    | union name members =>
        have notMember : classify line ≠ .unionMember := closed line rfl
        simp only [step, if_neg notMember]
        rfl
    | body body pending => exact closed.elim
    | enumeration name values => exact closed.elim
    | failed cause number => exact closed.elim

theorem feed_finish (between : fragment.BetweenDefinitions (line :: lines))
    (file : Option String) (number : Nat) (front : List (List Char)) :
    fragment.finish.feed file number (line :: front) =
      fragment.feed file number (line :: front) := by
  rw [feed_cons, feed_cons, step_finish between]

end Finish

/-! ### The end of a fragment -/

section End

variable (fragment : Fragment)

@[simp]
theorem close_description : fragment.close.description = fragment.description := by
  simp only [close]
  split <;> rfl

@[simp]
theorem discardDescription_block (text : List Char) :
    (fragment.discardDescription text).block = fragment.block := rfl

@[simp]
theorem discardDescription_description (text : List Char) :
    (fragment.discardDescription text).description = none := rfl

@[simp]
theorem note_description (level : LogLevel) (message : String) :
    (fragment.note level message).description = fragment.description := rfl

@[simp]
theorem declare_description (body : Body) (declaration : List Char) (number : Nat) :
    (fragment.declare body declaration number).description = fragment.description := by
  simp only [declare]
  split
  · rfl
  · cases body <;> (dsimp only; split <;> rfl)

theorem endDeclaration_description (body : Body) (pending : Option Pending) :
    (fragment.endDeclaration body pending).description = fragment.description := by
  cases pending with
  | none => rfl
  | some pending => simp [endDeclaration]

theorem close_block (fragment : Fragment) :
    fragment.close.block = .top ∨
      ∃ cause number, fragment.block = .failed cause number ∧ fragment.close = fragment := by
  simp only [close]
  split
  · exact .inl rfl
  · exact .inl rfl
  · exact .inl rfl
  · exact .inl rfl
  · next top => exact .inl top
  · next cause number failed => exact .inr ⟨cause, number, failed, rfl⟩

theorem close_block_of_union {name : String} {members : List String}
    (opened : fragment.block = .union name members) : fragment.close.block = .top := by
  simp only [close, opened]

/-- Closes what is open, with the declaration put together so far. -/
def closeOpen : Fragment :=
  match fragment.block with
  | .body body pending => (fragment.endDeclaration body pending).close
  | _ => fragment.close

variable {fragment}

theorem finish_of_no_description (noDescription : fragment.description = none) :
    fragment.finish = fragment.closeOpen := by
  simp only [finish, noDescription]
  rfl

theorem finish_of_description {parts : List (List Char)}
    (described : fragment.description = some parts) :
    fragment.finish = (fragment.discardDescription (Text.joinSpaced parts)).closeOpen := by
  simp only [finish, described]
  rfl

theorem settled_or_failed_closeOpen (noDescription : fragment.description = none) :
    fragment.closeOpen.Settled ∨
      ∃ cause number, fragment.closeOpen.block = .failed cause number := by
  have closed : ∀ state : Fragment, state.description = none →
      state.close.Settled ∨ ∃ cause number, state.close.block = .failed cause number := by
    intro state noDescription
    rcases state.close_block with top | ⟨cause, number, failed, same⟩
    · exact .inl ⟨top, by rw [close_description, noDescription]⟩
    · exact .inr ⟨cause, number, by rw [same, failed]⟩
  simp only [closeOpen]
  split
  · apply closed
    rw [endDeclaration_description, noDescription]
  · exact closed fragment noDescription

theorem settled_or_failed_finish (fragment : Fragment) :
    fragment.finish.Settled ∨ ∃ cause number, fragment.finish.block = .failed cause number := by
  cases described : fragment.description with
  | none =>
      rw [finish_of_no_description described]
      exact settled_or_failed_closeOpen described
  | some parts =>
      rw [finish_of_description described]
      exact settled_or_failed_closeOpen rfl

end End

/-- A fragment that was read without failing is settled, and the schema is its own. -/
theorem settled_of_parse {cursor : Cursor} {bindings schema : Schema} {journal after : Journal}
    (parsed : Fragment.parse cursor bindings journal = (.ok schema, after)) :
    ((Fragment.start bindings journal).run cursor).Settled ∧
      ((Fragment.start bindings journal).run cursor).schema = schema ∧
      ((Fragment.start bindings journal).run cursor).journal = after := by
  simp only [Fragment.parse] at parsed
  rcases settled_or_failed_finish ((Fragment.start bindings journal).feed cursor.file
    cursor.lineNumber cursor.rest) with settled | ⟨cause, number, failed⟩
  · rw [← run_eq_feed] at settled
    simp only [settled.block, Prod.mk.injEq, Except.ok.injEq] at parsed
    exact ⟨settled, parsed⟩
  · rw [← run_eq_feed] at failed
    simp [failed] at parsed

theorem parse_of_settled {cursor : Cursor} {bindings : Schema} {journal : Journal}
    (settled : ((Fragment.start bindings journal).run cursor).Settled) :
    Fragment.parse cursor bindings journal =
      (.ok ((Fragment.start bindings journal).run cursor).schema,
        ((Fragment.start bindings journal).run cursor).journal) := by
  simp [Fragment.parse, settled.block]

theorem parse_of_failed {cursor : Cursor} {bindings : Schema} {journal : Journal}
    {cause : DeclarationError} {number : Nat}
    (failed : ((Fragment.start bindings journal).run cursor).block = .failed cause number) :
    Fragment.parse cursor bindings journal =
      (.error ⟨cursor.file, number, cause⟩, ((Fragment.start bindings journal).run cursor).journal) := by
  simp [Fragment.parse, failed]

/-- A fragment is read to the schema of its last state, or to the failure that state holds. -/
theorem settled_or_failed_run (fragment : Fragment) (cursor : Cursor) :
    (fragment.run cursor).Settled ∨
      ∃ cause number, (fragment.run cursor).block = .failed cause number :=
  settled_or_failed_finish _

end SdlProjection.Fragment
