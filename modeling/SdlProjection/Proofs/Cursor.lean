import Mathlib.Data.List.Basic
import SdlProjection.Cursor

/-!
Contract: a cursor that is called again and again.

Owns: `Cursor.placed`, the cursor over some lines after a number of moves, in
closed form; that every call leads from one such cursor to another; and
`Cursor.Standing`, what such a cursor is and answers. The two calls that move
differ in the line they answer with, not in where they lead.

Does not own: the loops that are run over a cursor (`Proofs.Fragment.Forward`).
-/

namespace SdlProjection.Cursor

variable {file : Option String} {lines : List (List Char)} {moves : Nat}

/-- The cursor over the lines after so many moves. Moves past the last line count for nothing. -/
def placed (file : Option String) (lines : List (List Char)) (moves : Nat) : Cursor :=
  ⟨file, (lines.take moves).reverse, lines.drop moves⟩

/-- What a cursor over the lines is and answers after so many moves. -/
structure Standing (file : Option String) (lines : List (List Char)) (moves : Nat)
    (cursor : Cursor) : Prop where
  sameFile : cursor.file = file
  sameLines : cursor.lines = lines
  lineNumber : cursor.lineNumber = min moves lines.length + 1
  current : cursor.current? = lines[moves]?
  numbered : cursor.current? = cursor.line? cursor.lineNumber
  hasMore : cursor.hasMore = true ↔ ∃ line, cursor.current? = some line
  next : cursor.next? = (cursor.answer .advance).1

/-! ### One call -/

theorem placed_of_le (beyond : lines.length ≤ moves) :
    placed file lines moves = placed file lines lines.length := by
  simp only [placed, List.take_of_length_le beyond, List.drop_of_length_le beyond, List.take_length,
    List.drop_length]

theorem advance_placed : (placed file lines moves).advance = placed file lines (moves + 1) := by
  cases left : lines.drop moves with
  | nil =>
      have beyond : lines.length ≤ moves := List.drop_eq_nil_iff.mp left
      have stays : (placed file lines moves).advance = placed file lines moves := by
        simp only [placed, advance, left]
      rw [stays, placed_of_le beyond, placed_of_le (Nat.le_succ_of_le beyond)]
  | cons line rest =>
      have here : lines[moves]? = some line := by
        rw [← List.head?_drop, left, List.head?_cons]
      have behind : lines.drop (moves + 1) = rest := by
        rw [← List.tail_drop, left, List.tail_cons]
      simp only [placed, advance, left, behind, List.take_add_one, here, Option.toList_some,
        List.reverse_append, List.reverse_singleton, List.singleton_append]

/-- Every call leads to a cursor over the same lines, one move further if it moves. -/
theorem answer_placed (call : Call) :
    ((placed file lines moves).answer call).2 = placed file lines (moves + call.moves.toNat) := by
  cases call with
  | advance | take => exact advance_placed
  | current | next | line _ => rfl

/-! ### A run of calls -/

theorem afterCalls_placed (calls : List Call) :
    (placed file lines moves).afterCalls calls =
      placed file lines (moves + calls.countP Call.moves) := by
  induction calls generalizing moves with
  | nil => rfl
  | cons call calls inductionHypothesis =>
      have led : (placed file lines moves).afterCalls (call :: calls) =
          ((placed file lines moves).answer call).2.afterCalls calls := rfl
      have counted : (call :: calls).countP Call.moves =
          call.moves.toNat + calls.countP Call.moves := by
        rw [List.countP_cons, Nat.add_comm]
        cases call.moves <;> rfl
      rw [led, answer_placed, inductionHypothesis, counted, Nat.add_assoc]

/-! ### What is answered -/

theorem lines_placed : (placed file lines moves).lines = lines := by
  simp only [Cursor.lines, placed, List.reverse_reverse, List.take_append_drop]

theorem lineNumber_placed :
    (placed file lines moves).lineNumber = min moves lines.length + 1 := by
  simp only [lineNumber, placed, List.length_reverse, List.length_take]

theorem current?_placed : (placed file lines moves).current? = lines[moves]? :=
  List.head?_drop

theorem next?_placed : (placed file lines moves).next? = lines[moves + 1]? :=
  List.getElem?_drop

/-- Behind the last line the number is that of no line. -/
theorem line?_lineNumber_placed :
    (placed file lines moves).line? (placed file lines moves).lineNumber = lines[moves]? := by
  rw [lineNumber_placed, line?, lines_placed]
  rcases Nat.le_total moves lines.length with within | beyond
  · rw [Nat.min_eq_left within]
  · rw [Nat.min_eq_right beyond, List.getElem?_eq_none (Nat.le_refl _),
      List.getElem?_eq_none beyond]

theorem standing_placed : (placed file lines moves).Standing file lines moves where
  sameFile := rfl
  sameLines := lines_placed
  lineNumber := lineNumber_placed
  current := current?_placed
  numbered := by rw [current?_placed, line?_lineNumber_placed]
  hasMore := by
    rw [hasMore, current?]
    cases (placed file lines moves).rest <;> simp
  next := by
    have moved : ((placed file lines moves).answer .advance).1 =
        (placed file lines moves).advance.current? := rfl
    rw [moved, advance_placed, current?_placed, next?_placed]

/-! ### Taking all lines -/

theorem takeAll_eq (cursor : Cursor) : cursor.takeAll =
    (cursor.rest, ⟨cursor.file, cursor.rest.reverse ++ cursor.passed, []⟩) := by
  obtain ⟨file, passed, rest⟩ := cursor
  induction rest generalizing passed with
  | nil =>
      rw [takeAll]
      rfl
  | cons line rest inductionHypothesis =>
      rw [takeAll]
      simp only [take, current?, advance, List.head?_cons, inductionHypothesis,
        List.reverse_cons, List.append_assoc, List.singleton_append]

theorem takeAll_placed :
    (placed file lines moves).takeAll = (lines.drop moves, placed file lines lines.length) := by
  simp only [takeAll_eq, placed, ← List.reverse_append, List.take_append_drop, List.take_length,
    List.drop_length]

/-- After any calls, a cursor over some lines has moved as often as it was asked to, and no
further than behind the last line. Taking lines until there is none gives those that are left,
and no call moves the cursor after that. -/
theorem standing_afterCalls (file : Option String) (lines : List (List Char))
    (calls : List Call) :
    let cursor := (Cursor.mk file [] lines).afterCalls calls
    let moves := calls.countP Call.moves
    cursor.Standing file lines moves ∧ cursor.takeAll.1 = lines.drop moves ∧
      ∀ later, cursor.takeAll.2.afterCalls later = cursor.takeAll.2 := by
  have begins : Cursor.mk file [] lines = placed file lines 0 := rfl
  have led : (Cursor.mk file [] lines).afterCalls calls =
      placed file lines (calls.countP Call.moves) := by
    rw [begins, afterCalls_placed, Nat.zero_add]
  intro cursor moves
  have here : cursor = placed file lines moves := led
  rw [here, takeAll_placed]
  refine ⟨standing_placed, rfl, ?_⟩
  intro later
  rw [afterCalls_placed]
  exact placed_of_le (Nat.le_add_right _ _)

/-- Two moves past the end of two lines. -/
example : ((ofLines [['a'], ['b']]).afterCalls [.take, .next, .advance, .take, .advance]).lineNumber
    = 3 := by
  decide

end SdlProjection.Cursor
