import SdlProjection.Fragment.Loops
import SdlProjection.Proofs.Schema.StrayLines

/-!
Contract: how the lines of a body are cut into declarations.

Owns: `Separates`, a line with a colon outside of parentheses; `Grouped`, the
lines cut into stray lines and declarations, each of which ends with its first
line that separates; that there is one way at most to cut them, which leaves out
no line; and what a body does with the groups.

Does not own: which lines matter (`Proofs.Body.Lines`) and that the reader cuts
them so (`Proofs.Body.Assembly`).
-/

namespace SdlProjection

open Reader (Declaration)

/-- The lines, one directly behind the other. -/
def allText (lines : List Declaration) : List Char :=
  lines.flatMap Prod.fst

/-- The line has a colon outside of all parentheses that were opened since the first of the lines
before it. -/
def Separates (before : List Declaration) (line : List Char) : Prop :=
  ∃ front back, line = front ++ ':' :: back ∧
    (allText before ++ front).foldl Field.depthAfter 0 = 0

/-- No line of a declaration separates its key from its type. -/
def Unseparated (lines : List Declaration) : Prop :=
  ∀ before line later, lines = before ++ line :: later → ¬Separates before line.1

/-- The first line is one that a declaration can begin with. -/
def Begins (lines : List Declaration) : Prop :=
  ∀ line later, lines = line :: later → ¬Line.Skipped line.1

/-- Lines that are taken together. -/
inductive Group where
  /-- A line that begins no declaration. -/
  | stray (line : Declaration)
  /-- The lines of a declaration, the last one apart. -/
  | declared (front : List Declaration) (last : Declaration)

namespace Group

def lines : Group → List Declaration
  | .stray line => [line]
  | .declared front last => front ++ [last]

/-- What is made of the lines: they are joined by single spaces and count as the last one. -/
def declaration (group : Group) : Declaration :=
  match group with
  | .stray line => line
  | .declared front last => (Text.joinSpaced ((front ++ [last]).map Prod.fst), last.2)

end Group

/-- Lines that are cut into groups. The last group may be cut short. -/
inductive Grouped : List Declaration → List Group → Prop
  | nil : Grouped [] []
  | stray {line : Declaration} {lines : List Declaration} {groups : List Group} :
      Line.Skipped line.1 → Grouped lines groups → Grouped (line :: lines) (.stray line :: groups)
  | complete {front lines : List Declaration} {last : Declaration} {groups : List Group} :
      Begins (front ++ [last]) → Unseparated front → Separates front last.1 →
      Grouped lines groups → Grouped (front ++ last :: lines) (.declared front last :: groups)
  | cutShort {front : List Declaration} {last : Declaration} : Begins (front ++ [last]) →
      Unseparated (front ++ [last]) → Grouped (front ++ [last]) [.declared front last]

namespace Body

/-- The declarations that a body returns: an object passes its stray lines over, a block of
operations takes each for a declaration. -/
def returned (body : Body) (groups : List Group) : List Declaration :=
  groups.filterMap fun
    | .stray line =>
      match body with
      | .object _ _ => none
      | .operations _ => some line
    | .declared front last => some (Group.declared front last).declaration

/-- The lines that a body reports. -/
def reported (body : Body) (file : Option String) (groups : List Group) : List Diagnostic :=
  groups.filterMap fun
    | .stray line =>
      match body with
      | .object _ _ => some ⟨file, line.2, String.ofList line.1⟩
      | .operations _ => none
    | .declared _ _ => none

end Body

/-! ### The lines of a declaration -/

section Lines

variable {lines front front' rest rest' : List Declaration} {line last last' : Declaration}

theorem unseparated_nil : Unseparated [] := by
  intro before line later parts
  simp at parts

theorem unseparated_concat_iff :
    Unseparated (front ++ [line]) ↔ Unseparated front ∧ ¬Separates front line.1 := by
  constructor
  · intro unseparated
    refine ⟨?_, unseparated front line [] rfl⟩
    rintro before middle later rfl
    exact unseparated before middle (later ++ [line]) (by simp)
  · rintro ⟨unseparated, notSeparating⟩ before middle later parts
    rcases List.eq_nil_or_concat later with rfl | ⟨more, final, rfl⟩
    · obtain ⟨rfl, same⟩ := List.append_inj' parts rfl
      cases same
      exact notSeparating
    · rw [List.concat_eq_append, ← List.cons_append, ← List.append_assoc] at parts
      exact unseparated before middle more (List.append_inj_left' parts rfl)

theorem begins_singleton (notStray : ¬Line.Skipped line.1) : Begins [line] := by
  rintro _ _ ⟨⟩
  exact notStray

theorem Begins.concat (begins : Begins lines) (something : lines ≠ []) (line : Declaration) :
    Begins (lines ++ [line]) := by
  obtain ⟨first, later, rfl⟩ := List.exists_cons_of_ne_nil something
  rintro _ _ ⟨⟩
  exact begins first later rfl

/-- Lines that begin with those of a declaration do not begin with a stray one. -/
theorem Begins.not_skipped (begins : Begins (front ++ [last]))
    (whole : line :: lines = front ++ last :: rest) : ¬Line.Skipped line.1 := by
  cases front with
  | nil =>
      cases whole
      exact begins line [] rfl
  | cons first front =>
      cases whole
      exact begins line _ rfl

/-- The first line that separates is in one place only. -/
theorem first_separating_unique (unseparated : Unseparated front)
    (separates : Separates front last.1) (unseparated' : Unseparated front')
    (separates' : Separates front' last'.1)
    (same : front ++ last :: rest = front' ++ last' :: rest') :
    front = front' ∧ last = last' ∧ rest = rest' := by
  rcases List.append_eq_append_iff.mp same with ⟨more, rfl, behind⟩ | ⟨more, rfl, behind⟩
  · cases more with
    | nil =>
        cases behind
        exact ⟨(List.append_nil front).symm, rfl, rfl⟩
    | cons line more =>
        cases behind
        exact absurd separates (unseparated' front last more rfl)
  · cases more with
    | nil =>
        cases behind
        exact ⟨List.append_nil front', rfl, rfl⟩
    | cons line more =>
        cases behind
        exact absurd separates' (unseparated front' last' more rfl)

end Lines

/-! ### Cutting lines into groups -/

namespace Grouped

variable {lines : List Declaration} {line last : Declaration} {groups groups' : List Group}

theorem eq_nil (grouped : Grouped [] groups) : groups = [] := by
  generalize nothing : ([] : List Declaration) = lines at grouped
  cases grouped with
  | nil => rfl
  | stray _ _ => cases nothing
  | complete _ _ _ _ => simp at nothing
  | cutShort _ _ => simp at nothing

/-- No line is left out or taken twice. -/
theorem flatMap_lines (grouped : Grouped lines groups) :
    groups.flatMap Group.lines = lines := by
  induction grouped with
  | nil => rfl
  | stray _ _ inductionHypothesis =>
      rw [List.flatMap_cons, inductionHypothesis]
      rfl
  | complete _ _ _ _ inductionHypothesis =>
      rw [List.flatMap_cons, inductionHypothesis, Group.lines, List.append_assoc]
      rfl
  | cutShort _ _ => simp [Group.lines]

/-- A stray line is cut off by itself. -/
theorem of_skipped (grouped : Grouped (line :: lines) groups) (skipped : Line.Skipped line.1) :
    ∃ later, groups = .stray line :: later ∧ Grouped lines later := by
  generalize whole : line :: lines = all at grouped
  cases grouped with
  | nil => cases whole
  | stray _ grouped =>
      cases whole
      exact ⟨_, rfl, grouped⟩
  | complete begins _ _ _ => exact absurd skipped (begins.not_skipped whole)
  | cutShort begins _ => exact absurd skipped (begins.not_skipped whole)

/-- The lines of a declaration are cut off together. -/
theorem of_complete {front : List Declaration} (grouped : Grouped (front ++ last :: lines) groups)
    (begins : Begins (front ++ [last])) (unseparated : Unseparated front)
    (separates : Separates front last.1) :
    ∃ later, groups = .declared front last :: later ∧ Grouped lines later := by
  generalize whole : front ++ last :: lines = all at grouped
  cases grouped with
  | nil => simp at whole
  | stray skipped _ => exact absurd skipped (begins.not_skipped whole.symm)
  | complete _ unseparated' separates' grouped =>
      obtain ⟨rfl, rfl, rfl⟩ :=
        first_separating_unique unseparated separates unseparated' separates' whole
      exact ⟨_, rfl, grouped⟩
  | cutShort _ unseparated' => exact absurd separates (unseparated' front last lines whole.symm)

theorem of_unseparated {front : List Declaration} (grouped : Grouped (front ++ [last]) groups)
    (begins : Begins (front ++ [last])) (unseparated : Unseparated (front ++ [last])) :
    groups = [.declared front last] := by
  generalize whole : front ++ [last] = all at grouped
  cases grouped with
  | nil => simp at whole
  | stray skipped _ => exact absurd skipped (begins.not_skipped whole.symm)
  | @complete front' rest last' _ _ _ separates _ =>
      exact absurd separates (unseparated front' last' rest whole)
  | cutShort _ _ =>
      obtain ⟨rfl, same⟩ := List.append_inj' whole rfl
      cases same
      rfl

/-- Lines are cut into groups in one way at most. -/
theorem unique (grouped : Grouped lines groups) (grouped' : Grouped lines groups') :
    groups' = groups := by
  induction grouped generalizing groups' with
  | nil => exact grouped'.eq_nil
  | stray skipped _ inductionHypothesis =>
      obtain ⟨later, rfl, behind⟩ := grouped'.of_skipped skipped
      rw [inductionHypothesis behind]
  | complete begins unseparated separates _ inductionHypothesis =>
      obtain ⟨later, rfl, behind⟩ := grouped'.of_complete begins unseparated separates
      rw [inductionHypothesis behind]
  | cutShort begins unseparated => exact grouped'.of_unseparated begins unseparated

end Grouped

/-! ### What becomes of the groups -/

namespace Body

variable {body : Body} {file : Option String} {groups later : List Group}

theorem returned_append : body.returned (groups ++ later) =
    body.returned groups ++ body.returned later :=
  List.filterMap_append

theorem reported_append : body.reported file (groups ++ later) =
    body.reported file groups ++ body.reported file later :=
  List.filterMap_append

end Body

/-- None of the groups is a stray line. -/
def NoStrays (groups : List Group) : Prop :=
  ∀ line, Group.stray line ∉ groups

theorem Grouped.skipped_of_mem {lines : List Declaration} {groups : List Group}
    (grouped : Grouped lines groups) {line : Declaration} (member : Group.stray line ∈ groups) :
    Line.Skipped line.1 ∧ line ∈ lines := by
  refine ⟨?_, ?_⟩
  · induction grouped with
    | nil => cases member
    | stray skipped _ inductionHypothesis =>
        rcases List.mem_cons.mp member with same | later
        · cases same
          exact skipped
        · exact inductionHypothesis later
    | complete _ _ _ _ inductionHypothesis =>
        rcases List.mem_cons.mp member with same | later
        · cases same
        · exact inductionHypothesis later
    | cutShort _ _ => cases List.mem_singleton.mp member
  · rw [← grouped.flatMap_lines, List.mem_flatMap]
    exact ⟨.stray line, member, List.mem_singleton_self line⟩

section NoStrays

variable {groups : List Group} {file : Option String}

/-- Without stray lines, bodies of all sorts return the same. -/
theorem NoStrays.returned (noStrays : NoStrays groups) (body : Body) :
    body.returned groups = groups.map Group.declaration := by
  rw [Body.returned, List.filterMap_eq_map_iff_forall_eq_some]
  intro group member
  cases group with
  | stray line => exact absurd member (noStrays line)
  | declared front last => rfl

theorem NoStrays.reported (noStrays : NoStrays groups) (body : Body) (file : Option String) :
    body.reported file groups = [] := by
  rw [Body.reported, List.filterMap_eq_nil_iff]
  intro group member
  cases group with
  | stray line => exact absurd member (noStrays line)
  | declared front last => rfl

/-- An object reports each stray line. -/
theorem noStrays_of_reported {name : String} {fields : List (String × TypeModel)}
    (nothing : (Body.object name fields).reported file groups = []) : NoStrays groups := by
  intro line member
  rw [Body.reported, List.filterMap_eq_nil_iff] at nothing
  cases nothing (.stray line) member

/-- A block of operations returns each stray line. -/
theorem mem_returned_of_stray {kind : OperationKind} {line : Declaration}
    (member : Group.stray line ∈ groups) : line ∈ (Body.operations kind).returned groups := by
  rw [Body.returned, List.mem_filterMap]
  exact ⟨.stray line, member, rfl⟩

end NoStrays

/-! ### The declaration that lines have begun -/

/-- What is pending behind some lines of a declaration. -/
def pendingOf (begun : List Declaration) : Option Pending :=
  begun.getLast?.map fun last =>
    ⟨begun.map Prod.fst, (allText begun).foldl Field.depthAfter 0, last.2⟩

section Pending

variable {begun : List Declaration} {line last : Declaration}

theorem pendingOf_concat (front : List Declaration) (last : Declaration) :
    pendingOf (front ++ [last]) = some ⟨(front ++ [last]).map Prod.fst,
      (allText (front ++ [last])).foldl Field.depthAfter 0, last.2⟩ := by
  rw [pendingOf, List.getLast?_concat, Option.map_some]

theorem pendingOf_eq_none_iff : pendingOf begun = none ↔ begun = [] := by
  rw [pendingOf, Option.map_eq_none_iff, List.getLast?_eq_none_iff]

theorem scan_depth (depth : Nat) (text : List Char) :
    (Pending.scan depth text).1 = text.foldl Field.depthAfter depth := by
  induction text generalizing depth with
  | nil => rfl
  | cons c text inductionHypothesis =>
      rw [Pending.scan, List.foldl_cons, ← inductionHypothesis]

theorem scan_separated_iff (depth : Nat) (text : List Char) :
    (Pending.scan depth text).2 = true ↔
      ∃ front back, text = front ++ ':' :: back ∧ front.foldl Field.depthAfter depth = 0 := by
  induction text generalizing depth with
  | nil => simp [Pending.scan]
  | cons c text inductionHypothesis =>
      simp only [Pending.scan, Bool.or_eq_true, inductionHypothesis, Bool.and_eq_true, beq_iff_eq]
      constructor
      · rintro (⟨front, back, rfl, closed⟩ | ⟨rfl, rfl⟩)
        · exact ⟨c :: front, back, rfl, closed⟩
        · exact ⟨[], text, rfl, rfl⟩
      · rintro ⟨front, back, whole, closed⟩
        cases front with
        | nil =>
            cases whole
            exact .inr ⟨rfl, closed⟩
        | cons d front =>
            cases whole
            exact .inl ⟨front, back, rfl, closed⟩

/-- A declaration is extended by a line as its lines are. -/
theorem extend_pendingOf (begun : List Declaration) (line : List Char) (number : Nat) :
    some (((pendingOf begun).getD .nothing).extend line number).1 =
        pendingOf (begun ++ [(line, number)]) ∧
      ((((pendingOf begun).getD .nothing).extend line number).2 = true ↔
        Separates begun line) := by
  have depths : ((pendingOf begun).getD .nothing).depth =
      (allText begun).foldl Field.depthAfter 0 := by
    rcases List.eq_nil_or_concat begun with rfl | ⟨front, last, rfl⟩
    · rfl
    · rw [List.concat_eq_append, pendingOf_concat, Option.getD_some]
  have parts : ((pendingOf begun).getD .nothing).parts = begun.map Prod.fst := by
    rcases List.eq_nil_or_concat begun with rfl | ⟨front, last, rfl⟩
    · rfl
    · rw [List.concat_eq_append, pendingOf_concat, Option.getD_some]
  simp only [Pending.extend, depths, parts]
  refine ⟨?_, ?_⟩
  · rw [pendingOf_concat, scan_depth]
    simp [allText]
  · rw [scan_separated_iff]
    simp only [Separates, List.foldl_append]

end Pending

end SdlProjection
