import SdlProjection.Proofs.Body.Groups
import SdlProjection.Proofs.Body.Lines

/-!
Contract: how the reader puts declarations together.

Owns: `Reader.Accounts`, which lines the search for one declaration passes and
what becomes of them; `Reader.declarations`, the search repeated until there is
no further declaration; and `Reader.declarations_account`: every line of a body
is taken once and in order, cut into groups as `Grouped` says.

Does not own: which lines matter (`Proofs.Body.Lines`) and what a declaration is
read to (`Model.Field`).
-/

namespace SdlProjection

namespace Reader

/-- The lines of a declaration that is still pending. -/
structure Begun (pending : Option Pending) (lines : List Declaration) : Prop where
  pending : pending = pendingOf lines
  begins : Begins lines
  unseparated : Unseparated lines

/-- The lines, from a pending declaration on, are cut into the given groups: all of them up to the
end of the body, or those before the place of the cursor. -/
inductive CutsOff (begun : List Declaration) (lines : BodyLines) (groups : List Group)
    (behind : Cursor) : Option Declaration → Prop
  | all : Grouped (begun ++ lines.significant) groups → lines.Ended behind.rest →
      CutsOff begun lines groups behind none
  | first {declaration : Declaration} :
      (∀ later, Grouped (behind.bodyLines false).significant later →
        Grouped (begun ++ lines.significant) (groups ++ later)) →
      (behind.bodyLines false).left = lines.left →
      CutsOff begun lines groups behind (some declaration)

/-- The lines that a search for a declaration passes are cut into groups. Of these it returns the
declaration alone, and reports the others. -/
structure Accounts (body : Body) (state : Reader × Option Pending)
    (result : Reader × Option Declaration) : Prop where
  reaches : state.1.cursor.Reaches result.1.cursor
  schema : result.1.schema = state.1.schema
  groups : ∀ begun, Begun state.2 begun → ∃ groups, body.returned groups = result.2.toList ∧
    result.1.journal.diagnostics =
      state.1.journal.diagnostics ++ body.reported state.1.cursor.file groups ∧
    CutsOff begun (state.1.cursor.bodyLines false) groups result.1.cursor result.2

/-! ### Pending declarations -/

section Pending

variable {pending : Option Pending} {declaration : Pending} {begun front : List Declaration}
  {last : Declaration}

theorem begun_nothing : Begun none [] :=
  ⟨rfl, (fun _ _ parts => nomatch parts), unseparated_nil⟩

theorem Begun.eq_nil (isBegun : Begun none begun) : begun = [] :=
  pendingOf_eq_none_iff.mp isBegun.pending.symm

theorem assembled_of_pendingOf (isPending : some declaration = pendingOf (front ++ [last])) :
    assembled declaration = (Group.declared front last).declaration := by
  rw [pendingOf_concat, Option.some.injEq] at isPending
  rw [isPending]
  rfl

theorem Begun.exists_concat (isBegun : Begun (some declaration) begun) :
    ∃ front last, begun = front ++ [last] ∧
      assembled declaration = (Group.declared front last).declaration := by
  rcases List.eq_nil_or_concat begun with rfl | ⟨front, last, rfl⟩
  · cases isBegun.pending
  · rw [List.concat_eq_append] at isBegun ⊢
    exact ⟨front, last, rfl, assembled_of_pendingOf isBegun.pending⟩

/-- A line that is not stray can go on with a declaration, or begin one. -/
theorem Begun.begins_concat (isBegun : Begun pending begun) {line : List Char} (number : Nat)
    (notStray : pending = none → ¬Line.Skipped line) : Begins (begun ++ [(line, number)]) := by
  cases pending with
  | none =>
      obtain rfl := isBegun.eq_nil
      exact begins_singleton (notStray rfl)
  | some declaration =>
      obtain ⟨front, last, rfl, -⟩ := isBegun.exists_concat
      exact isBegun.begins.concat (by simp) _

end Pending

/-! ### One line -/

section Pass

variable {allowance : Nat} {reader behind : Reader} {body : Body} {line : List Char}
  {rest : List (List Char)} {pending next : Option Pending} {taken : List Declaration}

/-- A pass that goes on cuts off the groups that end with the lines it takes. -/
theorem Accounts.again {reported : List Diagnostic} (takes : reader.Takes behind taken reported)
    (regroup : ∀ begun, Begun pending begun → ∃ first begun', Begun next begun' ∧
      body.returned first = [] ∧ body.reported reader.cursor.file first = reported ∧
      ∀ lines groups, Grouped (begun' ++ lines) groups →
        Grouped (begun ++ (taken ++ lines)) (first ++ groups)) :
    (Pass.again (behind, next)).Sound (·.1.cursor) (Accounts body) (reader, pending) := by
  refine ⟨takes.precedes, ?_⟩
  intro result accounts
  refine ⟨takes.precedes.reaches.trans accounts.reaches, accounts.schema.trans takes.schema, ?_⟩
  intro begun isBegun
  obtain ⟨first, begun', isBegun', noneReturned, isReported, regrouped⟩ := regroup begun isBegun
  obtain ⟨groups, isReturned, diagnostics, cuts⟩ := accounts.groups begun' isBegun'
  refine ⟨first ++ groups, ?_, ?_, ?_⟩
  · rw [Body.returned_append, noneReturned, isReturned, List.nil_append]
  · rw [diagnostics, takes.diagnostics, Body.reported_append, isReported,
      takes.precedes.reaches.file, List.append_assoc]
  · rw [takes.lines]
    cases found : result.2 with
    | none =>
        rw [found] at cuts
        cases cuts with
        | all grouped ended => exact .all (regrouped _ _ grouped) ended
    | some declaration =>
        rw [found] at cuts
        cases cuts with
        | first goesOn left =>
            refine .first (fun later grouped => ?_) left
            rw [List.append_assoc]
            exact regrouped _ _ (goesOn later grouped)

/-- Lines that do not matter change nothing. -/
theorem Accounts.again_over (takes : reader.Takes behind [] []) :
    (Pass.again (behind, pending)).Sound (·.1.cursor) (Accounts body) (reader, pending) :=
  Accounts.again takes fun begun isBegun =>
    ⟨[], begun, isBegun, rfl, rfl, fun _ _ grouped => grouped⟩

/-- A pass that returns a declaration cuts off its group. -/
theorem Accounts.leave {declaration : Declaration} (takes : reader.Takes behind taken [])
    (regroup : ∀ begun, Begun pending begun → ∃ group, body.returned [group] = [declaration] ∧
      body.reported reader.cursor.file [group] = [] ∧
      ∀ lines groups, Grouped lines groups →
        Grouped (begun ++ (taken ++ lines)) (group :: groups)) :
    Accounts body (reader, pending) (behind, some declaration) := by
  refine ⟨takes.precedes.reaches, takes.schema, ?_⟩
  intro begun isBegun
  obtain ⟨group, isReturned, isReported, regrouped⟩ := regroup begun isBegun
  refine ⟨[group], isReturned, ?_, .first (fun later grouped => ?_) ?_⟩
  · rw [takes.diagnostics, isReported]
  · rw [takes.lines]
    exact regrouped _ _ grouped
  · rw [takes.lines]
    rfl

/-- A declaration that is pending where the body ends is cut short. -/
theorem Accounts.leave_pending {declaration : Pending}
    (noMore : (reader.cursor.bodyLines false).significant = []) :
    Accounts body (reader, some declaration) (reader, some (assembled declaration)) := by
  refine ⟨.refl _, rfl, ?_⟩
  intro begun isBegun
  obtain ⟨front, last, rfl, isDeclaration⟩ := isBegun.exists_concat
  refine ⟨[.declared front last], ?_, (List.append_nil _).symm, .first (fun later grouped => ?_) rfl⟩
  · rw [isDeclaration]
    rfl
  · rw [noMore] at grouped ⊢
    rw [grouped.eq_nil, List.append_nil]
    exact .cutShort isBegun.begins isBegun.unseparated

/-- Without a pending declaration, the body is at its end. -/
theorem Accounts.leave_nothing (reaches : reader.cursor.Reaches behind.cursor)
    (schema : behind.schema = reader.schema)
    (diagnostics : behind.journal.diagnostics = reader.journal.diagnostics)
    (noMore : (reader.cursor.bodyLines false).significant = [])
    (ended : (reader.cursor.bodyLines false).Ended behind.cursor.rest) :
    Accounts body (reader, none) (behind, none) := by
  refine ⟨reaches, schema, ?_⟩
  intro begun isBegun
  obtain rfl := isBegun.eq_nil
  refine ⟨[], rfl, diagnostics.trans (List.append_nil _).symm, .all ?_ ended⟩
  rw [noMore]
  exact .nil

/-- A stray line of an object is reported and makes a group of its own. -/
theorem Accounts.again_stray {name : String} {fields : List (String × TypeModel)}
    {number : Nat} (takes : reader.Takes behind [(line, number)]
      [⟨reader.cursor.file, number, String.ofList line⟩]) (skipped : Line.Skipped line) :
    (Pass.again (behind, none)).Sound (·.1.cursor) (Accounts (.object name fields))
      (reader, none) := by
  refine Accounts.again takes ?_
  intro begun isBegun
  obtain rfl := isBegun.eq_nil
  exact ⟨[.stray (line, number)], [], begun_nothing, rfl, rfl,
    fun lines groups grouped => .stray skipped grouped⟩

/-- In a block of operations it is returned. -/
theorem Accounts.leave_stray {kind : OperationKind} {number : Nat}
    (takes : reader.Takes behind [(line, number)] []) (skipped : Line.Skipped line) :
    Accounts (.operations kind) (reader, none) (behind, some (line, number)) := by
  refine Accounts.leave takes ?_
  intro begun isBegun
  obtain rfl := isBegun.eq_nil
  exact ⟨.stray (line, number), rfl, rfl, fun lines groups grouped => .stray skipped grouped⟩

section Declarations

variable {number : Nat} (takes : reader.Takes behind [(line, number)] [])
  (notStray : pending = none → ¬Line.Skipped line)
include takes notStray

/-- A line without the colon goes on with the declaration. -/
theorem Accounts.again_declaration
    (open' : ((pending.getD .nothing).extend line number).2 = false) :
    (Pass.again (behind, some ((pending.getD .nothing).extend line number).1)).Sound
      (·.1.cursor) (Accounts body) (reader, pending) := by
  refine Accounts.again takes ?_
  intro begun isBegun
  obtain ⟨extended, separates⟩ := extend_pendingOf begun line number
  rw [← isBegun.pending] at extended separates
  have unseparated : Unseparated (begun ++ [(line, number)]) := by
    rw [unseparated_concat_iff, ← separates, open']
    exact ⟨isBegun.unseparated, Bool.false_ne_true⟩
  refine ⟨[], begun ++ [(line, number)], ⟨extended, isBegun.begins_concat number notStray,
    unseparated⟩, rfl, rfl, fun lines groups grouped => ?_⟩
  rwa [List.append_assoc] at grouped

/-- The line with the colon completes it. -/
theorem Accounts.leave_declaration
    (complete : ((pending.getD .nothing).extend line number).2 = true) :
    Accounts body (reader, pending)
      (behind, some (assembled ((pending.getD .nothing).extend line number).1)) := by
  refine Accounts.leave takes ?_
  intro begun isBegun
  obtain ⟨extended, separates⟩ := extend_pendingOf begun line number
  rw [← isBegun.pending] at extended separates
  refine ⟨.declared begun (line, number), ?_, rfl, fun lines groups grouped => ?_⟩
  · rw [assembled_of_pendingOf extended]
    rfl
  · exact .complete (isBegun.begins_concat number notStray) isBegun.unseparated
      (separates.mp complete) grouped

end Declarations

/-- A stray line is one that is skipped where no declaration is pending. -/
theorem stray_iff (pending : Option Pending) (line : List Char) :
    Stray pending (Text.trim line) ↔ pending = none ∧ Line.Skipped (Text.trim line) := by
  rw [Stray, Option.isNone_iff_eq_none, Line.Skipped, Text.trim_trim]
  simp

theorem not_skipped_of_not_stray (notStray : ¬Stray pending (Text.trim line)) (isNone : pending = none) :
    ¬Line.Skipped (Text.trim line) :=
  fun skipped => notStray ((stray_iff pending line).mpr ⟨isNone, skipped⟩)

theorem accounts_declarationPass (body : Body) (state : Reader × Option Pending)
    (enough : state.1.cursor.rest.length < allowance) :
    SoundPass (·.1.cursor) (Accounts body) (declarationPass allowance body) state := by
  obtain ⟨reader, pending⟩ := state
  obtain ⟨step, taken, does⟩ := exists_declarationStep body reader pending enough
  refine ⟨step, taken, ?_⟩
  cases does with
  | atEnd _ atEnd =>
      have noLines := Cursor.bodyLines_of_nil atEnd false
      have noMore : (reader.cursor.bodyLines false).significant = [] := by rw [noLines]
      cases pending with
      | none =>
          refine Accounts.leave_nothing (.refl _) rfl rfl noMore (.inr ⟨?_, atEnd⟩)
          rw [noLines]
      | some declaration => exact Accounts.leave_pending noMore
  | endOfBody here closing =>
      have ends := Cursor.bodyLines_closing here closing
      refine Accounts.leave_nothing (Cursor.precedes_advance here).reaches rfl rfl ?_ (.inl ?_)
      · rw [ends]
      · rw [ends]
        simp only [advance, Cursor.advance, here]
  | endOfDeclaration declaration here closing =>
      apply Accounts.leave_pending
      rw [Cursor.bodyLines_closing here closing]
  | remark _ here closing remarks skipped =>
      obtain ⟨behind, skipped', takes⟩ := exists_takes_skipRemark enough here remarks
      obtain rfl := Option.some.inj (skipped.symm.trans skipped')
      exact Accounts.again_over takes
  | blank _ here closing notRemark blank =>
      exact Accounts.again_over (takes_blank here closing notRemark blank)
  | strayOfObject solid isObject stray =>
      subst isObject
      exact Accounts.again_stray solid.takes_skipUnmatched ((stray_iff _ _).mp stray).2
  | strayOfOperations solid isBlock stray =>
      subst isBlock
      exact Accounts.leave_stray solid.takes ((stray_iff _ _).mp stray).2
  | complete _ solid notStray complete =>
      exact Accounts.leave_declaration solid.takes (not_skipped_of_not_stray notStray) complete
  | incomplete _ solid notStray incomplete =>
      exact Accounts.again_declaration solid.takes (not_skipped_of_not_stray notStray) incomplete

end Pass

/-! ### One declaration -/

section Declaration

variable {allowance : Nat} {reader behind : Reader} {body : Body}

/-- The search for a declaration comes to an end. If it finds one, it has moved forward. -/
theorem exists_accounts (body : Body) (enough : reader.cursor.rest.length < allowance) :
    ∃ result, reader.nextDeclaration allowance body = some result ∧
      Accounts body (reader, none) result ∧
      (result.2.isSome = true → reader.cursor.Precedes result.1.cursor) := by
  obtain ⟨result, found, accounts⟩ :=
    exists_loop (·.1.cursor) (Accounts body) (reader, none) enough fun next reaches =>
      accounts_declarationPass body next (Nat.lt_of_le_of_lt reaches.rest_le enough)
  obtain ⟨result', found', assembles⟩ := exists_nextDeclaration body enough
  obtain rfl : result = result' := Option.some.inj (found.symm.trans found')
  exact ⟨result, found, accounts, assembles.consumes rfl⟩

/-- A search that finds no declaration has passed all lines of the body. -/
theorem Accounts.of_none (accounts : Accounts body (reader, none) (behind, none)) :
    ∃ groups, body.returned groups = [] ∧
      behind.journal.diagnostics =
        reader.journal.diagnostics ++ body.reported reader.cursor.file groups ∧
      Grouped (reader.cursor.bodyLines false).significant groups ∧
      (reader.cursor.bodyLines false).Ended behind.cursor.rest := by
  obtain ⟨groups, noneReturned, diagnostics, cuts⟩ := accounts.groups [] begun_nothing
  cases cuts with
  | all grouped ended => exact ⟨groups, noneReturned, diagnostics, grouped, ended⟩

/-- A search that finds one leaves the lines behind it. -/
theorem Accounts.of_some {declaration : Declaration}
    (accounts : Accounts body (reader, none) (behind, some declaration)) :
    ∃ first, body.returned first = [declaration] ∧
      behind.journal.diagnostics =
        reader.journal.diagnostics ++ body.reported reader.cursor.file first ∧
      (∀ later, Grouped (behind.cursor.bodyLines false).significant later →
        Grouped (reader.cursor.bodyLines false).significant (first ++ later)) ∧
      (behind.cursor.bodyLines false).left = (reader.cursor.bodyLines false).left := by
  obtain ⟨first, isReturned, diagnostics, cuts⟩ := accounts.groups [] begun_nothing
  cases cuts with
  | first goesOn left => exact ⟨first, isReturned, diagnostics, goesOn, left⟩

end Declaration

/-! ### All declarations -/

section Declarations

variable (allowance : Nat) (body : Body)

/-- One search more, with the declarations so far. -/
def declarationsPass : Reader × List Declaration →
    Option (Pass (Reader × List Declaration) (Reader × List Declaration))
  | (reader, found) =>
    (reader.nextDeclaration allowance body).map fun
      | (behind, none) => .leave (behind, found)
      | (behind, some declaration) => .again (behind, found ++ [declaration])

/-- The declarations of a body, searched for one after the other until there is none. -/
def declarations (reader : Reader) : Option (Reader × List Declaration) :=
  loop (declarationsPass allowance body) allowance (reader, [])

end Declarations

/-- All lines of a body are cut into groups, and the declarations among these returned. -/
structure AccountsAll (body : Body) (state result : Reader × List Declaration) : Prop where
  reaches : state.1.cursor.Reaches result.1.cursor
  schema : result.1.schema = state.1.schema
  ended : (state.1.cursor.bodyLines false).Ended result.1.cursor.rest
  groups : ∃ groups, Grouped (state.1.cursor.bodyLines false).significant groups ∧
    result.2 = state.2 ++ body.returned groups ∧
    result.1.journal.diagnostics =
      state.1.journal.diagnostics ++ body.reported state.1.cursor.file groups

section All

variable {allowance : Nat} {reader behind : Reader} {body : Body} {found : List Declaration}

theorem AccountsAll.again {declaration : Declaration}
    (precedes : reader.cursor.Precedes behind.cursor)
    (accounts : Accounts body (reader, none) (behind, some declaration)) :
    (Pass.again (behind, found ++ [declaration])).Sound (·.1.cursor) (AccountsAll body)
      (reader, found) := by
  refine ⟨precedes, ?_⟩
  intro result all
  obtain ⟨first, isReturned, diagnostics, goesOn, left⟩ := accounts.of_some
  obtain ⟨groups, grouped, allReturned, allDiagnostics⟩ := all.groups
  refine ⟨precedes.reaches.trans all.reaches, all.schema.trans accounts.schema, ?_,
    first ++ groups, goesOn groups grouped, ?_, ?_⟩
  · have ended := all.ended
    rwa [BodyLines.Ended, left] at ended
  · rw [allReturned, Body.returned_append, isReturned, List.append_assoc]
  · rw [allDiagnostics, diagnostics, Body.reported_append, precedes.reaches.file,
      List.append_assoc]

theorem accountsAll_declarationsPass (body : Body) (state : Reader × List Declaration)
    (enough : state.1.cursor.rest.length < allowance) :
    SoundPass (·.1.cursor) (AccountsAll body) (declarationsPass allowance body) state := by
  obtain ⟨reader, found⟩ := state
  obtain ⟨⟨behind, declaration⟩, read, accounts, forward⟩ := exists_accounts body enough
  cases declaration with
  | none =>
      obtain ⟨groups, noneReturned, diagnostics, grouped, ended⟩ := accounts.of_none
      refine ⟨.leave (behind, found), ?_, accounts.reaches, accounts.schema, ended, groups, grouped,
        ?_, diagnostics⟩
      · simp only [declarationsPass, read, Option.map_some]
      · rw [noneReturned, List.append_nil]
  | some declaration =>
      refine ⟨.again (behind, found ++ [declaration]), ?_, AccountsAll.again (forward rfl) accounts⟩
      simp only [declarationsPass, read, Option.map_some]

theorem exists_declarations (body : Body) (enough : reader.cursor.rest.length < allowance) :
    ∃ result, reader.declarations allowance body = some result ∧
      AccountsAll body (reader, []) result :=
  exists_loop (·.1.cursor) (AccountsAll body) (reader, []) enough fun next reaches =>
    accountsAll_declarationsPass body next (Nat.lt_of_le_of_lt reaches.rest_le enough)

theorem exists_grouped (body : Body) (enough : reader.cursor.rest.length < allowance) :
    ∃ groups, Grouped (reader.cursor.bodyLines false).significant groups := by
  obtain ⟨result, -, accountsAll⟩ := exists_declarations body enough
  obtain ⟨groups, grouped, -⟩ := accountsAll.groups
  exact ⟨groups, grouped⟩

/-- Every line of a body that matters is taken once and in order: the search for declarations,
repeated until it finds none, cuts the lines into groups in the one way that there is, returns the
declarations among them and reports the rest. It finds none exactly at the end of the body. -/
theorem declarations_account (body : Body) (enough : reader.cursor.rest.length < allowance) :
    ∃ behind groups, reader.declarations allowance body = some (behind, body.returned groups) ∧
      Grouped (reader.cursor.bodyLines false).significant groups ∧
      (∀ others, Grouped (reader.cursor.bodyLines false).significant others → others = groups) ∧
      groups.flatMap Group.lines = (reader.cursor.bodyLines false).significant ∧
      behind.journal.diagnostics =
        reader.journal.diagnostics ++ body.reported reader.cursor.file groups ∧
      behind.schema = reader.schema ∧ reader.cursor.Reaches behind.cursor ∧
      (reader.cursor.bodyLines false).Ended behind.cursor.rest ∧
      ∃ next found, reader.nextDeclaration allowance body = some (next, found) ∧
        (found = none ↔ (reader.cursor.bodyLines false).left = some next.cursor.rest ∨
          ((reader.cursor.bodyLines false).left = none ∧ next.cursor.rest = [] ∧
            body.returned groups = [])) := by
  obtain ⟨⟨behind, all⟩, read, accountsAll⟩ := exists_declarations body enough
  obtain ⟨groups, grouped, isReturned, diagnostics⟩ := accountsAll.groups
  obtain rfl : all = body.returned groups := isReturned
  obtain ⟨⟨next, found⟩, searched, accounts, -⟩ := exists_accounts body enough
  refine ⟨behind, groups, read, grouped, fun others other => grouped.unique other,
    grouped.flatMap_lines, diagnostics, accountsAll.schema, accountsAll.reaches, accountsAll.ended,
    next, found, searched, ?_⟩
  cases found with
  | none =>
      obtain ⟨groups', noneReturned, -, grouped', ended⟩ := accounts.of_none
      obtain rfl := grouped.unique grouped'
      exact iff_of_true rfl (ended.imp_right fun atEnd => ⟨atEnd.1, atEnd.2, noneReturned⟩)
  | some declaration =>
      obtain ⟨first, oneReturned, -, goesOn, left⟩ := accounts.of_some
      obtain ⟨later, groupedLater⟩ := exists_grouped body
        (Nat.lt_of_le_of_lt accounts.reaches.rest_le enough)
      obtain rfl := grouped.unique (goesOn later groupedLater)
      apply iff_of_false (Option.some_ne_none declaration)
      rintro (brace | ⟨-, -, nothing⟩)
      · -- the brace is still to come, so the lines behind it are fewer
        rw [← left] at brace
        exact Nat.lt_irrefl _ (length_left_lt brace)
      · rw [Body.returned_append, oneReturned] at nothing
        cases nothing

end All

/-- Before a body with a description, a declaration on three lines, a comment within it, and a line
that begins none. -/
def atPage : Reader :=
  .start (.ofLines (["\"\"\"", "all: of it", "\"\"\"", "photo(", "# in pixels", "by: Size", "): Photo",
    "no field", "title: String", "\x7d", "type Album \x7b"].map String.toList)) .empty .empty

theorem declarations_of_page :
    atPage.cursor.rest.length < 12 ∧
      ∃ groups, Grouped [("photo(".toList, 4), ("by: Size".toList, 6), ("): Photo".toList, 7),
          ("no field".toList, 8), ("title: String".toList, 9)] groups ∧
        (Body.object "Page" []).returned groups =
          [("photo( by: Size ): Photo".toList, 7), ("title: String".toList, 9)] ∧
        (Body.object "Page" []).reported none groups = [⟨none, 8, "no field"⟩] := by
  have enough : atPage.cursor.rest.length < 12 := by decide
  obtain ⟨behind, groups, read, grouped, -, -, diagnostics, -⟩ :=
    declarations_account (.object "Page" []) enough
  have significant : (atPage.cursor.bodyLines false).significant =
      [("photo(".toList, 4), ("by: Size".toList, 6), ("): Photo".toList, 7),
        ("no field".toList, 8), ("title: String".toList, 9)] := by
    decide +kernel
  have searched : (atPage.declarations 12 (.object "Page" [])).map
      (fun result => (result.2, result.1.journal.diagnostics)) =
        some ([("photo( by: Size ): Photo".toList, 7), ("title: String".toList, 9)],
          [⟨none, 8, "no field"⟩]) := by
    decide +kernel
  rw [read, Option.map_some, Option.some.injEq, Prod.mk.injEq] at searched
  obtain ⟨isReturned, isReported⟩ := searched
  exact ⟨enough, groups, significant ▸ grouped, isReturned, diagnostics.symm.trans isReported⟩

end Reader

end SdlProjection
