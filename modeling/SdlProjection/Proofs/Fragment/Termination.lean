import SdlProjection.Proofs.Fragment.Loops

/-!
Contract: every reading comes to an end.

Owns: `Reader.ForwardLoops`, that each of the six loops moves the one cursor
forward in every pass that does not leave it, and that as many passes as there
are lines left, and one more, are enough for all of them, so that the nested
loops read whatever the fold over the lines reads. A reading that does not fail
has passed every line, whatever is still open after the last one.

Does not own: what the single passes do (`Proofs.Fragment.Loops`).
-/

namespace SdlProjection.Reader

/-- Each loop passes forward over the lines that are left, if these are fewer than its allowance.
A closing brace may stay under the cursor when a declaration is given back, but the declaration
itself has taken a line. -/
structure ForwardLoops (allowance : Nat) : Prop where
  top : ∀ reader : Reader, reader.cursor.rest.length < allowance →
    ForwardPass Reader.cursor (·.2.cursor) (topPass allowance) reader
  body : ∀ state : Reader × Body, state.1.cursor.rest.length < allowance →
    ForwardPass (·.1.cursor) (·.2.cursor) (bodyPass allowance) state
  declaration : ∀ body (state : Reader × Option Pending),
    state.1.cursor.rest.length < allowance →
    ForwardPass (·.1.cursor) (·.1.cursor) (declarationPass allowance body) state
  enumeration : ∀ name (state : Reader × List String),
    state.1.cursor.rest.length < allowance →
    ForwardPass (·.1.cursor) (·.1.cursor) (enumPass allowance name) state
  union : ∀ state : Reader × List String, ForwardPass (·.1.cursor) (·.1.cursor) unionPass state
  description : ∀ state : Cursor × List (List Char),
    ForwardPass Prod.fst Prod.fst descriptionPass state
  consumption : ∀ body (reader : Reader), reader.cursor.rest.length < allowance →
    ∃ behind declaration?, reader.nextDeclaration allowance body = some (behind, declaration?) ∧
      reader.cursor.Reaches behind.cursor ∧
      (declaration?.isSome = true → reader.cursor.Precedes behind.cursor)

theorem forwardLoops (allowance : Nat) : ForwardLoops allowance where
  top reader enough := (sound_topPass reader enough).forward fun _ concludes => concludes.reaches
  body state enough := (sound_bodyPass state enough).forward fun _ completes => completes.reaches
  declaration body state enough :=
    (sound_declarationPass body state enough).forward fun _ assembles => assembles.reaches
  enumeration name state enough :=
    (sound_enumPass name state enough).forward fun _ gathers => gathers.reaches
  union state := (sound_unionPass "" state).forward fun _ gathers => gathers.reaches
  description state := (sound_descriptionPass state).forward fun _ describes => describes.reaches
  consumption body reader enough := by
    obtain ⟨⟨behind, declaration?⟩, read, assembles⟩ := exists_nextDeclaration body enough
    exact ⟨behind, declaration?, read, assembles.reaches, assembles.consumes rfl⟩

section Reading

variable {allowance : Nat} {reader : Reader}

theorem exists_readAll (enough : reader.cursor.rest.length < allowance) :
    ∃ reading, reader.readAll allowance = some reading ∧ Concludes reader reading :=
  exists_loop Reader.cursor Concludes reader enough fun next reaches =>
    sound_topPass next (Nat.lt_of_le_of_lt reaches.rest_le enough)

/-- What the loops conclude is what the fold over the lines gives. -/
theorem parse_of_concludes {cursor : Cursor} {bindings : Schema} {journal : Journal}
    {reading : Reading} (concludes : Concludes (start cursor bindings journal) reading) :
    Fragment.parse cursor bindings journal = (reading.1, reading.2.journal) := by
  have same : (Fragment.start bindings journal).run cursor =
      (start cursor bindings journal).final .top := rfl
  obtain ⟨result, behind⟩ := reading
  cases result with
  | ok schema =>
      obtain ⟨-, read, isSchema⟩ := concludes.reads schema rfl
      simp only [Fragment.parse, same, read]
      rw [isSchema]
      rfl
  | error error =>
      obtain ⟨file, stopped⟩ := concludes.fails error rfl
      have failed : ((Fragment.start bindings journal).run cursor).block =
          .failed error.cause error.number := by
        rw [same, stopped]
        rfl
      rw [Fragment.parse_of_failed failed, same, stopped]
      obtain ⟨path, number, cause⟩ := error
      cases file
      rfl

end Reading

/-- From every place in any lines and under any bindings, the loops come to an end and read what
the fold over the lines reads. They only move forward, and every place that they can reach is
within the lines; without a failure they pass all of them. -/
theorem readAll_eq_parse (cursor : Cursor) (bindings : Schema) (journal : Journal)
    (allowance : Nat) (enough : cursor.rest.length < allowance) :
    ForwardLoops allowance ∧
      ∃ behind, readAll allowance (start cursor bindings journal) =
          some ((Fragment.parse cursor bindings journal).1, behind) ∧
        behind.journal = (Fragment.parse cursor bindings journal).2 ∧
        cursor.Reaches behind.cursor ∧
        (∀ place, cursor.Reaches place → place.passed.length ≤ cursor.lines.length) ∧
        ∀ schema, (Fragment.parse cursor bindings journal).1 = .ok schema →
          behind.cursor.rest = [] := by
  obtain ⟨reading, read, concludes⟩ :=
    @exists_readAll allowance (start cursor bindings journal) enough
  have parsed := parse_of_concludes concludes
  refine ⟨forwardLoops allowance, reading.2, ?_, ?_, concludes.reaches,
    fun _ reaches => reaches.within, ?_⟩
  · rw [read, parsed]
  · rw [parsed]
  · intro schema succeeded
    rw [parsed] at succeeded
    exact (concludes.reads schema succeeded).1

/-- An object, an argument list in it and a description that all stay open. -/
def openLines : List (List Char) :=
  ["type A \x7b".toList, "a((b: Int): Int".toList, "\"\"\" more".toList]

/-- Four passes are enough to read the three lines, and none of them is left. -/
theorem readAll_openLines :
    (Cursor.ofLines openLines).rest.length < 4 ∧ ForwardLoops 4 ∧
      ∃ behind, readAll 4 (start (.ofLines openLines) .empty .empty) =
          some (.ok (Schema.empty.addType "A"
            (.object [("a((b: Int)", .scalar .int .nullable)] .nullable)), behind) ∧
        behind.cursor.rest = [] := by
  have enough : (Cursor.ofLines openLines).rest.length < 4 := by decide
  have read : (Fragment.parse (.ofLines openLines) .empty .empty).1 =
      .ok (Schema.empty.addType "A"
        (.object [("a((b: Int)", .scalar .int .nullable)] .nullable)) := rfl
  obtain ⟨forward, behind, result, -, -, -, atEnd⟩ :=
    readAll_eq_parse (.ofLines openLines) .empty .empty 4 enough
  rw [read] at result
  exact ⟨enough, forward, behind, result, atEnd _ read⟩

end SdlProjection.Reader
