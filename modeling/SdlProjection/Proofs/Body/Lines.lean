import SdlProjection.Proofs.Fragment.Loops

/-!
Contract: the lines of a body that declarations are made of.

Owns: `bodyLines`, the lines that are neither blank nor part of a comment or of a
description, up to the brace that closes the body; and `Reader.Takes`, a move
forward that passes some of them.

Does not own: how these lines are cut into declarations (`Proofs.Body.Groups`).
-/

namespace SdlProjection

open Reader (Declaration isRemark)

/-- What the lines of a body come to: those that matter, trimmed and with their numbers, and the
lines behind the closing brace, if there is one. -/
structure BodyLines where
  significant : List Declaration
  left : Option (List (List Char))

namespace BodyLines

/-- With some lines that matter before the others. -/
def after (taken : List Declaration) (lines : BodyLines) : BodyLines :=
  { lines with significant := taken ++ lines.significant }

/-- The body ends before these lines: with its brace, or with the input. -/
def Ended (lines : BodyLines) (rest : List (List Char)) : Prop :=
  lines.left = some rest ∨ (lines.left = none ∧ rest = [])

theorem Ended.unique {lines : BodyLines} {rest rest' : List (List Char)} (ended : lines.Ended rest)
    (ended' : lines.Ended rest') : rest = rest' := by
  rcases ended with brace | ⟨noBrace, rfl⟩
  · rcases ended' with brace' | ⟨noBrace, -⟩
    · exact Option.some.inj (brace.symm.trans brace')
    · cases brace.symm.trans noBrace
  · rcases ended' with brace | ⟨-, rfl⟩
    · cases noBrace.symm.trans brace
    · rfl

end BodyLines

/-- The lines of a body, the first one with the given number, perhaps from within a block
description on. -/
def bodyLines : Bool → Nat → List (List Char) → BodyLines
  | _, _, [] => ⟨[], none⟩
  | true, number, line :: rest =>
    bodyLines (classify (Text.trim line) != .blockDescriptionMarker) (number + 1) rest
  | false, number, line :: rest =>
    let kind := classify (Text.trim line)
    if kind = .closingBrace then ⟨[], some rest⟩
    else if isRemark kind then bodyLines (kind == .blockDescriptionMarker) (number + 1) rest
    else if (Text.trim line).isEmpty then bodyLines false (number + 1) rest
    else (bodyLines false (number + 1) rest).after [(Text.trim line, number)]

/-- A line that matters is one of the lines, trimmed, and not blank. -/
theorem exists_of_mem_significant {described : Bool} {number : Nat} {lines : List (List Char)}
    {declaration : Declaration}
    (member : declaration ∈ (bodyLines described number lines).significant) :
    ∃ line ∈ lines, declaration.1 = Text.trim line ∧ declaration.1 ≠ [] := by
  induction lines generalizing described number with
  | nil => cases member
  | cons line rest inductionHypothesis =>
      have behind : ∀ {described' : Bool},
          declaration ∈ (bodyLines described' (number + 1) rest).significant →
          ∃ raw ∈ line :: rest, declaration.1 = Text.trim raw ∧ declaration.1 ≠ [] := by
        intro described' later
        obtain ⟨raw, among, same⟩ := inductionHypothesis later
        exact ⟨raw, List.mem_cons_of_mem line among, same⟩
      cases described with
      | true => exact behind member
      | false =>
          simp only [bodyLines] at member
          split at member
          · cases member
          · split at member
            · exact behind member
            · split at member
              · exact behind member
              · next notBlank =>
                  rcases List.mem_cons.mp member with rfl | later
                  · exact ⟨line, List.mem_cons_self, rfl, by simpa using notBlank⟩
                  · exact behind later

/-- What is left stands behind a line. -/
theorem length_left_lt {described : Bool} {number : Nat} {lines rest : List (List Char)}
    (ends : (bodyLines described number lines).left = some rest) :
    rest.length < lines.length := by
  induction lines generalizing described number with
  | nil => cases ends
  | cons line later inductionHypothesis =>
      have behind : ∀ {described' : Bool},
          (bodyLines described' (number + 1) later).left = some rest →
          rest.length < (line :: later).length :=
        fun endsLater => Nat.lt_succ_of_lt (inductionHypothesis endsLater)
      cases described with
      | true => exact behind ends
      | false =>
          simp only [bodyLines] at ends
          split at ends
          · cases ends
            exact Nat.lt_succ_self _
          · split at ends
            · exact behind ends
            · split at ends
              · exact behind ends
              · exact behind ends

/-! ### The lines under a cursor -/

namespace Cursor

/-- The lines of the body that the cursor is in, from the current one on. -/
def bodyLines (cursor : Cursor) (described : Bool) : BodyLines :=
  SdlProjection.bodyLines described cursor.lineNumber cursor.rest

variable {cursor : Cursor} {line : List Char} {rest : List (List Char)}

theorem bodyLines_of_nil (atEnd : cursor.rest = []) (described : Bool) :
    cursor.bodyLines described = ⟨[], none⟩ := by
  rw [bodyLines, atEnd]
  cases described <;> rfl

theorem bodyLines_advance (here : cursor.rest = line :: rest) (described : Bool) :
    cursor.advance.bodyLines described =
      SdlProjection.bodyLines described (cursor.lineNumber + 1) rest := by
  simp only [bodyLines, advance, here, lineNumber, List.length_cons]

/-- Within a block description, only its marker counts. -/
theorem bodyLines_described (here : cursor.rest = line :: rest) :
    cursor.bodyLines true =
      cursor.advance.bodyLines (classify (Text.trim line) != .blockDescriptionMarker) := by
  rw [bodyLines_advance here, bodyLines, here, SdlProjection.bodyLines]

theorem bodyLines_cons (here : cursor.rest = line :: rest) :
    cursor.bodyLines false =
      if classify (Text.trim line) = .closingBrace then ⟨[], some rest⟩
      else if isRemark (classify (Text.trim line)) then
        cursor.advance.bodyLines (classify (Text.trim line) == .blockDescriptionMarker)
      else if (Text.trim line).isEmpty then cursor.advance.bodyLines false
      else (cursor.advance.bodyLines false).after [(Text.trim line, cursor.lineNumber)] := by
  rw [bodyLines_advance here, bodyLines_advance here, bodyLines, here, SdlProjection.bodyLines]

theorem bodyLines_closing (here : cursor.rest = line :: rest)
    (closing : classify (Text.trim line) = .closingBrace) :
    cursor.bodyLines false = ⟨[], some rest⟩ := by
  rw [bodyLines_cons here, if_pos closing]

end Cursor

/-! ### Moving over lines -/

namespace Reader

/-- The reader moves forward over some lines that matter, and perhaps over others; it reports these
lines and declares nothing. -/
structure Takes (reader behind : Reader) (taken : List Declaration) (reported : List Diagnostic) :
    Prop where
  precedes : reader.cursor.Precedes behind.cursor
  lines : reader.cursor.bodyLines false = (behind.cursor.bodyLines false).after taken
  schema : behind.schema = reader.schema
  diagnostics : behind.journal.diagnostics = reader.journal.diagnostics ++ reported

section Passing

variable {allowance : Nat} {reader : Reader} {line : List Char} {rest : List (List Char)}

/-- A block description is passed to its end. -/
structure PassesDescription (state : Cursor × List (List Char)) (result : Cursor × List Char) :
    Prop where
  reaches : state.1.Reaches result.1
  lines : state.1.bodyLines true = result.1.bodyLines false

theorem passes_descriptionPass (state : Cursor × List (List Char)) :
    SoundPass Prod.fst PassesDescription descriptionPass state := by
  obtain ⟨cursor, parts⟩ := state
  obtain ⟨step, taken, does⟩ := exists_descriptionStep cursor parts
  refine ⟨step, taken, ?_⟩
  cases does with
  | atEnd here =>
      refine ⟨.refl cursor, ?_⟩
      rw [Cursor.bodyLines_of_nil here, Cursor.bodyLines_of_nil here]
  | closing here closing =>
      refine ⟨(Cursor.precedes_advance here).reaches, ?_⟩
      rw [Cursor.bodyLines_described here, closing]
      rfl
  | part here notClosing =>
      have forward := Cursor.precedes_advance here
      refine ⟨forward, ?_⟩
      intro result passes
      refine ⟨forward.reaches.trans passes.reaches, ?_⟩
      rw [Cursor.bodyLines_described here, bne_iff_ne.mpr notClosing]
      exact passes.lines

/-- A comment or a description is none of the lines that matter. -/
theorem exists_takes_skipRemark (enough : reader.cursor.rest.length < allowance)
    (here : reader.cursor.rest = line :: rest)
    (remarks : isRemark (classify (Text.trim line)) = true) :
    ∃ behind, reader.skipRemark allowance (classify (Text.trim line)) = some behind ∧
      reader.Takes behind [] [] := by
  have forward := Cursor.precedes_advance here
  have oneLine : reader.cursor.take = (some line, reader.cursor.advance) := by
    simp [Cursor.take, Cursor.current?, here]
  have lines := Cursor.bodyLines_cons here
  cases kind : classify (Text.trim line) with
  | comment =>
      simp only [kind] at lines
      exact ⟨reader.advance, rfl, forward, lines, rfl, (List.append_nil _).symm⟩
  | oneLineBlockDescription | description =>
      simp only [kind] at lines
      refine ⟨_, rfl, ?_⟩
      rw [readDescription, oneLine]
      exact ⟨forward, lines, rfl, (List.append_nil _).symm⟩
  | blockDescriptionMarker =>
      simp only [kind] at lines
      have fewer : reader.cursor.advance.rest.length < allowance :=
        Nat.lt_trans forward.rest_lt enough
      obtain ⟨description, read, passes⟩ := exists_loop Prod.fst PassesDescription
        (reader.cursor.advance, Fragment.addPart [] (Line.blockOpening line)) fewer
        fun next _ => passes_descriptionPass next
      refine ⟨reader.discard description, ?_, forward.reaches_of passes.reaches,
        lines.trans passes.lines, rfl, (List.append_nil _).symm⟩
      simp only [skipRemark, readBlockDescription, oneLine, read, Option.map_some]
  | schemaOpener | rootBinding _ | operationOpener _ | field _ | objectOpener | scalarDefinition
  | unionDefinition | unionMember | enumOpener | closingBrace | unmatched =>
      rw [kind] at remarks
      cases remarks

theorem takes_blank (here : reader.cursor.rest = line :: rest)
    (notClosing : classify (Text.trim line) ≠ .closingBrace)
    (notRemark : isRemark (classify (Text.trim line)) = false)
    (blank : (Text.trim line).isEmpty = true) : reader.Takes reader.advance [] [] where
  precedes := Cursor.precedes_advance here
  lines := by
    rw [Cursor.bodyLines_cons here, if_neg notClosing, notRemark, if_neg Bool.false_ne_true,
      if_pos blank]
    rfl
  schema := rfl
  diagnostics := (List.append_nil _).symm

/-- Any other line that does not close the body matters. -/
theorem Solid.takes (solid : reader.Solid line rest) :
    reader.Takes reader.advance [(Text.trim line, reader.cursor.lineNumber)] [] where
  precedes := Cursor.precedes_advance solid.here
  lines := by
    rw [Cursor.bodyLines_cons solid.here, if_neg solid.notClosing, solid.notRemark,
      if_neg Bool.false_ne_true, if_neg solid.notBlank]
    rfl
  schema := rfl
  diagnostics := (List.append_nil _).symm

/-- A line that is skipped is reported as it stands. -/
theorem Solid.takes_skipUnmatched (solid : reader.Solid line rest) :
    reader.Takes (reader.skipUnmatched (Text.trim line))
      [(Text.trim line, reader.cursor.lineNumber)]
      [⟨reader.cursor.file, reader.cursor.lineNumber, String.ofList (Text.trim line)⟩] := by
  rw [skipUnmatched, Text.trim_trim, if_neg solid.notBlank]
  exact ⟨solid.takes.precedes, solid.takes.lines, rfl, rfl⟩

end Passing

end Reader

end SdlProjection
