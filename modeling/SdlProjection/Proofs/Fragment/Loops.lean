import SdlProjection.Proofs.Fragment.Forward
import SdlProjection.Proofs.Fragment.Reading
import SdlProjection.Proofs.Text.Cutting

/-!
Contract: the nested loops of a reading come to an end, and read what the fold
over the lines reads.

Owns: all that one pass over a description or a declaration can do
(`DescriptionStep`, `DeclarationStep`); for each loop, what its results have to do
with the state it starts from, and that every pass keeps this and moves forward. A
state is compared by the fragment that the lines left to it lead to, so that a pass
keeps the reading if the lines it passes take the one fragment to the other.

Does not own: the loop rule (`Proofs.Fragment.Forward`).
-/

namespace SdlProjection

namespace Fragment

variable {cursor : Cursor} {fragment : Fragment}

/-- The lines are read one at a time. -/
theorem run_cons {line : List Char} {rest : List (List Char)} (here : cursor.rest = line :: rest) :
    fragment.run cursor =
      (fragment.step cursor.file line cursor.lineNumber).run cursor.advance := by
  rw [run_eq_feed, run_eq_feed, here, feed_cons]
  simp only [Cursor.advance, here, Cursor.lineNumber, List.length_cons]

theorem run_of_nil (atEnd : cursor.rest = []) : fragment.run cursor = fragment.finish := by
  rw [run_eq_feed, atEnd, feed_nil]

/-- After a failure nothing is read. -/
theorem run_of_failed {cause : DeclarationError} {number : Nat}
    (noDescription : fragment.description = none) (failed : fragment.block = .failed cause number) :
    fragment.run cursor = fragment := by
  obtain ⟨file, passed, rest⟩ := cursor
  induction rest generalizing passed with
  | nil =>
      rw [run_of_nil rfl, finish_of_no_description noDescription]
      simp only [closeOpen, close, failed]
  | cons line rest inductionHypothesis =>
      rw [run_cons rfl, step_of_failed noDescription failed]
      exact inductionHypothesis (line :: passed)

end Fragment

namespace Reader

/-- The state of a fragment that has come as far as the reader. -/
def fragment (reader : Reader) (block : Block) : Fragment :=
  ⟨reader.schema, block, none, reader.journal⟩

/-- What the lines that are left lead to while a block is open. -/
def final (reader : Reader) (block : Block) : Fragment :=
  (reader.fragment block).run reader.cursor

theorem final_of_nil {reader : Reader} {block : Block} (atEnd : reader.cursor.rest = []) :
    reader.final block = (reader.fragment block).closeOpen := by
  rw [final, Fragment.run_of_nil atEnd, Fragment.finish_of_no_description rfl]

/-- The line under the cursor is read first. -/
theorem final_of_cons {reader : Reader} {block : Block} {line : List Char}
    {rest : List (List Char)} (here : reader.cursor.rest = line :: rest) :
    reader.final block =
      ((reader.fragment block).step reader.cursor.file line reader.cursor.lineNumber).run
        reader.cursor.advance := by
  rw [final, Fragment.run_cons here]

/-! ### Descriptions -/

/-- A block description is read to a text, and the lines behind it are the same. -/
structure Describes (state : Cursor × List (List Char)) (result : Cursor × List Char) : Prop where
  reaches : state.1.Reaches result.1
  reads : ∀ fragment : Fragment, { fragment with description := some state.2 }.run state.1 =
    (fragment.discardDescription result.2).run result.1

/-- What the reading of a block description does with the line under the cursor. -/
inductive DescriptionStep (cursor : Cursor) (parts : List (List Char)) :
    Pass (Cursor × List (List Char)) (Cursor × List Char) → Prop
  | atEnd : cursor.rest = [] → DescriptionStep cursor parts (.leave (cursor, Text.joinSpaced parts))
  | closing {line : List Char} {rest : List (List Char)} : cursor.rest = line :: rest →
      classify (Text.trim line) = .blockDescriptionMarker → DescriptionStep cursor parts
        (.leave (cursor.advance, Text.joinSpaced (Fragment.addPart parts (Line.blockClosing line))))
  | part {line : List Char} {rest : List (List Char)} : cursor.rest = line :: rest →
      classify (Text.trim line) ≠ .blockDescriptionMarker → DescriptionStep cursor parts
        (.again (cursor.advance, Fragment.addPart parts (Text.trim line)))

theorem exists_descriptionStep (cursor : Cursor) (parts : List (List Char)) :
    ∃ step, descriptionPass (cursor, parts) = some step ∧ DescriptionStep cursor parts step := by
  cases here : cursor.rest with
  | nil =>
      refine ⟨.leave (cursor, Text.joinSpaced parts), ?_, .atEnd here⟩
      simp [descriptionPass, Cursor.take, Cursor.current?, Cursor.advance_of_nil here, here]
  | cons line rest =>
      by_cases closing : classify (Text.trim line) = .blockDescriptionMarker
      · refine ⟨_, ?_, .closing here closing⟩
        simp [descriptionPass, Cursor.take, Cursor.current?, here, closing]
      · refine ⟨_, ?_, .part here closing⟩
        simp [descriptionPass, Cursor.take, Cursor.current?, here, closing]

theorem sound_descriptionPass (state : Cursor × List (List Char)) :
    SoundPass Prod.fst Describes descriptionPass state := by
  obtain ⟨cursor, parts⟩ := state
  obtain ⟨step, taken, does⟩ := exists_descriptionStep cursor parts
  refine ⟨step, taken, ?_⟩
  cases does with
  | atEnd here =>
      refine ⟨.refl cursor, ?_⟩
      intro fragment
      rw [Fragment.run_of_nil here, Fragment.run_of_nil here, Fragment.finish_of_description rfl,
        Fragment.finish_of_no_description rfl]
      rfl
  | closing here closing =>
      refine ⟨(Cursor.precedes_advance here).reaches, ?_⟩
      intro fragment
      rw [Fragment.run_cons here, Fragment.step_of_description rfl, Fragment.describe,
        if_pos closing]
      rfl
  | part here notClosing =>
      have forward := Cursor.precedes_advance here
      refine ⟨forward, ?_⟩
      intro result describes
      refine ⟨forward.reaches.trans describes.reaches, ?_⟩
      intro fragment
      rw [Fragment.run_cons here, Fragment.step_of_description rfl, Fragment.describe,
        if_neg notClosing]
      exact describes.reads fragment

/-- The comment or description under the cursor is passed over, on lines that are read as one. -/
structure Skips (reader : Reader) (kind : LineKind) (text : List Char) (behind : Reader) :
    Prop where
  precedes : reader.cursor.Precedes behind.cursor
  reads : ∀ block, ∃ remarked, (reader.fragment block).remark? kind text = some remarked ∧
    remarked.run reader.cursor.advance = behind.final block

section Loops

variable {allowance : Nat} {reader : Reader} {line : List Char} {rest : List (List Char)}

theorem exists_skipRemark (enough : reader.cursor.rest.length < allowance)
    (here : reader.cursor.rest = line :: rest) {kind : LineKind} (remarks : isRemark kind = true)
    {text : List Char} (trimmed : Text.trim text = Text.trim line) :
    ∃ behind, reader.skipRemark allowance kind = some behind ∧ reader.Skips kind text behind := by
  have forward := Cursor.precedes_advance here
  have oneLine : reader.cursor.take = (some line, reader.cursor.advance) := by
    simp [Cursor.take, Cursor.current?, here]
  cases kind with
  | comment => exact ⟨reader.advance, rfl, forward, fun block => ⟨_, rfl, rfl⟩⟩
  | oneLineBlockDescription | description =>
      have description : readDescription reader.cursor =
          (reader.cursor.advance, Line.descriptionText text) := by
        simp only [readDescription, oneLine, Line.descriptionText, trimmed]
      refine ⟨_, rfl, ?_⟩
      rw [description]
      exact ⟨forward, fun block => ⟨_, rfl, rfl⟩⟩
  | blockDescriptionMarker =>
      have opening : Line.blockOpening line = Line.blockOpening text := by
        rw [Line.blockOpening, Line.blockOpening, trimmed]
      have fewer : reader.cursor.advance.rest.length < allowance :=
        Nat.lt_trans forward.rest_lt enough
      obtain ⟨description, read, describes⟩ :=
        exists_loop Prod.fst Describes
          (reader.cursor.advance, Fragment.addPart [] (Line.blockOpening text)) fewer
          fun next _ => sound_descriptionPass next
      refine ⟨reader.discard description, ?_, forward.reaches_of describes.reaches, ?_⟩
      · simp only [skipRemark, readBlockDescription, oneLine, opening, read, Option.map_some]
      · exact fun block => ⟨_, rfl, describes.reads (reader.fragment block)⟩
  | schemaOpener | rootBinding _ | operationOpener _ | field _ | objectOpener | scalarDefinition
  | unionDefinition | unionMember | enumOpener | closingBrace | unmatched => cases remarks

theorem remark?_eq_none {kind : LineKind} (other : isRemark kind = false) (fragment : Fragment)
    (text : List Char) : fragment.remark? kind text = none := by
  cases kind with
  | comment | oneLineBlockDescription | description | blockDescriptionMarker => cases other
  | schemaOpener | rootBinding _ | operationOpener _ | field _ | objectOpener | scalarDefinition
  | unionDefinition | unionMember | enumOpener | closingBrace | unmatched => rfl

/-! ### Skipped lines -/

theorem skipUnmatched_cursor (reader : Reader) (text : List Char) :
    (reader.skipUnmatched text).cursor = reader.cursor.advance := by
  simp only [skipUnmatched]
  split <;> rfl

theorem fragment_skipUnmatched (reader : Reader) (text : List Char) (block : Block) :
    (reader.skipUnmatched text).fragment block =
      (reader.fragment block).report reader.cursor.file reader.cursor.lineNumber text := by
  simp only [skipUnmatched, Fragment.report]
  split <;> rfl

/-! ### Declarations -/

/-- What a declaration does to a body, or the end of the body if there is none. -/
def declared (reader : Reader) (body : Body) : Option Declaration → Fragment
  | none => (reader.fragment (.body body none)).close
  | some (text, number) => (reader.fragment (.body body none)).declare body text number

/-- A declaration is put together, and what is left of the body is the same. -/
structure Assembles (body : Body) (state : Reader × Option Pending)
    (result : Reader × Option Declaration) : Prop where
  reaches : state.1.cursor.Reaches result.1.cursor
  consumes : state.2 = none → result.2.isSome = true → state.1.cursor.Precedes result.1.cursor
  reads : state.1.final (.body body state.2) =
    (result.1.declared body result.2).run result.1.cursor

/-- The lines of a declaration are replaced by what it declares. -/
theorem declare_fragment (reader : Reader) (block : Block) (body : Body) (text : List Char)
    (number : Nat) :
    (reader.fragment block).declare body text number =
      reader.declared body (some (text, number)) := by
  simp only [declared, Fragment.declare]
  split
  · rfl
  · next field _ =>
      cases field.deprecated with
      | false => cases body <;> rfl
      | true => cases body <;> rfl

/-- After a declaration the body goes on, or nothing does. -/
theorem declared_block (reader : Reader) (body : Body) (declaration : Declaration) :
    (∃ cause, (reader.declared body (some declaration)).block = .failed cause declaration.2) ∨
      ∃ next, (reader.declared body (some declaration)).block = .body next none := by
  simp only [declared, Fragment.declare]
  split
  · next cause _ => exact .inl ⟨cause, rfl⟩
  · cases body with
    | object name fields => exact .inr ⟨_, rfl⟩
    | operations kind => exact .inr ⟨_, rfl⟩

theorem declared_description (reader : Reader) (body : Body) (declaration : Declaration) :
    (reader.declared body (some declaration)).description = none := by
  rw [declared, Fragment.declare_description]
  rfl

/-- A closing brace closes the body with the declaration in front of it. -/
theorem step_declared (reader : Reader) (body : Body) (declaration : Declaration)
    {file : Option String} {line : List Char} {number : Nat}
    (closing : classify (Text.trim line) = .closingBrace) :
    (reader.declared body (some declaration)).step file line number =
      (reader.declared body (some declaration)).close := by
  have noDescription := reader.declared_description body declaration
  rcases reader.declared_block body declaration with ⟨cause, failed⟩ | ⟨next, opened⟩
  · rw [Fragment.step_of_failed noDescription failed]
    simp only [Fragment.close, failed]
  · rw [Fragment.step_of_body noDescription opened]
    simp only [Fragment.bodyStep, closing, if_true, Fragment.endDeclaration]

theorem finish_declared (reader : Reader) (body : Body) (declaration : Declaration) :
    (reader.declared body (some declaration)).finish =
      (reader.declared body (some declaration)).close := by
  have noDescription := reader.declared_description body declaration
  rw [Fragment.finish_of_no_description noDescription]
  rcases reader.declared_block body declaration with ⟨cause, failed⟩ | ⟨next, opened⟩
  · simp only [Fragment.closeOpen, failed]
  · simp only [Fragment.closeOpen, opened, Fragment.endDeclaration]

/-- A body that has been closed is read on from there. -/
theorem finish_close (reader : Reader) (body : Body) :
    (reader.declared body none).finish = reader.declared body none := by
  cases body with
  | object name fields => rfl
  | operations kind => rfl

/-- A pass that goes on reads a line as the fragment does. -/
theorem Assembles.again {body : Body} {pending next : Option Pending} {behind : Reader}
    (precedes : reader.cursor.Precedes behind.cursor)
    (same : reader.final (.body body pending) = behind.final (.body body next)) :
    (Pass.again (behind, next)).Sound (·.1.cursor) (Assembles body) (reader, pending) :=
  ⟨precedes, fun _ assembles =>
    ⟨precedes.reaches.trans assembles.reaches,
      fun _ _ => precedes.reaches_of assembles.reaches, same.trans assembles.reads⟩⟩

/-- A pass that takes a line and gives a declaration back reads the line as the fragment does. -/
theorem Assembles.leave {body : Body} {pending : Option Pending} {declaration : Declaration}
    (precedes : reader.cursor.Precedes reader.cursor.advance)
    (same : reader.final (.body body pending) =
      ((reader.fragment (.body body pending)).declare body declaration.1 declaration.2).run
        reader.cursor.advance) :
    Assembles body (reader, pending) (reader.advance, some declaration) := by
  refine ⟨precedes.reaches, fun _ _ => precedes, ?_⟩
  rw [same, declare_fragment]
  rfl

/-- The line under the cursor stands in a body, is not blank, and no comment or description. -/
structure Solid (reader : Reader) (line : List Char) (rest : List (List Char)) : Prop where
  here : reader.cursor.rest = line :: rest
  notClosing : classify (Text.trim line) ≠ .closingBrace
  notRemark : isRemark (classify (Text.trim line)) = false
  notBlank : ¬(Text.trim line).isEmpty = true

/-- The line continues no declaration, and begins none. -/
abbrev Stray (pending : Option Pending) (text : List Char) : Prop :=
  pending.isNone = true ∧ classify text = .unmatched ∧ text.contains '(' = false

/-- What the search for a declaration does with the line under the cursor. -/
inductive DeclarationStep (allowance : Nat) (body : Body) (reader : Reader) : Option Pending →
    Pass (Reader × Option Pending) (Reader × Option Declaration) → Prop
  | atEnd (pending : Option Pending) : reader.cursor.rest = [] →
      DeclarationStep allowance body reader pending (.leave (reader, pending.map assembled))
  | endOfBody {line : List Char} {rest : List (List Char)} : reader.cursor.rest = line :: rest →
      classify (Text.trim line) = .closingBrace →
      DeclarationStep allowance body reader none (.leave (reader.advance, none))
  /-- The brace stays under the cursor, and the next search ends the body at it. -/
  | endOfDeclaration {line : List Char} {rest : List (List Char)} (declaration : Pending) :
      reader.cursor.rest = line :: rest → classify (Text.trim line) = .closingBrace →
      DeclarationStep allowance body reader (some declaration)
        (.leave (reader, some (assembled declaration)))
  | remark {line : List Char} {rest : List (List Char)} {behind : Reader}
      (pending : Option Pending) : reader.cursor.rest = line :: rest →
      classify (Text.trim line) ≠ .closingBrace → isRemark (classify (Text.trim line)) = true →
      reader.skipRemark allowance (classify (Text.trim line)) = some behind →
      DeclarationStep allowance body reader pending (.again (behind, pending))
  | blank {line : List Char} {rest : List (List Char)} (pending : Option Pending) :
      reader.cursor.rest = line :: rest → classify (Text.trim line) ≠ .closingBrace →
      isRemark (classify (Text.trim line)) = false → (Text.trim line).isEmpty = true →
      DeclarationStep allowance body reader pending (.again (reader.advance, pending))
  | strayOfObject {line : List Char} {rest : List (List Char)} {name : String}
      {fields : List (String × TypeModel)} : reader.Solid line rest → body = .object name fields →
      Stray none (Text.trim line) → DeclarationStep allowance body reader none
        (.again (reader.skipUnmatched (Text.trim line), none))
  | strayOfOperations {line : List Char} {rest : List (List Char)} {kind : OperationKind} :
      reader.Solid line rest → body = .operations kind → Stray none (Text.trim line) →
      DeclarationStep allowance body reader none
        (.leave (reader.advance, some (Text.trim line, reader.cursor.lineNumber)))
  | complete {line : List Char} {rest : List (List Char)} (pending : Option Pending) :
      reader.Solid line rest → ¬Stray pending (Text.trim line) →
      ((pending.getD .nothing).extend (Text.trim line) reader.cursor.lineNumber).2 = true →
      DeclarationStep allowance body reader pending (.leave (reader.advance, some (assembled
        ((pending.getD .nothing).extend (Text.trim line) reader.cursor.lineNumber).1)))
  | incomplete {line : List Char} {rest : List (List Char)} (pending : Option Pending) :
      reader.Solid line rest → ¬Stray pending (Text.trim line) →
      ((pending.getD .nothing).extend (Text.trim line) reader.cursor.lineNumber).2 = false →
      DeclarationStep allowance body reader pending (.again (reader.advance, some
        ((pending.getD .nothing).extend (Text.trim line) reader.cursor.lineNumber).1))

theorem exists_declarationStep (body : Body) (reader : Reader) (pending : Option Pending)
    (enough : reader.cursor.rest.length < allowance) :
    ∃ step, declarationPass allowance body (reader, pending) = some step ∧
      DeclarationStep allowance body reader pending step := by
  have taken := declarationPass.eq_def allowance body (reader, pending)
  cases here : reader.cursor.rest with
  | nil =>
      simp only [Cursor.current?, here, List.head?_nil] at taken
      exact ⟨_, taken, .atEnd pending here⟩
  | cons line rest =>
      simp only [Cursor.current?, here, List.head?_cons] at taken
      by_cases closing : classify (Text.trim line) = .closingBrace
      · simp only [if_pos closing] at taken
        cases pending with
        | none => exact ⟨_, taken, .endOfBody here closing⟩
        | some declaration => exact ⟨_, taken, .endOfDeclaration declaration here closing⟩
      · simp only [if_neg closing] at taken
        cases remarks : isRemark (classify (Text.trim line)) with
        | true =>
            obtain ⟨behind, skipped, -⟩ :=
              exists_skipRemark enough here remarks (Text.trim_trim line)
            simp only [remarks, if_true, skipped, Option.map_some] at taken
            exact ⟨_, taken, .remark pending here closing remarks skipped⟩
        | false =>
            simp only [remarks, Bool.false_eq_true, if_false] at taken
            by_cases blank : (Text.trim line).isEmpty = true
            · simp only [if_pos blank] at taken
              exact ⟨_, taken, .blank pending here closing remarks blank⟩
            · simp only [if_neg blank] at taken
              have solid : reader.Solid line rest := ⟨here, closing, remarks, blank⟩
              by_cases stray : Stray pending (Text.trim line)
              · simp only [if_pos stray] at taken
                obtain rfl : pending = none := Option.isNone_iff_eq_none.mp stray.1
                cases body with
                | object name fields => exact ⟨_, taken, .strayOfObject solid rfl stray⟩
                | operations kind => exact ⟨_, taken, .strayOfOperations solid rfl stray⟩
              · simp only [if_neg stray] at taken
                cases complete : ((pending.getD .nothing).extend (Text.trim line)
                  reader.cursor.lineNumber).2 with
                | true =>
                    simp only [complete, if_true] at taken
                    exact ⟨_, taken, .complete pending solid stray complete⟩
                | false =>
                    simp only [complete, Bool.false_eq_true, if_false] at taken
                    exact ⟨_, taken, .incomplete pending solid stray complete⟩

/-- A line of a body is read first. -/
theorem final_body {body : Body} {pending : Option Pending}
    (here : reader.cursor.rest = line :: rest) :
    reader.final (.body body pending) =
      ((reader.fragment (.body body pending)).bodyStep reader.cursor.file body pending
        reader.cursor.lineNumber line).run reader.cursor.advance := by
  rw [final_of_cons here, Fragment.step_of_body rfl rfl]

/-- A line that is not stray goes on with a declaration, or begins one. -/
theorem Solid.final_declaration {body : Body} {pending : Option Pending}
    (solid : reader.Solid line rest) (notStray : ¬Stray pending (Text.trim line)) :
    reader.final (.body body pending) =
      ((reader.fragment (.body body pending)).continueDeclaration body pending (Text.trim line)
        reader.cursor.lineNumber).run reader.cursor.advance := by
  rw [final_body solid.here]
  simp only [Fragment.bodyStep, if_neg solid.notClosing, remark?_eq_none solid.notRemark,
    if_neg solid.notBlank, if_neg notStray]

theorem sound_declarationPass (body : Body) (state : Reader × Option Pending)
    (enough : state.1.cursor.rest.length < allowance) :
    SoundPass (·.1.cursor) (Assembles body) (declarationPass allowance body) state := by
  obtain ⟨reader, pending⟩ := state
  obtain ⟨step, taken, does⟩ := exists_declarationStep body reader pending enough
  refine ⟨step, taken, ?_⟩
  cases does with
  | atEnd _ here =>
      refine ⟨.refl _, ?_, ?_⟩
      · rintro rfl isSome
        cases isSome
      · rw [final_of_nil here, Fragment.run_of_nil here]
        cases pending with
        | none => exact (reader.finish_close body).symm
        | some declaration =>
            rw [Option.map_some, finish_declared]
            exact congrArg Fragment.close (declare_fragment _ _ _ _ _)
  | endOfBody here closing =>
      refine ⟨(Cursor.precedes_advance here).reaches,
        fun _ isSome => absurd isSome Bool.false_ne_true, ?_⟩
      rw [final_body here]
      simp only [Fragment.bodyStep, if_pos closing]
      rfl
  | endOfDeclaration declaration here closing =>
      refine ⟨.refl _, fun isNone => absurd isNone (Option.some_ne_none declaration), ?_⟩
      rw [final_body here, Fragment.run_cons here, step_declared _ _ _ closing]
      simp only [Fragment.bodyStep, if_pos closing, Fragment.endDeclaration, declare_fragment]
      rfl
  | remark _ here closing remarks skipped =>
      obtain ⟨behind, skipped', skips⟩ :=
        exists_skipRemark enough here remarks (Text.trim_trim _)
      obtain rfl := Option.some.inj (skipped.symm.trans skipped')
      obtain ⟨remarked, isRemark, same⟩ := skips.reads (.body body pending)
      refine Assembles.again skips.precedes ?_
      rw [final_body here, ← same]
      simp only [Fragment.bodyStep, if_neg closing, isRemark]
  | blank _ here closing notRemark blank =>
      refine Assembles.again (Cursor.precedes_advance here) ?_
      rw [final_body here]
      simp only [Fragment.bodyStep, if_neg closing, remark?_eq_none notRemark, if_pos blank]
      rfl
  | strayOfObject solid isObject stray =>
      subst isObject
      refine Assembles.again ?_ ?_
      · rw [skipUnmatched_cursor]
        exact Cursor.precedes_advance solid.here
      · rw [final_body solid.here, final, fragment_skipUnmatched, skipUnmatched_cursor]
        simp only [Fragment.bodyStep, if_neg solid.notClosing, remark?_eq_none solid.notRemark,
          if_neg solid.notBlank, if_pos stray]
  | strayOfOperations solid isBlock stray =>
      subst isBlock
      refine Assembles.leave (Cursor.precedes_advance solid.here) ?_
      rw [final_body solid.here]
      simp only [Fragment.bodyStep, if_neg solid.notClosing, remark?_eq_none solid.notRemark,
        if_neg solid.notBlank, if_pos stray]
  | complete _ solid notStray complete =>
      refine Assembles.leave (Cursor.precedes_advance solid.here) ?_
      rw [solid.final_declaration notStray]
      simp only [Fragment.continueDeclaration, complete, if_true]
      rfl
  | incomplete _ solid notStray incomplete =>
      refine Assembles.again (Cursor.precedes_advance solid.here) ?_
      rw [solid.final_declaration notStray]
      simp only [Fragment.continueDeclaration, incomplete, Bool.false_eq_true, if_false]
      rfl

theorem exists_nextDeclaration (body : Body) (enough : reader.cursor.rest.length < allowance) :
    ∃ result, reader.nextDeclaration allowance body = some result ∧
      Assembles body (reader, none) result :=
  exists_loop (·.1.cursor) (Assembles body) (reader, none) enough fun next reaches =>
    sound_declarationPass body next (Nat.lt_of_le_of_lt reaches.rest_le enough)

/-! ### Bodies -/

/-- A body is read to its end, or to a declaration that fails. -/
structure Completes (state : Reader × Body) (outcome : Outcome) : Prop where
  reaches : state.1.cursor.Reaches outcome.2.cursor
  reads : outcome.1 = .ok () → state.1.final (.body state.2 none) = outcome.2.final .top
  fails : ∀ error, outcome.1 = .error error → error.file = state.1.cursor.file ∧
    state.1.final (.body state.2 none) = outcome.2.fragment (.failed error.cause error.number)

theorem addField_cursor (reader : Reader) (body : Body) (field : Field) :
    (reader.addField body field).1.cursor = reader.cursor := by
  cases body with
  | object name fields =>
      simp only [addField]
      split <;> rfl
  | operations kind =>
      simp only [addField]
      split <;> rfl

theorem declared_of_parse {text : List Char} {field : Field} (parsed : Field.parse text = .ok field)
    (reader : Reader) (body : Body) (number : Nat) :
    reader.declared body (some (text, number)) =
      (reader.addField body field).1.fragment (.body (reader.addField body field).2 none) := by
  simp only [declared, Fragment.declare, parsed, addField]
  cases field.deprecated with
  | false => cases body <;> rfl
  | true => cases body <;> rfl

theorem endBody_cursor (reader : Reader) (body : Body) :
    (reader.endBody body).cursor = reader.cursor := by
  cases body <;> rfl

theorem declared_none (reader : Reader) (body : Body) :
    reader.declared body none = (reader.endBody body).fragment .top := by
  cases body <;> rfl

/-- A pass that goes on reads a declaration as the fragment does. -/
theorem Completes.again {body next : Body} {behind : Reader}
    (precedes : reader.cursor.Precedes behind.cursor)
    (same : reader.final (.body body none) = behind.final (.body next none)) :
    (Pass.again (behind, next)).Sound (·.1.cursor) Completes (reader, body) := by
  refine ⟨precedes, ?_⟩
  intro outcome completes
  refine ⟨precedes.reaches.trans completes.reaches,
    fun succeeded => same.trans (completes.reads succeeded), ?_⟩
  intro error failed
  obtain ⟨file, stopped⟩ := completes.fails error failed
  exact ⟨file.trans precedes.reaches.file, same.trans stopped⟩

theorem sound_bodyPass (state : Reader × Body)
    (enough : state.1.cursor.rest.length < allowance) :
    SoundPass (·.1.cursor) Completes (bodyPass allowance) state := by
  obtain ⟨reader, body⟩ := state
  obtain ⟨⟨behind, declaration⟩, read, assembles⟩ := exists_nextDeclaration body enough
  cases declaration with
  | none =>
      refine ⟨.leave (.ok (), behind.endBody body), ?_, ?_, ?_, ?_⟩
      · simp only [bodyPass, read, Option.map_some]
      · rw [endBody_cursor]
        exact assembles.reaches
      · intro _
        rw [assembles.reads, final, endBody_cursor, declared_none]
      · exact fun _ failed => nomatch failed
  | some declaration =>
      obtain ⟨text, number⟩ := declaration
      cases parsed : Field.parse text with
      | error cause =>
          refine ⟨.leave (.error ⟨behind.cursor.file, number, cause⟩, behind), ?_,
            assembles.reaches, (fun succeeded => nomatch succeeded), ?_⟩
          · simp only [bodyPass, read, Option.map_some, parsed]
          · rintro _ ⟨⟩
            have failed : behind.declared body (some (text, number)) =
                behind.fragment (.failed cause number) := by
              simp only [declared, Fragment.declare, parsed]
              rfl
            refine ⟨assembles.reaches.file, ?_⟩
            rw [assembles.reads, failed, Fragment.run_of_failed rfl rfl]
      | ok field =>
          have forward : reader.cursor.Precedes (behind.addField body field).1.cursor := by
            rw [addField_cursor]
            exact assembles.consumes rfl rfl
          have same : reader.final (.body body none) =
              (behind.addField body field).1.final (.body (behind.addField body field).2 none) := by
            rw [assembles.reads, declared_of_parse parsed, final, addField_cursor]
          refine ⟨.again (behind.addField body field), ?_, Completes.again forward same⟩
          simp only [bodyPass, read, Option.map_some, parsed]

/-- The block under the cursor is read, from the line behind its opener on. -/
theorem exists_readBody (body : Body) (enough : reader.cursor.rest.length < allowance)
    (here : reader.cursor.rest = line :: rest) :
    ∃ outcome, reader.readBody allowance body = some outcome ∧
      Completes (reader.advance, body) outcome := by
  have fewer : reader.advance.cursor.rest.length < allowance :=
    Nat.lt_trans (Cursor.precedes_advance here).rest_lt enough
  exact exists_loop (·.1.cursor) Completes (reader.advance, body) fewer
    fun next reaches => sound_bodyPass next (Nat.lt_of_le_of_lt reaches.rest_le fewer)

/-! ### Enums and unions -/

/-- The names of a block are gathered up to its end. -/
structure Gathers (block : List String → Block) (state result : Reader × List String) : Prop where
  reaches : state.1.cursor.Reaches result.1.cursor
  reads : state.1.final (block state.2) = ((result.1.fragment (block result.2)).close).run
    result.1.cursor

/-- A pass that goes on reads a line as the fragment does. -/
theorem Gathers.again {block : List String → Block} {names next : List String} {behind : Reader}
    (precedes : reader.cursor.Precedes behind.cursor)
    (same : reader.final (block names) = behind.final (block next)) :
    (Pass.again (behind, next)).Sound (·.1.cursor) (Gathers block) (reader, names) :=
  ⟨precedes, fun _ gathers =>
    ⟨precedes.reaches.trans gathers.reaches, same.trans gathers.reads⟩⟩

theorem sound_enumPass (name : String) (state : Reader × List String)
    (enough : state.1.cursor.rest.length < allowance) :
    SoundPass (·.1.cursor) (Gathers (.enumeration name)) (enumPass allowance name) state := by
  obtain ⟨reader, values⟩ := state
  cases here : reader.cursor.rest with
  | nil =>
      refine ⟨.leave (reader, values), ?_, .refl _, ?_⟩
      · simp [enumPass, Cursor.current?, here]
      · rw [final_of_nil here, Fragment.run_of_nil here]
        rfl
  | cons line rest =>
      have forward := Cursor.precedes_advance here
      -- The pass and the step of the fragment branch alike.
      have taken := enumPass.eq_def allowance name (reader, values)
      have stepped : reader.final (.enumeration name values) = _ := final_of_cons here
      rw [Fragment.step_of_enumeration rfl rfl] at stepped
      simp only [Cursor.current?, here, List.head?_cons] at taken
      simp only [Fragment.enumStep] at stepped
      by_cases closing : classify line = .closingBrace
      · simp only [if_pos closing] at taken stepped
        exact ⟨_, taken, forward.reaches, stepped⟩
      · simp only [if_neg closing] at taken stepped
        cases remarks : isRemark (classify line) with
        | true =>
            obtain ⟨behind, skipped, skips⟩ := exists_skipRemark enough here remarks rfl
            obtain ⟨remarked, isRemark, same⟩ := skips.reads (.enumeration name values)
            simp only [remarks, if_true, skipped, Option.map_some] at taken
            simp only [isRemark] at stepped
            exact ⟨_, taken, Gathers.again skips.precedes (stepped.trans same)⟩
        | false =>
            simp only [remarks, Bool.false_eq_true, if_false] at taken
            simp only [remark?_eq_none remarks] at stepped
            by_cases named : Text.isName (Line.enumValue line) = true
            · simp only [if_pos named] at taken stepped
              exact ⟨_, taken, Gathers.again forward stepped⟩
            · simp only [if_neg named] at taken stepped
              by_cases blank : (Line.enumValue line).isEmpty = true
              · simp only [if_pos blank] at taken stepped
                exact ⟨_, taken, Gathers.again forward stepped⟩
              · simp only [if_neg blank] at taken stepped
                exact ⟨_, taken, Gathers.again forward stepped⟩

theorem sound_unionPass (name : String) (state : Reader × List String) :
    SoundPass (·.1.cursor) (Gathers (.union name)) unionPass state := by
  obtain ⟨reader, members⟩ := state
  cases here : reader.cursor.rest with
  | nil =>
      refine ⟨.leave (reader, members), ?_, .refl _, ?_⟩
      · simp [unionPass, Cursor.current?, here]
      · rw [final_of_nil here, Fragment.run_of_nil here]
        rfl
  | cons line rest =>
      have forward := Cursor.precedes_advance here
      by_cases continues : classify line = .unionMember
      · refine ⟨.again (reader.advance, members ++ Line.unionMembers line), ?_,
          Gathers.again forward ?_⟩
        · simp [unionPass, Cursor.current?, here, continues]
        · rw [final_of_cons here, Fragment.step_of_union rfl rfl, if_pos continues]
          rfl
      · refine ⟨.leave (reader, members), ?_, .refl _, ?_⟩
        · simp [unionPass, Cursor.current?, here, continues]
        · rw [final_of_cons here, Fragment.step_of_union rfl rfl, if_neg continues,
            Fragment.run_cons here, Fragment.step_of_top rfl rfl]

theorem exists_readEnum (opener : List Char) (enough : reader.cursor.rest.length < allowance)
    (here : reader.cursor.rest = line :: rest) :
    ∃ behind, reader.readEnum allowance opener = some behind ∧
      reader.cursor.Precedes behind.cursor ∧
      reader.advance.final (.enumeration (Line.definitionName "enum" opener) []) =
        behind.final .top := by
  have forward := Cursor.precedes_advance here
  have fewer : reader.advance.cursor.rest.length < allowance :=
    Nat.lt_trans forward.rest_lt enough
  obtain ⟨result, read, gathers⟩ :=
    exists_loop (·.1.cursor) (Gathers (.enumeration (Line.definitionName "enum" opener)))
      (reader.advance, []) fewer
      fun next reaches => sound_enumPass _ next (Nat.lt_of_le_of_lt reaches.rest_le fewer)
  refine ⟨{ result.1 with
    schema := result.1.schema.addType (Line.definitionName "enum" opener)
      (.enumeration result.2 .nullable) }, ?_, forward.reaches_of gathers.reaches, gathers.reads⟩
  simp only [readEnum, read, Option.map_some]

theorem exists_readUnion (opener : List Char) (enough : reader.cursor.rest.length < allowance)
    (here : reader.cursor.rest = line :: rest) :
    ∃ behind, reader.readUnion allowance opener = some behind ∧
      reader.cursor.Precedes behind.cursor ∧
      reader.advance.final
        (.union (Line.unionDefinition opener).1 (Line.unionDefinition opener).2) =
        behind.final .top := by
  have forward := Cursor.precedes_advance here
  have fewer : reader.advance.cursor.rest.length < allowance :=
    Nat.lt_trans forward.rest_lt enough
  obtain ⟨result, read, gathers⟩ :=
    exists_loop (·.1.cursor) (Gathers (.union (Line.unionDefinition opener).1))
      (reader.advance, (Line.unionDefinition opener).2) fewer fun next _ => sound_unionPass _ next
  refine ⟨{ result.1 with
    schema := result.1.schema.addUnion (Line.unionDefinition opener).1 result.2 }, ?_,
    forward.reaches_of gathers.reaches, gathers.reads⟩
  simp only [readUnion, read, Option.map_some]

/-! ### Between definitions -/

/-- A fragment is read to its last line, or to a declaration that fails. -/
structure Concludes (reader : Reader) (reading : Reading) : Prop where
  reaches : reader.cursor.Reaches reading.2.cursor
  reads : ∀ schema, reading.1 = .ok schema → reading.2.cursor.rest = [] ∧
    reader.final .top = reading.2.fragment .top ∧ schema = reading.2.schema
  fails : ∀ error, reading.1 = .error error → error.file = reader.cursor.file ∧
    reader.final .top = reading.2.fragment (.failed error.cause error.number)

/-- A pass that goes on reads what it passes as the fragment does. -/
theorem Concludes.again {behind : Reader} (precedes : reader.cursor.Precedes behind.cursor)
    (same : reader.final .top = behind.final .top) :
    (Pass.again behind).Sound Reader.cursor Concludes reader := by
  refine ⟨precedes, ?_⟩
  intro reading concludes
  refine ⟨precedes.reaches.trans concludes.reaches, ?_, ?_⟩
  · intro schema succeeded
    obtain ⟨atEnd, read, isSchema⟩ := concludes.reads schema succeeded
    exact ⟨atEnd, same.trans read, isSchema⟩
  · intro error failed
    obtain ⟨file, stopped⟩ := concludes.fails error failed
    exact ⟨file.trans precedes.reaches.file, same.trans stopped⟩

/-- After a block the reading goes on, or it ends with the failure of the block. -/
theorem Completes.sound_afterBlock {body : Body} {outcome : Outcome} {noted : Reader}
    (precedes : reader.cursor.Precedes noted.cursor) (completes : Completes (noted, body) outcome)
    (same : reader.final .top = noted.final (.body body none)) :
    (afterBlock outcome).Sound Reader.cursor Concludes reader := by
  obtain ⟨result, behind⟩ := outcome
  cases result with
  | ok _ =>
      exact Concludes.again (precedes.reaches_of completes.reaches)
        (same.trans (completes.reads rfl))
  | error error =>
      obtain ⟨file, stopped⟩ := completes.fails error rfl
      have stops : Concludes reader (.error error, behind) := by
        refine ⟨precedes.reaches.trans completes.reaches, (fun _ succeeded => nomatch succeeded),
          ?_⟩
        rintro _ ⟨⟩
        exact ⟨file.trans precedes.reaches.file, same.trans stopped⟩
      exact stops

section Top

/-- A line between definitions is read first. -/
theorem final_top (here : reader.cursor.rest = line :: rest) :
    reader.final .top =
      ((reader.fragment .top).topStep reader.cursor.file reader.cursor.lineNumber line).run
        reader.cursor.advance := by
  rw [final_of_cons here, Fragment.step_of_top rfl rfl]

theorem sound_topRemark {kind : LineKind} (enough : reader.cursor.rest.length < allowance)
    (here : reader.cursor.rest = line :: rest) (remarks : isRemark kind = true)
    (passed : topPass allowance reader =
      ((reader.trace kind).skipRemark allowance kind).map .again)
    (read : (reader.fragment .top).topStep reader.cursor.file reader.cursor.lineNumber line =
      (((reader.trace kind).fragment .top).remark? kind line).getD
        ((reader.trace kind).fragment .top)) :
    SoundPass Reader.cursor Concludes (topPass allowance) reader := by
  obtain ⟨behind, skipped, skips⟩ :=
    @exists_skipRemark allowance (reader.trace kind) line rest enough here kind remarks line rfl
  obtain ⟨remarked, isRemark, same⟩ := skips.reads .top
  refine ⟨.again behind, ?_, Concludes.again skips.precedes ?_⟩
  · rw [passed, skipped, Option.map_some]
  · rw [final_top here, read, isRemark, Option.getD_some, ← same]
    rfl

theorem sound_topBody {body : Body} {kind : LineKind}
    (enough : reader.cursor.rest.length < allowance) (here : reader.cursor.rest = line :: rest)
    (passed : topPass allowance reader =
      ((reader.trace kind).readBody allowance body).map afterBlock)
    (opened : (reader.fragment .top).topStep reader.cursor.file reader.cursor.lineNumber line =
      (reader.trace kind).fragment (.body body none)) :
    SoundPass Reader.cursor Concludes (topPass allowance) reader := by
  obtain ⟨outcome, read, completes⟩ :=
    @exists_readBody allowance (reader.trace kind) line rest body enough here
  refine ⟨afterBlock outcome, ?_, completes.sound_afterBlock (Cursor.precedes_advance here) ?_⟩
  · rw [passed, read, Option.map_some]
  · rw [final_top here, opened]
    rfl

/-- A line between definitions that stands for itself is passed in one pass. -/
theorem sound_topLine {behind : Reader} (here : reader.cursor.rest = line :: rest)
    (passed : topPass allowance reader = some (.again behind))
    (oneLine : behind.cursor = reader.cursor.advance)
    (read : (reader.fragment .top).topStep reader.cursor.file reader.cursor.lineNumber line =
      behind.fragment .top) :
    SoundPass Reader.cursor Concludes (topPass allowance) reader := by
  refine ⟨.again behind, passed, Concludes.again ?_ ?_⟩
  · rw [oneLine]
    exact Cursor.precedes_advance here
  · rw [final_top here, read, final, oneLine]

theorem sound_topPass (reader : Reader) (enough : reader.cursor.rest.length < allowance) :
    SoundPass Reader.cursor Concludes (topPass allowance) reader := by
  cases here : reader.cursor.rest with
  | nil =>
      refine ⟨.leave (.ok reader.schema, reader), ?_, .refl _, ?_, fun _ failed => nomatch failed⟩
      · simp [topPass, Cursor.current?, here]
      · rintro _ ⟨⟩
        refine ⟨here, ?_, rfl⟩
        rw [final_of_nil here]
        rfl
  | cons line rest =>
      have taken := topPass.eq_def allowance reader
      simp only [Cursor.current?, here, List.head?_cons] at taken
      cases kind : classify line with
      | comment | oneLineBlockDescription | blockDescriptionMarker | description =>
          simp only [kind] at taken
          refine sound_topRemark enough here rfl taken ?_
          simp only [Fragment.topStep, kind]
          rfl
      | schemaOpener | closingBrace =>
          simp only [kind] at taken
          refine sound_topLine here taken rfl ?_
          simp only [Fragment.topStep, kind]
          rfl
      | rootBinding operation =>
          simp only [kind] at taken
          refine sound_topLine here taken rfl ?_
          simp only [Fragment.topStep, kind]
          rfl
      | scalarDefinition =>
          simp only [kind] at taken
          refine sound_topLine here taken rfl ?_
          simp only [Fragment.topStep, kind]
          rfl
      | field _ | unionMember | unmatched =>
          simp only [kind] at taken
          refine sound_topLine here taken (skipUnmatched_cursor _ _) ?_
          simp only [Fragment.topStep, kind, fragment_skipUnmatched]
          rfl
      | operationOpener operation =>
          simp only [kind] at taken
          refine sound_topBody enough here taken ?_
          simp only [Fragment.topStep, kind]
          rfl
      | objectOpener =>
          simp only [kind] at taken
          cases bound : reader.schema.rootKind? (Line.definitionName "type" line) with
          | none =>
              simp only [trace, note, bound] at taken
              refine sound_topBody enough here taken ?_
              simp only [Fragment.topStep, kind, Fragment.note, fragment, bound]
              rfl
          | some operation =>
              simp only [trace, note, bound] at taken
              refine sound_topBody enough here taken ?_
              simp only [Fragment.topStep, kind, Fragment.note, fragment, bound]
              rfl
      | unionDefinition =>
          simp only [kind] at taken
          obtain ⟨behind, read, precedes, same⟩ := @exists_readUnion allowance
            (reader.trace .unionDefinition) line rest line enough here
          refine ⟨.again behind, ?_, Concludes.again precedes ?_⟩
          · rw [taken, read, Option.map_some]
          · rw [final_top here, ← same]
            simp only [Fragment.topStep, kind]
            rfl
      | enumOpener =>
          simp only [kind] at taken
          obtain ⟨behind, read, precedes, same⟩ := @exists_readEnum allowance
            (reader.trace .enumOpener) line rest line enough here
          refine ⟨.again behind, ?_, Concludes.again precedes ?_⟩
          · rw [taken, read, Option.map_some]
          · rw [final_top here, ← same]
            simp only [Fragment.topStep, kind]
            rfl

end Top

end Loops

end Reader

end SdlProjection
