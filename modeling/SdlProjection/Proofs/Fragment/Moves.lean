import Mathlib.Logic.Relation
import SdlProjection.Proofs.Fragment.Reading

/-!
Contract: everything a line can do to a fragment.

Owns: `Move`, one change of a fragment with what it takes for granted, and that
each line, as well as the end of the lines, makes only such moves. What every
move keeps is therefore kept by whole readings.

Does not own: which moves a line of some category makes
(`Proofs.Fragment.Declaring`).
-/

namespace SdlProjection.Fragment

/-- The blocks that a line between definitions can open. -/
inductive Opens (line : List Char) : Block → Prop
  | operations (kind : OperationKind) : Opens line (.body (.operations kind) none)
  | object : classify line = .objectOpener →
      Opens line (.body (.object (Line.definitionName "type" line) []) none)
  | enumeration : classify line = .enumOpener →
      Opens line (.enumeration (Line.definitionName "enum" line) [])
  | union : classify line = .unionDefinition →
      Opens line (.union (Line.unionDefinition line).1 (Line.unionDefinition line).2)

/-- A single change that a line under a number makes. -/
inductive Move (file : Option String) (line : List Char) (number : Nat) : Fragment → Fragment → Prop
  | note (fragment : Fragment) (level : LogLevel) (message : String) :
      Move file line number fragment (fragment.note level message)
  | report (fragment : Fragment) {text : List Char} : text = line ∨ text = Text.trim line →
      Move file line number fragment (fragment.report file number text)
  | describe (fragment : Fragment) (parts : Option (List (List Char))) :
      Move file line number fragment { fragment with description := parts }
  | openBlock {fragment : Fragment} {block : Block} : fragment.block = .top → Opens line block →
      Move file line number fragment { fragment with block := block }
  | bind {fragment : Fragment} {kind : OperationKind} : fragment.block = .top →
      classify line = .rootBinding kind →
      Move file line number fragment
        { fragment with schema := fragment.schema.bindRoot kind (Line.bindingTarget line) }
  | addScalar {fragment : Fragment} : fragment.block = .top →
      classify line = .scalarDefinition →
      Move file line number fragment
        { fragment with schema := fragment.schema.addScalar (Line.definitionName "scalar" line) }
  | pend {fragment : Fragment} {body : Body} {pending : Option Pending} (parts : List (List Char))
      (depth : Nat) : fragment.block = .body body pending →
      Move file line number fragment
        { fragment with block := .body body (some ⟨parts, depth, number⟩) }
  | addField {fragment : Fragment} {name : String} {fields : List (String × TypeModel)}
      {pending : Option Pending} {declaration : List Char} {field : Field} :
      fragment.block = .body (.object name fields) pending →
      Field.parse declaration = .ok field →
      Move file line number fragment
        { fragment with
          block := .body (.object name (Entries.insert fields field.key field.type)) none }
  | addOperation {fragment : Fragment} {kind : OperationKind} {pending : Option Pending}
      {declaration : List Char} {field : Field} :
      fragment.block = .body (.operations kind) pending → Field.parse declaration = .ok field →
      Move file line number fragment
        { fragment with
          schema := fragment.schema.addOperation kind field.key field.type,
          block := .body (.operations kind) none }
  | fail {fragment : Fragment} {body : Body} {pending : Option Pending} {declaration : List Char}
      {cause : DeclarationError} {last : Nat} : fragment.block = .body body pending →
      Field.parse declaration = .error cause →
      (last = number ∨ ∃ earlier ∈ pending, last = earlier.number) →
      Move file line number fragment { fragment with block := .failed cause last }
  | addValue {fragment : Fragment} {name : String} {values : List String} {value : List Char} :
      fragment.block = .enumeration name values → Text.isName value = true →
      Move file line number fragment
        { fragment with block := .enumeration name (addDistinct values (String.ofList value)) }
  | addMembers {fragment : Fragment} {name : String} {members : List String} :
      fragment.block = .union name members →
      Move file line number fragment
        { fragment with block := .union name (members ++ Line.unionMembers line) }
  | close (fragment : Fragment) : Move file line number fragment fragment.close

/-- Any number of changes. -/
abbrev Moves (file : Option String) (line : List Char) (number : Nat) :
    Fragment → Fragment → Prop :=
  Relation.ReflTransGen (Move file line number)

section Steps

variable {fragment : Fragment} {file : Option String} {line : List Char} {number : Nat}

/-! ### Comments and descriptions -/

theorem moves_discardDescription (fragment : Fragment) (text : List Char) :
    Moves file line number fragment (fragment.discardDescription text) :=
  (Relation.ReflTransGen.single (.note fragment .trace _)).tail (.describe _ none)

theorem moves_describe (fragment : Fragment) (parts : List (List Char)) :
    Moves file line number fragment (fragment.describe parts line) := by
  simp only [describe]
  split
  · exact moves_discardDescription fragment _
  · exact .single (.describe fragment _)

theorem moves_remark? {remarked : Fragment} {kind : LineKind} {text : List Char}
    (remarks : fragment.remark? kind text = some remarked) :
    Moves file line number fragment remarked := by
  cases kind with
  | comment =>
      cases remarks
      exact .refl
  | oneLineBlockDescription | description =>
      cases remarks
      exact moves_discardDescription fragment _
  | blockDescriptionMarker =>
      cases remarks
      exact .single (.describe fragment _)
  | schemaOpener | rootBinding _ | operationOpener _ | field _ | objectOpener | scalarDefinition
  | unionDefinition | unionMember | enumOpener | closingBrace | unmatched => cases remarks

/-! ### Bodies -/

theorem moves_declare {body : Body} {pending : Option Pending}
    (opened : fragment.block = .body body pending) (declaration : List Char) {last : Nat}
    (located : last = number ∨ ∃ earlier ∈ pending, last = earlier.number) :
    Moves file line number fragment (fragment.declare body declaration last) := by
  simp only [declare]
  split
  · next cause failed => exact .single (.fail opened failed located)
  · next field parsed =>
      -- A deprecated field is noted first.
      have noted : ∃ state : Fragment, Moves file line number fragment state ∧
          state.block = .body body pending ∧
          (if field.deprecated then fragment.note .debug (deprecationNote body field.key)
            else fragment) = state := by
        split
        · exact ⟨_, .single (.note fragment _ _), opened, rfl⟩
        · exact ⟨fragment, .refl, opened, rfl⟩
      obtain ⟨state, moves, still, same⟩ := noted
      rw [same]
      cases body with
      | object name fields => exact moves.tail (.addField still parsed)
      | operations kind => exact moves.tail (.addOperation still parsed)

theorem moves_continueDeclaration {body : Body} {pending : Option Pending}
    (opened : fragment.block = .body body pending) (text : List Char) :
    Moves file line number fragment
      (fragment.continueDeclaration body pending text number) := by
  simp only [continueDeclaration]
  split
  · exact moves_declare opened _ (.inl rfl)
  · exact .single (.pend _ _ opened)

theorem moves_endDeclaration {body : Body} {pending : Option Pending}
    (opened : fragment.block = .body body pending) :
    Moves file line number fragment (fragment.endDeclaration body pending) := by
  cases pending with
  | none => exact .refl
  | some pending => exact moves_declare opened _ (.inr ⟨pending, rfl, rfl⟩)

theorem moves_bodyStep {body : Body} {pending : Option Pending}
    (opened : fragment.block = .body body pending) :
    Moves file line number fragment (fragment.bodyStep file body pending number line) := by
  simp only [bodyStep]
  split
  · exact (moves_endDeclaration opened).tail (.close _)
  · split
    · next remarked remarks => exact moves_remark? remarks
    · split
      · exact .refl
      · split
        · cases body with
          | object name fields => exact .single (.report fragment (.inr rfl))
          | operations kind => exact moves_declare opened _ (.inl rfl)
        · exact moves_continueDeclaration opened _

/-! ### Enums and the lines between definitions -/

theorem moves_enumStep {name : String} {values : List String}
    (opened : fragment.block = .enumeration name values) :
    Moves file line number fragment (fragment.enumStep name values line) := by
  simp only [enumStep]
  split
  · exact .single (.close fragment)
  · split
    · next remarked remarks => exact moves_remark? remarks
    · split
      · next named => exact .single (.addValue opened named)
      · split
        · exact .refl
        · exact .single (.note fragment _ _)

theorem moves_topStep (top : fragment.block = .top) :
    Moves file line number fragment (fragment.topStep file number line) := by
  simp only [topStep]
  have noted : Moves file line number fragment
      (fragment.note .trace ("ln " ++ toString number ++ ": " ++ (classify line).label)) :=
    .single (.note fragment _ _)
  have stillTop : (fragment.note .trace
      ("ln " ++ toString number ++ ": " ++ (classify line).label)).block = .top := top
  revert noted stillTop
  generalize fragment.note .trace ("ln " ++ toString number ++ ": " ++ (classify line).label) =
    state
  intro noted stillTop
  cases kind : classify line with
  | comment => exact noted
  | oneLineBlockDescription | description =>
      exact noted.trans (moves_discardDescription state _)
  | blockDescriptionMarker => exact noted.tail (.describe state _)
  | schemaOpener | closingBrace => exact noted
  | rootBinding operation =>
      exact (noted.tail (.note state _ _)).tail (.bind stillTop kind)
  | operationOpener operation => exact noted.tail (.openBlock stillTop (.operations operation))
  | objectOpener =>
      dsimp only
      split
      · next operation _ => exact noted.tail (.openBlock stillTop (.operations operation))
      · exact noted.tail (.openBlock stillTop (.object kind))
  | scalarDefinition => exact noted.tail (.addScalar stillTop kind)
  | unionDefinition => exact noted.tail (.openBlock stillTop (.union kind))
  | enumOpener => exact noted.tail (.openBlock stillTop (.enumeration kind))
  | field _ | unionMember | unmatched => exact noted.tail (.report state (.inl rfl))

/-- A line makes nothing but moves. -/
theorem moves_step (fragment : Fragment) (file : Option String) (line : List Char) (number : Nat) :
    Moves file line number fragment (fragment.step file line number) := by
  cases described : fragment.description with
  | some parts =>
      rw [step_of_description described]
      exact moves_describe fragment parts
  | none =>
      cases opened : fragment.block with
      | top =>
          rw [step_of_top described opened]
          exact moves_topStep opened
      | body body pending =>
          rw [step_of_body described opened]
          exact moves_bodyStep opened
      | enumeration name values =>
          rw [step_of_enumeration described opened]
          exact moves_enumStep opened
      | failed cause last =>
          rw [step_of_failed described opened]
      | union name members =>
          rw [step_of_union described opened]
          split
          · exact .single (.addMembers opened)
          · have closedTop := close_block_of_union fragment opened
            have closed : Move file line number fragment fragment.close := .close fragment
            exact (Relation.ReflTransGen.single closed).trans (moves_topStep closedTop)

/-! ### The end of the lines -/

theorem moves_closeOpen (fragment : Fragment) :
    Moves file line number fragment fragment.closeOpen := by
  simp only [closeOpen]
  split
  · next body pending opened => exact (moves_endDeclaration opened).tail (.close _)
  · exact .single (.close fragment)

/-- The end makes moves that any line could make. -/
theorem moves_finish (fragment : Fragment) (file : Option String) (line : List Char)
    (number : Nat) : Moves file line number fragment fragment.finish := by
  cases described : fragment.description with
  | none =>
      rw [finish_of_no_description described]
      exact moves_closeOpen fragment
  | some parts =>
      rw [finish_of_description described]
      exact (moves_discardDescription fragment _).trans (moves_closeOpen _)

end Steps

/-! ### What is kept -/

theorem Moves.keep {file : Option String} {line : List Char} {number : Nat}
    {before after : Fragment} {holds : Fragment → Prop}
    (kept : ∀ {state next : Fragment}, Move file line number state next → holds state → holds next)
    (moves : Moves file line number before after) (start : holds before) : holds after := by
  induction moves with
  | refl => exact start
  | tail _ move inductionHypothesis => exact kept move inductionHypothesis

/-- What holds of a fragment at a line's number, if every move of a line keeps it for the next
number, holds after any lines. -/
theorem feed_keep {file : Option String} {lines : List (List Char)} {number : Nat}
    {fragment : Fragment} {holds : Nat → Fragment → Prop}
    (kept : ∀ line ∈ lines, ∀ {number : Nat} {state next : Fragment},
      Move file line number state next → holds (number + 1) state → holds (number + 1) next)
    (onward : ∀ {number : Nat} {state : Fragment}, holds number state → holds (number + 1) state)
    (start : holds number fragment) :
    holds (number + lines.length) (fragment.feed file number lines) := by
  induction lines generalizing fragment number with
  | nil => exact start
  | cons line lines inductionHypothesis =>
      rw [List.forall_mem_cons] at kept
      have next : holds (number + 1) (fragment.step file line number) :=
        (moves_step fragment file line number).keep kept.1 (onward start)
      have rest := inductionHypothesis kept.2 next
      rw [feed_cons, List.length_cons, Nat.add_comm lines.length, ← Nat.add_assoc]
      exact rest

/-- What every move keeps holds after all the lines and at the end, if it held before. -/
theorem run_keep {cursor : Cursor} {fragment : Fragment} {holds : Fragment → Prop}
    (kept : ∀ {line : List Char}, '\n' ∉ line → ∀ {number : Nat} {state next : Fragment},
      Move cursor.file line number state next → holds state → holds next)
    (inline : ∀ line ∈ cursor.rest, '\n' ∉ line) (start : holds fragment) :
    holds (fragment.run cursor) := by
  have fed : holds (fragment.feed cursor.file cursor.lineNumber cursor.rest) :=
    @feed_keep cursor.file cursor.rest cursor.lineNumber fragment (fun _ => holds)
      (fun line member => kept (inline line member)) id start
  rw [run_eq_feed]
  exact (moves_finish _ cursor.file [] 0).keep (kept List.not_mem_nil) fed

end SdlProjection.Fragment
