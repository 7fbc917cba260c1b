import SdlProjection.Proofs.Fragment.Reading
import SdlProjection.Proofs.Line.Trimming

/-!
Contract: lines that a reading passes over.

Owns: `Insertion`, the blank lines, comments and descriptions that may stand
between any other lines, and that reading them changes nothing but the log,
except that an open union ends there.

Does not own: what the lines after them do (`Proofs.Schema.Insertion`).
-/

namespace SdlProjection

/-- A blank line, a comment, a description on one line, or a block description from its opening
to its closing marker. -/
inductive Insertion : List (List Char) → Prop
  | blank {line : List Char} : Text.trim line = [] → Insertion [line]
  | comment {line : List Char} : classify (Text.trim line) = .comment → Insertion [line]
  | description {line : List Char} : classify (Text.trim line) = .description → Insertion [line]
  | oneLineBlockDescription {line : List Char} :
      classify (Text.trim line) = .oneLineBlockDescription → Insertion [line]
  | blockDescription {opening closing : List Char} {inner : List (List Char)} :
      classify (Text.trim opening) = .blockDescriptionMarker →
      (∀ line ∈ inner, classify (Text.trim line) ≠ .blockDescriptionMarker) →
      classify (Text.trim closing) = .blockDescriptionMarker →
      Insertion (opening :: (inner ++ [closing]))

namespace Fragment

/-- The same state up to the log and to an open description. -/
structure Remarked (before after : Fragment) : Prop where
  schema : after.schema = before.schema
  block : after.block = before.block
  diagnostics : after.journal.diagnostics = before.journal.diagnostics

theorem Remarked.trans {first second third : Fragment} (earlier : Remarked first second)
    (later : Remarked second third) : Remarked first third where
  schema := later.schema.trans earlier.schema
  block := later.block.trans earlier.block
  diagnostics := later.diagnostics.trans earlier.diagnostics

theorem Remarked.refl (fragment : Fragment) : Remarked fragment fragment := ⟨rfl, rfl, rfl⟩

/-- No union is open. -/
def NoUnion (fragment : Fragment) : Prop :=
  ∀ name members, fragment.block ≠ .union name members

/-- No declaration has failed. -/
def NoFailure (fragment : Fragment) : Prop :=
  ∀ cause number, fragment.block ≠ .failed cause number

section Steps

variable {fragment : Fragment} {file : Option String} {line : List Char} {number : Nat}

/-! ### One line -/

theorem exists_remark? {kind : LineKind} (noDescription : fragment.description = none)
    (isRemark : kind = .comment ∨ kind = .description ∨ kind = .oneLineBlockDescription ∨
      kind = .blockDescriptionMarker) (text : List Char) :
    ∃ next, fragment.remark? kind text = some next ∧ Remarked fragment next ∧
      next.description.isSome = (kind == .blockDescriptionMarker) := by
  rcases isRemark with rfl | rfl | rfl | rfl
  · exact ⟨_, rfl, .refl fragment, by rw [noDescription]; rfl⟩
  · exact ⟨_, rfl, ⟨rfl, rfl, rfl⟩, rfl⟩
  · exact ⟨_, rfl, ⟨rfl, rfl, rfl⟩, rfl⟩
  · exact ⟨_, rfl, ⟨rfl, rfl, rfl⟩, rfl⟩

/-- A comment or a description is passed over in every block. A marker leaves a description
open. -/
theorem step_of_remark (noDescription : fragment.description = none)
    (noUnion : fragment.NoUnion) (noFailure : fragment.NoFailure) (inline : '\n' ∉ line)
    {kind : LineKind} (isKind : classify (Text.trim line) = kind)
    (isRemark : kind = .comment ∨ kind = .description ∨ kind = .oneLineBlockDescription ∨
      kind = .blockDescriptionMarker) :
    Remarked fragment (fragment.step file line number) ∧
      (fragment.step file line number).description.isSome =
        (kind == .blockDescriptionMarker) := by
  have untrimmed : classify line = kind := (classify_trim inline).symm.trans isKind
  have notBrace : kind ≠ .closingBrace := by
    rcases isRemark with rfl | rfl | rfl | rfl <;> decide
  cases opened : fragment.block with
  | union name members => exact absurd opened (noUnion name members)
  | failed cause last => exact absurd opened (noFailure cause last)
  | top =>
      -- the category is noted first
      let noted := fragment.note .trace ("ln " ++ toString number ++ ": " ++ kind.label)
      have first : Remarked fragment noted := ⟨rfl, rfl, rfl⟩
      obtain ⟨next, remarks, later, described⟩ :=
        @exists_remark? noted kind noDescription isRemark line
      have same : fragment.topStep file number line = next := by
        have taken : fragment.topStep file number line = (noted.remark? kind line).getD noted := by
          simp only [topStep, untrimmed]
          rcases isRemark with rfl | rfl | rfl | rfl <;> rfl
        rw [taken, remarks, Option.getD_some]
      rw [step_of_top noDescription opened, same]
      exact ⟨first.trans later, described⟩
  | body body pending =>
      obtain ⟨next, remarks, later, described⟩ :=
        exists_remark? noDescription isRemark (Text.trim line)
      rw [step_of_body noDescription opened]
      simp only [bodyStep, isKind, if_neg notBrace, remarks]
      exact ⟨later, described⟩
  | enumeration name values =>
      obtain ⟨next, remarks, later, described⟩ := exists_remark? noDescription isRemark line
      rw [step_of_enumeration noDescription opened]
      simp only [enumStep, untrimmed, if_neg notBrace, remarks]
      exact ⟨later, described⟩

theorem enumValue_of_blank (blank : Text.trim line = []) : Line.enumValue line = [] := by
  rw [Text.trim_eq_nil_iff] at blank
  rw [Line.enumValue, Text.trim_eq_nil_iff]
  exact fun c member => blank c ((List.takeWhile_prefix _).subset member)

/-- A blank line is passed over in every block. -/
theorem step_of_blank (noDescription : fragment.description = none) (noUnion : fragment.NoUnion)
    (inline : '\n' ∉ line) (blank : Text.trim line = []) :
    Remarked fragment (fragment.step file line number) ∧
      (fragment.step file line number).description = none := by
  have unmatched := classify_of_blank inline blank
  cases opened : fragment.block with
  | union name members => exact absurd opened (noUnion name members)
  | failed cause last =>
      rw [step_of_failed noDescription opened]
      exact ⟨.refl fragment, noDescription⟩
  | top =>
      rw [step_of_top noDescription opened]
      simp only [topStep, unmatched, report, blank, List.isEmpty_nil, if_true]
      exact ⟨⟨rfl, rfl, rfl⟩, noDescription⟩
  | body body pending =>
      rw [step_of_body noDescription opened]
      simp only [bodyStep, blank, classify_nil, remark?, List.isEmpty_nil, if_true]
      exact ⟨.refl fragment, noDescription⟩
  | enumeration name values =>
      rw [step_of_enumeration noDescription opened]
      simp only [enumStep, unmatched, remark?, enumValue_of_blank blank, List.isEmpty_nil]
      exact ⟨.refl fragment, noDescription⟩

/-! ### Block descriptions -/

/-- A line of an open description keeps it open, unless it is a marker. -/
theorem step_of_open_description (described : fragment.description.isSome = true) :
    Remarked fragment (fragment.step file line number) ∧
      (fragment.step file line number).description.isSome =
        (classify (Text.trim line) != .blockDescriptionMarker) := by
  obtain ⟨parts, same⟩ := Option.isSome_iff_exists.mp described
  rw [step_of_description same, describe]
  split
  · next marker => exact ⟨⟨rfl, rfl, rfl⟩, by simp [marker]⟩
  · next other => exact ⟨⟨rfl, rfl, rfl⟩, by simp [other]⟩

theorem feed_of_open_description {inner : List (List Char)}
    (described : fragment.description.isSome = true)
    (noMarker : ∀ line ∈ inner, classify (Text.trim line) ≠ .blockDescriptionMarker) :
    Remarked fragment (fragment.feed file number inner) ∧
      (fragment.feed file number inner).description.isSome = true := by
  induction inner generalizing fragment number with
  | nil => exact ⟨.refl fragment, described⟩
  | cons line inner inductionHypothesis =>
      rw [List.forall_mem_cons] at noMarker
      obtain ⟨first, still⟩ := @step_of_open_description fragment file line number described
      rw [bne_iff_ne.mpr noMarker.1] at still
      obtain ⟨later, open'⟩ := @inductionHypothesis _ (number + 1) still noMarker.2
      rw [feed_cons]
      exact ⟨first.trans later, open'⟩

/-! ### Insertions -/

theorem feed_of_failed {cause : DeclarationError} {last : Nat}
    (noDescription : fragment.description = none) (failed : fragment.block = .failed cause last)
    (lines : List (List Char)) : fragment.feed file number lines = fragment := by
  induction lines generalizing number with
  | nil => rfl
  | cons line lines inductionHypothesis =>
      rw [feed_cons, step_of_failed noDescription failed, inductionHypothesis]

/-- Where no union is open, an insertion is passed over. -/
theorem feed_insertion {inserted : List (List Char)} (insertion : Insertion inserted)
    (inline : ∀ line ∈ inserted, '\n' ∉ line) (noDescription : fragment.description = none)
    (noUnion : fragment.NoUnion) :
    Remarked fragment (fragment.feed file number inserted) ∧
      (fragment.feed file number inserted).description = none := by
  by_cases failed : ∃ cause last, fragment.block = .failed cause last
  · obtain ⟨cause, last, opened⟩ := failed
    rw [feed_of_failed noDescription opened]
    exact ⟨.refl fragment, noDescription⟩
  · have noFailure : fragment.NoFailure := fun cause last opened => failed ⟨cause, last, opened⟩
    -- the steps of a single line
    have single : ∀ {line kind}, '\n' ∉ line → classify (Text.trim line) = kind →
        kind = .comment ∨ kind = .description ∨ kind = .oneLineBlockDescription →
        Remarked fragment (fragment.feed file number [line]) ∧
          (fragment.feed file number [line]).description = none := by
      intro line kind inline isKind isRemark
      obtain ⟨remarked, described⟩ := @step_of_remark fragment file line number noDescription
        noUnion noFailure inline kind isKind (by tauto)
      have closed : (kind == .blockDescriptionMarker) = false := by
        rcases isRemark with rfl | rfl | rfl <;> rfl
      refine ⟨remarked, Option.not_isSome_iff_eq_none.mp ?_⟩
      rw [feed_cons, feed_nil, described, closed]
      exact Bool.false_ne_true
    cases insertion with
    | blank blank =>
        exact step_of_blank noDescription noUnion (inline _ (List.mem_singleton_self _)) blank
    | comment isKind => exact single (inline _ (List.mem_singleton_self _)) isKind (.inl rfl)
    | description isKind =>
        exact single (inline _ (List.mem_singleton_self _)) isKind (.inr (.inl rfl))
    | oneLineBlockDescription isKind =>
        exact single (inline _ (List.mem_singleton_self _)) isKind (.inr (.inr rfl))
    | @blockDescription opening closing inner opens noMarker closes =>
        obtain ⟨first, opened⟩ := @step_of_remark fragment file opening number noDescription
          noUnion noFailure (inline _ List.mem_cons_self) _ opens (by simp)
        obtain ⟨middle, still⟩ :=
          @feed_of_open_description _ file (number + 1) inner opened noMarker
        obtain ⟨last, closed⟩ := @step_of_open_description _ file closing
          (number + 1 + inner.length) still
        rw [feed_cons, feed_append, feed_cons, feed_nil]
        refine ⟨(first.trans middle).trans last, Option.not_isSome_iff_eq_none.mp ?_⟩
        rw [closed, closes, bne_self_eq_false]
        exact Bool.false_ne_true

end Steps

/-! ### Unions -/

/-- An open union is closed; anything else stays. -/
def closeUnion (fragment : Fragment) : Fragment :=
  match fragment.block with
  | .union _ _ => fragment.close
  | _ => fragment

/-- The loops of the reading come to the remaining lines, or to the end: no description is open,
and no union that the next line goes on with. -/
def Examines (fragment : Fragment) (remaining : List (List Char)) : Prop :=
  fragment.description = none ∧
    ∀ name members, fragment.block = .union name members →
      ∀ line, remaining.head? = some line → classify line ≠ .unionMember

section Unions

variable {fragment : Fragment} {file : Option String} {line : List Char} {number : Nat}

theorem noUnion_closeUnion (fragment : Fragment) : fragment.closeUnion.NoUnion := by
  intro name members
  cases opened : fragment.block with
  | top | body _ _ | enumeration _ _ | failed _ _ => simp [closeUnion, opened]
  | union name' members' => simp [closeUnion, close, opened]

theorem closeUnion_description (fragment : Fragment) :
    fragment.closeUnion.description = fragment.description := by
  rw [closeUnion]
  split
  · exact close_description fragment
  · rfl

theorem settled_close_of_union (noDescription : fragment.description = none) {name : String}
    {members : List String} (opened : fragment.block = .union name members) :
    fragment.close.Settled where
  block := close_block_of_union fragment opened
  description := by rw [close_description, noDescription]

/-- A line that does not go on with a union is read as if the union were closed. -/
theorem step_closeUnion (noDescription : fragment.description = none)
    (notMember : ∀ name members, fragment.block = .union name members →
      classify line ≠ .unionMember) :
    fragment.closeUnion.step file line number = fragment.step file line number := by
  cases opened : fragment.block with
  | top | body _ _ | enumeration _ _ | failed _ _ => simp only [closeUnion, opened]
  | union name members =>
      have settled := settled_close_of_union noDescription opened
      rw [step_of_union noDescription opened, if_neg (notMember name members opened), closeUnion,
        opened]
      exact step_of_top settled.description settled.block

theorem finish_closeUnion (noDescription : fragment.description = none) :
    fragment.closeUnion.finish = fragment.finish := by
  cases opened : fragment.block with
  | top | body _ _ | enumeration _ _ | failed _ _ => simp only [closeUnion, opened]
  | union name members =>
      have settled := settled_close_of_union noDescription opened
      rw [finish_of_no_description noDescription]
      simp only [closeUnion, closeOpen, opened]
      exact settled.finish_eq

theorem feed_closeUnion_finish {remaining : List (List Char)}
    (examined : fragment.Examines remaining) :
    (fragment.closeUnion.feed file number remaining).finish =
      (fragment.feed file number remaining).finish := by
  cases remaining with
  | nil => exact finish_closeUnion examined.1
  | cons line remaining =>
      have notMember : ∀ name members, fragment.block = .union name members →
          classify line ≠ .unionMember :=
        fun name members opened => examined.2 name members opened line rfl
      rw [feed_cons, feed_cons, step_closeUnion examined.1 notMember]

/-- An insertion changes nothing but the log, once an open union is closed. -/
theorem remarked_feed_insertion {inserted : List (List Char)} (insertion : Insertion inserted)
    (inline : ∀ line ∈ inserted, '\n' ∉ line) (noDescription : fragment.description = none) :
    Remarked fragment.closeUnion (fragment.feed file number inserted) ∧
      (fragment.feed file number inserted).description = none := by
  have closedDescription : fragment.closeUnion.description = none := by
    rw [closeUnion_description, noDescription]
  have passed := @feed_insertion fragment.closeUnion file number inserted insertion inline
    closedDescription (noUnion_closeUnion fragment)
  -- the first line ends the union
  have notMember : ∀ line ∈ inserted.head?, classify line ≠ .unionMember := by
    intro line first
    have here : '\n' ∉ line := inline line (List.mem_of_mem_head? first)
    rw [← classify_trim here]
    cases insertion with
    | blank blank =>
        cases first
        rw [blank, classify_nil]
        decide
    | comment isKind | description isKind | oneLineBlockDescription isKind
    | blockDescription isKind _ _ =>
        cases first
        rw [isKind]
        decide
  cases inserted with
  | nil => cases insertion
  | cons line later =>
      have same := @step_closeUnion fragment file line number noDescription
        fun _ _ _ => notMember line rfl
      rw [feed_cons, same] at passed
      exact passed

end Unions

end Fragment

end SdlProjection
