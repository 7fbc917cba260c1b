import Mathlib.Data.List.Forall2
import SdlProjection.Proofs.Fragment.Reading
import SdlProjection.Proofs.Schema.Merging

/-!
Contract: two readings that go on in step.

Owns: `Correspondence`, what two readings may differ in (their lines, what was
declared and reported before, the numbers of lines and the path), with the laws
that make every line keep the difference; `Lockstep`, the relation between
their states; and that it is kept by corresponding lines and by the end.

Does not own: the readings that are compared (`Proofs.Fragment.Parallel`,
`Proofs.Fragment.Displacement`, `Proofs.Schema.Insertion`,
`Proofs.Schema.Reindentation`, `Proofs.Schema.Session`).
-/

namespace SdlProjection

def Pending.renumbered (renumber : Nat → Nat) (pending : Pending) : Pending :=
  { pending with number := renumber pending.number }

def Block.renumbered (renumber : Nat → Nat) : Block → Block
  | .body content pending => .body content (pending.map (Pending.renumbered renumber))
  | .failed cause number => .failed cause (renumber number)
  | other => other

def FragmentError.renumbered (renumber : Nat → Nat) (error : FragmentError) : FragmentError :=
  { error with number := renumber error.number }

/-- Two lines that are read alike wherever they stand. -/
structure Line.ReadAlike (left right : List Char) : Prop where
  trim : Text.trim left = Text.trim right
  kind : classify left = classify right
  name : ∀ keyword, Line.definitionName keyword left = Line.definitionName keyword right
  union : Line.unionDefinition left = Line.unionDefinition right
  members : Line.unionMembers left = Line.unionMembers right
  value : Line.enumValue left = Line.enumValue right
  target : Line.bindingTarget left = Line.bindingTarget right

theorem Line.ReadAlike.refl (line : List Char) : Line.ReadAlike line line :=
  ⟨rfl, rfl, fun _ => rfl, rfl, rfl, rfl, rfl⟩

theorem Line.ReadAlike.of_eq {left right : List Char} (same : left = right) :
    Line.ReadAlike left right :=
  same ▸ .refl left

/-- What two schemas may differ in, whatever is added to both. -/
structure SchemaRelation where
  schema : Schema → Schema → Prop
  roots : ∀ {left right}, schema left right → left.roots = right.roots
  addOperation : ∀ {left right}, schema left right → ∀ kind key type,
    schema (left.addOperation kind key type) (right.addOperation kind key type)
  addType : ∀ {left right}, schema left right → ∀ name type,
    schema (left.addType name type) (right.addType name type)
  addUnion : ∀ {left right}, schema left right → ∀ name members,
    schema (left.addUnion name members) (right.addUnion name members)
  bindRoot : ∀ {left right}, schema left right → ∀ kind name,
    schema (left.bindRoot kind name) (right.bindRoot kind name)

/-- In nothing at all. -/
def SchemaRelation.equality : SchemaRelation where
  schema := Eq
  roots same := same ▸ rfl
  addOperation same _ _ _ := same ▸ rfl
  addType same _ _ := same ▸ rfl
  addUnion same _ _ := same ▸ rfl
  bindRoot same _ _ := same ▸ rfl

/-- What two readings may differ in. The lines of the left one have numbers of which `counted`
holds; those of the right one have the renumbered ones. -/
structure Correspondence extends SchemaRelation where
  line : List Char → List Char → Prop
  diagnostics : List Diagnostic → List Diagnostic → Prop
  renumber : Nat → Nat
  counted : Nat → Prop
  leftFile : Option String
  rightFile : Option String
  readAlike : ∀ {left right}, line left right → Line.ReadAlike left right
  report : ∀ {left right}, diagnostics left right → ∀ {number}, counted number →
    ∀ {text text'}, line text text' ∨ text = text' →
    diagnostics (left ++ [⟨leftFile, number, String.ofList text⟩])
      (right ++ [⟨rightFile, renumber number, String.ofList text'⟩])

namespace Fragment

structure Lockstep (c : Correspondence) (left right : Fragment) : Prop where
  schema : c.schema left.schema right.schema
  block : right.block = left.block.renumbered c.renumber
  description : right.description = left.description
  diagnostics : c.diagnostics left.journal.diagnostics right.journal.diagnostics

section Steps

variable {c : Correspondence} {left right : Fragment} {line line' : List Char}

/-! ### Changes that keep the relation -/

theorem Lockstep.note (lockstep : Lockstep c left right) (level : LogLevel)
    (message message' : String) :
    Lockstep c (left.note level message) (right.note level message') :=
  ⟨lockstep.schema, lockstep.block, lockstep.description, lockstep.diagnostics⟩

theorem Lockstep.discardDescription (lockstep : Lockstep c left right) (text text' : List Char) :
    Lockstep c (left.discardDescription text) (right.discardDescription text') :=
  ⟨lockstep.schema, lockstep.block, rfl, lockstep.diagnostics⟩

theorem Lockstep.withDescription (lockstep : Lockstep c left right)
    (parts : Option (List (List Char))) :
    Lockstep c { left with description := parts } { right with description := parts } :=
  ⟨lockstep.schema, lockstep.block, rfl, lockstep.diagnostics⟩

theorem Lockstep.withBlock (lockstep : Lockstep c left right) (block : Block) :
    Lockstep c { left with block := block }
      { right with block := block.renumbered c.renumber } :=
  ⟨lockstep.schema, rfl, lockstep.description, lockstep.diagnostics⟩

theorem Lockstep.withSchema (lockstep : Lockstep c left right) {leftNext rightNext : Schema}
    (next : c.schema leftNext rightNext) :
    Lockstep c { left with schema := leftNext } { right with schema := rightNext } :=
  ⟨next, lockstep.block, lockstep.description, lockstep.diagnostics⟩

/-- Two texts are reported under corresponding numbers, or neither is. -/
theorem Lockstep.report (lockstep : Lockstep c left right) {number : Nat}
    (counted : c.counted number) {text text' : List Char}
    (same : c.line text text' ∨ text = text') :
    Lockstep c (left.report c.leftFile number text)
      (right.report c.rightFile (c.renumber number) text') := by
  have trimmed : Text.trim text = Text.trim text' := by
    rcases same with corresponding | rfl
    · exact (c.readAlike corresponding).trim
    · rfl
  simp only [Fragment.report, trimmed]
  split
  · exact lockstep
  · exact ⟨lockstep.schema, lockstep.block, lockstep.description,
      c.report lockstep.diagnostics counted same⟩

/-! ### Comments and descriptions -/

theorem Lockstep.describe (lockstep : Lockstep c left right) (parts : List (List Char))
    (alike : Line.ReadAlike line line') :
    Lockstep c (left.describe parts line) (right.describe parts line') := by
  simp only [Fragment.describe, alike.trim]
  split
  · exact lockstep.discardDescription _ _
  · exact lockstep.withDescription _

theorem Lockstep.remark? (lockstep : Lockstep c left right) (kind : LineKind)
    (trimmed : Text.trim line = Text.trim line') :
    (left.remark? kind line = none ∧ right.remark? kind line' = none) ∨
      ∃ leftNext rightNext, left.remark? kind line = some leftNext ∧
        right.remark? kind line' = some rightNext ∧ Lockstep c leftNext rightNext := by
  cases kind with
  | comment => exact .inr ⟨left, right, rfl, rfl, lockstep⟩
  | oneLineBlockDescription | description =>
      exact .inr ⟨_, _, rfl, rfl, lockstep.discardDescription _ _⟩
  | blockDescriptionMarker =>
      refine .inr ⟨_, _, rfl, rfl, ?_⟩
      simp only [Line.blockOpening, trimmed]
      exact lockstep.withDescription _
  | _ => exact .inl ⟨rfl, rfl⟩

/-! ### Bodies -/

theorem Lockstep.declare (lockstep : Lockstep c left right) (body : Body)
    (declaration : List Char) (number : Nat) :
    Lockstep c (left.declare body declaration number)
      (right.declare body declaration (c.renumber number)) := by
  simp only [Fragment.declare]
  split
  · next cause _ => exact lockstep.withBlock (.failed cause number)
  · next field _ =>
      have noted : Lockstep c
          (if field.deprecated then left.note .debug (deprecationNote body field.key) else left)
          (if field.deprecated then right.note .debug (deprecationNote body field.key)
            else right) := by
        split
        · exact lockstep.note _ _ _
        · exact lockstep
      cases body with
      | object name fields => exact noted.withBlock (.body (.object name _) none)
      | operations kind =>
          have added := noted.withSchema (c.addOperation noted.schema kind field.key field.type)
          exact added.withBlock (.body (.operations kind) none)

theorem Lockstep.endDeclaration (lockstep : Lockstep c left right) (body : Body)
    (pending : Option Pending) :
    Lockstep c (left.endDeclaration body pending)
      (right.endDeclaration body (pending.map (Pending.renumbered c.renumber))) := by
  cases pending with
  | none => exact lockstep
  | some pending => exact lockstep.declare body (Text.joinSpaced pending.parts) pending.number

/-- What a line adds to a declaration does not depend on where the earlier lines stood. -/
theorem extend_renumbered (renumber : Nat → Nat) (pending : Option Pending) (line : List Char)
    (number : Nat) :
    ((pending.map (Pending.renumbered renumber)).getD .nothing).extend line (renumber number) =
      ((((pending.getD .nothing).extend line number).1).renumbered renumber,
        ((pending.getD .nothing).extend line number).2) := by
  cases pending <;> rfl

theorem Lockstep.continueDeclaration (lockstep : Lockstep c left right) (body : Body)
    (pending : Option Pending) (line : List Char) (number : Nat) :
    Lockstep c (left.continueDeclaration body pending line number)
      (right.continueDeclaration body (pending.map (Pending.renumbered c.renumber)) line
        (c.renumber number)) := by
  simp only [Fragment.continueDeclaration, extend_renumbered]
  split
  · exact lockstep.declare body _ number
  · exact lockstep.withBlock (.body body (some _))

theorem Lockstep.close (lockstep : Lockstep c left right) :
    Lockstep c left.close right.close := by
  simp only [Fragment.close, lockstep.block]
  cases same : left.block with
  | top =>
      simp only [Block.renumbered]
      exact lockstep
  | failed cause number =>
      simp only [Block.renumbered]
      exact lockstep
  | enumeration name values =>
      exact (lockstep.withSchema (c.addType lockstep.schema name _)).withBlock .top
  | union name members =>
      exact (lockstep.withSchema (c.addUnion lockstep.schema name members)).withBlock .top
  | body body pending =>
      cases body with
      | object name fields =>
          exact (lockstep.withSchema (c.addType lockstep.schema name _)).withBlock .top
      | operations kind => exact lockstep.withBlock .top

theorem Lockstep.bodyStep (lockstep : Lockstep c left right) (body : Body)
    (pending : Option Pending) {number : Nat} (counted : c.counted number)
    (alike : Line.ReadAlike line line') :
    Lockstep c (left.bodyStep c.leftFile body pending number line)
      (right.bodyStep c.rightFile body (pending.map (Pending.renumbered c.renumber))
        (c.renumber number) line') := by
  simp only [Fragment.bodyStep, alike.trim]
  split
  · exact (lockstep.endDeclaration body pending).close
  · have remarks := @Lockstep.remark? c left right (Text.trim line') (Text.trim line') lockstep
      (classify (Text.trim line')) rfl
    rcases remarks with
      ⟨leftNone, rightNone⟩ | ⟨leftNext, rightNext, leftSome, rightSome, next⟩
    · simp only [leftNone, rightNone, Option.isNone_map]
      split
      · exact lockstep
      · split
        · cases body with
          | object name fields => exact lockstep.report counted (.inr rfl)
          | operations kind => exact lockstep.declare _ _ number
        · exact lockstep.continueDeclaration body pending _ number
    · simp only [leftSome, rightSome]
      exact next

/-! ### Enums and the lines between definitions -/

theorem Lockstep.enumStep (lockstep : Lockstep c left right) (name : String)
    (values : List String) (alike : Line.ReadAlike line line') :
    Lockstep c (left.enumStep name values line) (right.enumStep name values line') := by
  simp only [Fragment.enumStep, alike.kind, alike.value]
  split
  · exact lockstep.close
  · rcases lockstep.remark? (classify line') alike.trim with
      ⟨leftNone, rightNone⟩ | ⟨leftNext, rightNext, leftSome, rightSome, next⟩
    · simp only [leftNone, rightNone]
      split
      · exact lockstep.withBlock (.enumeration name _)
      · split
        · exact lockstep
        · exact lockstep.note _ _ _
    · simp only [leftSome, rightSome]
      exact next

theorem Lockstep.topStep (lockstep : Lockstep c left right) {number : Nat}
    (counted : c.counted number) (corresponding : c.line line line') :
    Lockstep c (left.topStep c.leftFile number line)
      (right.topStep c.rightFile (c.renumber number) line') := by
  have alike := c.readAlike corresponding
  simp only [Fragment.topStep, alike.kind, alike.union]
  have noted := lockstep.note .trace
  cases classify line' with
  | comment => exact noted _ _
  | oneLineBlockDescription | description => exact (noted _ _).discardDescription _ _
  | blockDescriptionMarker =>
      simp only [Fragment.remark?, Option.getD_some, Line.blockOpening, alike.trim]
      exact (noted _ _).withDescription _
  | schemaOpener | closingBrace => exact noted _ _
  | rootBinding operation =>
      simp only [Fragment.bind, alike.target]
      exact ((noted _ _).note _ _ _).withSchema (c.bindRoot lockstep.schema operation _)
  | operationOpener operation => exact (noted _ _).withBlock (.body (.operations operation) none)
  | objectOpener =>
      have sameKind := Schema.rootKind?_congr (c.roots lockstep.schema)
        (Line.definitionName "type" line')
      simp only [Fragment.note, alike.name, sameKind]
      split
      · next operation _ => exact (noted _ _).withBlock (.body (.operations operation) none)
      · exact (noted _ _).withBlock (.body (.object _ []) none)
  | scalarDefinition =>
      simp only [alike.name]
      exact (noted _ _).withSchema (c.addType lockstep.schema _ _)
  | unionDefinition => exact (noted _ _).withBlock (.union _ _)
  | enumOpener =>
      simp only [alike.name]
      exact (noted _ _).withBlock (.enumeration _ [])
  | field _ | unionMember | unmatched => exact (noted _ _).report counted (.inl corresponding)

theorem Lockstep.step (lockstep : Lockstep c left right) {number : Nat}
    (counted : c.counted number) (corresponding : c.line line line') :
    Lockstep c (left.step c.leftFile line number)
      (right.step c.rightFile line' (c.renumber number)) := by
  have alike := c.readAlike corresponding
  have same := lockstep.description
  cases described : left.description with
  | some parts =>
      rw [described] at same
      rw [step_of_description same, step_of_description described]
      exact lockstep.describe parts alike
  | none =>
      rw [described] at same
      have sameBlock := lockstep.block
      cases opened : left.block with
      | top =>
          rw [opened] at sameBlock
          rw [step_of_top same sameBlock, step_of_top described opened]
          exact lockstep.topStep counted corresponding
      | body content pending =>
          rw [opened] at sameBlock
          rw [step_of_body same sameBlock, step_of_body described opened]
          exact lockstep.bodyStep content pending counted alike
      | enumeration name values =>
          rw [opened] at sameBlock
          rw [step_of_enumeration same sameBlock, step_of_enumeration described opened]
          exact lockstep.enumStep name values alike
      | failed cause last =>
          rw [opened] at sameBlock
          rw [step_of_failed same sameBlock, step_of_failed described opened]
          exact lockstep
      | union name members =>
          rw [opened] at sameBlock
          rw [step_of_union same sameBlock, step_of_union described opened, alike.kind,
            alike.members]
          split
          · exact lockstep.withBlock (.union name (members ++ Line.unionMembers line'))
          · exact lockstep.close.topStep counted corresponding

/-! ### Whole readings -/

/-- Corresponding lines keep the relation, as long as the numbers on the right are the
renumbered ones. -/
theorem Lockstep.feed (lockstep : Lockstep c left right) {lines lines' : List (List Char)}
    (corresponding : List.Forall₂ c.line lines lines') {number number' : Nat}
    (numbered : ∀ index < lines.length,
      c.counted (number + index) ∧ c.renumber (number + index) = number' + index) :
    Lockstep c (left.feed c.leftFile number lines) (right.feed c.rightFile number' lines') := by
  induction corresponding generalizing left right number number' with
  | nil => exact lockstep
  | @cons line line' lines lines' first _ inductionHypothesis =>
      obtain ⟨counted, same⟩ := numbered 0 (by simp)
      simp only [Nat.add_zero] at counted same
      have next := lockstep.step counted first
      rw [same] at next
      rw [feed_cons, feed_cons]
      apply inductionHypothesis next
      intro index within
      have later := numbered (index + 1) (by simpa using within)
      rwa [Nat.add_right_comm, Nat.add_assoc, Nat.add_right_comm number' 1, Nat.add_assoc number']

theorem Lockstep.settled (lockstep : Lockstep c left right) (settled : left.Settled) :
    right.Settled where
  block := by
    rw [lockstep.block, settled.block]
    rfl
  description := by rw [lockstep.description, settled.description]

theorem Lockstep.closeOpen (lockstep : Lockstep c left right) :
    Lockstep c left.closeOpen right.closeOpen := by
  simp only [Fragment.closeOpen]
  rw [lockstep.block]
  cases left.block with
  | body content pending => exact (lockstep.endDeclaration content pending).close
  | top | enumeration _ _ | union _ _ | failed _ _ => exact lockstep.close

theorem Lockstep.finish (lockstep : Lockstep c left right) :
    Lockstep c left.finish right.finish := by
  have same := lockstep.description
  cases described : left.description with
  | none =>
      rw [described] at same
      rw [finish_of_no_description same, finish_of_no_description described]
      exact lockstep.closeOpen
  | some parts =>
      rw [described] at same
      rw [finish_of_description same, finish_of_description described]
      exact (lockstep.discardDescription _ _).closeOpen

/-- Readings in step have the same result, up to the numbers of lines, if schemas correspond to
themselves alone. -/
theorem Lockstep.parse_renumbered {leftCursor rightCursor : Cursor} {bindings bindings' : Schema}
    {journal journal' : Journal}
    (lockstep : Lockstep c ((start bindings journal).run leftCursor)
      ((start bindings' journal').run rightCursor))
    (sameSchema : ∀ {schema other}, c.schema schema other → schema = other)
    (sameFile : leftCursor.file = rightCursor.file) :
    (parse rightCursor bindings' journal').1 =
        (parse leftCursor bindings journal).1.mapError (FragmentError.renumbered c.renumber) ∧
      c.diagnostics (parse leftCursor bindings journal).2.diagnostics
        (parse rightCursor bindings' journal').2.diagnostics := by
  rcases settled_or_failed_run (start bindings journal) leftCursor with
    settled | ⟨cause, number, failed⟩
  · rw [parse_of_settled settled, parse_of_settled (lockstep.settled settled)]
    exact ⟨congrArg Except.ok (sameSchema lockstep.schema).symm, lockstep.diagnostics⟩
  · have failed' : ((start bindings' journal').run rightCursor).block =
        .failed cause (c.renumber number) := by
      rw [lockstep.block, failed, Block.renumbered]
    rw [parse_of_failed failed, parse_of_failed failed', sameFile]
    exact ⟨rfl, lockstep.diagnostics⟩

/-- Without renumbering, the result is the same. -/
theorem Lockstep.parse_eq {leftCursor rightCursor : Cursor} {bindings bindings' : Schema}
    {journal journal' : Journal}
    (lockstep : Lockstep c ((start bindings journal).run leftCursor)
      ((start bindings' journal').run rightCursor))
    (sameSchema : ∀ {schema other}, c.schema schema other → schema = other)
    (sameNumber : ∀ number, c.renumber number = number)
    (sameFile : leftCursor.file = rightCursor.file) :
    (parse rightCursor bindings' journal').1 = (parse leftCursor bindings journal).1 ∧
      c.diagnostics (parse leftCursor bindings journal).2.diagnostics
        (parse rightCursor bindings' journal').2.diagnostics := by
  obtain ⟨same, diagnostics⟩ := lockstep.parse_renumbered sameSchema sameFile
  refine ⟨same.trans ?_, diagnostics⟩
  cases (parse leftCursor bindings journal).1 with
  | ok schema => rfl
  | error error => simp only [Except.mapError, FragmentError.renumbered, sameNumber]

end Steps

end Fragment

end SdlProjection
