import SdlProjection.Proofs.Fragment.Quiet
import SdlProjection.Proofs.Schema.Reading

/-!
Contract: which lines of a text bind its root types.

Owns: the lines that are read between definitions, and that the last one of them
that binds a kind decides on its root type, whatever stands around it. Where
such lines stand in `schema` blocks only, the blocks alone decide.

Does not own: which operations a root type's block declares.
-/

namespace SdlProjection

/-! ### Binding lines -/

/-- The target of the last line that binds a kind. -/
def Line.lastBinding? (kind : OperationKind) (lines : List (List Char)) : Option String :=
  (lines.filter fun line => classify line = .rootBinding kind).getLast?.map Line.bindingTarget

/-- The lines of `schema` blocks, each of which ends at the next closing brace. -/
def Line.inSchemaBlocks (inside : Bool) : List (List Char) → List (List Char)
  | [] => []
  | line :: rest =>
    if classify line = .schemaOpener then inSchemaBlocks true rest
    else if classify line = .closingBrace then inSchemaBlocks false rest
    else if inside then line :: inSchemaBlocks inside rest
    else inSchemaBlocks inside rest

/-- No line outside of `schema` blocks has the form of a root binding. -/
def Line.bindsInBlocks (inside : Bool) : List (List Char) → Bool
  | [] => true
  | line :: rest =>
    if classify line = .schemaOpener then bindsInBlocks true rest
    else if classify line = .closingBrace then bindsInBlocks false rest
    else
      (inside || OperationKind.all.all fun kind => classify line != .rootBinding kind) &&
        bindsInBlocks inside rest

namespace Line

variable {kind : OperationKind} {line : List Char} {lines : List (List Char)}

theorem lastBinding?_cons_of_binding (isBinding : classify line = .rootBinding kind) :
    lastBinding? kind (line :: lines) =
      (lastBinding? kind lines).or (some (bindingTarget line)) := by
  rw [lastBinding?, lastBinding?, List.filter_cons_of_pos (by simp [isBinding]),
    List.getLast?_cons]
  cases (lines.filter fun line => classify line = .rootBinding kind).getLast? <;> rfl

theorem lastBinding?_cons_of_ne (notBinding : classify line ≠ .rootBinding kind) :
    lastBinding? kind (line :: lines) = lastBinding? kind lines := by
  rw [lastBinding?, lastBinding?, List.filter_cons_of_neg (by simp [notBinding])]

/-- Lines that bind in blocks only bind what their blocks bind. -/
theorem lastBinding?_inSchemaBlocks {inside : Bool} (inBlocks : bindsInBlocks inside lines = true) :
    lastBinding? kind (inSchemaBlocks inside lines) = lastBinding? kind lines := by
  induction lines generalizing inside with
  | nil => rfl
  | cons line lines inductionHypothesis =>
      rw [bindsInBlocks] at inBlocks
      rw [inSchemaBlocks]
      split at inBlocks
      · next opens =>
          rw [if_pos opens, inductionHypothesis inBlocks,
            lastBinding?_cons_of_ne (by simp [opens])]
      · next notOpener =>
          rw [if_neg notOpener]
          split at inBlocks
          · next closes =>
              rw [if_pos closes, inductionHypothesis inBlocks,
                lastBinding?_cons_of_ne (by simp [closes])]
          · next notBrace =>
              rw [Bool.and_eq_true, Bool.or_eq_true] at inBlocks
              obtain ⟨here, later⟩ := inBlocks
              rw [if_neg notBrace]
              cases inside with
              | false =>
                  have notBinding : classify line ≠ .rootBinding kind := by
                    have listed : kind ∈ OperationKind.all := by cases kind <;> decide
                    exact bne_iff_ne.mp
                      (List.all_eq_true.mp (here.resolve_left Bool.false_ne_true) kind listed)
                  rw [if_neg Bool.false_ne_true, inductionHypothesis later,
                    lastBinding?_cons_of_ne notBinding]
              | true =>
                  rw [if_pos rfl]
                  by_cases isBinding : classify line = .rootBinding kind
                  · rw [lastBinding?_cons_of_binding isBinding,
                      lastBinding?_cons_of_binding isBinding, inductionHypothesis later]
                  · rw [lastBinding?_cons_of_ne isBinding, lastBinding?_cons_of_ne isBinding,
                      inductionHypothesis later]

/-- Without an opener there is no block. -/
theorem inSchemaBlocks_of_no_opener (noOpener : ∀ line ∈ lines, classify line ≠ .schemaOpener) :
    inSchemaBlocks false lines = [] := by
  induction lines with
  | nil => rfl
  | cons line lines inductionHypothesis =>
      rw [List.forall_mem_cons] at noOpener
      have later := inductionHypothesis noOpener.2
      rw [inSchemaBlocks, if_neg noOpener.1, later]
      simp

end Line

namespace Fragment

/-! ### Lines between definitions -/

/-- The line is read between definitions: neither a description nor a block is open, or only a
union that the line does not continue. -/
def readsBetween (fragment : Fragment) (line : List Char) : Bool :=
  fragment.description.isNone &&
    match fragment.block with
    | .top => true
    | .union _ _ => classify line != .unionMember
    | .body _ _ | .enumeration _ _ | .failed _ _ => false

/-- Those of the lines that are read between definitions. -/
def betweenLines (fragment : Fragment) (file : Option String) (number : Nat) :
    List (List Char) → List (List Char)
  | [] => []
  | line :: rest =>
    let later := (fragment.step file line number).betweenLines file (number + 1) rest
    if fragment.readsBetween line then line :: later else later

section Steps

variable {fragment : Fragment} {file : Option String} {line : List Char} {number : Nat}

/-! ### What keeps the bindings -/

theorem report_roots (fragment : Fragment) (file : Option String) (number : Nat)
    (line : List Char) :
    (fragment.report file number line).schema.roots = fragment.schema.roots := by
  simp only [report]
  split <;> rfl

theorem bodyStep_roots (fragment : Fragment) (file : Option String) (body : Body)
    (pending : Option Pending) (number : Nat) (line : List Char) :
    (fragment.bodyStep file body pending number line).schema.roots = fragment.schema.roots := by
  rcases fragment.quiet_or_report_bodyStep file body pending number line with quiet | ⟨-, reports⟩
  · exact quiet.roots
  · rw [reports, report_roots]

/-! ### What binds -/

/-- Between definitions, a line of the form of a binding binds its kind, and no other line
does. -/
theorem topStep_roots (fragment : Fragment) (file : Option String) (number : Nat)
    (line : List Char) (kind : OperationKind) :
    (fragment.topStep file number line).schema.roots.get kind =
      if classify line = .rootBinding kind then some (Line.bindingTarget line)
      else fragment.schema.roots.get kind := by
  simp only [topStep]
  cases isKind : classify line with
  | rootBinding operation =>
      cases operation <;> cases kind <;> rfl
  | comment | oneLineBlockDescription | blockDescriptionMarker | description => rfl
  | schemaOpener | closingBrace | operationOpener _ | scalarDefinition | enumOpener
  | unionDefinition => rfl
  | objectOpener =>
      dsimp only
      split <;> rfl
  | field _ | unionMember | unmatched =>
      simp only [report_roots]
      rfl

theorem step_roots (fragment : Fragment) (file : Option String) (line : List Char) (number : Nat)
    (kind : OperationKind) :
    (fragment.step file line number).schema.roots.get kind =
      if fragment.readsBetween line ∧ classify line = .rootBinding kind
      then some (Line.bindingTarget line) else fragment.schema.roots.get kind := by
  cases described : fragment.description with
  | some parts =>
      rw [step_of_description described, (quiet_describe fragment parts line).roots]
      simp [readsBetween, described]
  | none =>
      cases opened : fragment.block with
      | top =>
          rw [step_of_top described opened, topStep_roots]
          simp [readsBetween, described, opened]
      | body body pending =>
          rw [step_of_body described opened, bodyStep_roots]
          simp [readsBetween, described, opened]
      | enumeration name values =>
          rw [step_of_enumeration described opened,
            (quiet_enumStep fragment name values line).roots]
          simp [readsBetween, described, opened]
      | failed cause last =>
          rw [step_of_failed described opened]
          simp [readsBetween, described, opened]
      | union name members =>
          rw [step_of_union described opened]
          split
          · next isMember => simp [isMember]
          · next notMember =>
              rw [topStep_roots, (quiet_close fragment).roots]
              simp [readsBetween, described, opened, notMember]

theorem feed_roots (fragment : Fragment) (file : Option String) (number : Nat)
    (lines : List (List Char)) (kind : OperationKind) :
    (fragment.feed file number lines).schema.roots.get kind =
      (Line.lastBinding? kind (fragment.betweenLines file number lines)).or
        (fragment.schema.roots.get kind) := by
  induction lines generalizing fragment number with
  | nil => rfl
  | cons line lines inductionHypothesis =>
      rw [feed_cons, inductionHypothesis, step_roots, betweenLines]
      by_cases between : fragment.readsBetween line = true
      · simp only [between, true_and, if_true]
        by_cases isBinding : classify line = .rootBinding kind
        · rw [if_pos isBinding, Line.lastBinding?_cons_of_binding isBinding, Option.or_assoc,
            Option.some_or]
        · rw [if_neg isBinding, Line.lastBinding?_cons_of_ne isBinding]
      · simp [between]

theorem mem_of_mem_betweenLines {lines : List (List Char)} {between : List Char}
    (member : between ∈ fragment.betweenLines file number lines) : between ∈ lines := by
  induction lines generalizing fragment number with
  | nil => cases member
  | cons line lines inductionHypothesis =>
      rw [betweenLines] at member
      split at member
      · rcases List.mem_cons.mp member with rfl | later
        · exact List.mem_cons_self
        · exact List.mem_cons_of_mem _ (inductionHypothesis later)
      · exact List.mem_cons_of_mem _ (inductionHypothesis member)

end Steps

end Fragment

namespace Schema

/-- The lines of a text that are read between definitions. -/
def betweenLines (text : String) (journal : Journal) : List (List Char) :=
  (Fragment.start empty journal).betweenLines none 1 (Text.lines text.toList)

theorem reading_roots (text : String) (journal : Journal) (kind : OperationKind) :
    (reading text journal).schema.roots.get kind =
      Line.lastBinding? kind (betweenLines text journal) := by
  have unbound : (Fragment.start empty journal).schema.roots.get kind = none := by
    cases kind <;> rfl
  rw [reading, (Fragment.quiet_finish _).roots, Fragment.feed_roots, unbound, Option.or_none]
  rfl

/-- The root types of a text are bound by the lines that are read between its definitions, and of
several for one kind by the last. If none of these lines stands outside of a `schema` block, the
lines of the blocks decide, and a text without the opener of one binds no root type. -/
theorem roots_of_readText {text : String} {journal after : Journal} {schema : Schema}
    (read : readText text journal = (.ok schema, after)) :
    (∀ kind, schema.roots.get kind = Line.lastBinding? kind (betweenLines text journal)) ∧
      (Line.bindsInBlocks false (betweenLines text journal) = true →
        (∀ kind, schema.roots.get kind =
          Line.lastBinding? kind (Line.inSchemaBlocks false (betweenLines text journal))) ∧
        ((∀ line ∈ Text.lines text.toList, classify line ≠ .schemaOpener) →
          ∀ kind, schema.roots.get kind = none)) := by
  obtain ⟨-, rfl, -⟩ := settled_of_readText read
  refine ⟨reading_roots text journal, ?_⟩
  intro inBlocks
  have byBlocks : ∀ kind, (reading text journal).schema.roots.get kind =
      Line.lastBinding? kind (Line.inSchemaBlocks false (betweenLines text journal)) := by
    intro kind
    rw [reading_roots, Line.lastBinding?_inSchemaBlocks inBlocks]
  refine ⟨byBlocks, ?_⟩
  intro noOpener kind
  have noneOpens : ∀ line ∈ betweenLines text journal, classify line ≠ .schemaOpener :=
    fun line member => noOpener line (Fragment.mem_of_mem_betweenLines member)
  rw [byBlocks, Line.inSchemaBlocks_of_no_opener noneOpens]
  rfl

/-- A `schema` block, and a block of another kind that holds no binding. -/
def boundText : String := "schema \x7b\n  query: Root\n\x7d\ninput Filter \x7b\n  name: ID\n\x7d\n"

theorem roots_of_boundText :
    ∃ schema after, readText boundText .empty = (.ok schema, after) ∧
      Line.bindsInBlocks false (betweenLines boundText .empty) = true ∧
      schema.roots.get .query = some "Root" ∧ schema.roots.get .mutation = none := by
  have lines : Text.lines boundText.toList = ["schema \x7b".toList, "  query: Root".toList,
      "\x7d".toList, "input Filter \x7b".toList, "  name: ID".toList, "\x7d".toList] := by
    decide +kernel
  have settled : (reading boundText .empty).Settled := by
    rw [reading, lines]
    exact ⟨rfl, rfl⟩
  have between : betweenLines boundText .empty = Text.lines boundText.toList := by
    rw [betweenLines, lines]
    rfl
  have inBlocks : Line.bindsInBlocks false (betweenLines boundText .empty) = true := by
    rw [between, lines]
    decide +kernel
  have read := readText_of_settled settled
  have law := ((roots_of_readText read).2 inBlocks).1
  refine ⟨_, _, read, inBlocks, ?_, ?_⟩
  · rw [law, between, lines]
    decide
  · rw [law, between, lines]
    decide

/-- A block of another kind whose field looks like a binding. -/
def filterText : String := "input Filter \x7b\n  query: Foo\n\x7d\n"

/-- The field binds the root type of queries although the text has no `schema` block. -/
theorem filterText_binds_root :
    ∃ schema after, readText filterText .empty = (.ok schema, after) ∧
      (∀ line ∈ Text.lines filterText.toList, classify line ≠ .schemaOpener) ∧
      schema.roots.get .query = some "Foo" := by
  have lines : Text.lines filterText.toList =
      ["input Filter \x7b".toList, "  query: Foo".toList, "\x7d".toList] := by decide +kernel
  have settled : (reading filterText .empty).Settled := by
    rw [reading, lines]
    exact ⟨rfl, rfl⟩
  refine ⟨_, _, readText_of_settled settled, ?_, ?_⟩
  · rw [lines]
    decide +kernel
  · rw [reading, lines]
    decide +kernel

end Schema

end SdlProjection
