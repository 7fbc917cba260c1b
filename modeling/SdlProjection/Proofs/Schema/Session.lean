import Mathlib.Data.List.Forall2
import SdlProjection.Proofs.Fragment.Lockstep
import SdlProjection.Proofs.Fragment.Reporting
import SdlProjection.Proofs.Schema.Reading
import SdlProjection.Schema.Session

/-!
Contract: what one use of a parser leaves for the next.

Owns: that a reading neither depends on what was reported before nor takes any of
it away, so that after any requests the journal holds what each of them reports on
its own; and `FilesReport`, what the reading of several files reports, and that the
files behind one that fails do not matter.

Does not own: what the reading of one fragment reports (`Proofs.Fragment.Reporting`).
-/

namespace SdlProjection

namespace Fragment

/-! ### One fragment -/

/-- Readings of the same lines that start after different diagnostics. -/
def independence (before before' : List Diagnostic) (file : Option String) : Correspondence where
  toSchemaRelation := .equality
  line := Eq
  diagnostics left right := ∃ own, left = before ++ own ∧ right = before' ++ own
  renumber := id
  counted _ := True
  leftFile := file
  rightFile := file
  readAlike := @Line.ReadAlike.of_eq
  report reported number _ text text' same := by
    obtain rfl := same.elim id id
    obtain ⟨own, rfl, rfl⟩ := reported
    exact ⟨own ++ [⟨file, number, String.ofList text⟩], by simp, by simp⟩

/-- The journal so far neither changes what is read nor what is reported. -/
theorem parse_eq_fresh (cursor : Cursor) (bindings : Schema) (journal : Journal) :
    (parse cursor bindings journal).1 = (parse cursor bindings .empty).1 ∧
      (parse cursor bindings journal).2.diagnostics =
        journal.diagnostics ++ (parse cursor bindings .empty).2.diagnostics := by
  have started : Lockstep (independence [] journal.diagnostics cursor.file)
      (start bindings .empty) (start bindings journal) :=
    ⟨rfl, rfl, rfl, [], rfl, (List.append_nil _).symm⟩
  have sameLines : List.Forall₂ Eq cursor.rest cursor.rest := List.forall₂_refl _
  have fed := started.feed sameLines fun index (_ : index < cursor.rest.length) =>
    show True ∧ id (cursor.lineNumber + index) = cursor.lineNumber + index from ⟨trivial, rfl⟩
  have lockstep : Lockstep (independence [] journal.diagnostics cursor.file)
      ((start bindings .empty).run cursor) ((start bindings journal).run cursor) := fed.finish
  obtain ⟨same, own, fresh, later⟩ := lockstep.parse_eq id (fun _ => rfl) rfl
  exact ⟨same, by rw [later, fresh, List.nil_append]⟩

end Fragment

namespace Schema

theorem readCursor_eq_fresh (cursor : Cursor) (journal : Journal) :
    (readCursor cursor journal).1 = (readCursor cursor .empty).1 ∧
      (readCursor cursor journal).2.diagnostics =
        journal.diagnostics ++ (readCursor cursor .empty).2.diagnostics := by
  obtain ⟨same, reported⟩ := Fragment.parse_eq_fresh cursor empty journal
  rw [readCursor_eq, readCursor_eq, same]
  exact ⟨rfl, reported⟩

/-! ### Several files -/

/-- The result of reading files, and what each of them reports, with a fresh journal for every
file. Only the declarations of the earlier files are taken along. -/
def readApart (tree : FileTree) (schema : Schema) :
    List String → Except ReadError Schema × List (List Diagnostic)
  | [] => (.ok schema, [])
  | path :: rest =>
    let (result, own) := Fragment.parse (Cursor.load tree path).1 schema .empty
    match result with
    | .ok fragment =>
      let others := readApart tree (schema.merge fragment) rest
      (others.1, own.diagnostics :: others.2)
    | .error error => (.error (.declaration error), [own.diagnostics])

theorem readInto_cons_eq (tree : FileTree) (schema : Schema) (journal : Journal) (path : String)
    (paths : List String) :
    ∃ noted : Journal, noted.diagnostics = journal.diagnostics ∧
      readInto tree schema journal (path :: paths) =
        match Fragment.parse (Cursor.load tree path).1 schema noted with
        | (.ok fragment, after) => readInto tree (schema.merge fragment) after paths
        | (.error error, after) => (.error (.declaration error), after) :=
  ⟨(journal.note .debug ("Parsing schema fragment " ++ Text.quoted path)).noteAll
    (Cursor.load tree path).2, rfl, rfl⟩

/-- Files that are read with one journal leave in it what they report apart, one after the
other. -/
theorem readInto_eq_apart (tree : FileTree) (schema : Schema) (paths : List String)
    (journal : Journal) :
    (readInto tree schema journal paths).1 = (readApart tree schema paths).1 ∧
      (readInto tree schema journal paths).2.diagnostics =
        journal.diagnostics ++ (readApart tree schema paths).2.flatten := by
  induction paths generalizing schema journal with
  | nil => exact ⟨rfl, (List.append_nil _).symm⟩
  | cons path paths inductionHypothesis =>
      obtain ⟨noted, sameBefore, opened⟩ := readInto_cons_eq tree schema journal path paths
      have parsed := Fragment.parse_eq_fresh (Cursor.load tree path).1 schema noted
      rw [opened, readApart]
      revert parsed
      rcases Fragment.parse (Cursor.load tree path).1 schema noted with ⟨result, after⟩
      rcases Fragment.parse (Cursor.load tree path).1 schema .empty with ⟨fresh, own⟩
      rintro ⟨same, reported⟩
      obtain rfl : result = fresh := same
      rw [sameBefore] at reported
      cases result with
      | error error =>
          refine ⟨rfl, ?_⟩
          simpa using reported
      | ok fragment =>
          obtain ⟨sameResult, others⟩ := inductionHypothesis (schema.merge fragment) after
          refine ⟨sameResult, ?_⟩
          rw [others, reported, List.append_assoc]
          rfl

theorem load_file (tree : FileTree) (path : String) :
    (Cursor.load tree path).1.file = some path := by
  simp only [Cursor.load]
  split <;> rfl

/-- What each of the files that are read reports is as for any fragment. The last one of them is
the one that fails, if one does, and its own diagnostics are before the failure. -/
structure FilesReport (tree : FileTree) (read : List String) (result : Except ReadError Schema)
    (reports : List (List Diagnostic)) : Prop where
  each : List.Forall₂ (fun path own => (Cursor.load tree path).1.Reports own) read reports
  failing : ∀ error, result = .error error → ∃ path own failure,
    read.getLast? = some path ∧ reports.getLast? = some own ∧ error = .declaration failure ∧
      failure.file = some path ∧ ∀ diagnostic ∈ own, diagnostic.number < failure.number

/-- Files are read up to the first that fails, and those behind it do not matter. -/
theorem filesReport_readApart (tree : FileTree) (schema : Schema) (paths : List String) :
    ∃ read left, paths = read ++ left ∧
      FilesReport tree read (readApart tree schema paths).1 (readApart tree schema paths).2 ∧
      (∀ whole, (readApart tree schema paths).1 = .ok whole → left = []) ∧
      ∀ error, (readApart tree schema paths).1 = .error error →
        ∀ others, readApart tree schema (read ++ others) = readApart tree schema paths := by
  induction paths generalizing schema with
  | nil =>
      refine ⟨[], [], rfl, ⟨.nil, ?_⟩, fun _ _ => rfl, ?_⟩
      · intro error failed
        cases failed
      · intro error failed
        cases failed
  | cons path paths inductionHypothesis =>
      have ofFirst := Fragment.reports_of_parse (Cursor.load tree path).1 schema
        (rfl : Journal.empty.diagnostics = [])
      rcases parsed : Fragment.parse (Cursor.load tree path).1 schema .empty with ⟨result, own⟩
      rw [parsed] at ofFirst
      obtain ⟨reports, precede⟩ := ofFirst
      cases result with
      | error failure =>
          obtain ⟨located, before⟩ := precede failure rfl
          rw [load_file] at located
          have stops : ∀ others, readApart tree schema (path :: others) =
              (.error (.declaration failure), [own.diagnostics]) := by
            intro others
            rw [readApart, parsed]
          rw [stops]
          refine ⟨[path], paths, rfl, ⟨.cons reports .nil, ?_⟩, ?_, fun _ _ => stops⟩
          · intro error isError
            obtain rfl := Except.error.inj isError
            exact ⟨path, own.diagnostics, failure, rfl, rfl, rfl, located, before⟩
          · intro whole isWhole
            cases isWhole
      | ok fragment =>
          obtain ⟨read, left, same, ⟨each, failing⟩, complete, stops⟩ :=
            inductionHypothesis (schema.merge fragment)
          have goesOn : ∀ others, readApart tree schema (path :: others) =
              ((readApart tree (schema.merge fragment) others).1,
                own.diagnostics :: (readApart tree (schema.merge fragment) others).2) := by
            intro others
            rw [readApart, parsed]
          rw [goesOn]
          refine ⟨path :: read, left, congrArg (List.cons path) same, ⟨.cons reports each, ?_⟩,
            complete, ?_⟩
          · intro error failed
            obtain ⟨last, lastOwn, failure, isLast, isLastOwn, rest⟩ := failing error failed
            refine ⟨last, lastOwn, failure, ?_, ?_, rest⟩
            · simp [List.getLast?_cons, isLast]
            · simp [List.getLast?_cons, isLastOwn]
          · intro error failed others
            rw [List.cons_append, goesOn, stops error failed others]

end Schema

/-! ### One parser -/

/-- Whatever is in the journal changes nothing of what is read and reported, and stays in it. -/
def Independent (read : Journal → Except ReadError Schema × Journal) : Prop :=
  ∃ result own, ∀ journal, (read journal).1 = result ∧
    (read journal).2.diagnostics = journal.diagnostics ++ own

namespace Input

theorem independent_readFiles (tree : FileTree) (paths : List String) :
    Independent (Schema.readFiles tree paths) :=
  ⟨_, _, fun journal => Schema.readInto_eq_apart tree .empty paths journal⟩

theorem independent_readPath (tree : FileTree) (root : String) :
    Independent (Schema.readPath tree root) := by
  cases there : tree.pathExists root with
  | false =>
      refine ⟨.ok .empty, [], ?_⟩
      intro journal
      simp [Schema.readPath, there, Journal.note]
  | true =>
      rcases found : discover tree (Schema.rootDirectory tree root) .any with ⟨outcome, records⟩
      cases outcome with
      | error error =>
          refine ⟨.error (.discovery error), [], ?_⟩
          intro journal
          simp [Schema.readPath, there, found, Journal.noteAll]
      | ok paths =>
          obtain ⟨answer, own, independent⟩ := independent_readFiles tree paths
          refine ⟨answer, own, ?_⟩
          intro journal
          have readBehind := independent (journal.noteAll records)
          simpa [Schema.readPath, there, found, Journal.noteAll] using readBehind

theorem independent_read (input : Input) : Independent input.read := by
  cases input with
  | text content => exact ⟨_, _, Schema.readCursor_eq_fresh _⟩
  | lines cursor => exact ⟨_, _, Schema.readCursor_eq_fresh cursor⟩
  | files tree paths => exact independent_readFiles tree paths
  | path tree root => exact independent_readPath tree root

/-- What is read is read as if by a fresh parser. -/
theorem read_eq_fresh (input : Input) (journal : Journal) :
    (input.read journal).1 = input.result ∧
      (input.read journal).2.diagnostics = journal.diagnostics ++ input.recorded := by
  obtain ⟨answer, own, independent⟩ := input.independent_read
  obtain ⟨sameFresh, ownFresh⟩ := independent .empty
  obtain ⟨same, reported⟩ := independent journal
  have isOwn : input.recorded = own := ownFresh
  exact ⟨same.trans sameFresh.symm, by rw [reported, isOwn]⟩

end Input

namespace Request

/-- Every request keeps that the diagnostics are those of the inputs since they were last handed
out. -/
theorem foldl_serve_diagnostics {journal : Journal} {inputs : List Input}
    (gathered : journal.diagnostics = inputs.flatMap Input.recorded) (requests : List Request) :
    (requests.foldl serve journal).diagnostics =
      (requests.foldl gather inputs).flatMap Input.recorded := by
  induction requests generalizing journal inputs with
  | nil => exact gathered
  | cons request requests inductionHypothesis =>
      apply inductionHypothesis
      cases request with
      | drain => rfl
      | read input =>
          have reported := (input.read_eq_fresh journal).2
          rw [gather, List.flatMap_append, ← gathered, serve, reported, List.flatMap_singleton]

/-- Whatever a parser has been asked before, it reads every input as a fresh one does, and its
diagnostics are those that fresh ones report, one after the other, since they were last handed
out. The diagnostics of a fragment quote their lines and increase; if the fragment fails, they all
come before the failure. Several files are fragments of their own, up to the first that
fails, and the files behind that one do not matter. -/
theorem serveAll_as_fresh (requests : List Request) :
    (∀ input : Input, (input.read (serveAll requests)).1 = input.result ∧
        (input.read (serveAll requests)).2.diagnostics =
          (serveAll requests).diagnostics ++ input.recorded) ∧
      (serveAll requests).diagnostics = (sinceDrain requests).flatMap Input.recorded ∧
      (∀ cursor : Cursor, cursor.Reports (Input.lines cursor).recorded ∧
        ∀ error, (Input.lines cursor).result = .error error →
          ∃ failure, error = .declaration failure ∧ failure.file = cursor.file ∧
            ∀ diagnostic ∈ (Input.lines cursor).recorded, diagnostic.number < failure.number) ∧
      (∀ content, (Input.text content).read = (Input.lines (.ofText content.toList)).read) ∧
      ∀ tree paths, ∃ read left reports, paths = read ++ left ∧
        (Input.files tree paths).recorded = reports.flatten ∧
        Schema.FilesReport tree read (Input.files tree paths).result reports ∧
        (∀ schema, (Input.files tree paths).result = .ok schema → left = []) ∧
        ∀ error, (Input.files tree paths).result = .error error → ∀ others,
          (Input.files tree (read ++ others)).result = .error error ∧
            (Input.files tree (read ++ others)).recorded = reports.flatten := by
  refine ⟨fun input => input.read_eq_fresh _, foldl_serve_diagnostics rfl requests, ?_,
    fun _ => rfl, ?_⟩
  · intro cursor
    obtain ⟨reports, precede⟩ := Fragment.reports_of_parse cursor .empty
      (rfl : Journal.empty.diagnostics = [])
    have sameResult : (Input.lines cursor).result =
        (Fragment.parse cursor .empty .empty).1.mapError .declaration :=
      congrArg Prod.fst (Schema.readCursor_eq cursor .empty)
    have sameRecorded : (Input.lines cursor).recorded =
        (Fragment.parse cursor .empty .empty).2.diagnostics :=
      congrArg (fun read => read.2.diagnostics) (Schema.readCursor_eq cursor .empty)
    rw [sameResult, sameRecorded]
    refine ⟨reports, ?_⟩
    intro error failed
    cases parsed : (Fragment.parse cursor .empty .empty).1 with
    | ok schema => simp [parsed, Except.mapError] at failed
    | error failure =>
        rw [parsed] at failed
        obtain rfl := Except.error.inj failed
        exact ⟨failure, rfl, precede failure parsed⟩
  · intro tree paths
    obtain ⟨read, left, same, report, complete, stops⟩ :=
      Schema.filesReport_readApart tree .empty paths
    have apart : ∀ paths, (Input.files tree paths).result = (Schema.readApart tree .empty paths).1 ∧
        (Input.files tree paths).recorded = (Schema.readApart tree .empty paths).2.flatten :=
      fun paths => Schema.readInto_eq_apart tree .empty paths .empty
    obtain ⟨sameResult, sameRecorded⟩ := apart paths
    rw [sameResult, sameRecorded]
    refine ⟨read, left, _, same, rfl, report, complete, ?_⟩
    intro error failed others
    obtain ⟨otherResult, otherRecorded⟩ := apart (read ++ others)
    rw [otherResult, otherRecorded, stops error failed others]
    exact ⟨failed, rfl⟩

/-- A line that is reported, and an operation block whose only line is no declaration. -/
def failingLines : Cursor :=
  .ofLines ["stray".toList, "type Query \x7b".toList, "  oops".toList, "after".toList]

/-- The lines of an object after one that is passed already. -/
def laterLines : Cursor :=
  ⟨some "a.graphql", ["passed".toList], ["type A \x7b".toList, "  what ".toList, "\x7d".toList]⟩

/-- A failure, the diagnostics handed out, the same failure again and a success. -/
theorem serveAll_failingLines :
    (serveAll [.read (.lines failingLines), .drain, .read (.lines failingLines),
        .read (.lines laterLines)]).diagnostics =
        [⟨none, 1, "stray"⟩, ⟨some "a.graphql", 3, "what"⟩] ∧
      (Input.lines failingLines).result =
        .error (.declaration ⟨none, 3, .malformedDeclaration "oops"⟩) ∧
      failingLines.Reports [⟨none, 1, "stray"⟩] ∧
      laterLines.Reports [⟨some "a.graphql", 3, "what"⟩] := by
  obtain ⟨-, gathered, reports, -, -⟩ :=
    serveAll_as_fresh [.read (.lines failingLines), .drain, .read (.lines failingLines),
      .read (.lines laterLines)]
  have failing : (Input.lines failingLines).recorded = [⟨none, 1, "stray"⟩] := rfl
  have later : (Input.lines laterLines).recorded = [⟨some "a.graphql", 3, "what"⟩] := rfl
  refine ⟨?_, rfl, ?_, ?_⟩
  · rw [gathered]
    show (Input.lines failingLines).recorded ++ ((Input.lines laterLines).recorded ++ []) = _
    rw [failing, later]
    rfl
  · exact failing ▸ (reports failingLines).1
  · exact later ▸ (reports laterLines).1

end Request

end SdlProjection
