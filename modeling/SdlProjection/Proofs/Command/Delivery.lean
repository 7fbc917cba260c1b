import SdlProjection.Command.Run
import SdlProjection.Proofs.FileTree.Writing

/-!
Contract: what a conversion leaves behind.

Owns: that all of a conversion but its last step is the same with and without
a file to write to (`draft_with_out`); from that, `Beside`: a run that comes to
no document leaves every file as it was, and one that does changes nothing but
the file it was asked to write. A file that is named alone is read whatever its
extension.

Does not own: what a write changes (`Proofs.FileTree.Writing`).
-/

namespace SdlProjection

/-- A text on exactly one of the two outputs: on the plain one exactly if the run has succeeded. -/
def CommandResult.FillsOne (result : CommandResult) : Prop :=
  (result.exitCode = .success ∧ result.stderr = none ∧ ∃ text, result.stdout = some text) ∨
    (result.exitCode = .failure ∧ result.stdout = none ∧ ∃ text, result.stderr = some text)

theorem Outcome.printed_fillsOne (outcome : Outcome) : outcome.printed.FillsOne := by
  unfold Outcome.printed
  cases outcome.result with
  | ok text => exact .inl ⟨rfl, rfl, text, rfl⟩
  | error text => exact .inr ⟨rfl, rfl, text, rfl⟩

namespace SchemaInputs

variable {inputs : SchemaInputs} {tree : FileTree} {path : String} {location : Location}

/-- A file that is named alone is taken whatever its extension. -/
theorem discover_alone (alone : inputs.paths = [path]) {text : Option String}
    (found : tree.find path = .ok (.entry location (.file text))) :
    (inputs.discover tree).1 = .ok [path] := by
  have present : tree.pathExists path = true := by simp only [FileTree.pathExists, found]
  have isFile : tree.isFile path = true := by simp only [FileTree.isFile, found]
  have all : (discoverAll tree inputs.filter true [path]).1 = .ok [path] := by
    simp [discoverAll, SdlProjection.discover, present, isFile, Except.map]
  simp only [discover, alone, List.length_singleton, Nat.le_refl, decide_true]
  split
  · next taken =>
      rw [taken] at all
      exact all
  · next taken =>
      rw [taken] at all
      cases all

theorem load_alone (alone : inputs.paths = [path]) {text : String}
    (found : tree.find path = .ok (.entry location (.file (some text)))) {schema : Schema}
    (parsed : ∀ journal,
      (Fragment.parse (.ofFile path text.toList) .empty journal).1 = .ok schema) :
    ∃ log, inputs.load tree = (.ok (1, Schema.empty.merge schema), log) := by
  obtain ⟨records, discovered⟩ : ∃ records, inputs.discover tree = (.ok [path], records) :=
    ⟨_, Prod.ext (discover_alone alone found) rfl⟩
  have read : tree.read path = .ok text := by rw [FileTree.read, found]
  let announced := (Journal.empty.note .debug
    ("Parsing schema fragment " ++ Text.quoted path)).noteAll []
  have fragment : Fragment.parse (.ofFile path text.toList) .empty announced =
      (.ok schema, (Fragment.parse (.ofFile path text.toList) .empty announced).2) :=
    Prod.ext (parsed announced) rfl
  simp only [load, discovered, Schema.readFiles, Schema.readInto, Cursor.load, read]
  rw [fragment]
  exact ⟨_, rfl⟩

end SchemaInputs

namespace Conversion

/-- A run of the conversion with its document for the user, or for a file. -/
def runTo (conversion : Conversion) (out : Option String) (tree : FileTree) : Outcome :=
  { conversion with out }.run tree

/-- Where the document is to go has no part in it. -/
theorem draft_with_out (conversion : Conversion) (out : Option String) (tree : FileTree) :
    { conversion with out }.draft tree = conversion.draft tree := rfl

/-- The outcome of a conversion to a file, beside that of the same conversion for the user, in the
same files. -/
structure Beside (tree : FileTree) (path : String) (shown written : Outcome) : Prop where
  untouched : shown.files = tree
  /-- The user's text is what the file holds then, and nothing else is different; or the write has
  failed and nothing is. -/
  delivered : shown.printed.exitCode = .success →
    ∃ text, shown.printed.stdout = some text ∧
      ((written.printed.exitCode = .success ∧ written.files.read path = .ok text ∧
          ∃ location, tree.OnlyChange written.files path text location) ∨
        ∃ cause, tree.write path text = .error cause ∧
          written.printed = .ofStderr (unwrittenText path cause) ∧ written.files = tree)
  /-- What keeps the user from a document keeps the file from it, with the same text. -/
  refused : shown.printed.exitCode = .failure →
    written.printed = shown.printed ∧ written.files = tree

section Runs

variable {conversion : Conversion} {tree : FileTree} {message : String} {draft : Draft}
  {log : List LogRecord}

theorem runTo_of_refused
    (refused : conversion.draft tree = (.error message, log)) (out : Option String) :
    conversion.runTo out tree = ⟨.error (failureMark ++ message), log, tree⟩ := by
  rw [runTo, run, draft_with_out, refused]

theorem runTo_of_drafted (drafted : conversion.draft tree = (.ok draft, log))
    (out : Option String) :
    conversion.runTo out tree = { conversion with out }.deliver tree draft log := by
  rw [runTo, run, draft_with_out, drafted]

theorem beside_of_refused (refused : conversion.draft tree = (.error message, log))
    (path : String) :
    Beside tree path (conversion.runTo none tree) (conversion.runTo (some path) tree) := by
  rw [runTo_of_refused refused none, runTo_of_refused refused (some path)]
  constructor
  case untouched => rfl
  case delivered =>
    intro success
    cases success
  case refused =>
    intro _
    exact ⟨rfl, rfl⟩

theorem beside_of_drafted (drafted : conversion.draft tree = (.ok draft, log)) (path : String) :
    Beside tree path (conversion.runTo none tree) (conversion.runTo (some path) tree) := by
  rw [runTo_of_drafted drafted none, runTo_of_drafted drafted (some path)]
  constructor
  case untouched => rfl
  case delivered =>
    intro _
    refine ⟨draft.text, rfl, ?_⟩
    cases wrote : tree.write path draft.text with
    | ok written =>
        have delivered : { conversion with out := some path }.deliver tree draft log =
            ⟨.ok (wroteText draft.kind draft.name path), log, written⟩ := by
          simp only [deliver, wrote]
        obtain ⟨location, changed⟩ := FileTree.onlyChange_of_write wrote
        rw [delivered]
        exact .inl ⟨rfl, changed.read, location, changed⟩
    | error cause =>
        have delivered : { conversion with out := some path }.deliver tree draft log =
            ⟨.error (unwrittenText path cause), log, tree⟩ := by
          simp only [deliver, wrote]
        rw [delivered]
        exact .inr ⟨cause, rfl, rfl, rfl⟩
  case refused =>
    intro failure
    cases failure

end Runs

/-- A conversion to a file and the same conversion for the user, in whatever files. The latter
changes no file. If it succeeds, the one to the file either succeeds as well and changes nothing
but the file, which then holds exactly the text that the user is shown, or it fails on the write
and changes nothing. If it fails, so does the one to the file, with the same error, and it leaves
every file as it was. Each run gives a text to exactly one of the two outputs. -/
theorem run_to_file (conversion : Conversion) (tree : FileTree) (path : String) :
    Beside tree path (conversion.runTo none tree) (conversion.runTo (some path) tree) ∧
      (conversion.run tree).printed.FillsOne := by
  refine ⟨?_, Outcome.printed_fillsOne _⟩
  cases drafted : conversion.draft tree with
  | mk result log =>
      cases result with
      | error message => exact beside_of_refused drafted path
      | ok draft => exact beside_of_drafted drafted path

/-- A schema of one query, in a file without an extension. -/
def queryFiles : FileTree :=
  ⟨[("queries", .file (some "type Query \x7b\nid: ID\n\x7d"))], []⟩

def convertId : Conversion :=
  ⟨⟨["graphql"], ["queries"]⟩, ⟨some "id", none, none⟩, none, false, false⟩

def idDocument : String := "\x7b\"type\":[\"string\",\"null\"]\x7d"

theorem exists_draft_convertId :
    ∃ log, convertId.draft queryFiles = (.ok ⟨.query, "id", idDocument⟩, log) := by
  have followed : queryFiles.follow .look FileTree.linkLimit [] ["queries"] =
      .ok (.entry ["queries"] (.file (some "type Query \x7b\nid: ID\n\x7d"))) := by
    rw [FileTree.follow_look_named (by decide) (by decide) (by decide)]
    rfl
  have found : queryFiles.find "queries" =
      .ok (.entry ["queries"] (.file (some "type Query \x7b\nid: ID\n\x7d"))) := by
    rw [FileTree.find, FileTree.place_eq_ok_iff.mpr ⟨by decide, followed⟩]
  let schema := Schema.empty.addOperation .query "id" (.scalar .id .nullable)
  obtain ⟨log, loaded⟩ : ∃ log,
      convertId.inputs.load queryFiles = (.ok (1, Schema.empty.merge schema), log) :=
    SchemaInputs.load_alone rfl found fun _ => rfl
  have selected : convertId.selected? = some (.query, "id") := rfl
  have document : convertId.document (Schema.empty.merge schema) .query "id" = .ok idDocument :=
    rfl
  simp only [draft, selected, loaded, document]
  exact ⟨_, rfl⟩

theorem exists_write_queryFiles :
    ∃ written, queryFiles.write "id.json" idDocument = .ok written := by
  have followed : queryFiles.follow .create FileTree.linkLimit [] ["id.json"] =
      .ok (.vacant [] "id.json") := by
    rw [FileTree.follow, if_neg (by decide), if_neg (by decide), if_neg (by decide),
      if_neg (by decide)]
    rfl
  have placed : queryFiles.place .create "id.json" = .ok (.vacant [] "id.json") :=
    FileTree.place_eq_ok_iff.mpr ⟨by decide, followed⟩
  simp only [FileTree.write, FileTree.writeNode, placed]
  exact ⟨_, rfl⟩

/-- The query's document is shown, or written to a file that was not there. -/
theorem run_to_file_convertId :
    (convertId.runTo none queryFiles).printed = .ofStdout idDocument ∧
      (convertId.runTo (some "id.json") queryFiles).printed.exitCode = .success ∧
      (convertId.runTo (some "id.json") queryFiles).files.read "id.json" = .ok idDocument := by
  obtain ⟨log, drafted⟩ := exists_draft_convertId
  obtain ⟨written, wrote⟩ := exists_write_queryFiles
  have shown : (convertId.runTo none queryFiles).printed = .ofStdout idDocument := by
    rw [runTo_of_drafted drafted]
    rfl
  have beside := (run_to_file convertId queryFiles "id.json").1
  obtain ⟨text, same, result⟩ := beside.delivered (by rw [shown]; rfl)
  rw [shown] at same
  cases same
  cases result with
  | inl success => exact ⟨shown, success.1, success.2.1⟩
  | inr failure =>
      obtain ⟨cause, failed, -⟩ := failure
      cases wrote.symm.trans failed

end Conversion

end SdlProjection
