import Mathlib.Data.List.Forall2
import SdlProjection.Proofs.Fragment.Parallel
import SdlProjection.Schema.Sources

/-!
Contract: one text against the same lines in several files.

Owns: that files which hold the pieces of a text, cut between definitions, are
read as the text is: to the same schema with the same orders, and with the
same diagnostics once paths are forgotten and the lines of earlier pieces are
counted in.

Does not own: the reading of one fragment after another line by line
(`Proofs.Fragment.Parallel`).
-/

namespace SdlProjection

/-- The file at a path can be read and has the given lines. -/
def FileTree.Holds (tree : FileTree) (path : String) (lines : List (List Char)) : Prop :=
  ∃ text, tree.read path = .ok text ∧ Text.lines text.toList = lines

/-- A file of the current directory is read by its name. -/
theorem FileTree.read_of_node {tree : FileTree} {name text : String}
    (plain : Path.pieces name = [name]) (relative : Path.isAbsolute name = false)
    (ordinary : name ≠ "" ∧ name ≠ "." ∧ name ≠ ".." ∧ '\x00' ∉ name.toList)
    (short : name.utf8ByteSize ≤ nameLimit)
    (found : tree.node? (tree.current ++ [name]) = some (.file (some text))) :
    tree.read name = .ok text := by
  obtain ⟨notEmpty, notHere, notUp, noNul⟩ := ordinary
  have notLong : ¬pathLimit < name.utf8ByteSize :=
    Nat.not_lt.mpr (Nat.le_trans short (by decide))
  have followed : tree.follow .look linkLimit tree.current [name] =
      .ok (.entry (tree.current ++ [name]) (.file (some text))) := by
    rw [follow]
    simp [notEmpty, notHere, notUp, Nat.not_lt.mpr short, found]
  simp [read, find, place, noNul, notEmpty, notLong, relative, plain, followed]

/-- The diagnostics of a text, and those of its pieces read as files one after the other. Each
file has diagnostics of its own, under its path and with numbers of its lines. In the text
they have no path, and their numbers count on from the lines of the earlier pieces. -/
inductive Regrouped : Nat → List String → List (List (List Char)) → List Diagnostic →
    List Diagnostic → Prop
  | nil {offset : Nat} : Regrouped offset [] [] [] []
  | cons {offset : Nat} {path : String} {paths : List String} {piece : List (List Char)}
      {pieces : List (List (List Char))} {own ofText ofFiles : List Diagnostic} :
      (∀ diagnostic ∈ own,
        diagnostic.file = some path ∧ 1 ≤ diagnostic.number ∧
          diagnostic.number ≤ piece.length) →
      Regrouped (offset + piece.length) paths pieces ofText ofFiles →
      Regrouped offset (path :: paths) (piece :: pieces)
        (own.map (Diagnostic.moved offset) ++ ofText) (own ++ ofFiles)

namespace Fragment

/-- Whether the pieces that are left are cut between definitions, each cut being seen by the
reading that has come to it. -/
def CutBetweenDefinitions (fragment : Fragment) (number : Nat) (pieces : List (List (List Char))) :
    Prop :=
  ∀ front back, pieces = front ++ back →
    (fragment.feed none number front.flatten).BetweenDefinitions back.flatten

theorem CutBetweenDefinitions.tail {fragment : Fragment} {number : Nat} {piece : List (List Char)}
    {pieces : List (List (List Char))}
    (cut : fragment.CutBetweenDefinitions number (piece :: pieces)) :
    (fragment.feed none number piece).CutBetweenDefinitions (number + piece.length) pieces := by
  intro front back same
  have whole := cut (piece :: front) back (by rw [same, List.cons_append])
  rwa [List.flatten_cons, feed_append] at whole

/-- A separate fragment that starts where another one is settled, with its bindings. -/
theorem parallel_start {whole : Fragment} (settled : whole.Settled) (path : String)
    (offset count : Nat) (journal : Journal) :
    Parallel ⟨whole.schema, path, offset, count, whole.journal.diagnostics, journal.diagnostics⟩
      whole (start whole.schema journal) where
  schema := (Schema.merge_inheriting whole.schema).symm
  roots := rfl
  block := settled.block
  description := settled.description
  reported := ⟨[], by simp, by simp [start], by simp⟩

theorem Parallel.settled {origin : Origin} {whole part : Fragment}
    (parallel : Parallel origin whole part) (settled : whole.Settled) : part.Settled where
  block := by
    have same := parallel.block
    rw [settled.block] at same
    cases opened : part.block with
    | top => rfl
    | body _ _ | enumeration _ _ | union _ _ | failed _ _ => simp [opened, Block.moved] at same
  description := by rw [← parallel.description, settled.description]

end Fragment

namespace Schema

open Fragment

theorem load_of_holds {tree : FileTree} {path : String} {lines : List (List Char)}
    (held : tree.Holds path lines) : Cursor.load tree path = (⟨some path, [], lines⟩, []) := by
  obtain ⟨text, readable, rfl⟩ := held
  simp [Cursor.load, readable, Cursor.ofFile]

/-- The journal with which the reading of a file starts. -/
def announced (path : String) (journal : Journal) : Journal :=
  (journal.note .debug ("Parsing schema fragment " ++ Text.quoted path)).noteAll []

theorem readInto_cons {tree : FileTree} {path : String} {lines : List (List Char)}
    (held : tree.Holds path lines) {schema : Schema} {journal : Journal}
    (settled : ((start schema (announced path journal)).run ⟨some path, [], lines⟩).Settled)
    (paths : List String) :
    readInto tree schema journal (path :: paths) =
      readInto tree
        (schema.merge ((start schema (announced path journal)).run ⟨some path, [], lines⟩).schema)
        ((start schema (announced path journal)).run ⟨some path, [], lines⟩).journal paths := by
  have parsed := parse_of_settled settled
  rw [announced] at parsed
  simp only [readInto, load_of_holds held, parsed]
  rfl

/-- A piece read on, and the same piece read as a file: the reading goes on as if the file's
schema had been merged, and both report the same lines. -/
theorem finish_feed_piece {whole : Fragment} {piece remaining : List (List Char)} {offset : Nat}
    (between : whole.BetweenDefinitions (piece ++ remaining))
    (settled : (whole.feed none (offset + 1) piece).finish.Settled) (path : String)
    (journal : Journal) :
    ∃ own : List Diagnostic,
      ((start whole.finish.schema journal).run ⟨some path, [], piece⟩).Settled ∧
      (whole.feed none (offset + 1) piece).finish.schema =
        whole.finish.schema.merge
          ((start whole.finish.schema journal).run ⟨some path, [], piece⟩).schema ∧
      (whole.feed none (offset + 1) piece).finish.journal.diagnostics =
        whole.finish.journal.diagnostics ++ own.map (Diagnostic.moved offset) ∧
      ((start whole.finish.schema journal).run ⟨some path, [], piece⟩).journal.diagnostics =
        journal.diagnostics ++ own ∧
      ∀ diagnostic ∈ own,
        diagnostic.file = some path ∧ 1 ≤ diagnostic.number ∧
          diagnostic.number ≤ piece.length := by
  rw [run_eq_feed]
  have base : whole.finish.Settled := by
    cases piece with
    | nil => exact settled
    | cons line lines => exact settled_finish between
  have started := parallel_start base path offset piece.length journal
  have read := started.feed piece (Nat.le_refl 1) (Nat.le_of_eq (Nat.add_comm 1 piece.length))
  have continued : whole.finish.feed none (1 + offset) piece =
      match piece with
      | [] => whole.finish
      | _ :: _ => whole.feed none (offset + 1) piece := by
    cases piece with
    | nil => rfl
    | cons line lines => rw [feed_finish between, Nat.add_comm]
  have finished : (whole.finish.feed none (1 + offset) piece).finish =
      (whole.feed none (offset + 1) piece).finish := by
    rw [continued]
    cases piece with
    | nil => exact base.finish_eq
    | cons line lines => rfl
  have compared := read.finish
  rw [finished] at compared
  obtain ⟨own, wholeReported, partReported, located⟩ := compared.reported
  exact ⟨own, compared.settled settled, compared.schema, wholeReported, partReported, located⟩

/-- Reading the remaining pieces as files, from a place between definitions. -/
theorem readInto_of_settled {tree : FileTree} {paths : List String}
    {pieces : List (List (List Char))} (held : List.Forall₂ tree.Holds paths pieces)
    (whole : Fragment) (offset : Nat) (journal : Journal)
    (cut : whole.CutBetweenDefinitions (offset + 1) pieces)
    (settled : (whole.feed none (offset + 1) pieces.flatten).finish.Settled) :
    ∃ after ofText ofFiles,
      readInto tree whole.finish.schema journal paths =
        (.ok (whole.feed none (offset + 1) pieces.flatten).finish.schema, after) ∧
      (whole.feed none (offset + 1) pieces.flatten).finish.journal.diagnostics =
        whole.finish.journal.diagnostics ++ ofText ∧
      after.diagnostics = journal.diagnostics ++ ofFiles ∧
      Regrouped offset paths pieces ofText ofFiles := by
  induction held generalizing whole offset journal with
  | nil => exact ⟨journal, [], [], rfl, by simp, by simp, .nil⟩
  | @cons path piece paths pieces holds _ inductionHypothesis =>
      let next := whole.feed none (offset + 1) piece
      have rest : whole.feed none (offset + 1) (piece :: pieces).flatten =
          next.feed none (offset + piece.length + 1) pieces.flatten := by
        rw [List.flatten_cons, feed_append, Nat.add_right_comm]
      rw [rest] at settled ⊢
      have cutNext : next.CutBetweenDefinitions (offset + piece.length + 1) pieces := by
        rw [Nat.add_right_comm]
        exact cut.tail
      have nextSettled : next.finish.Settled := by
        cases left : pieces.flatten with
        | nil => rwa [left, feed_nil] at settled
        | cons line lines =>
            have between := cutNext [] pieces rfl
            rw [List.flatten_nil, feed_nil, left] at between
            exact settled_finish between
      have between : whole.BetweenDefinitions (piece ++ pieces.flatten) :=
        cut [] (piece :: pieces) rfl
      obtain ⟨own, partSettled, merged, ofNext, ofPart, located⟩ :=
        finish_feed_piece between nextSettled path (announced path journal)
      obtain ⟨after, ofText, ofFiles, readRest, textRest, filesRest, grouped⟩ :=
        inductionHypothesis next (offset + piece.length) _ cutNext settled
      refine ⟨after, own.map (Diagnostic.moved offset) ++ ofText, own ++ ofFiles, ?_, ?_, ?_,
        .cons located grouped⟩
      · rw [readInto_cons holds partSettled, ← merged]
        exact readRest
      · rw [textRest, ofNext, List.append_assoc]
      · rw [filesRest, ofPart, List.append_assoc]
        rfl

/-- A text that is read without failing may be cut into files wherever its reading stands
between definitions: the files are read to the same schema, with the same orders and
bindings, and report the same lines. -/
theorem readFiles_of_cut_text {tree : FileTree} {paths : List String}
    {pieces : List (List (List Char))} {schema : Schema} {journal : Journal}
    (held : List.Forall₂ tree.Holds paths pieces)
    (read : readCursor (.ofLines pieces.flatten) .empty = (.ok schema, journal))
    (cut : (start empty .empty).CutBetweenDefinitions 1 pieces) :
    ∃ after, readFiles tree paths .empty = (.ok schema, after) ∧
      Regrouped 0 paths pieces journal.diagnostics after.diagnostics := by
  have parsed : Fragment.parse (.ofLines pieces.flatten) empty .empty = (.ok schema, journal) := by
    simp only [readCursor] at read
    split at read
    · next parsed =>
        rw [Prod.mk.injEq, Except.ok.injEq] at read
        rw [parsed, read.1, read.2]
    · simp at read
  obtain ⟨settled, rfl, rfl⟩ := settled_of_parse parsed
  obtain ⟨after, ofText, ofFiles, readAll, textAll, filesAll, grouped⟩ :=
    readInto_of_settled held (start empty .empty) 0 .empty cut settled
  refine ⟨after, readAll, ?_⟩
  have ofTextOnly : ((start empty .empty).run (.ofLines pieces.flatten)).journal.diagnostics =
      ofText := textAll
  have ofFilesOnly : after.diagnostics = ofFiles := filesAll
  rw [ofTextOnly, ofFilesOnly]
  exact grouped

/-- A schema block, and a definition whose body it binds; a line before it is skipped. -/
def bindingLines : List (List Char) :=
  ["schema \x7b".toList, "query: Root".toList, "\x7d".toList]

def rootLines : List (List Char) :=
  ["directive @x on OBJECT".toList, "type Root \x7b".toList, "a: Int!".toList, "\x7d".toList]

def twoFiles : FileTree :=
  ⟨[("a", .file (some "schema \x7b\nquery: Root\n\x7d\n")),
    ("b", .file (some "directive @x on OBJECT\ntype Root \x7b\na: Int!\n\x7d\n"))], []⟩

def boundSchema : Schema :=
  (empty.bindRoot .query "Root").addOperation .query "a" (.scalar .int .nonNull)

theorem twoFiles_hold :
    List.Forall₂ twoFiles.Holds ["a", "b"] [bindingLines, rootLines] := by
  have first : twoFiles.read "a" = .ok "schema \x7b\nquery: Root\n\x7d\n" :=
    FileTree.read_of_node (by decide +kernel) (by decide +kernel) (by decide +kernel)
      (by decide +kernel) rfl
  have second :
      twoFiles.read "b" = .ok "directive @x on OBJECT\ntype Root \x7b\na: Int!\n\x7d\n" :=
    FileTree.read_of_node (by decide +kernel) (by decide +kernel) (by decide +kernel)
      (by decide +kernel) rfl
  exact .cons ⟨_, first, by decide +kernel⟩ (.cons ⟨_, second, by decide +kernel⟩ .nil)

theorem cut_boundSchema :
    (start empty .empty).CutBetweenDefinitions 1 [bindingLines, rootLines] := by
  intro front back same
  rcases front with _ | ⟨first, _ | ⟨second, _ | ⟨third, rest⟩⟩⟩
  · exact .inr ⟨rfl, trivial⟩
  · simp only [List.cons_append, List.nil_append, List.cons.injEq] at same
    obtain ⟨rfl, rfl⟩ := same
    have top : ((start empty .empty).feed none 1 [bindingLines].flatten).block = .top := by rfl
    exact .inr ⟨rfl, by rw [top]; trivial⟩
  · simp only [List.cons_append, List.nil_append, List.cons.injEq] at same
    obtain ⟨rfl, rfl, rfl⟩ := same
    exact .inl rfl
  · simp at same

theorem readFiles_of_bound_schema :
    List.Forall₂ twoFiles.Holds ["a", "b"] [bindingLines, rootLines] ∧
      (start empty .empty).CutBetweenDefinitions 1 [bindingLines, rootLines] ∧
      ∃ after, readFiles twoFiles ["a", "b"] .empty = (.ok boundSchema, after) ∧
        Regrouped 0 ["a", "b"] [bindingLines, rootLines]
          [⟨none, 4, "directive @x on OBJECT"⟩] after.diagnostics := by
  have read : readCursor (.ofLines [bindingLines, rootLines].flatten) .empty =
      (.ok boundSchema, (readCursor (.ofLines [bindingLines, rootLines].flatten) .empty).2) := rfl
  exact ⟨twoFiles_hold, cut_boundSchema,
    readFiles_of_cut_text twoFiles_hold read cut_boundSchema⟩

end Schema

end SdlProjection
