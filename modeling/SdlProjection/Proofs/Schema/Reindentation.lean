import SdlProjection.Proofs.Fragment.Lockstep
import SdlProjection.Proofs.Line.Padding
import SdlProjection.Proofs.Line.Trimming
import SdlProjection.Proofs.Schema.Reading

/-!
Contract: the same lines with other blanks around them.

Owns: `Line.Reindented`, two lines that are equal once they are trimmed, and that
lines which differ in this way alone are read to the same schema or fail on the
same declaration, and that the same lines are reported, up to blanks.

Does not own: why the parts of a line are the same (`Proofs.Line.Padding`).
-/

namespace SdlProjection

/-- Two lines that differ in nothing but the blanks around them. -/
structure Line.Reindented (left right : List Char) : Prop where
  trim : Text.trim left = Text.trim right
  inline : '\n' ∉ left
  inline' : '\n' ∉ right

theorem IgnoresBlanks.read_eq {α : Type} {read : List Char → α} (ignores : IgnoresBlanks read)
    {left right : List Char} (reindented : Line.Reindented left right) : read left = read right := by
  rw [← ignores.read_trim reindented.inline, ← ignores.read_trim reindented.inline',
    reindented.trim]

theorem Line.Reindented.readAlike {left right : List Char}
    (reindented : Line.Reindented left right) : Line.ReadAlike left right where
  trim := reindented.trim
  kind := by
    rw [← classify_trim reindented.inline, ← classify_trim reindented.inline', reindented.trim]
  name keyword := (Line.definitionName_ignoresBlanks keyword).read_eq reindented
  union := Line.unionDefinition_ignoresBlanks.read_eq reindented
  members := Line.unionMembers_ignoresBlanks.read_eq reindented
  value := Line.enumValue_ignoresBlanks.read_eq reindented
  target := Line.bindingTarget_ignoresBlanks.read_eq reindented

/-- The same place, with lines before it of whatever kind and reindented ones after it. -/
structure Cursor.Reindented (left right : Cursor) : Prop where
  file : left.file = right.file
  place : left.lineNumber = right.lineNumber
  rest : List.Forall₂ Line.Reindented left.rest right.rest

/-- Two diagnostics of the same line, up to the blanks around it. -/
structure Diagnostic.Reindented (left right : Diagnostic) : Prop where
  file : left.file = right.file
  number : left.number = right.number
  line : Text.trim left.line.toList = Text.trim right.line.toList

namespace Fragment

/-- Readings that start after the same diagnostics and differ in the indentation of lines. -/
def reindentation (before : List Diagnostic) (file : Option String) : Correspondence where
  toSchemaRelation := .equality
  line := Line.Reindented
  diagnostics left right := ∃ own own', left = before ++ own ∧ right = before ++ own' ∧
    List.Forall₂ Diagnostic.Reindented own own'
  renumber := id
  counted _ := True
  leftFile := file
  rightFile := file
  readAlike := Line.Reindented.readAlike
  report reported number _ text text' same := by
    have trimmed : Text.trim text = Text.trim text' := same.elim (·.trim) (congrArg Text.trim)
    obtain ⟨own, own', rfl, rfl, alike⟩ := reported
    have last : Diagnostic.Reindented ⟨file, number, String.ofList text⟩
        ⟨file, number, String.ofList text'⟩ := ⟨rfl, rfl, by simpa using trimmed⟩
    refine ⟨own ++ [⟨file, number, String.ofList text⟩],
      own' ++ [⟨file, number, String.ofList text'⟩], by simp, by simp, ?_⟩
    exact List.rel_append alike (.cons last .nil)

theorem lockstep_run {left right : Cursor} (reindented : Cursor.Reindented left right)
    (bindings : Schema) (journal : Journal) :
    Lockstep (reindentation journal.diagnostics left.file)
      ((start bindings journal).run left) ((start bindings journal).run right) := by
  have started : Lockstep (reindentation journal.diagnostics left.file)
      (start bindings journal) (start bindings journal) :=
    ⟨rfl, rfl, rfl, [], [], by simp [start], by simp [start], .nil⟩
  have fed := started.feed reindented.rest fun index (_ : index < left.rest.length) =>
    show True ∧ id (left.lineNumber + index) = right.lineNumber + index from
      ⟨trivial, by rw [reindented.place, id]⟩
  rw [run_eq_feed, run_eq_feed, ← reindented.file]
  exact fed.finish

/-- Reindented lines are read to the same result, and the same lines are reported. -/
theorem parse_reindented {left right : Cursor} (reindented : Cursor.Reindented left right)
    (bindings : Schema) (journal : Journal) :
    (parse right bindings journal).1 = (parse left bindings journal).1 ∧
      ∃ own own', (parse left bindings journal).2.diagnostics = journal.diagnostics ++ own ∧
        (parse right bindings journal).2.diagnostics = journal.diagnostics ++ own' ∧
        List.Forall₂ Diagnostic.Reindented own own' := by
  have lockstep := lockstep_run reindented bindings journal
  exact lockstep.parse_eq id (fun _ => rfl) reindented.file

end Fragment

namespace Schema

/-- Blanks around the lines of a text mean nothing: whatever stands there, tabs, other blanks of
Unicode or a carriage return, the text is read to the same schema or fails on the same declaration
of the same line, and the lines that are reported are the same, up to their own blanks. -/
theorem readCursor_reindented {left right : Cursor} (reindented : Cursor.Reindented left right)
    (journal : Journal) :
    (readCursor right journal).1 = (readCursor left journal).1 ∧
      ∃ own own', (readCursor left journal).2.diagnostics = journal.diagnostics ++ own ∧
        (readCursor right journal).2.diagnostics = journal.diagnostics ++ own' ∧
        List.Forall₂ Diagnostic.Reindented own own' := by
  obtain ⟨same, own, own', reported, reported', alike⟩ :=
    Fragment.parse_reindented reindented empty journal
  rw [readCursor_eq, readCursor_eq, same]
  exact ⟨rfl, own, own', reported, reported', alike⟩

/-- A definition and a line that belongs to none. -/
def flushLines : List (List Char) :=
  ["type Photo \x7b".toList, "size(unit: String): Int!".toList, "\x7d".toList,
    "no definition".toList]

/-- The same lines with blanks of several kinds around them. -/
def paddedLines : List (List Char) :=
  ["\ttype Photo \x7b\r".toList, "\u3000 size(unit: String): Int!\u00a0".toList, "  \x7d".toList,
    "\u2003no definition\r".toList]

theorem readCursor_of_paddedLines :
    Cursor.Reindented (.ofLines flushLines) (.ofLines paddedLines) ∧
      ∃ schema, (readCursor (.ofLines flushLines) .empty).1 = .ok schema ∧
        (readCursor (.ofLines paddedLines) .empty).1 = .ok schema ∧
        schema.types.keys = ["Photo"] ∧
        List.Forall₂ Diagnostic.Reindented [⟨none, 4, "no definition"⟩]
          (readCursor (.ofLines paddedLines) .empty).2.diagnostics := by
  have reindented : Cursor.Reindented (.ofLines flushLines) (.ofLines paddedLines) := by
    have line : ∀ {left right : List Char},
        Text.trim left = Text.trim right ∧ '\n' ∉ left ∧ '\n' ∉ right →
        Line.Reindented left right := fun ⟨trim, inline, inline'⟩ => ⟨trim, inline, inline'⟩
    refine ⟨rfl, rfl, .cons (line ?_) (.cons (line ?_) (.cons (line ?_) (.cons (line ?_) .nil)))⟩
    all_goals decide +kernel
  obtain ⟨same, own, own', reported, reported', alike⟩ := readCursor_reindented reindented .empty
  obtain ⟨schema, read, keys⟩ : ∃ schema, (readCursor (.ofLines flushLines) .empty).1 = .ok schema ∧
      schema.types.keys = ["Photo"] := ⟨_, rfl, rfl⟩
  have listed : own = [⟨none, 4, "no definition"⟩] := reported.symm
  have listed' : (readCursor (.ofLines paddedLines) .empty).2.diagnostics = own' := reported'
  rw [listed] at alike
  rw [listed']
  exact ⟨reindented, schema, read, same.trans read, keys, alike⟩

end Schema

end SdlProjection
