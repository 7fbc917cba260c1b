import SdlProjection.Proofs.Projection.Filled
import SdlProjection.Proofs.Schema.Contents
import SdlProjection.Proofs.Schema.Registering

/-!
Contract: what every schema is like that was read without failing.

Owns: `Schema.WellFormed`, the shape of keys and values in all five maps, that
every text and every list of files is read to such a schema or not at all, and
that nothing is projected to an empty node over one.

Does not own: what single moves of a reading keep (`Proofs.Schema.Registering`
for the table's keys, `Proofs.Schema.Contents` for everything else).
-/

namespace SdlProjection

/-- The entries of definitions, with declared fields and distinct values. Each is nullable, and
none is a list or a reference. -/
inductive TypeModel.IsDefinition : TypeModel → Prop
  | object {fields : List (String × TypeModel)} : (∀ field ∈ fields, IsDeclaredField field) →
      IsDefinition (.object fields .nullable)
  | enumeration {values : List String} : AreValues values →
      IsDefinition (.enumeration values .nullable)
  | scalar : IsDefinition (.scalar .string .nullable)

theorem TypeModel.IsEntry.isDefinition {entry : TypeModel} (isEntry : entry.IsEntry)
    (holds : entry.HoldsDeclared) : entry.IsDefinition := by
  cases isEntry with
  | enumeration values => exact .enumeration holds
  | object fields => exact .object holds
  | customScalar => exact .scalar

theorem TypeModel.IsDefinition.isReference_eq_false {entry : TypeModel}
    (isDefinition : entry.IsDefinition) : entry.isReference = false := by
  cases isDefinition <;> rfl

namespace Schema

structure WellFormed (schema : Schema) : Prop where
  types : ∀ entry ∈ schema.types.entries,
    Text.isName entry.1.toList = true ∧ entry.2.IsDefinition
  unions : ∀ entry ∈ schema.unions.entries, Text.isName entry.1.toList = true
  operations : ∀ kind, ∀ entry ∈ (schema.operations.get kind).entries, IsDeclaredField entry

/-- The schemas that texts and lists of files are read to. -/
inductive IsRead : Schema → Prop
  | text {text : String} {journal after : Journal} {schema : Schema} :
      readText text journal = (.ok schema, after) → IsRead schema
  | files {tree : FileTree} {paths : List String} {journal after : Journal} {schema : Schema} :
      readFiles tree paths journal = (.ok schema, after) → IsRead schema

section Reading

variable {schema : Schema}

theorem wellFormed_of_registered (registered : schema.Registered) (declared : schema.Declared) :
    schema.WellFormed where
  types entry member := by
    have found := Entries.get?_eq_some_of_mem schema.types.distinct member
    obtain ⟨named, isEntry⟩ := registered entry.1 entry.2 found
    exact ⟨named, isEntry.isDefinition (declared.types entry member)⟩
  unions := declared.unions
  operations := declared.operations

theorem wellFormed_empty : empty.WellFormed where
  types _ member := absurd member List.not_mem_nil
  unions _ member := absurd member List.not_mem_nil
  operations kind := by cases kind <;> exact fun _ member => absurd member List.not_mem_nil

theorem WellFormed.merge {later : Schema} (wellFormed : schema.WellFormed)
    (more : later.WellFormed) : (schema.merge later).WellFormed where
  types := Entries.forall_mem_insertAll wellFormed.types more.types
  unions := Entries.forall_mem_insertAll wellFormed.unions more.unions
  operations kind := by
    rw [Schema.merge, PerOperation.get_zipWith]
    exact Entries.forall_mem_insertAll (wellFormed.operations kind) (more.operations kind)

/-! ### Fragments, texts and files -/

/-- A fragment gives a well-formed schema, whatever is bound before it. -/
theorem wellFormed_of_parse {cursor : Cursor} {bindings : Schema} {journal after : Journal}
    (inline : ∀ line ∈ cursor.rest, '\n' ∉ line)
    (parsed : Fragment.parse cursor bindings journal = (.ok schema, after)) :
    schema.WellFormed := by
  obtain ⟨-, rfl, -⟩ := Fragment.settled_of_parse parsed
  exact wellFormed_of_registered
    (Fragment.registering_run cursor bindings journal inline).schema
    (Fragment.collecting_run cursor bindings journal inline).schema

theorem wellFormed_of_readText {text : String} {journal after : Journal}
    (read : readText text journal = (.ok schema, after)) : schema.WellFormed := by
  simp only [readText, readCursor] at read
  split at read
  · next parsed =>
      cases read
      exact wellFormed_of_parse (fun _ => Text.noFeed_of_mem_lines) parsed
  · cases read

theorem noFeed_of_mem_load (tree : FileTree) (path : String) :
    ∀ line ∈ (Cursor.load tree path).1.rest, '\n' ∉ line := by
  simp only [Cursor.load]
  split <;> exact fun _ => Text.noFeed_of_mem_lines

theorem wellFormed_of_readInto {tree : FileTree} {paths : List String} {start : Schema}
    {journal after : Journal} (wellFormed : start.WellFormed)
    (read : readInto tree start journal paths = (.ok schema, after)) : schema.WellFormed := by
  induction paths generalizing start journal with
  | nil =>
      cases read
      exact wellFormed
  | cons path rest inductionHypothesis =>
      simp only [readInto] at read
      split at read
      · next parsed =>
          have fragment := wellFormed_of_parse (noFeed_of_mem_load tree path) parsed
          exact inductionHypothesis (wellFormed.merge fragment) read
      · cases read

theorem IsRead.wellFormed (isRead : schema.IsRead) : schema.WellFormed := by
  cases isRead with
  | text read => exact wellFormed_of_readText read
  | files read => exact wellFormed_of_readInto wellFormed_empty read

end Reading

/-! ### Projections -/

section Projecting

variable {schema : Schema} {node : Json}

theorem WellFormed.filled_of_project (wellFormed : schema.WellFormed) {model : TypeModel}
    (projected : schema.project model = .ok node) : node.Filled := by
  obtain ⟨-, rfl⟩ := Expansion.toNode_eq_ok projected
  apply Expansion.filled_node_unfold
  intro name entry found
  exact (wellFormed.types _ (Entries.mem_of_get?_eq_some found)).2.isReference_eq_false

theorem WellFormed.filled_of_convert (wellFormed : schema.WellFormed) {kind : OperationKind}
    {name : String} (converted : schema.convert kind name = .ok node) : node.Filled := by
  simp only [convert] at converted
  split at converted
  · exact wellFormed.filled_of_project converted
  · cases converted

end Projecting

/-- Whatever is read is well-formed, and no projection against it has an empty node. -/
theorem wellFormed_of_isRead {schema : Schema} (isRead : schema.IsRead) :
    schema.WellFormed ∧
      (∀ model node, schema.project model = .ok node → node.Filled) ∧
      ∀ kind name node, schema.convert kind name = .ok node → node.Filled :=
  ⟨isRead.wellFormed, fun _ _ => isRead.wellFormed.filled_of_project,
    fun _ _ _ => isRead.wellFormed.filled_of_convert⟩

/-- An object with a list of lists, and a query with an argument list on lines of its own. -/
def catalogueText : String :=
  "type Photo \x7b\n  rows: [[Int]!]\n\x7d\ntype Query \x7b\n  all(\n  ): Photo\n\x7d\n"

def catalogue : Schema :=
  (empty.addType "Photo"
    (.object [("rows", .list .multi (.scalar .int .nullable) .nonNull .nullable)]
      .nullable)).addOperation .query "all( )" (.reference "Photo" .nullable)

theorem readText_catalogueText :
    readText catalogueText .empty = (.ok catalogue, (readText catalogueText .empty).2) := by
  have lines : Text.lines catalogueText.toList =
      ["type Photo \x7b".toList, "  rows: [[Int]!]".toList, "\x7d".toList,
        "type Query \x7b".toList, "  all(".toList, "  ): Photo".toList, "\x7d".toList] := by
    decide +kernel
  rw [readText, Cursor.ofText, lines]
  rfl

theorem wellFormed_catalogue :
    catalogue.IsRead ∧ catalogue.WellFormed ∧
      (∀ model node, catalogue.project model = .ok node → node.Filled) ∧
      ∀ kind name node, catalogue.convert kind name = .ok node → node.Filled :=
  ⟨.text readText_catalogueText, wellFormed_of_isRead (.text readText_catalogueText)⟩

end Schema

end SdlProjection
