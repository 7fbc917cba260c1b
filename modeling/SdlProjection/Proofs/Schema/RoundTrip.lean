import SdlProjection.Proofs.Schema.Printing

/-!
Contract: a printed schema is read back.

Owns: that the lines of a printed schema are cut where they were joined, that
each printed definition adds its own entry, and that reading the whole text
gives the schema, with the order of every map, and reports nothing.
-/

namespace SdlProjection

/-! ### Lines -/

/-- The characters of the lines that hold no clause. -/
def isPlain (c : Char) : Bool :=
  Text.isNamePart c || [' ', '|', '=', ':', '\x7b', '\x7d'].contains c

section Lines

variable {line name : List Char}

theorem oneLine_of_plain (plain : ∀ c ∈ line, isPlain c = true) : Text.OneLine line where
  noFeed := by
    intro feed
    have plainFeed := plain '\n' feed
    revert plainFeed
    decide
  noReturn := by
    rintro front rfl
    have plainReturn := plain '\r' (by simp)
    revert plainReturn
    decide

theorem plain_name (named : Text.isName name = true) : ∀ c ∈ name, isPlain c = true := by
  intro c member
  rw [isPlain, Text.isNamePart_of_mem_name named member, Bool.true_or]

theorem plain_headed {keyword : String} (keywordNamed : Text.isName keyword.toList = true)
    (plain : ∀ c ∈ line, isPlain c = true) : ∀ c ∈ headed keyword line, isPlain c = true := by
  rw [headed, List.forall_mem_append, List.forall_mem_cons]
  exact ⟨plain_name keywordNamed, by decide, plain⟩

theorem plain_joinMembers {members : List (List Char)}
    (membersNamed : ∀ member ∈ members, Text.isName member = true) :
    ∀ c ∈ joinMembers members, isPlain c = true := by
  intro c member
  rcases mem_joinMembers member with rfl | rfl | ⟨name, listed, inName⟩
  · decide
  · decide
  · exact plain_name (membersNamed name listed) c inName

theorem oneLine_opener {keyword : String} (named : Text.isName name = true)
    (keywordNamed : Text.isName keyword.toList = true) : Text.OneLine (opener keyword name) := by
  apply oneLine_of_plain
  apply plain_headed keywordNamed
  rw [List.forall_mem_append]
  exact ⟨plain_name named, by simp [isPlain]⟩

theorem oneLine_scalarLine (named : Text.isName name = true) : Text.OneLine (scalarLine name) :=
  oneLine_of_plain (plain_headed (by decide) (plain_name named))

theorem oneLine_unionLine (named : Text.isName name = true) {members : List (List Char)}
    (membersNamed : ∀ member ∈ members, Text.isName member = true) :
    Text.OneLine (unionLine name members) := by
  apply oneLine_of_plain
  apply plain_headed (by decide)
  simp only [List.forall_mem_append, List.forall_mem_cons]
  exact ⟨plain_name named, by decide, by decide, by decide, plain_joinMembers membersNamed⟩

theorem oneLine_bindingLine (named : Text.isName name = true) (kind : OperationKind) :
    Text.OneLine (bindingLine kind name) := by
  have kindNamed : Text.isName kind.name.toList = true := by
    cases kind <;> decide
  apply oneLine_of_plain
  simp only [bindingLine, List.forall_mem_append, List.forall_mem_cons]
  exact ⟨by decide, by decide, plain_name kindNamed, by decide, by decide, plain_name named⟩

theorem oneLine_valueLine {value : String} (named : Text.isName value.toList = true) :
    Text.OneLine (valueLine value) := by
  apply oneLine_of_plain
  rw [valueLine, List.forall_mem_cons, List.forall_mem_cons]
  exact ⟨by decide, by decide, plain_name named⟩

theorem oneLine_fieldLine {field : String × TypeModel} (isField : IsField field) :
    Text.OneLine (fieldLine field) where
  noFeed := by
    simp only [fieldLine, declaration, List.mem_cons, List.mem_append, not_or]
    exact ⟨by decide, by decide, isField.signature.inline, by decide, by decide,
      isField.type.inline⟩
  noReturn := by
    intro front same
    obtain ⟨more, last, written, ofClause⟩ := exists_concat_of_clause isField.type
    have regrouped : fieldLine field =
        (' ' :: ' ' :: (field.1.toList ++ ':' :: ' ' :: more)) ++ [last] := by
      simp [fieldLine, declaration, written]
    rw [regrouped] at same
    obtain ⟨-, rfl⟩ := List.append_singleton_inj.mp same
    exact absurd ofClause.not_blank (by decide)

theorem oneLine_blockLines {opener : List Char} {body : List (List Char)}
    (opens : Text.OneLine opener) (holds : ∀ line ∈ body, Text.OneLine line) :
    ∀ line ∈ blockLines opener body, Text.OneLine line := by
  intro line listed
  rw [blockLines, List.mem_cons, List.mem_append, List.mem_singleton] at listed
  rcases listed with rfl | inBody | rfl
  · exact opens
  · exact holds line inBody
  · exact oneLine_of_plain (by simp [isPlain])

end Lines

namespace Schema

variable {schema : Schema}

/-! ### What is bound -/

theorem mem_bindings_iff {kind : OperationKind} {name : String} :
    (kind, name) ∈ schema.bindings ↔ schema.roots.get kind = some name := by
  simp only [bindings, List.mem_filterMap, Option.map_eq_some_iff, Prod.mk.injEq]
  constructor
  · rintro ⟨other, -, name', bound, rfl, rfl⟩
    exact bound
  · intro bound
    exact ⟨kind, by cases kind <;> decide, name, bound, rfl, rfl⟩

namespace Supported

variable (supported : schema.Supported)
include supported

theorem bindingNamed {binding : OperationKind × String} (listed : binding ∈ schema.bindings) :
    Text.isName binding.2.toList = true :=
  supported.rootsNamed binding.1 binding.2 (mem_bindings_iff.mp listed)

theorem rootNamed (kind : OperationKind) : Text.isName (schema.rootName kind).toList = true := by
  rw [rootName]
  cases bound : schema.roots.get kind with
  | none => cases kind <;> decide
  | some name => exact supported.rootsNamed kind name bound

theorem rootKind?_rootName (kind : OperationKind) :
    schema.rootKind? (schema.rootName kind) = some kind := by
  have only : ∀ other : OperationKind,
      (schema.rootName other == schema.rootName kind) = decide (other = kind) := by
    intro other
    by_cases same : other = kind
    · simp [same]
    · have different : schema.rootName other ≠ schema.rootName kind :=
        fun equal => same (supported.rootsDistinct other kind equal)
      simp [same, different]
  simp only [rootKind?, only]
  cases kind <;> rfl

/-- The opener of a root type is that of its kind, by its default name or by its binding. -/
theorem rootName_cases (kind : OperationKind) :
    (schema.rootName kind).toList = kind.defaultRoot.toList ∨
      ∀ other : OperationKind, (schema.rootName kind).toList ≠ other.defaultRoot.toList := by
  simp only [String.toList_inj, ne_eq]
  rw [rootName]
  cases bound : schema.roots.get kind with
  | none => exact .inl rfl
  | some name =>
      by_cases isDefault : name = kind.defaultRoot
      · exact .inl isDefault
      · right
        rintro other rfl
        have own := supported.defaultsKept kind other bound
        exact isDefault (by rw [own])

end Supported

theorem rootKind?_eq_none {name : String} (free : ∀ kind, name ≠ schema.rootName kind) :
    schema.rootKind? name = none := by
  rw [rootKind?, List.find?_eq_none]
  intro kind _
  simp only [beq_iff_eq]
  exact fun same => free kind same.symm

/-! ### Adding all entries of a map -/

theorem addOperations_eq (schema : Schema) (kind : OperationKind) (more : Entries TypeModel) :
    Fragment.addOperations schema kind more =
      { schema with
        operations := schema.operations.set kind
          ((schema.operations.get kind).insertAll more) } := by
  induction more generalizing schema with
  | nil =>
      have same : schema.operations.set kind (schema.operations.get kind) = schema.operations := by
        cases kind <;> rfl
      have nothing : (schema.operations.get kind).insertAll [] = schema.operations.get kind := rfl
      rw [nothing, same]
      rfl
  | cons field more inductionHypothesis =>
      have next := inductionHypothesis (schema.addOperation kind field.1 field.2)
      rw [Fragment.addOperations, List.foldl_cons, ← Fragment.addOperations, next]
      cases kind <;> rfl

theorem foldl_addType (schema : Schema) (entries : Entries TypeModel) :
    entries.foldl (fun schema entry => schema.addType entry.1 entry.2) schema =
      { schema with types := schema.types.insertAll entries } := by
  induction entries generalizing schema with
  | nil => rfl
  | cons entry entries inductionHypothesis =>
      rw [List.foldl_cons, inductionHypothesis]
      rfl

theorem foldl_addUnion (schema : Schema) (entries : Entries (List String)) :
    entries.foldl (fun schema entry => schema.addUnion entry.1 entry.2) schema =
      { schema with unions := schema.unions.insertAll entries } := by
  induction entries generalizing schema with
  | nil => rfl
  | cons entry entries inductionHypothesis =>
      rw [List.foldl_cons, inductionHypothesis]
      rfl

theorem foldl_bindRoot (schema : Schema) :
    schema.bindings.foldl (fun current binding => current.bindRoot binding.1 binding.2) empty =
      { empty with roots := schema.roots } := by
  obtain ⟨operations, types, unions, query, mutation, subscription⟩ := schema
  cases query <;> cases mutation <;> cases subscription <;> rfl

/-! ### Each part of the text -/

namespace Supported

open Fragment

variable (supported : schema.Supported)
include supported

theorem extends_bindingBlock :
    Extends schema.bindingBlock empty { empty with roots := schema.roots } := by
  rw [bindingBlock, ← foldl_bindRoot]
  cases bound : schema.bindings with
  | nil => exact Extends.nil empty
  | cons first later =>
      have each : ∀ current : Schema, True → ∀ binding ∈ first :: later,
          Extends [bindingLine binding.1 binding.2.toList] current
            (current.bindRoot binding.1 binding.2) := by
        intro current _ binding listed
        have named := supported.bindingNamed (bound ▸ listed)
        have line := @extends_binding current _ named binding.1
        rwa [String.ofList_toList] at line
      have lines := @Extends.flatMap _ _ _ (fun _ => True) _ empty trivial
        (fun _ _ _ => trivial) each
      rw [← List.map_eq_flatMap] at lines
      exact extends_schemaOpener.append (lines.append extends_closingBrace)

theorem extends_operationBlock {current : Schema} (sameRoots : current.roots = schema.roots)
    (kind : OperationKind) :
    Extends (schema.operationBlock kind) current
      (addOperations current kind (schema.operations.get kind).entries) := by
  rw [operationBlock]
  cases operations : (schema.operations.get kind).entries with
  | nil => exact Extends.nil current
  | cons first later =>
      have isRoot : (schema.rootName kind).toList = kind.defaultRoot.toList ∨
          ((∀ other : OperationKind, (schema.rootName kind).toList ≠ other.defaultRoot.toList) ∧
            current.rootKind? (String.ofList (schema.rootName kind).toList) = some kind) := by
        refine (supported.rootName_cases kind).imp_right fun notDefault => ⟨notDefault, ?_⟩
        rw [String.ofList_toList, rootKind?_congr sameRoots, supported.rootKind?_rootName]
      have areFields : ∀ field ∈ first :: later, IsField field :=
        fun field listed => supported.operations kind field (operations ▸ listed)
      exact extends_rootBlock (supported.rootNamed kind) isRoot areFields

theorem extends_typeBlock {current : Schema} (sameRoots : current.roots = schema.roots)
    {entry : String × TypeModel} (listed : entry ∈ schema.types.entries) :
    Extends (typeBlock entry) current (current.addType entry.1 entry.2) := by
  obtain ⟨name, model⟩ := entry
  obtain ⟨named, definable⟩ := supported.types (name, model) listed
  have same : String.ofList name.toList = name := String.ofList_toList
  cases definable with
  | @object fields free notDefault distinct areFields =>
      have noRoot : current.rootKind? (String.ofList name.toList) = none := by
        rw [same, rootKind?_congr sameRoots]
        exact rootKind?_eq_none free
      have notDefaultText : ∀ kind : OperationKind, name.toList ≠ kind.defaultRoot.toList := by
        intro kind equal
        exact notDefault kind (String.toList_inj.mp equal)
      have block := extends_object named notDefaultText noRoot areFields
      rwa [same, Entries.insertAll_nil_of_nodup distinct] at block
  | enumeration valuesNamed distinct =>
      have block := @extends_enumeration current _ named _ valuesNamed distinct
      rwa [same] at block
  | scalar =>
      have line := @extends_scalar current _ named
      rwa [same] at line

theorem extends_unionBlock {current : Schema} {entry : String × List String}
    (listed : entry ∈ schema.unions.entries) :
    Extends (unionBlock entry) current (current.addUnion entry.1 entry.2) := by
  obtain ⟨named, membersNamed⟩ := supported.unions entry listed
  have texts : ∀ member ∈ entry.2.map String.toList, Text.isName member = true := by
    intro member among
    obtain ⟨text, present, rfl⟩ := List.mem_map.mp among
    exact membersNamed text present
  have line := @extends_union current _ named _ texts
  have readBack : (entry.2.map String.toList).map String.ofList = entry.2 := by
    simp [Function.comp_def]
  rwa [String.ofList_toList, readBack] at line

/-- The definitions of a schema, read from the start, add up to the schema. -/
theorem extends_printedLines : Extends schema.printedLines empty schema := by
  let SameRoots : Schema → Prop := fun current => current.roots = schema.roots
  let bound : Schema := { empty with roots := schema.roots }
  let operated : Schema := OperationKind.all.foldl
    (fun current kind => addOperations current kind (schema.operations.get kind).entries) bound
  have operatedRoots : SameRoots operated := by
    simp only [operated, OperationKind.all, List.foldl_cons, List.foldl_nil, addOperations_eq]
    rfl
  have operations : Extends (OperationKind.all.flatMap schema.operationBlock) bound operated := by
    apply @Extends.flatMap _ _ _ SameRoots _ bound rfl
    · intro current kind sameRoots
      rw [addOperations_eq]
      exact sameRoots
    · intro current sameRoots kind _
      exact supported.extends_operationBlock sameRoots kind
  have types : Extends (schema.types.entries.flatMap typeBlock) operated
      (schema.types.entries.foldl (fun current entry => current.addType entry.1 entry.2)
        operated) := by
    apply @Extends.flatMap _ _ _ SameRoots _ operated operatedRoots
    · intro current entry sameRoots
      exact sameRoots
    · intro current sameRoots entry listed
      exact supported.extends_typeBlock sameRoots listed
  have unions : ∀ start : Schema, Extends (schema.unions.entries.flatMap unionBlock) start
      (schema.unions.entries.foldl (fun current entry => current.addUnion entry.1 entry.2)
        start) := by
    intro start
    apply @Extends.flatMap _ _ _ (fun _ => True) _ start trivial (fun _ _ _ => trivial)
    intro current _ entry listed
    exact supported.extends_unionBlock listed
  have whole := supported.extends_bindingBlock.append (operations.append (types.append (unions _)))
  have sum : schema.unions.entries.foldl (fun current entry => current.addUnion entry.1 entry.2)
      (schema.types.entries.foldl (fun current entry => current.addType entry.1 entry.2)
        operated) = schema := by
    rw [foldl_addUnion, foldl_addType]
    simp only [operated, OperationKind.all, List.foldl_cons, List.foldl_nil, addOperations_eq]
    obtain ⟨⟨query, mutation, subscription⟩, types, unions, roots⟩ := schema
    simp only [bound, empty, PerOperation.all, PerOperation.set, PerOperation.get,
      OrderedMap.empty_insertAll]
  rwa [sum] at whole

theorem oneLine_bindingBlock : ∀ line ∈ schema.bindingBlock, Text.OneLine line := by
  rw [bindingBlock]
  split
  · simp
  · apply oneLine_blockLines
    · have split : "schema \x7b".toList = headed "schema" ['\x7b'] := by decide
      rw [split]
      exact oneLine_of_plain (plain_headed (by decide) (by simp [isPlain]))
    · intro body among
      obtain ⟨binding, present, rfl⟩ := List.mem_map.mp among
      exact oneLine_bindingLine (supported.bindingNamed present) binding.1

theorem oneLine_operationBlock (kind : OperationKind) :
    ∀ line ∈ schema.operationBlock kind, Text.OneLine line := by
  rw [operationBlock]
  split
  · simp
  · apply oneLine_blockLines (oneLine_opener (supported.rootNamed kind) (by decide))
    intro body among
    obtain ⟨field, present, rfl⟩ := List.mem_map.mp among
    exact oneLine_fieldLine (supported.operations kind field present)

theorem oneLine_typeBlock {entry : String × TypeModel} (listed : entry ∈ schema.types.entries) :
    ∀ line ∈ typeBlock entry, Text.OneLine line := by
  obtain ⟨name, model⟩ := entry
  obtain ⟨named, definable⟩ := supported.types (name, model) listed
  cases definable with
  | object _ _ _ areFields =>
      apply oneLine_blockLines (oneLine_opener named (by decide))
      intro body among
      obtain ⟨field, present, rfl⟩ := List.mem_map.mp among
      exact oneLine_fieldLine (areFields field present)
  | enumeration valuesNamed _ =>
      apply oneLine_blockLines (oneLine_opener named (by decide))
      intro body among
      obtain ⟨value, present, rfl⟩ := List.mem_map.mp among
      exact oneLine_valueLine (valuesNamed value present)
  | scalar =>
      intro line among
      rw [typeBlock, List.mem_singleton] at among
      rw [among]
      exact oneLine_scalarLine named

theorem oneLine_unionBlock {entry : String × List String}
    (listed : entry ∈ schema.unions.entries) : ∀ line ∈ unionBlock entry, Text.OneLine line := by
  obtain ⟨named, membersNamed⟩ := supported.unions entry listed
  intro line among
  rw [unionBlock, List.mem_singleton] at among
  rw [among]
  apply oneLine_unionLine named
  intro member inMembers
  obtain ⟨text, present, rfl⟩ := List.mem_map.mp inMembers
  exact membersNamed text present

theorem oneLine_printedLines : ∀ line ∈ schema.printedLines, Text.OneLine line := by
  intro line listed
  simp only [printedLines, List.mem_append, List.mem_flatMap] at listed
  rcases listed with inBindings | ⟨kind, -, inOperations⟩ | ⟨entry, listed, inType⟩ |
    ⟨entry, listed, inUnion⟩
  · exact supported.oneLine_bindingBlock line inBindings
  · exact supported.oneLine_operationBlock kind line inOperations
  · exact supported.oneLine_typeBlock listed line inType
  · exact supported.oneLine_unionBlock listed line inUnion

end Supported

/-- A schema that the language can express is printed to a text that is read back to it, with the
order of every map, and of which no line is reported. -/
theorem readText_print (supported : schema.Supported) (journal : Journal) :
    ∃ after, readText schema.print journal = (.ok schema, after) ∧
      after.diagnostics = journal.diagnostics := by
  have lines : Text.lines schema.print.toList = schema.printedLines := by
    rw [print, String.toList_ofList, Text.lines_joinLines supported.oneLine_printedLines]
  have started : (Fragment.start empty journal).Declares empty journal.diagnostics :=
    .inl ⟨rfl, rfl, rfl, rfl⟩
  have read := supported.extends_printedLines _ _ none 1 started
  obtain ⟨settled, same, diagnosed⟩ := read.finish
  have cursor : Cursor.ofText schema.print.toList = ⟨none, [], schema.printedLines⟩ := by
    rw [Cursor.ofText, lines]
    rfl
  have whole : (Fragment.start empty journal).run ⟨none, [], schema.printedLines⟩ =
      ((Fragment.start empty journal).feed none 1 schema.printedLines).finish := rfl
  rw [← whole] at settled same diagnosed
  refine ⟨_, ?_, diagnosed⟩
  simp only [readText, readCursor, cursor, Fragment.parse_of_settled settled, same]

/-- A schema with bound and default roots, an enum named like a default root, nested and quoted
arguments, every kind of type and a union without members. -/
def catalog : Schema where
  operations :=
    ⟨.ofEntries [("item(id: ID!, note: String = \"f(x)\")", .reference "Item" .nullable),
        ("items", .list .single (.reference "Item" .nonNull) .nullable .nonNull)],
      .ofEntries [("rename(id: ID!)", .scalar .boolean .nonNull)], .empty⟩
  types := .ofEntries
    [("Item", .object [("id", .scalar .id .nonNull), ("int", .reference "int" .nullable),
        ("grid", .list .multi (.scalar .int .nonNull) .nonNull .nullable)] .nullable),
      ("Query", .enumeration ["OPEN", "CLOSED"] .nullable), ("Date", .scalar .string .nullable)]
  unions := .ofEntries [("Any", ["Item", "Root"]), ("None", [])]
  roots := ⟨some "Root", none, some "Subscription"⟩

theorem catalog_supported : catalog.Supported where
  rootsNamed := by
    intro kind name bound
    cases kind with
    | query =>
        obtain rfl : "Root" = name := Option.some.inj bound
        decide
    | mutation => cases bound
    | subscription =>
        obtain rfl : "Subscription" = name := Option.some.inj bound
        decide
  rootsDistinct := by
    intro kind other same
    revert same
    cases kind <;> cases other <;> decide
  defaultsKept := by
    intro kind other same
    revert same
    cases kind <;> cases other <;> decide
  operations := by
    have itemSignature : IsSignature "item(id: ID!, note: String = \"f(x)\")".toList := by
      have split : "item(id: ID!, note: String = \"f(x)\")".toList =
          "item".toList ++ '(' :: ("id: ID!, note: String = \"f(x)\"".toList ++ [')']) := by
        decide +kernel
      rw [split]
      exact .withArguments (by decide) ⟨by decide +kernel, by decide +kernel, by decide +kernel,
        by decide +kernel⟩
    have renameSignature : IsSignature "rename(id: ID!)".toList := by
      have split : "rename(id: ID!)".toList =
          "rename".toList ++ '(' :: ("id: ID!".toList ++ [')']) := by
        decide +kernel
      rw [split]
      exact .withArguments (by decide) ⟨by decide +kernel, by decide +kernel, by decide +kernel,
        by decide +kernel⟩
    have itemForeign : ∀ kind : ScalarKind, "Item" ≠ kind.keyword := by
      intro kind
      cases kind <;> decide
    intro kind field listed
    cases kind with
    | query =>
        change field ∈ [_, _] at listed
        simp only [List.mem_cons, List.not_mem_nil, or_false] at listed
        rcases listed with rfl | rfl
        · exact ⟨itemSignature, .reference _ (by decide) itemForeign⟩
        · exact ⟨.plain (by decide), .single _ (.reference _ (by decide) (by decide))⟩
    | mutation =>
        obtain rfl := List.mem_singleton.mp listed
        exact ⟨renameSignature, .scalar _ _⟩
    | subscription => cases listed
  types := by
    intro entry listed
    change entry ∈ [_, _, _] at listed
    simp only [List.mem_cons, List.not_mem_nil, or_false] at listed
    rcases listed with rfl | rfl | rfl
    · refine ⟨by decide, .object ?_ ?_ (by decide) ?_⟩
      · intro kind
        cases kind <;> decide
      · intro kind
        cases kind <;> decide
      · intro field listed
        simp only [List.mem_cons, List.not_mem_nil, or_false] at listed
        rcases listed with rfl | rfl | rfl
        · exact ⟨.plain (by decide), .scalar _ _⟩
        · refine ⟨.plain (by decide), .reference _ (by decide) ?_⟩
          intro kind
          cases kind <;> decide
        · exact ⟨.plain (by decide), .multi _ _ (.scalar _ _)⟩
    · exact ⟨by decide, .enumeration (by decide) (by decide)⟩
    · exact ⟨by decide, .scalar⟩
  unions := by
    intro entry listed
    change entry ∈ [_, _] at listed
    simp only [List.mem_cons, List.not_mem_nil, or_false] at listed
    rcases listed with rfl | rfl
    · exact ⟨by decide, by decide⟩
    · exact ⟨by decide, by decide⟩

example : catalog.printedLines =
    ["schema \x7b", "  query: Root", "  subscription: Subscription", "\x7d",
      "type Root \x7b", "  item(id: ID!, note: String = \"f(x)\"): Item", "  items: [Item!]!",
      "\x7d", "type Mutation \x7b", "  rename(id: ID!): Boolean!", "\x7d",
      "type Item \x7b", "  id: ID!", "  int: int", "  grid: [[Int!]!]", "\x7d",
      "enum Query \x7b", "  OPEN", "  CLOSED", "\x7d", "scalar Date",
      "union Any = Item | Root", "union None = "].map String.toList := by
  decide +kernel

theorem readText_print_catalog :
    catalog.Supported ∧
      ∃ after, readText catalog.print .empty = (.ok catalog, after) ∧ after.diagnostics = [] :=
  ⟨catalog_supported, readText_print catalog_supported .empty⟩

end Schema

end SdlProjection
