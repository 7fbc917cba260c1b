import SdlProjection.Proofs.Fragment.Reading
import SdlProjection.Proofs.Line.Definition

/-!
Contract: what a definition adds to a fragment, line by line.

Owns: the state of a fragment in which no description is open, the effect of
each line of a definition on it, and from them the effect of whole blocks:
a root block, an operation block, an object, an enum, a scalar and a union.
None of these lines is reported.

Does not own: the order in which definitions are written (`Proofs.Schema.Printing`).
-/

namespace SdlProjection.Fragment

/-- No description is open; the block, the schema and the reported lines are the given ones. -/
structure Stands (fragment : Fragment) (block : Block) (schema : Schema)
    (reported : List Diagnostic) : Prop where
  description : fragment.description = none
  block : fragment.block = block
  schema : fragment.schema = schema
  reported : fragment.journal.diagnostics = reported

/-- Between definitions: once a union that may still be open is closed, that much is declared. -/
def Declares (fragment : Fragment) (schema : Schema) (reported : List Diagnostic) : Prop :=
  fragment.Stands .top schema reported ∨
    ∃ name members before, fragment.Stands (.union name members) before reported ∧
      before.addUnion name members = schema

section Steps

variable {fragment : Fragment} {schema : Schema} {reported : List Diagnostic}
  {file : Option String} {number : Nat} {line : List Char}

theorem Stands.note {block : Block} (stands : fragment.Stands block schema reported)
    (level : LogLevel) (message : String) :
    (fragment.note level message).Stands block schema reported :=
  ⟨stands.description, stands.block, stands.schema, stands.reported⟩

/-- What is declared once an open block is added to it. -/
def completed (schema : Schema) : Block → Schema
  | .body (.object name fields) _ => schema.addType name (.object fields .nullable)
  | .enumeration name values => schema.addType name (.enumeration values .nullable)
  | .union name members => schema.addUnion name members
  | .top | .body (.operations _) _ | .failed _ _ => schema

theorem Stands.close {block : Block} (stands : fragment.Stands block schema reported)
    (noFailure : ∀ cause number, block ≠ .failed cause number) :
    fragment.close.Stands .top (completed schema block) reported := by
  rcases fragment with ⟨schema, block, description, journal⟩
  rcases stands with ⟨rfl, rfl, rfl, rfl⟩
  cases block with
  | body body pending =>
      cases body with
      | object name fields => exact ⟨rfl, rfl, rfl, rfl⟩
      | operations kind => exact ⟨rfl, rfl, rfl, rfl⟩
  | top | enumeration name values | union name members => exact ⟨rfl, rfl, rfl, rfl⟩
  | failed cause number => exact absurd rfl (noFailure cause number)

/-! ### Between definitions -/

/-- A line that continues no union is read as if nothing had been open. -/
theorem Declares.step_eq (declares : fragment.Declares schema reported)
    (notMember : classify line ≠ .unionMember) :
    ∃ closed : Fragment, closed.Stands .top schema reported ∧
      fragment.step file line number = closed.topStep file number line := by
  rcases declares with stands | ⟨name, members, before, stands, rfl⟩
  · exact ⟨fragment, stands, step_of_top stands.description stands.block⟩
  · refine ⟨fragment.close, stands.close (by simp), ?_⟩
    rw [step_of_union stands.description stands.block, if_neg notMember]

/-- After the last line, nothing stays open. -/
theorem Declares.finish (declares : fragment.Declares schema reported) :
    fragment.finish.Settled ∧ fragment.finish.schema = schema ∧
      fragment.finish.journal.diagnostics = reported := by
  rcases declares with stands | ⟨name, members, before, stands, rfl⟩
  · have settled : fragment.Settled := ⟨stands.block, stands.description⟩
    rw [settled.finish_eq]
    exact ⟨settled, stands.schema, stands.reported⟩
  · have closed := stands.close (by simp)
    rw [finish_of_no_description stands.description, closeOpen, stands.block]
    exact ⟨⟨closed.block, closed.description⟩, closed.schema, closed.reported⟩

section Top

variable (declares : fragment.Declares schema reported)
include declares

/-- The braces of a schema block leave no trace. -/
theorem Declares.step_schemaBrace
    (isBrace : classify line = .schemaOpener ∨ classify line = .closingBrace) :
    (fragment.step file line number).Declares schema reported := by
  have notMember : classify line ≠ .unionMember := by
    rcases isBrace with kind | kind <;> simp [kind]
  obtain ⟨closed, stands, same⟩ := declares.step_eq notMember
  rw [same, topStep]
  rcases isBrace with kind | kind
  · simp only [kind]
    exact .inl (stands.note _ _)
  · simp only [kind]
    exact .inl (stands.note _ _)

theorem Declares.step_rootBinding {kind : OperationKind}
    (isBinding : classify line = .rootBinding kind) :
    (fragment.step file line number).Declares
      (schema.bindRoot kind (Line.bindingTarget line)) reported := by
  have notMember : classify line ≠ .unionMember := by simp [isBinding]
  obtain ⟨closed, stands, same⟩ := declares.step_eq notMember
  rw [same, topStep]
  simp only [isBinding]
  exact .inl ⟨stands.description, stands.block, by simp [bind, note, stands.schema],
    stands.reported⟩

theorem Declares.step_scalarDefinition (isScalar : classify line = .scalarDefinition) :
    (fragment.step file line number).Declares
      (schema.addScalar (Line.definitionName "scalar" line)) reported := by
  have notMember : classify line ≠ .unionMember := by simp [isScalar]
  obtain ⟨closed, stands, same⟩ := declares.step_eq notMember
  rw [same, topStep]
  simp only [isScalar]
  exact .inl ⟨stands.description, stands.block, by simp [note, stands.schema], stands.reported⟩

/-- The opener of a union leaves it open. -/
theorem Declares.stands_union (isUnion : classify line = .unionDefinition) :
    (fragment.step file line number).Stands
      (.union (Line.unionDefinition line).1 (Line.unionDefinition line).2) schema reported := by
  have notMember : classify line ≠ .unionMember := by simp [isUnion]
  obtain ⟨closed, stands, same⟩ := declares.step_eq notMember
  rw [same, topStep]
  simp only [isUnion]
  exact ⟨stands.description, rfl, stands.schema, stands.reported⟩

theorem Declares.step_unionDefinition {name : String} {members : List String}
    (isUnion : classify line = .unionDefinition)
    (gives : Line.unionDefinition line = (name, members)) :
    (fragment.step file line number).Declares (schema.addUnion name members) reported := by
  have opened := @Declares.stands_union _ _ _ file number line declares isUnion
  rw [gives] at opened
  exact .inr ⟨name, members, schema, opened, rfl⟩

theorem Declares.step_enumOpener (isEnum : classify line = .enumOpener) :
    (fragment.step file line number).Stands
      (.enumeration (Line.definitionName "enum" line) []) schema reported := by
  have notMember : classify line ≠ .unionMember := by simp [isEnum]
  obtain ⟨closed, stands, same⟩ := declares.step_eq notMember
  rw [same, topStep]
  simp only [isEnum]
  exact ⟨stands.description, rfl, stands.schema, stands.reported⟩

/-- The block of a root type is one of operations, whether it is bound or goes by default. -/
theorem Declares.step_rootOpener {kind : OperationKind}
    (isRoot : classify line = .operationOpener kind ∨
      (classify line = .objectOpener ∧
        schema.rootKind? (Line.definitionName "type" line) = some kind)) :
    (fragment.step file line number).Stands (.body (.operations kind) none) schema reported := by
  have notMember : classify line ≠ .unionMember := by
    rcases isRoot with byDefault | ⟨isObject, -⟩
    · simp [byDefault]
    · simp [isObject]
  obtain ⟨closed, stands, same⟩ := declares.step_eq notMember
  rw [same, topStep]
  rcases isRoot with byDefault | ⟨isObject, bound⟩
  · simp only [byDefault]
    exact ⟨stands.description, rfl, stands.schema, stands.reported⟩
  · simp only [isObject, note, stands.schema, bound]
    exact ⟨stands.description, rfl, rfl, stands.reported⟩

theorem Declares.step_objectOpener (isObject : classify line = .objectOpener)
    (noRoot : schema.rootKind? (Line.definitionName "type" line) = none) :
    (fragment.step file line number).Stands
      (.body (.object (Line.definitionName "type" line) []) none) schema reported := by
  have notMember : classify line ≠ .unionMember := by simp [isObject]
  obtain ⟨closed, stands, same⟩ := declares.step_eq notMember
  rw [same, topStep]
  simp only [isObject, note, stands.schema, noRoot]
  exact ⟨stands.description, rfl, rfl, stands.reported⟩

end Top

/-! ### Within a block -/

theorem remark?_of_ordinary {kind : LineKind} (ordinary : kind.ordinary = true)
    (fragment : Fragment) (line : List Char) : fragment.remark? kind line = none := by
  cases kind <;> first | rfl | cases ordinary

/-- A closing brace is one, with or without the blanks around it. -/
theorem bodyStep_closingBrace (body : Body) (fragment : Fragment) :
    fragment.bodyStep file body none number ['\x7d'] = fragment.close := by
  have closing : classify (Text.trim ['\x7d']) = .closingBrace := classify_closingBrace
  simp only [bodyStep, closing, if_true]
  rfl

theorem Stands.step_endOfObject {name : String} {fields : Entries TypeModel}
    (stands : fragment.Stands (.body (.object name fields) none) schema reported) :
    (fragment.step file ['\x7d'] number).Declares (schema.addType name (.object fields .nullable))
      reported := by
  rw [step_of_body stands.description stands.block, bodyStep_closingBrace]
  exact .inl (stands.close (by simp))

theorem Stands.step_endOfOperations {kind : OperationKind}
    (stands : fragment.Stands (.body (.operations kind) none) schema reported) :
    (fragment.step file ['\x7d'] number).Declares schema reported := by
  rw [step_of_body stands.description stands.block, bodyStep_closingBrace]
  exact .inl (stands.close (by simp))

theorem Stands.step_endOfEnumeration {name : String} {values : List String}
    (stands : fragment.Stands (.enumeration name values) schema reported) :
    (fragment.step file ['\x7d'] number).Declares
      (schema.addType name (.enumeration values .nullable)) reported := by
  rw [step_of_enumeration stands.description stands.block, enumStep, classify_closingBrace,
    if_pos rfl]
  exact .inl (stands.close (by simp))

end Steps

/-! ### Fields -/

section Scan

variable {rest : List Char}

theorem scan_inert {text : List Char} (inert : ∀ c ∈ text, Inert c) (depth : Nat) :
    Pending.scan depth (text ++ rest) = Pending.scan depth rest := by
  induction text with
  | nil => rfl
  | cons c text inductionHypothesis =>
      rw [List.forall_mem_cons] at inert
      have notColon : (c == ':') = false := by simp [inert.1.2.2.1]
      rw [List.cons_append, Pending.scan, inert.1.depthAfter, inductionHypothesis inert.2, notColon,
        Bool.false_and]
      simp

theorem scan_nested {arguments : List Char} {depth : Nat}
    (closed : nested depth arguments = true) :
    Pending.scan (depth + 1) (arguments ++ rest) = Pending.scan 1 rest := by
  induction arguments generalizing depth with
  | nil =>
      have noDepth : depth = 0 := by simpa [nested] using closed
      rw [noDepth]
      rfl
  | cons c arguments inductionHypothesis =>
      rw [nested, Bool.and_eq_true] at closed
      rw [List.cons_append, Pending.scan, depthAfter_succ closed.1, inductionHypothesis closed.2]
      simp

/-- The colon after a signature is at depth zero. -/
theorem scan_signature {signature : List Char} (isSignature : IsSignature signature) :
    (Pending.scan 0 (signature ++ ':' :: rest)).2 = true := by
  have nameInert : ∀ {name : List Char}, Text.isName name = true → ∀ c ∈ name, Inert c :=
    fun named c member => inert_of_isNamePart (Text.isNamePart_of_mem_name named member)
  have atColon : (Pending.scan 0 (':' :: rest)).2 = true := by
    simp [Pending.scan]
  cases isSignature with
  | plain named => rw [scan_inert (nameInert named), atColon]
  | @withArguments name arguments named isArguments =>
      have opening : Pending.scan 0 ('(' :: (arguments ++ ')' :: ':' :: rest)) =
          Pending.scan 1 (arguments ++ ')' :: ':' :: rest) := by
        simp [Pending.scan, Field.depthAfter]
      have closing : Pending.scan 1 (')' :: ':' :: rest) = Pending.scan 0 (':' :: rest) := by
        simp [Pending.scan, Field.depthAfter]
      simp only [List.append_assoc, List.cons_append, List.nil_append]
      rw [scan_inert (nameInert named), opening, scan_nested isArguments.closed, closing, atColon]

end Scan

section Field

variable {fragment : Fragment} {schema : Schema} {reported : List Diagnostic}
  {file : Option String} {number : Nat} {field : String × TypeModel}

/-- The line of a field is a whole declaration. -/
theorem bodyStep_fieldLine (isField : IsField field) (body : Body) (fragment : Fragment) :
    fragment.bodyStep file body none number (fieldLine field) =
      fragment.declare body (declaration field.1.toList field.2) number := by
  have trimmed : Text.trim (fieldLine field) = declaration field.1.toList field.2 := by
    have between := @Text.Flush.trim_between _ [' ', ' '] []
      (flush_declaration isField.signature isField.type) (Text.blank_spaces 2) (Text.blank_spaces 0)
    simpa [fieldLine] using between
  have ordinary := ordinary_classify_declaration isField.signature isField.type
  have notClosing : classify (declaration field.1.toList field.2) ≠ .closingBrace := by
    intro isClosing
    rw [isClosing] at ordinary
    cases ordinary
  have matched := classify_declaration_ne_unmatched isField.signature isField.type
  have something : (declaration field.1.toList field.2).isEmpty = false := by
    rw [List.isEmpty_eq_false_iff, declaration]
    simp
  have complete : Pending.nothing.extend (declaration field.1.toList field.2) number =
      (⟨[declaration field.1.toList field.2],
        (Pending.scan 0 (declaration field.1.toList field.2)).1, number⟩, true) := by
    have separated := @scan_signature (' ' :: field.2.clause) _ isField.signature
    rw [declaration]
    simp only [Pending.extend, Pending.nothing]
    rw [separated]
    rfl
  simp only [bodyStep, trimmed, if_neg notClosing, remark?_of_ordinary ordinary, something,
    matched, continueDeclaration, Option.getD_none, complete]
  simp [Text.joinSpaced]

theorem Stands.step_fieldOfObject {name : String} {fields : Entries TypeModel}
    (stands : fragment.Stands (.body (.object name fields) none) schema reported)
    (isField : IsField field) :
    (fragment.step file (fieldLine field) number).Stands
      (.body (.object name (Entries.insert fields field.1 field.2)) none) schema reported := by
  obtain ⟨noDescription, opened, same, diagnosed⟩ := stands
  rw [step_of_body noDescription opened, bodyStep_fieldLine isField, declare,
    parse_declaration isField.signature isField.type]
  simp only [String.ofList_toList]
  split
  · exact ⟨noDescription, rfl, same, diagnosed⟩
  · exact ⟨noDescription, rfl, same, diagnosed⟩

theorem Stands.step_fieldOfOperations {kind : OperationKind}
    (stands : fragment.Stands (.body (.operations kind) none) schema reported)
    (isField : IsField field) :
    (fragment.step file (fieldLine field) number).Stands (.body (.operations kind) none)
      (schema.addOperation kind field.1 field.2) reported := by
  obtain ⟨noDescription, opened, same, diagnosed⟩ := stands
  rw [step_of_body noDescription opened, bodyStep_fieldLine isField, declare,
    parse_declaration isField.signature isField.type]
  have added := congrArg (fun schema => schema.addOperation kind field.1 field.2) same
  simp only [String.ofList_toList]
  split
  · exact ⟨noDescription, rfl, added, diagnosed⟩
  · exact ⟨noDescription, rfl, added, diagnosed⟩

/-- The fields of an object are added to it in order. -/
theorem Stands.feed_fieldsOfObject {name : String} {fields : Entries TypeModel}
    (stands : fragment.Stands (.body (.object name fields) none) schema reported)
    {more : Entries TypeModel} (areFields : ∀ field ∈ more, IsField field) :
    (fragment.feed file number (more.map fieldLine)).Stands
      (.body (.object name (fields.insertAll more)) none) schema reported := by
  induction more generalizing fragment number fields with
  | nil => exact stands
  | cons field more inductionHypothesis =>
      rw [List.forall_mem_cons] at areFields
      rw [List.map_cons, feed_cons]
      exact inductionHypothesis (stands.step_fieldOfObject areFields.1) areFields.2

/-- The operations of a kind, one after the other. -/
def addOperations (schema : Schema) (kind : OperationKind) (more : Entries TypeModel) : Schema :=
  more.foldl (fun schema field => schema.addOperation kind field.1 field.2) schema

theorem Stands.feed_fieldsOfOperations {kind : OperationKind}
    (stands : fragment.Stands (.body (.operations kind) none) schema reported)
    {more : Entries TypeModel} (areFields : ∀ field ∈ more, IsField field) :
    (fragment.feed file number (more.map fieldLine)).Stands (.body (.operations kind) none)
      (addOperations schema kind more) reported := by
  induction more generalizing fragment number schema with
  | nil => exact stands
  | cons field more inductionHypothesis =>
      rw [List.forall_mem_cons] at areFields
      rw [List.map_cons, feed_cons]
      exact inductionHypothesis (stands.step_fieldOfOperations areFields.1) areFields.2

end Field

/-! ### Values -/

section Value

variable {fragment : Fragment} {schema : Schema} {reported : List Diagnostic}
  {file : Option String} {number : Nat} {name : String} {values : List String}

theorem Stands.step_valueLine (stands : fragment.Stands (.enumeration name values) schema reported)
    {value : String} (named : Text.isName value.toList = true) :
    (fragment.step file (valueLine value) number).Stands
      (.enumeration name (addDistinct values value)) schema reported := by
  obtain ⟨noDescription, opened, same, diagnosed⟩ := stands
  have ordinary := ordinary_classify_valueLine named
  have notClosing : classify (valueLine value) ≠ .closingBrace := by
    intro isClosing
    rw [isClosing] at ordinary
    cases ordinary
  rw [step_of_enumeration noDescription opened]
  simp only [enumStep, if_neg notClosing, remark?_of_ordinary ordinary, enumValue_valueLine named,
    named, if_true, String.ofList_toList]
  exact ⟨noDescription, rfl, same, diagnosed⟩

theorem Stands.feed_valueLines (stands : fragment.Stands (.enumeration name values) schema reported)
    {more : List String} (named : ∀ value ∈ more, Text.isName value.toList = true)
    (distinct : (values ++ more).Nodup) :
    (fragment.feed file number (more.map valueLine)).Stands (.enumeration name (values ++ more))
      schema reported := by
  induction more generalizing fragment number values with
  | nil => rwa [List.append_nil]
  | cons value more inductionHypothesis =>
      rw [List.forall_mem_cons] at named
      have fresh : value ∉ values := by
        intro present
        exact (List.nodup_append.mp distinct).2.2 value present value List.mem_cons_self rfl
      have added : addDistinct values value = values ++ [value] := by
        simp [addDistinct, fresh]
      have next : (fragment.step file (valueLine value) number).Stands
          (.enumeration name (addDistinct values value)) schema reported :=
        stands.step_valueLine named.1
      rw [added] at next
      rw [List.append_cons] at distinct ⊢
      rw [List.map_cons, feed_cons]
      exact inductionHypothesis next named.2 distinct

end Value

/-! ### Whole definitions -/

/-- Reading the lines between definitions adds to what is declared, and reports nothing. -/
def Extends (lines : List (List Char)) (before after : Schema) : Prop :=
  ∀ (fragment : Fragment) (reported : List Diagnostic) (file : Option String) (number : Nat),
    fragment.Declares before reported → (fragment.feed file number lines).Declares after reported

namespace Extends

variable {before middle after : Schema}

theorem nil (schema : Schema) : Extends [] schema schema := by
  intro fragment reported file number declares
  exact declares

theorem append {front back : List (List Char)} (first : Extends front before middle)
    (second : Extends back middle after) : Extends (front ++ back) before after := by
  intro fragment reported file number declares
  rw [feed_append]
  exact second _ _ _ _ (first fragment reported file number declares)

/-- Definitions that are written one after the other are added one after the other, as long as
each addition keeps what the next one relies on. -/
theorem flatMap {α : Type} {write : α → List (List Char)} {add : Schema → α → Schema}
    {Kept : Schema → Prop} {entries : List α} {schema : Schema} (kept : Kept schema)
    (keeps : ∀ current entry, Kept current → Kept (add current entry))
    (each : ∀ current, Kept current → ∀ entry ∈ entries,
      Extends (write entry) current (add current entry)) :
    Extends (entries.flatMap write) schema (entries.foldl add schema) := by
  induction entries generalizing schema with
  | nil => exact nil schema
  | cons entry entries inductionHypothesis =>
      rw [List.flatMap_cons]
      have first := each schema kept entry List.mem_cons_self
      have later : ∀ current, Kept current → ∀ entry ∈ entries,
          Extends (write entry) current (add current entry) :=
        fun current kept entry listed => each current kept entry (List.mem_cons_of_mem _ listed)
      exact first.append (inductionHypothesis (keeps schema entry kept) later)

/-- A block adds what its opener, its body and its closing brace come to. -/
theorem block {opener : List Char} {body : List (List Char)} {opened filled : Block}
    {during : Schema}
    (opens : ∀ (fragment : Fragment) reported file number, fragment.Declares before reported →
      (fragment.step file opener number).Stands opened before reported)
    (fills : ∀ (fragment : Fragment) reported file number,
      fragment.Stands opened before reported →
        (fragment.feed file number body).Stands filled during reported)
    (closes : ∀ (fragment : Fragment) reported file number,
      fragment.Stands filled during reported →
        (fragment.step file ['\x7d'] number).Declares after reported) :
    Extends (blockLines opener body) before after := by
  intro fragment reported file number declares
  rw [blockLines, feed_cons, feed_append, feed_cons, feed_nil]
  exact closes _ _ _ _ (fills _ _ _ _ (opens fragment reported file number declares))

end Extends

section Definitions

variable {schema : Schema} {name : List Char}

theorem extends_rootBlock {kind : OperationKind} (named : Text.isName name = true)
    (isRoot : name = kind.defaultRoot.toList ∨
      ((∀ other : OperationKind, name ≠ other.defaultRoot.toList) ∧
        schema.rootKind? (String.ofList name) = some kind))
    {operations : Entries TypeModel} (areFields : ∀ field ∈ operations, IsField field) :
    Extends (blockLines (opener "type" name) (operations.map fieldLine)) schema
      (addOperations schema kind operations) := by
  have root : classify (opener "type" name) = .operationOpener kind ∨
      (classify (opener "type" name) = .objectOpener ∧
        schema.rootKind? (Line.definitionName "type" (opener "type" name)) = some kind) := by
    rcases isRoot with rfl | ⟨notDefault, bound⟩
    · exact .inl (classify_defaultOpener kind)
    · refine .inr ⟨classify_typeOpener named notDefault, ?_⟩
      rwa [definitionName_opener (by decide) named]
  apply Extends.block
  · intro fragment reported file number declares
    exact declares.step_rootOpener root
  · intro fragment reported file number stands
    exact stands.feed_fieldsOfOperations areFields
  · intro fragment reported file number stands
    exact stands.step_endOfOperations

theorem extends_object (named : Text.isName name = true)
    (notDefault : ∀ kind : OperationKind, name ≠ kind.defaultRoot.toList)
    (noRoot : schema.rootKind? (String.ofList name) = none)
    {fields : Entries TypeModel} (areFields : ∀ field ∈ fields, IsField field) :
    Extends (blockLines (opener "type" name) (fields.map fieldLine)) schema
      (schema.addType (String.ofList name) (.object (Entries.insertAll [] fields) .nullable)) := by
  have opensName : Line.definitionName "type" (opener "type" name) = String.ofList name :=
    definitionName_opener (by decide) named
  rw [← opensName] at noRoot ⊢
  apply Extends.block
  · intro fragment reported file number declares
    exact declares.step_objectOpener (classify_typeOpener named notDefault) noRoot
  · intro fragment reported file number stands
    exact stands.feed_fieldsOfObject areFields
  · intro fragment reported file number stands
    exact stands.step_endOfObject

theorem extends_enumeration (named : Text.isName name = true) {values : List String}
    (valuesNamed : ∀ value ∈ values, Text.isName value.toList = true) (distinct : values.Nodup) :
    Extends (blockLines (opener "enum" name) (values.map valueLine)) schema
      (schema.addType (String.ofList name) (.enumeration values .nullable)) := by
  have opensName : Line.definitionName "enum" (opener "enum" name) = String.ofList name :=
    definitionName_opener (by decide) named
  rw [← opensName]
  apply Extends.block
  · intro fragment reported file number declares
    exact declares.step_enumOpener (classify_enumOpener named)
  · intro fragment reported file number stands
    exact @Stands.feed_valueLines _ _ _ _ _ _ [] stands _ valuesNamed distinct
  · intro fragment reported file number stands
    exact stands.step_endOfEnumeration

theorem extends_scalar (named : Text.isName name = true) :
    Extends [scalarLine name] schema (schema.addScalar (String.ofList name)) := by
  intro fragment reported file number declares
  rw [feed_cons, feed_nil, ← definitionName_scalarLine named]
  exact declares.step_scalarDefinition (classify_scalarLine named)

theorem extends_union (named : Text.isName name = true) {members : List (List Char)}
    (membersNamed : ∀ member ∈ members, Text.isName member = true) :
    Extends [unionLine name members] schema
      (schema.addUnion (String.ofList name) (members.map String.ofList)) := by
  intro fragment reported file number declares
  exact declares.step_unionDefinition (classify_unionLine named membersNamed)
    (unionDefinition_unionLine named membersNamed)

theorem extends_binding (named : Text.isName name = true) (kind : OperationKind) :
    Extends [bindingLine kind name] schema (schema.bindRoot kind (String.ofList name)) := by
  intro fragment reported file number declares
  rw [feed_cons, feed_nil, ← bindingTarget_bindingLine named kind]
  exact declares.step_rootBinding (classify_bindingLine named kind)

theorem extends_schemaOpener : Extends ["schema \x7b".toList] schema schema := by
  intro fragment reported file number declares
  exact declares.step_schemaBrace (.inl classify_schemaOpener)

theorem extends_closingBrace : Extends [['\x7d']] schema schema := by
  intro fragment reported file number declares
  exact declares.step_schemaBrace (.inr classify_closingBrace)

end Definitions

end SdlProjection.Fragment
