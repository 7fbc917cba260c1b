import SdlProjection.Proofs.Body.Assembly
import SdlProjection.Proofs.Model.Directives
import SdlProjection.Proofs.Schema.RoundTrip

/-!
Contract: one body read as that of an object and as a block of operations.

Owns: `Reader.ReadsGroups`, what a body is read to in terms of the groups that its
lines are cut into; that a stray line is no declaration; and
`Reader.readBody_operations_iff_object`: the two readings agree on bodies without
stray lines, and on all others the one fails and the other reports.

Does not own: how lines are cut into groups (`Proofs.Body.Groups`).
-/

namespace SdlProjection

open Fragment (addOperations)

/-- What a field adds to the map that it is part of. -/
def Field.entry (field : Field) : String × TypeModel := (field.key, field.type)

/-- The schema after a body, given the fields that are still to come. -/
def Body.concluded (schema : Schema) (fields : Entries TypeModel) : Body → Schema
  | .object name entries =>
    schema.addType name (.object (Entries.insertAll entries fields) .nullable)
  | .operations kind => addOperations schema kind fields

namespace Reader

/-- A body is read group by group: it succeeds if all declarations that it returns are read, and
fails with one of them otherwise. -/
structure ReadsGroups (state : Reader × Body) (outcome : Outcome) : Prop where
  reaches : state.1.cursor.Reaches outcome.2.cursor
  succeeds : outcome.1 = .ok () → (state.1.cursor.bodyLines false).Ended outcome.2.cursor.rest ∧
    ∃ groups, ∃ fields : List Field,
      Grouped (state.1.cursor.bodyLines false).significant groups ∧
      (state.2.returned groups).map (fun declaration => Field.parse declaration.1) =
        fields.map Except.ok ∧
      outcome.2.schema = state.2.concluded state.1.schema (fields.map Field.entry) ∧
      outcome.2.journal.diagnostics =
        state.1.journal.diagnostics ++ state.2.reported state.1.cursor.file groups
  fails : ∀ error, outcome.1 = .error error →
    ∃ groups, Grouped (state.1.cursor.bodyLines false).significant groups ∧
      ∃ declaration ∈ state.2.returned groups,
        Field.parse declaration.1 = .error error.cause

/-! ### Adding a field -/

section Adding

variable (reader : Reader) (body : Body) (field : Field)

theorem addField_diagnostics :
    (reader.addField body field).1.journal.diagnostics = reader.journal.diagnostics := by
  cases body with
  | object name fields =>
      simp only [addField]
      split <;> rfl
  | operations kind =>
      simp only [addField]
      split <;> rfl

theorem addField_returned (groups : List Group) :
    (reader.addField body field).2.returned groups = body.returned groups := by
  cases body <;> rfl

theorem addField_reported (file : Option String) (groups : List Group) :
    (reader.addField body field).2.reported file groups = body.reported file groups := by
  cases body <;> rfl

theorem addField_concluded (fields : Entries TypeModel) :
    (reader.addField body field).2.concluded (reader.addField body field).1.schema fields =
      body.concluded reader.schema (field.entry :: fields) := by
  cases body with
  | object name entries =>
      simp only [addField]
      split <;> rfl
  | operations kind =>
      simp only [addField]
      split <;> rfl

end Adding

/-! ### Reading group by group -/

section Reading

variable {allowance : Nat} {reader behind : Reader} {body : Body}

/-- A pass that adds a field has cut off the groups before the next declaration. -/
theorem ReadsGroups.again {declaration : Declaration} {field : Field}
    (precedes : reader.cursor.Precedes behind.cursor)
    (accounts : Accounts body (reader, none) (behind, some declaration))
    (parsed : Field.parse declaration.1 = .ok field) :
    (Pass.again (behind.addField body field)).Sound (·.1.cursor) ReadsGroups (reader, body) := by
  obtain ⟨first, isReturned, diagnostics, goesOn, left⟩ := accounts.of_some
  have sameCursor := addField_cursor behind body field
  refine ⟨?_, ?_⟩
  · show reader.cursor.Precedes (behind.addField body field).1.cursor
    rwa [sameCursor]
  · intro outcome reads
    have reaches := reads.reaches
    have succeeds := reads.succeeds
    have fails := reads.fails
    simp only [sameCursor, addField_returned, addField_reported, addField_concluded,
      addField_diagnostics] at reaches succeeds fails
    refine ⟨precedes.reaches.trans reaches, ?_, ?_⟩
    · intro succeeded
      obtain ⟨ended, groups, fields, grouped, allParsed, schema, allDiagnostics⟩ :=
        succeeds succeeded
      refine ⟨?_, first ++ groups, field :: fields, goesOn groups grouped, ?_, ?_, ?_⟩
      · rwa [BodyLines.Ended, left] at ended
      · rw [Body.returned_append, isReturned, List.map_append, allParsed, List.map_singleton, parsed]
        rfl
      · rw [schema, accounts.schema]
        rfl
      · rw [allDiagnostics, diagnostics, Body.reported_append, precedes.reaches.file,
          List.append_assoc]
    · intro error failed
      obtain ⟨groups, grouped, declaration', member, refused⟩ := fails error failed
      refine ⟨first ++ groups, goesOn groups grouped, declaration', ?_, refused⟩
      rw [Body.returned_append]
      exact List.mem_append_right _ member

theorem readsGroups_bodyPass (state : Reader × Body)
    (enough : state.1.cursor.rest.length < allowance) :
    SoundPass (·.1.cursor) ReadsGroups (bodyPass allowance) state := by
  obtain ⟨reader, body⟩ := state
  obtain ⟨⟨behind, declaration⟩, read, accounts, forward⟩ := exists_accounts body enough
  cases declaration with
  | none =>
      obtain ⟨groups, noneReturned, diagnostics, grouped, ended⟩ := accounts.of_none
      refine ⟨.leave (.ok (), behind.endBody body), ?_, ?_, ?_, ?_⟩
      · simp only [bodyPass, read, Option.map_some]
      · rw [endBody_cursor]
        exact accounts.reaches
      · intro _
        refine ⟨?_, groups, [], grouped, ?_, ?_, ?_⟩
        · rwa [endBody_cursor]
        · rw [noneReturned]
          rfl
        · rw [← accounts.schema]
          cases body <;> rfl
        · rw [← diagnostics]
          cases body <;> rfl
      · intro _ failed
        cases failed
  | some declaration =>
      cases parsed : Field.parse declaration.1 with
      | error cause =>
          obtain ⟨first, isReturned, diagnostics, goesOn, left⟩ := accounts.of_some
          obtain ⟨later, grouped⟩ := exists_grouped body
            (Nat.lt_of_le_of_lt accounts.reaches.rest_le enough)
          refine ⟨.leave (.error ⟨behind.cursor.file, declaration.2, cause⟩, behind), ?_,
            accounts.reaches, ?_, ?_⟩
          · simp only [bodyPass, read, Option.map_some, parsed]
          · intro succeeded
            cases succeeded
          · rintro _ ⟨⟩
            refine ⟨first ++ later, goesOn later grouped, declaration, ?_, parsed⟩
            rw [Body.returned_append, isReturned]
            exact List.mem_cons_self
      | ok field =>
          refine ⟨.again (behind.addField body field), ?_,
            ReadsGroups.again (forward rfl) accounts parsed⟩
          simp only [bodyPass, read, Option.map_some, parsed]

theorem advance_enough (enough : reader.cursor.rest.length < allowance) :
    reader.advance.cursor.rest.length < allowance := by
  show reader.cursor.advance.rest.length < allowance
  rw [Cursor.rest_advance, List.length_tail]
  omega

theorem exists_readsGroups (body : Body) (enough : reader.cursor.rest.length < allowance) :
    ∃ outcome, reader.readBody allowance body = some outcome ∧
      ReadsGroups (reader.advance, body) outcome := by
  have fewer := advance_enough enough
  exact exists_loop (·.1.cursor) ReadsGroups (reader.advance, body) fewer
    fun next reaches => readsGroups_bodyPass next (Nat.lt_of_le_of_lt reaches.rest_le fewer)

end Reading

/-! ### The two readings -/

section Agreement

variable {allowance : Nat} {reader : Reader} {groups : List Group}

/-- A stray line is refused as a declaration, whole as it is. -/
theorem parse_of_stray (inline : ∀ line ∈ reader.cursor.rest, '\n' ∉ line)
    (grouped : Grouped (reader.cursor.bodyLines false).significant groups) {line : Declaration}
    (member : Group.stray line ∈ groups) :
    Field.parse line.1 = .error (.malformedDeclaration (String.ofList line.1)) := by
  obtain ⟨⟨unmatched, -⟩, significant⟩ := grouped.skipped_of_mem member
  obtain ⟨raw, among, trimmed, -⟩ := exists_of_mem_significant significant
  rw [trimmed, Text.trim_trim] at unmatched
  rw [trimmed]
  exact Field.parse_of_unmatched (fun feed => inline raw among (Text.mem_of_mem_trim feed)) unmatched

/-- Among declarations that are all read, none is refused. -/
theorem parse_ne_error {declarations : List Declaration} {fields : List Field}
    (parsed : declarations.map (fun declaration => Field.parse declaration.1) =
      fields.map Except.ok) {declaration : Declaration} (member : declaration ∈ declarations)
    (cause : DeclarationError) : Field.parse declaration.1 ≠ .error cause := by
  intro refused
  have listed : Field.parse declaration.1 ∈ fields.map Except.ok := by
    rw [← parsed]
    exact List.mem_map_of_mem member
  rw [refused] at listed
  simp at listed

/-- Where all declarations are read, the body is. -/
theorem ReadsGroups.succeeds_of_parsed {body : Body} {outcome : Outcome} {fields : List Field}
    (reads : ReadsGroups (reader, body) outcome)
    (grouped : Grouped (reader.cursor.bodyLines false).significant groups)
    (parsed : (body.returned groups).map (fun declaration => Field.parse declaration.1) =
      fields.map Except.ok) : outcome.1 = .ok () := by
  cases result : outcome.1 with
  | ok _ => rfl
  | error error =>
      obtain ⟨groups', grouped', declaration, member, refused⟩ := reads.fails error result
      obtain rfl := grouped.unique grouped'
      exact absurd refused (parse_ne_error parsed member error.cause)

section Outcomes

variable {name : String} {kind : OperationKind} {asOperations asObject : Outcome}
  (operations : ReadsGroups (reader, .operations kind) asOperations)
  (object : ReadsGroups (reader, .object name []) asObject)
  (inline : ∀ line ∈ reader.cursor.rest, '\n' ∉ line)
include operations object inline

/-- A block of operations that is read has no stray lines, and an object is read from the same
declarations to the same place. -/
theorem shared_of_operations (succeeded : asOperations.1 = .ok ()) :
    asObject.1 = .ok () ∧ asObject.2.journal.diagnostics = reader.journal.diagnostics ∧
      asOperations.2.cursor = asObject.2.cursor ∧
      ∃ groups, ∃ fields : List Field,
        Grouped (reader.cursor.bodyLines false).significant groups ∧ NoStrays groups ∧
        (groups.map Group.declaration).map (fun declaration => Field.parse declaration.1) =
          fields.map Except.ok ∧
        asOperations.2.schema = addOperations reader.schema kind (fields.map Field.entry) ∧
        asObject.2.schema = reader.schema.addType name
          (.object (Entries.insertAll [] (fields.map Field.entry)) .nullable) := by
  obtain ⟨ended, groups, fields, grouped, parsed, schema, -⟩ := operations.succeeds succeeded
  have noStrays : NoStrays groups := by
    intro line member
    exact parse_ne_error parsed (mem_returned_of_stray member) _
      (parse_of_stray inline grouped member)
  rw [noStrays.returned] at parsed
  have objectParsed : ((Body.object name []).returned groups).map
      (fun declaration => Field.parse declaration.1) = fields.map Except.ok := by
    rwa [noStrays.returned]
  have objectSucceeded := object.succeeds_of_parsed grouped objectParsed
  obtain ⟨ended', groups', fields', grouped', parsed', schema', diagnostics'⟩ :=
    object.succeeds objectSucceeded
  obtain rfl := grouped.unique grouped'
  obtain rfl : fields' = fields := by
    have same := parsed'.symm.trans objectParsed
    exact List.map_injective_iff.mpr (fun _ _ equal => Except.ok.inj equal) same
  rw [noStrays.reported, List.append_nil] at diagnostics'
  refine ⟨objectSucceeded, diagnostics', ?_, groups', fields', grouped', noStrays, parsed, schema,
    schema'⟩
  exact operations.reaches.eq_of_rest object.reaches (ended.unique ended')

theorem operations_succeed_iff :
    asOperations.1 = .ok () ↔ asObject.1 = .ok () ∧
      asObject.2.journal.diagnostics = reader.journal.diagnostics := by
  constructor
  · intro succeeded
    obtain ⟨objectSucceeded, noDiagnostics, -⟩ :=
      shared_of_operations operations object inline succeeded
    exact ⟨objectSucceeded, noDiagnostics⟩
  · rintro ⟨succeeded, noDiagnostics⟩
    obtain ⟨-, groups, fields, grouped, parsed, -, diagnostics⟩ := object.succeeds succeeded
    have nothing : (Body.object name []).reported reader.cursor.file groups = [] :=
      List.self_eq_append_right.mp (noDiagnostics.symm.trans diagnostics)
    have noStrays := noStrays_of_reported nothing
    apply operations.succeeds_of_parsed grouped
    rw [noStrays.returned] at parsed ⊢
    exact parsed

end Outcomes

/-- What the operations of a kind are once more have been added to none. -/
theorem get_addOperations_of_none {schema : Schema} {kind : OperationKind}
    (fresh : (schema.operations.get kind).entries = []) (more : Entries TypeModel) :
    ((addOperations schema kind more).operations.get kind).entries =
      Entries.insertAll [] more := by
  rw [Schema.addOperations_eq, ← fresh]
  cases kind <;> rfl

/-- A body is read as a block of operations exactly if it is read as that of an object without a
report. Then both readings end at the same place and have read the same declarations to the same
fields in the same order, so the operations of a fresh schema are the fields of the object. What
makes the difference is that a line which no rule places is no declaration. -/
theorem readBody_operations_iff_object (name : String) (kind : OperationKind)
    (enough : reader.cursor.rest.length < allowance)
    (inline : ∀ line ∈ reader.cursor.rest.tail, '\n' ∉ line) :
    (∃ asOperations asObject,
      reader.readBody allowance (.operations kind) = some asOperations ∧
      reader.readBody allowance (.object name []) = some asObject ∧
      (asOperations.1 = .ok () ↔ asObject.1 = .ok () ∧
        asObject.2.journal.diagnostics = reader.journal.diagnostics) ∧
      (asOperations.1 = .ok () → asOperations.2.cursor = asObject.2.cursor ∧
        ∃ declarations, ∃ fields : List Field,
          (reader.advance.declarations allowance (.operations kind)).map Prod.snd =
            some declarations ∧
          (reader.advance.declarations allowance (.object name [])).map Prod.snd =
            some declarations ∧
          declarations.map (fun declaration => Field.parse declaration.1) =
            fields.map Except.ok ∧
          asOperations.2.schema = addOperations reader.schema kind (fields.map Field.entry) ∧
          asObject.2.schema = reader.schema.addType name
            (.object (Entries.insertAll [] (fields.map Field.entry)) .nullable) ∧
          ((reader.schema.operations.get kind).entries = [] →
            (asOperations.2.schema.operations.get kind).entries =
              Entries.insertAll [] (fields.map Field.entry)))) ∧
      ∀ line, '\n' ∉ line → Text.trim line = line → classify line = .unmatched →
        Field.parse line = .error (.malformedDeclaration (String.ofList line)) := by
  have fewer := advance_enough enough
  have inlineBehind : ∀ line ∈ reader.advance.cursor.rest, '\n' ∉ line := by
    intro line member
    exact inline line (Cursor.rest_advance reader.cursor ▸ member)
  obtain ⟨asOperations, readOperations, operations⟩ := exists_readsGroups (.operations kind) enough
  obtain ⟨asObject, readObject, object⟩ := exists_readsGroups (.object name []) enough
  have agree := operations_succeed_iff operations object inlineBehind
  refine ⟨⟨asOperations, asObject, readOperations, readObject, agree, ?_⟩,
    fun line feed _ unmatched => Field.parse_of_unmatched feed unmatched⟩
  intro succeeded
  obtain ⟨-, -, sameCursor, groups, fields, grouped, noStrays, parsed, schema, schema'⟩ :=
    shared_of_operations operations object inlineBehind succeeded
  have found : ∀ body : Body, (reader.advance.declarations allowance body).map Prod.snd =
      some (groups.map Group.declaration) := by
    intro body
    obtain ⟨result, search, accountsAll⟩ := exists_declarations body fewer
    obtain ⟨groups', grouped', isReturned, -⟩ := accountsAll.groups
    obtain rfl := grouped.unique grouped'
    rw [search, Option.map_some, isReturned, noStrays.returned, List.nil_append]
  refine ⟨sameCursor, groups.map Group.declaration, fields, found _, found _, parsed, schema, schema',
    ?_⟩
  intro fresh
  rw [schema]
  exact get_addOperations_of_none fresh _

end Agreement

/-- Before the opener of a body whose fields are on one line and on two. -/
def atAlbum : Reader :=
  .start (.ofLines (["type Query \x7b", "album(", "id: ID): Album", "# of all", "count: Int!", "\x7d"].map
    String.toList)) .empty .empty

theorem readBody_album :
    atAlbum.cursor.rest.length < 7 ∧ (∀ line ∈ atAlbum.cursor.rest.tail, '\n' ∉ line) ∧
      ∃ asOperations asObject, ∃ fields : Entries TypeModel,
        atAlbum.readBody 7 (.operations .query) = some asOperations ∧
        atAlbum.readBody 7 (.object "Query" []) = some asObject ∧
        asOperations.1 = .ok () ∧ asOperations.2.cursor = asObject.2.cursor ∧
        (asOperations.2.schema.operations.get .query).entries = fields ∧
        asObject.2.schema = Schema.empty.addType "Query" (.object fields .nullable) ∧
        Entries.keys fields = ["album( id: ID)", "count"] := by
  have enough : atAlbum.cursor.rest.length < 7 := by decide
  have inline : ∀ line ∈ atAlbum.cursor.rest.tail, '\n' ∉ line := by decide
  obtain ⟨⟨asOperations, asObject, readOperations, readObject, agree, shared⟩, -⟩ :=
    readBody_operations_iff_object "Query" .query enough inline
  have objectRead : (atAlbum.readBody 7 (.object "Query" [])).map (fun outcome =>
      (outcome.1.isOk, outcome.2.journal.diagnostics)) = some (true, []) := by
    decide +kernel
  have operationsKeys : (atAlbum.readBody 7 (.operations .query)).map (fun outcome =>
      (outcome.2.schema.operations.get .query).keys) = some ["album( id: ID)", "count"] := by
    decide +kernel
  rw [readObject, Option.map_some, Option.some.injEq, Prod.mk.injEq] at objectRead
  rw [readOperations, Option.map_some, Option.some.injEq] at operationsKeys
  have succeeded : asOperations.1 = .ok () := by
    refine agree.mpr ⟨?_, objectRead.2⟩
    cases result : asObject.1 with
    | ok _ => rfl
    | error error => simp [result, Except.isOk, Except.toBool] at objectRead
  obtain ⟨sameCursor, declarations, fields, -, -, -, -, isObject, isMap⟩ := shared succeeded
  exact ⟨enough, inline, asOperations, asObject, _, readOperations, readObject, succeeded, sameCursor,
    rfl, isMap rfl ▸ isObject, operationsKeys⟩

end Reader

end SdlProjection
