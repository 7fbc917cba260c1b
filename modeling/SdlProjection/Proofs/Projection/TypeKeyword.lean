import SdlProjection.Proofs.Model.TypeClause
import SdlProjection.Proofs.Projection.Conformance
import SdlProjection.Proofs.Schema.Registering

/-!
Contract: the `type` keyword of a declared field.

Owns: that over the table of a text that was read, the node of a declared field is
that of an enum, or has a `type` keyword whose kind and whose `null` are those
of the field's type clause, whatever is being unfolded already.

Does not own: the rest of a node (`Proofs.Projection.Conformance`).
-/

namespace SdlProjection

/-- The kind of values that a clause stands for, where a bracket opens a list and anything else
names a scalar, an object or a custom scalar. -/
inductive ClauseKind (schema : Schema) (clause : List Char) : TypeModel → String → Prop
  | list {dimensionality : Dimensionality} {element : TypeModel}
      {inner nullability : Nullability} : clause.head? = some '[' →
      ClauseKind schema clause (.list dimensionality element inner nullability) "array"
  | object {target : String} {fields : List (String × TypeModel)} {nullability : Nullability} :
      clause.head? ≠ some '[' → schema.types.get? target = some (.object fields .nullable) →
      ClauseKind schema clause (.reference target nullability) "object"
  | customScalar {target : String} {nullability : Nullability} :
      clause.head? ≠ some '[' → schema.types.get? target = some .customScalar →
      ClauseKind schema clause (.reference target nullability) "string"
  | scalar {kind : ScalarKind} {nullability : Nullability} : clause.head? ≠ some '[' →
      ClauseKind schema clause (.scalar kind nullability) kind.jsonType

section References

variable {schema : Schema} {target : String} {entry : TypeModel}

/-- A nullable node of a kind takes the nullability of the reference to it. -/
theorem get?_referenceNode {kind : String} (named : isNullName kind = false)
    (nullability : Nullability) (others : List (String × Json)) :
    (referenceNode nullability (.obj (("type", kindDefinition kind .nullable) :: others))).get?
      "type" = some (kindDefinition kind nullability) := by
  cases nullability with
  | nullable => simp [referenceNode, Json.get?, Entries.get?]
  | nonNull => simp [referenceNode, narrowType_typed named, Json.get?, Entries.get?]

/-- The node of a reference is that of its entry, as a whole or cut off, with the reference's
nullability. -/
theorem node_expandBelow_reference (found : schema.types.get? target = some entry)
    (expanding : List String) (nullability : Nullability) :
    (schema.expandBelow expanding (.reference target nullability)).node =
        referenceNode nullability entry.shallowNode ∨
      ∃ allowance inside,
        (schema.expandBelow expanding (.reference target nullability)).node =
          referenceNode nullability
            (Expansion.unfold schema.types allowance inside entry).node := by
  obtain ⟨allowance, size⟩ : ∃ allowance, schema.types.size = allowance + 1 := by
    have listed := Entries.mem_of_get?_eq_some found
    exact Nat.exists_eq_succ_of_ne_zero (List.length_pos_of_mem listed).ne'
  rw [Schema.expandBelow, size, Expansion.unfold_reference _ _ _ _ found]
  split
  · exact .inl rfl
  · exact .inr ⟨allowance, target :: expanding, rfl⟩

/-- An entry for an enum leaves the node of the enum, whether it is cut off or not. -/
theorem node_reference_enumeration {values : List String}
    (found : schema.types.get? target = some (.enumeration values .nullable))
    (expanding : List String) (nullability : Nullability) :
    (schema.expandBelow expanding (.reference target nullability)).node = enumNode values := by
  have kept : referenceNode nullability (enumNode values) = enumNode values := by
    cases nullability with
    | nullable => rfl
    | nonNull => exact narrowType_enumNode values
  rcases node_expandBelow_reference found expanding nullability with
    cut | ⟨allowance, inside, whole⟩
  · rw [cut]
    exact kept
  · rw [whole, Expansion.unfold_enumeration]
    exact kept

/-- An entry of a kind leaves a node of that kind, whether it is cut off or not. -/
theorem get?_node_reference {kind : String} (named : isNullName kind = false)
    (found : schema.types.get? target = some entry)
    (shallow : ∃ others, entry.shallowNode =
      .obj (("type", kindDefinition kind .nullable) :: others))
    (whole : ∀ allowance expanding, ∃ others,
      (Expansion.unfold schema.types allowance expanding entry).node =
        .obj (("type", kindDefinition kind .nullable) :: others))
    (expanding : List String) (nullability : Nullability) :
    (schema.expandBelow expanding (.reference target nullability)).node.get? "type" =
      some (kindDefinition kind nullability) := by
  rcases node_expandBelow_reference found expanding nullability with cut | ⟨allowance, inside, same⟩
  · obtain ⟨others, isNode⟩ := shallow
    rw [cut, isNode, get?_referenceNode named]
  · obtain ⟨others, isNode⟩ := whole allowance inside
    rw [same, isNode, get?_referenceNode named]

end References

namespace Schema

variable {schema : Schema} {clause : List Char} {type : TypeModel} {node : Json}

/-- A name of the table does not open a list. -/
theorem Registered.head?_ne (registered : schema.Registered) {entry : TypeModel}
    (found : schema.types.get? (String.ofList (Text.dropEndWhile (· == '!') clause)) =
      some entry) : clause.head? ≠ some '[' := by
  intro opens
  have named := (registered _ _ found).1
  rw [String.toList_ofList] at named
  obtain ⟨later, rfl⟩ := List.head?_eq_some_iff.mp opens
  rw [Text.dropEndWhile] at named
  cases kept : Text.dropEndWhile (· == '!') later <;>
    simp [kept, Text.isName, Text.isNameStart] at named

theorem typeKeyword_of_readAs (registered : schema.Registered)
    (read : Field.ReadAs clause type) {expanding : List String}
    (projected : (schema.expandBelow expanding type).toNode = .ok node) :
    (∃ target values nullability, type = .reference target nullability ∧
        schema.types.get? target = some (.enumeration values .nullable) ∧ node = enumNode values) ∨
      ∃ kind, ClauseKind schema clause type kind ∧
        node.get? "type" = some (kindDefinition kind (Field.clauseMark clause)) := by
  obtain ⟨resolved, rfl⟩ := Expansion.toNode_eq_ok projected
  cases read with
  | scalar kind noBracket =>
      refine .inr ⟨kind.jsonType, .scalar noBracket, ?_⟩
      rw [expandBelow, Expansion.unfold_scalar]
      rfl
  | list dimensionality element inner bracket =>
      refine .inr ⟨"array", .list bracket, ?_⟩
      rw [expandBelow, Expansion.unfold_list]
      cases dimensionality <;> rfl
  | reference =>
      cases found : schema.types.get? (String.ofList (Text.dropEndWhile (· == '!') clause)) with
      | none =>
          refine absurd ?_ (resolved (String.ofList (Text.dropEndWhile (· == '!') clause)))
          have missing : ∀ allowance nullability, Expansion.unfold schema.types allowance expanding
              (.reference (String.ofList (Text.dropEndWhile (· == '!') clause)) nullability) =
                .unresolved (String.ofList (Text.dropEndWhile (· == '!') clause)) := by
            intro allowance nullability
            cases allowance <;> simp [Expansion.unfold, Expansion.unfoldModel, found]
          simp [expandBelow, missing, Expansion.stops]
      | some entry =>
          have noBracket := registered.head?_ne found
          have isEntry := (registered _ _ found).2
          cases isEntry with
          | enumeration values =>
              exact .inl ⟨_, values, _, rfl, found, node_reference_enumeration found expanding _⟩
          | object fields =>
              refine .inr ⟨"object", .object noBracket found, ?_⟩
              apply get?_node_reference (by decide) found ⟨[], rfl⟩
              intro allowance inside
              rw [Expansion.unfold_object]
              exact ⟨_, rfl⟩
          | customScalar =>
              refine .inr ⟨"string", .customScalar noBracket found, ?_⟩
              apply get?_node_reference (by decide) found ⟨[], rfl⟩
              intro allowance inside
              rw [TypeModel.customScalar, Expansion.unfold_scalar]
              exact ⟨[], rfl⟩

/-- Whatever names are being unfolded already, a declared field is projected over the table of a
text to the node of an enum, if it refers to one, or else to a node with a `type` keyword. The
keyword is a bare kind exactly if the type clause of the declaration ends with the mark, and the
kind is that of the clause. -/
theorem typeKeyword_of_declaration {text : String} {journal after : Journal}
    {declaration : List Char} {field : Field} {expanding : List String}
    (read : readText text journal = (.ok schema, after))
    (parsed : Field.parse declaration = .ok field)
    (projected : (schema.expandBelow expanding field.type).toNode = .ok node) :
    (∃ target values nullability, field.type = .reference target nullability ∧
        schema.types.get? target = some (.enumeration values .nullable) ∧
        node = enumNode values) ∨
      ∃ kind, ClauseKind schema (Field.typeClause declaration) field.type kind ∧
        node.get? "type" = some (if (Field.typeClause declaration).getLast? = some '!'
          then .str kind else .arr [.str kind, .str "null"]) := by
  rcases typeKeyword_of_readAs (registered_of_readText read) (Field.readAs_of_parse parsed)
    projected with isEnum | ⟨kind, isKind, keyword⟩
  · exact .inl isEnum
  · refine .inr ⟨kind, isKind, keyword.trans ?_⟩
    rw [Field.clauseMark]
    split <;> rfl

/-- A type that refers to itself. -/
def chainText : String := "type Chain \x7b\n  next: Chain!\n\x7d\n"

def chain : Schema :=
  empty.addType "Chain" (.object [("next", .reference "Chain" .nonNull)] .nullable)

theorem readText_chainText :
    readText chainText .empty = (.ok chain, (readText chainText .empty).2) := by
  have lines : Text.lines chainText.toList =
      ["type Chain \x7b".toList, "  next: Chain!".toList, "\x7d".toList] := by decide +kernel
  rw [readText, Cursor.ofText, lines]
  rfl

/-- Inside its own entry the reference is cut off, and still bare. -/
theorem typeKeyword_of_chain :
    readText chainText .empty = (.ok chain, (readText chainText .empty).2) ∧
      Field.parse "next: Chain! @deprecated".toList =
        .ok ⟨true, "next", .reference "Chain" .nonNull⟩ ∧
      ∃ node, (chain.expandBelow ["Chain"] (.reference "Chain" .nonNull)).toNode = .ok node ∧
        ∃ kind, ClauseKind chain "Chain!".toList (.reference "Chain" .nonNull) kind ∧
          node.get? "type" = some (.str kind) := by
  have parsed : Field.parse "next: Chain! @deprecated".toList =
      .ok ⟨true, "next", .reference "Chain" .nonNull⟩ := by rfl
  have clause : Field.typeClause "next: Chain! @deprecated".toList = "Chain!".toList := by
    decide +kernel
  have law := typeKeyword_of_declaration readText_chainText parsed
    (show (chain.expandBelow ["Chain"] (.reference "Chain" .nonNull)).toNode =
      .ok (.obj [("type", .str "object")]) from rfl)
  refine ⟨readText_chainText, parsed, _, rfl, ?_⟩
  rcases law with ⟨target, values, nullability, same, found, -⟩ | ⟨kind, isKind, keyword⟩
  · cases same
    cases found
  · rw [clause] at isKind keyword
    exact ⟨kind, isKind, keyword⟩

end Schema

end SdlProjection
