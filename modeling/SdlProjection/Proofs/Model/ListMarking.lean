import SdlProjection.Proofs.Model.TypeClause

/-!
Contract: the two places where a list is marked non-null.

Owns: that the mark at the end of a text is all that the outermost type hangs on,
for the rules of the marked shapes as well as for a list signature by itself; and
`Field.marking_agrees`: a list that has been read from a clause is marked already
where the shape of the clause would mark it, so the field is of the very type that
the signature was read to.

Does not own: the rules of the shapes (`Proofs.Line.Marking`) and which signatures
are read (`Proofs.Model.ListSignature`).
-/

namespace SdlProjection

/-- Blanks at the front do not bear on the last character. -/
theorem getLast?_trim (text : List Char) : (Text.trim text).getLast? = lastSolid? text := by
  obtain ⟨front, tail, split, -, blank⟩ := Text.exists_trimmed text
  rcases List.eq_nil_or_concat (Text.trim text) with nothing | ⟨start, last, ends⟩
  · have dropped : Text.dropEndWhile Text.isBlank text = [] :=
      Text.dropEndWhile_eq_nil (Text.trim_eq_nil_iff.mp nothing)
    rw [nothing, lastSolid?, dropped]
  · rw [List.concat_eq_append] at ends
    have solid : Text.isBlank last = false := (Text.flush_trim text).last start last ends
    have regrouped : text = (front ++ start) ++ last :: tail := by
      rw [ends] at split
      simpa using split
    have found : lastSolid? text = some last := by
      rw [regrouped]
      exact lastSolid?_append solid blank
    rw [ends, List.getLast?_concat, found]

namespace ListSignature

variable {signature : List Char} {type : TypeModel}

/-- A signature is read to a list, and that is non-null exactly if the signature ends with the
mark. -/
theorem nullability_of_parse (parsed : parse signature = .ok type) :
    (∃ dimensionality element inner outer, type = .list dimensionality element inner outer) ∧
      (type.nullability = .nonNull ↔ lastSolid? signature = some '!') := by
  rw [← getLast?_trim]
  simp only [parse] at parsed
  split at parsed
  · cases parsed
  · cases parsed
    refine ⟨⟨_, _, _, _, rfl⟩, ?_⟩
    show (if (Text.trim signature).getLast? = some '!' then Nullability.nonNull else .nullable) =
      .nonNull ↔ _
    by_cases marked : (Text.trim signature).getLast? = some '!'
    · simp [marked]
    · simp [marked]

end ListSignature

/-- A type that is non-null already is not changed by marking it. -/
theorem TypeModel.markNonNull_of_nonNull {type : TypeModel}
    (marked : type.nullability = .nonNull) : type.markNonNull = type := by
  cases type <;> (cases marked; rfl)

namespace Field

/-- A list keeps the nullability that its signature gives it. -/
theorem parse_of_listClause {declaration key clause : List Char} {type : TypeModel}
    (isList : classifyField? (essence declaration) = some .list)
    (split : split? (essence declaration) = some (key, clause))
    (parsed : ListSignature.parse clause = .ok type) :
    Field.parse declaration = .ok ⟨isDeprecated declaration, String.ofList key, type⟩ := by
  have something : clause.isEmpty = false := by
    cases clause with
    | nil => cases parsed
    | cons c rest => rfl
  have inline : '\n' ∉ clause := by
    intro feed
    have blank : Text.isBlank '\n' = false := ((typeClause_eq split).2 '\n' feed).not_blank
    cases blank
  have kept : (if (nullabilityShape clause).outerNonNull then type.markNonNull else type) =
      type := by
    by_cases marked : (nullabilityShape clause).outerNonNull = true
    · rw [if_pos marked]
      apply TypeModel.markNonNull_of_nonNull
      rw [(ListSignature.nullability_of_parse parsed).2, ← outerNonNull_iff inline]
      exact marked
    · rw [if_neg marked]
  simp only [Field.parse, isList, split, something, clauseType, parsed, kept]
  rfl

/-- The outermost type of a text on one line counts as marked exactly if the text ends with `!`,
blanks behind it aside, whatever else it holds. A list signature is therefore read to a non-null
list exactly where the shapes say so, and in a declaration the shape of the clause marks no list
that its signature has left nullable: the field has the type that the signature is read to. -/
theorem marking_agrees :
    (∀ text : List Char, '\n' ∉ text →
      ((nullabilityShape text).outerNonNull = true ↔
        (Text.dropEndWhile Text.isBlank text).getLast? = some '!')) ∧
    (∀ (signature : List Char) (type : TypeModel), '\n' ∉ signature →
      ListSignature.parse signature = .ok type →
        (∃ dimensionality element inner outer, type = .list dimensionality element inner outer) ∧
          (type.nullability = .nonNull ↔ (nullabilityShape signature).outerNonNull = true)) ∧
    ∀ (declaration key clause : List Char) (type : TypeModel),
      classifyField? (essence declaration) = some .list →
      split? (essence declaration) = some (key, clause) →
      ListSignature.parse clause = .ok type →
        Field.parse declaration = .ok ⟨isDeprecated declaration, String.ofList key, type⟩ := by
  refine ⟨fun text inline => outerNonNull_iff inline, ?_, ?_⟩
  · intro signature type inline parsed
    obtain ⟨isList, marked⟩ := ListSignature.nullability_of_parse parsed
    exact ⟨isList, marked.trans (outerNonNull_iff inline).symm⟩
  · intro declaration key clause type isList split parsed
    exact parse_of_listClause isList split parsed

/-- Rows and elements are marked and the list is not, in a declaration whose arguments and
directives are full of marks. -/
theorem marking_agrees_rows :
    '\n' ∉ "[[ int! ]!] ".toList ∧
      ListSignature.parse "[[ int! ]!] ".toList =
        .ok (.list .multi (.scalar .int .nonNull) .nonNull .nullable) ∧
      (nullabilityShape "[[ int! ]!] ".toList).outerNonNull = false ∧
      Field.parse "rows(of: [Int!]! = \"]!\"): [[int!]!] @old(by: \"!\")".toList =
        .ok ⟨false, "rows(of: [Int!]! = \"]!\")",
          .list .multi (.scalar .int .nonNull) .nonNull .nullable⟩ := by
  have parsed : ListSignature.parse "[[ int! ]!] ".toList =
      .ok (.list .multi (.scalar .int .nonNull) .nonNull .nullable) := rfl
  have inline : '\n' ∉ "[[ int! ]!] ".toList := by decide
  have parsedClause : ListSignature.parse "[[int!]!]".toList =
      .ok (.list .multi (.scalar .int .nonNull) .nonNull .nullable) := rfl
  have agrees := marking_agrees.2.1 _ _ inline parsed
  have read := marking_agrees.2.2 "rows(of: [Int!]! = \"]!\"): [[int!]!] @old(by: \"!\")".toList
    "rows(of: [Int!]! = \"]!\")".toList "[[int!]!]".toList _ (by decide +kernel)
    (by decide +kernel) parsedClause
  have unmarked : ¬(nullabilityShape "[[ int! ]!] ".toList).outerNonNull = true := by
    rw [← agrees.2]
    exact fun marked => nomatch marked
  exact ⟨inline, parsed, Bool.not_eq_true _ ▸ unmarked, read⟩

end Field

end SdlProjection
