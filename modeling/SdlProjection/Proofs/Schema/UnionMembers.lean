import SdlProjection.Proofs.Fragment.Displacement
import SdlProjection.Proofs.Fragment.Remarks

/-!
Contract: the members of a union that follow its opener on lines of their own.

Owns: `UnionBody`, member lines and remarks in any order; and
`Fragment.parse_union`, which of the members are recorded: those before the first
remark. The member lines after it are reported, and everything else is read as if
neither they nor the remarks were there.

Does not own: what a remark is (`Proofs.Fragment.Remarks`), and the names on a
member line (`Line.Definition`).
-/

namespace SdlProjection

/-- Member lines and remarks in any order, with the numbers of the member lines. -/
inductive Interleaved : Nat → List (List Char) → List (List Char × Nat) → Prop
  | nil (number : Nat) : Interleaved number [] []
  | member {number : Nat} {line : List Char} {lines : List (List Char)}
      {members : List (List Char × Nat)} : classify line = .unionMember →
      Interleaved (number + 1) lines members →
      Interleaved number (line :: lines) ((line, number) :: members)
  | remark {number : Nat} {inserted lines : List (List Char)}
      {members : List (List Char × Nat)} : Insertion inserted →
      Interleaved (number + inserted.length) lines members →
      Interleaved number (inserted ++ lines) members

/-- The same, with the member lines before the first remark apart from those after it. -/
inductive UnionBody : Nat → List (List Char) → List (List Char) → List (List Char × Nat) → Prop
  | nil (number : Nat) : UnionBody number [] [] []
  | member {number : Nat} {line : List Char} {lines taken : List (List Char)}
      {late : List (List Char × Nat)} : classify line = .unionMember →
      UnionBody (number + 1) lines taken late →
      UnionBody number (line :: lines) (line :: taken) late
  | remark {number : Nat} {inserted lines : List (List Char)} {late : List (List Char × Nat)} :
      Insertion inserted → Interleaved (number + inserted.length) lines late →
      UnionBody number (inserted ++ lines) [] late

/-- What is taken is such a body itself, and the front of the whole. -/
theorem UnionBody.takenOnly {number : Nat} {body taken : List (List Char)}
    {late : List (List Char × Nat)} (isBody : UnionBody number body taken late) :
    UnionBody number taken taken [] ∧ taken <+: body := by
  induction isBody with
  | nil number => exact ⟨.nil number, List.prefix_rfl⟩
  | member isMember _ inductionHypothesis =>
      exact ⟨.member isMember inductionHypothesis.1,
        List.cons_prefix_cons.mpr ⟨rfl, inductionHypothesis.2⟩⟩
  | remark => exact ⟨.nil _, List.nil_prefix⟩

/-- The diagnostics of lines with numbers. -/
def lineReports (file : Option String) (lines : List (List Char × Nat)) : List Diagnostic :=
  lines.map fun line => ⟨file, line.2, String.ofList line.1⟩

namespace Fragment

section Lines

variable {fragment : Fragment} {file : Option String} {schema : Schema}
  {reported : List Diagnostic} {number : Nat} {line : List Char}

/-! ### Where a union may be open -/

theorem Declares.stands_closeUnion (declares : fragment.Declares schema reported) :
    fragment.closeUnion.Stands .top schema reported := by
  rcases declares with stands | ⟨name, members, before, stands, rfl⟩
  · simp only [closeUnion, stands.block]
    exact stands
  · simp only [closeUnion, stands.block]
    exact stands.close (by simp)

theorem Declares.noDescription (declares : fragment.Declares schema reported) :
    fragment.description = none := by
  rcases declares with stands | ⟨name, members, before, stands, -⟩
  · exact stands.description
  · exact stands.description

/-- A remark closes a union, and leaves no other trace but in the log. -/
theorem Declares.feed_insertion (declares : fragment.Declares schema reported)
    {inserted : List (List Char)} (insertion : Insertion inserted)
    (inline : ∀ line ∈ inserted, '\n' ∉ line) :
    (fragment.feed file number inserted).Stands .top schema reported := by
  obtain ⟨remarked, described⟩ := @remarked_feed_insertion fragment file number inserted insertion
    inline declares.noDescription
  have closed := declares.stands_closeUnion
  exact ⟨described, remarked.block.trans closed.block, remarked.schema.trans closed.schema,
    remarked.diagnostics.trans closed.reported⟩

/-- A member line goes on with an open union. -/
theorem Stands.step_member {name : String} {members : List String}
    (stands : fragment.Stands (.union name members) schema reported)
    (isMember : classify line = .unionMember) :
    (fragment.step file line number).Stands (.union name (members ++ Line.unionMembers line)) schema
      reported := by
  rw [step_of_union stands.description stands.block, if_pos isMember]
  exact ⟨stands.description, rfl, stands.schema, stands.reported⟩

/-! ### Where none is open -/

/-- A member line between definitions is reported. -/
theorem Stands.step_lateMember (stands : fragment.Stands .top schema reported)
    (isMember : classify line = .unionMember) (inline : '\n' ∉ line) :
    (fragment.step file line number).Stands .top schema
      (reported ++ lineReports file [(line, number)]) := by
  have notBlank : (Text.trim line).isEmpty = false := by
    rw [List.isEmpty_eq_false_iff]
    intro blank
    rw [classify_of_blank inline blank] at isMember
    cases isMember
  rw [step_of_top stands.description stands.block, topStep]
  simp only [isMember, report, notBlank, Bool.false_eq_true, if_false]
  refine ⟨stands.description, stands.block, stands.schema, ?_⟩
  rw [← stands.reported]
  rfl

/-- Of member lines and remarks between definitions, the member lines are reported. -/
theorem Stands.feed_interleaved (stands : fragment.Stands .top schema reported)
    {lines : List (List Char)} {members : List (List Char × Nat)}
    (interleaved : Interleaved number lines members) (inline : ∀ line ∈ lines, '\n' ∉ line) :
    (fragment.feed file number lines).Stands .top schema
      (reported ++ lineReports file members) := by
  induction interleaved generalizing fragment reported with
  | nil number =>
      rw [lineReports, List.map_nil, List.append_nil]
      exact stands
  | @member number line lines members isMember _ inductionHypothesis =>
      rw [List.forall_mem_cons] at inline
      have next := @Stands.step_lateMember _ file _ _ number _ stands isMember inline.1
      have last := inductionHypothesis next inline.2
      rwa [List.append_assoc] at last
  | @remark number inserted lines members insertion _ inductionHypothesis =>
      rw [List.forall_mem_append] at inline
      have declares : fragment.Declares schema reported := .inl stands
      rw [feed_append]
      exact inductionHypothesis (declares.feed_insertion insertion inline.1) inline.2

/-! ### The lines after the opener -/

/-- An open union takes the member lines before the first remark, and no others. -/
theorem Stands.feed_unionBody {name : String} {members : List String}
    (stands : fragment.Stands (.union name members) schema reported)
    {body taken : List (List Char)} {late : List (List Char × Nat)}
    (isBody : UnionBody number body taken late) (inline : ∀ line ∈ body, '\n' ∉ line) :
    (fragment.feed file number body).Declares
      (schema.addUnion name (members ++ taken.flatMap Line.unionMembers))
      (reported ++ lineReports file late) := by
  induction isBody generalizing fragment members with
  | nil number =>
      rw [lineReports, List.map_nil, List.append_nil, List.flatMap_nil, List.append_nil]
      exact .inr ⟨name, members, schema, stands, rfl⟩
  | @member number line lines taken late isMember _ inductionHypothesis =>
      rw [List.forall_mem_cons] at inline
      have next := @Stands.step_member _ file _ _ number _ _ _ stands isMember
      have last := inductionHypothesis next inline.2
      rwa [List.append_assoc] at last
  | @remark number inserted lines late insertion interleaved =>
      rw [List.forall_mem_append] at inline
      have declares : fragment.Declares (schema.addUnion name members) reported :=
        .inr ⟨name, members, schema, stands, rfl⟩
      have closed := @Declares.feed_insertion _ file _ _ number declares _ insertion inline.1
      rw [feed_append, List.flatMap_nil, List.append_nil]
      exact .inl (closed.feed_interleaved interleaved inline.2)

end Lines

/-! ### The lines after the union -/

section Back

variable {left right : Fragment} {file : Option String} {schema : Schema}
  {reported reported' : List Diagnostic} {back : List (List Char)}

/-- The next line, if any, does not go on with a union. -/
def EndsUnion (back : List (List Char)) : Prop :=
  ∀ line, back.head? = some line → classify line ≠ .unionMember

/-- Where the same is declared, the same lines are read in step, wherever they stand. -/
theorem Declares.lockstep_finish (declares : left.Declares schema reported)
    (declares' : right.Declares schema reported') (ended : EndsUnion back)
    (position count : Nat) :
    Lockstep (displacement file reported reported' (shifted position count))
      (left.feed file (position + 1) back).finish
      (right.feed file (position + 1 + count) back).finish := by
  have closed := declares.stands_closeUnion
  have closed' := declares'.stands_closeUnion
  have started : Lockstep (displacement file reported reported' (shifted position count))
      left.closeUnion right.closeUnion := closed.lockstep closed' rfl file
  have examined : left.Examines back := ⟨declares.noDescription, fun _ _ _ => ended⟩
  have examined' : right.Examines back := ⟨declares'.noDescription, fun _ _ _ => ended⟩
  rw [← feed_closeUnion_finish examined, ← feed_closeUnion_finish examined']
  exact (started.feed_shifted back).finish

end Back

section Unions

variable {cursor : Cursor} {front body taken back : List (List Char)} {opener : List Char}
  {late : List (List Char × Nat)} {schema : Schema} {reported : List Diagnostic}

/-- What is declared and reported after the lines of a union. -/
theorem declares_union (bindings : Schema) (journal : Journal)
    (declares : (after cursor bindings journal front).Declares schema reported)
    (isUnion : classify opener = .unionDefinition)
    (isBody : UnionBody (cursor.lineNumber + front.length + 1) body taken late)
    (inline : ∀ line ∈ body, '\n' ∉ line) :
    (after cursor bindings journal (front ++ opener :: body)).Declares
      (schema.addUnion (Line.unionDefinition opener).1
        ((Line.unionDefinition opener).2 ++ taken.flatMap Line.unionMembers))
      (reported ++ lineReports cursor.file late) := by
  rw [after_append, feed_cons]
  exact (declares.stands_union isUnion).feed_unionBody isBody inline

/-- The readings with all lines after the opener and with the ones that are taken alone are in
step. -/
theorem lockstep_union (bindings : Schema) (journal : Journal)
    (lines : cursor.rest = front ++ opener :: (body ++ back))
    (declares : (after cursor bindings journal front).Declares schema reported)
    (isUnion : classify opener = .unionDefinition)
    (isBody : UnionBody (cursor.lineNumber + front.length + 1) body taken late)
    (inline : ∀ line ∈ body, '\n' ∉ line) (ended : EndsUnion back) :
    Lockstep (displacement cursor.file reported (reported ++ lineReports cursor.file late)
        (shifted (cursor.passed.length + front.length + 1 + taken.length)
          (body.length - taken.length)))
      ((start bindings journal).run { cursor with rest := front ++ opener :: (taken ++ back) })
      ((start bindings journal).run cursor) := by
  obtain ⟨onlyTaken, isPrefix⟩ := isBody.takenOnly
  have shorter := isPrefix.length_le
  have whole := declares_union bindings journal declares isUnion isBody inline
  have reduced := declares_union bindings journal declares isUnion onlyTaken
    fun line member => inline line (isPrefix.subset member)
  rw [lineReports, List.map_nil, List.append_nil] at reduced
  have numbered : cursor.passed.length + front.length + 1 + taken.length + 1 =
      cursor.lineNumber + (front ++ opener :: taken).length := by
    simp only [Cursor.lineNumber, List.length_append, List.length_cons]
    omega
  have numbered' : cursor.lineNumber + (front ++ opener :: taken).length +
      (body.length - taken.length) = cursor.lineNumber + (front ++ opener :: body).length := by
    simp only [List.length_append, List.length_cons]
    omega
  have runs : ∀ (whole : Cursor) (middle : List (List Char)),
      whole.rest = front ++ opener :: (middle ++ back) → (start bindings journal).run whole =
        ((after whole bindings journal (front ++ opener :: middle)).feed whole.file
          (whole.lineNumber + (front ++ opener :: middle).length) back).finish := by
    intro whole middle isRest
    have regrouped : whole.rest = (front ++ opener :: middle) ++ back := by simp [isRest]
    rw [run_eq_after, regrouped, after_append]
  have lockstep := @Declares.lockstep_finish _ _ cursor.file _ _ _ back reduced whole ended
    (cursor.passed.length + front.length + 1 + taken.length) (body.length - taken.length)
  rw [numbered, numbered'] at lockstep
  rw [runs _ taken rfl, runs cursor body lines]
  exact lockstep

/-- Of the members on lines of their own, a union has those before the first remark. The member
lines after it are reported, and all else is read as if neither they nor the remarks were
there. -/
theorem parse_union (bindings : Schema) (journal : Journal)
    (lines : cursor.rest = front ++ opener :: (body ++ back))
    (declares : (after cursor bindings journal front).Declares schema reported)
    (isUnion : classify opener = .unionDefinition)
    (isBody : UnionBody (cursor.lineNumber + front.length + 1) body taken late)
    (inline : ∀ line ∈ body, '\n' ∉ line) (ended : EndsUnion back) :
    (after cursor bindings journal (front ++ opener :: body)).Declares
        (schema.addUnion (Line.unionDefinition opener).1
          ((Line.unionDefinition opener).2 ++ taken.flatMap Line.unionMembers))
        (reported ++ lineReports cursor.file late) ∧
      (parse cursor bindings journal).1 =
        (parse { cursor with rest := front ++ opener :: (taken ++ back) } bindings
          journal).1.mapError (FragmentError.renumbered (shifted
            (cursor.passed.length + front.length + 1 + taken.length)
            (body.length - taken.length))) ∧
      ∃ later, (parse { cursor with rest := front ++ opener :: (taken ++ back) } bindings
          journal).2.diagnostics = reported ++ later ∧
        (parse cursor bindings journal).2.diagnostics =
          reported ++ lineReports cursor.file late ++ later.map (Diagnostic.renumbered (shifted
            (cursor.passed.length + front.length + 1 + taken.length)
            (body.length - taken.length))) := by
  have lockstep := lockstep_union bindings journal lines declares isUnion isBody inline ended
  exact ⟨declares_union bindings journal declares isUnion isBody inline,
    lockstep.parse_renumbered id rfl⟩

end Unions

/-- A union with the given line between its first member and its second. -/
def mediaLines (between : List (List Char)) : List (List Char) :=
  "union Media =".toList :: ("| Photo".toList :: (between ++ ["| Video".toList]) ++
    ["scalar Url".toList])

/-- The member behind the comment is reported; the definition after it is read. -/
theorem parse_commentedMedia :
    (∃ schema, (parse (.ofLines (mediaLines ["# moving".toList])) .empty .empty).1 = .ok schema ∧
        schema.unions.get? "Media" = some ["Photo"] ∧ schema.types.keys = ["Url"]) ∧
      (parse (.ofLines (mediaLines ["# moving".toList])) .empty .empty).2.diagnostics =
        [⟨none, 4, "| Video"⟩] := by
  have isMember : classify "| Photo".toList = .unionMember ∧
      classify "| Video".toList = .unionMember := by decide +kernel
  have comment : Insertion ["# moving".toList] := .comment (by decide +kernel)
  have isBody : UnionBody 2 ("| Photo".toList :: (["# moving".toList] ++ ["| Video".toList]))
      ["| Photo".toList] [("| Video".toList, 4)] :=
    .member isMember.1 (.remark comment (.member isMember.2 (.nil 5)))
  have declares : (after (.ofLines (mediaLines ["# moving".toList])) .empty .empty []).Declares
      (Schema.inheriting .empty) [] := .inl ⟨rfl, rfl, rfl, rfl⟩
  obtain ⟨-, same, later, reported, reported'⟩ :=
    @parse_union (.ofLines (mediaLines ["# moving".toList])) [] _ _ ["scalar Url".toList] _ _ _ _
      .empty .empty rfl declares (by decide +kernel) isBody (by decide)
      (by rintro line ⟨⟩; decide +kernel)
  have reduced : ∃ schema, (parse (.ofLines ["union Media =".toList, "| Photo".toList,
      "scalar Url".toList]) .empty .empty).1 = .ok schema ∧
      schema.unions.get? "Media" = some ["Photo"] ∧ schema.types.keys = ["Url"] :=
    ⟨_, rfl, rfl, rfl⟩
  obtain ⟨schema, read, members, keys⟩ := reduced
  have nothing : later = [] := reported.symm
  refine ⟨⟨schema, ?_, members, keys⟩, ?_⟩
  · rw [same]
    exact congrArg (Except.mapError _) read
  · rw [reported', nothing]
    rfl

/-- A comment between two members takes the second one away from the union. -/
theorem comment_between_members :
    Insertion ["# moving".toList] ∧ classify "| Video".toList = .unionMember ∧
      (∃ schema, (parse (.ofLines (mediaLines [])) .empty .empty).1 = .ok schema ∧
        schema.unions.get? "Media" = some ["Photo", "Video"]) ∧
      ∃ schema, (parse (.ofLines (mediaLines ["# moving".toList])) .empty .empty).1 =
          .ok schema ∧
        schema.unions.get? "Media" = some ["Photo"] ∧
        (parse (.ofLines (mediaLines ["# moving".toList])) .empty .empty).2.diagnostics =
          [⟨none, 4, "| Video"⟩] :=
  ⟨.comment (by decide +kernel), by decide +kernel, ⟨_, rfl, rfl⟩, _, rfl, rfl, rfl⟩

end Fragment

end SdlProjection
