import SdlProjection.Model.Field
import SdlProjection.Proofs.Pattern.Matching
import SdlProjection.Proofs.Text.Cutting

/-!
Contract: what stands before the type of a field.

Owns: the keys of fields, names with or without an argument list; `Field.Cut`, a
text with the key and the clause it is put together from; and that a text in
which at most one closing parenthesis stands before a colon can be cut in one
way only, by the grammar's rules for fields as by anyone else.

Does not own: the clause (`Proofs.Model.Clause`) and which of the rules matches
(`Proofs.Model.Declaration`).
-/

namespace SdlProjection

open Pattern

/-! ### Keys -/

/-- A name, perhaps followed directly by a text in parentheses. -/
inductive Field.IsKey : List Char → Prop
  | name {name : List Char} : Text.isName name = true → IsKey name
  | withArguments {name : List Char} (inner : List Char) : Text.isName name = true →
      IsKey (name ++ '(' :: (inner ++ [')']))

/-- A key and a clause, with a colon between them and perhaps blanks around the colon. -/
inductive Field.Cut : List Char → List Char → List Char → Prop
  | atColon {key gap after : List Char} (clause : List Char) : IsKey key →
      (∀ c ∈ gap, Text.isBlank c = true) → (∀ c ∈ after, Text.isBlank c = true) →
      Cut (key ++ (gap ++ ':' :: (after ++ clause))) key clause

/-- Every closing parenthesis has an opening one before it, and none stays open. -/
def nested (depth : Nat) : List Char → Bool
  | [] => depth == 0
  | c :: rest => (c != ')' || decide (0 < depth)) && nested (Field.depthAfter depth c) rest

/-- Some closing parenthesis is followed by a colon, blanks aside. -/
def closesBeforeColon : List Char → Bool
  | [] => false
  | c :: rest =>
    (c == ')' && (rest.dropWhile Text.isBlank).head? == some ':') || closesBeforeColon rest

/-- How many closing parentheses are followed by a colon, blanks aside. -/
def closingsBeforeColon : List Char → Nat
  | [] => 0
  | c :: rest =>
    closingsBeforeColon rest +
      if c = ')' ∧ (rest.dropWhile Text.isBlank).head? = some ':' then 1 else 0

/-- The mark that opens and closes a block description. -/
def blockMarker : List Char := ['"', '"', '"']

/-- The text between the parentheses of an argument list. None of its own closing parentheses
may look like the one before the type. -/
structure IsArguments (arguments : List Char) : Prop where
  inline : '\n' ∉ arguments
  noMarker : ¬blockMarker <:+: arguments
  closed : nested 0 arguments = true
  unambiguous : closesBeforeColon arguments = false

/-- The key of a field or an operation: a name, perhaps with an argument list. -/
inductive IsSignature : List Char → Prop
  | plain {name : List Char} : Text.isName name = true → IsSignature name
  | withArguments {name arguments : List Char} : Text.isName name = true →
      IsArguments arguments → IsSignature (name ++ '(' :: (arguments ++ [')']))

theorem Field.IsKey.exists_cons {key : List Char} (isKey : Field.IsKey key) :
    ∃ c later, key = c :: later ∧ Text.isNameStart c = true := by
  cases isKey with
  | name named => exact Text.exists_cons_of_isName named
  | withArguments _ named =>
      obtain ⟨c, later, rfl, starts⟩ := Text.exists_cons_of_isName named
      exact ⟨c, _, rfl, starts⟩

theorem IsSignature.isKey {signature : List Char} (isSignature : IsSignature signature) :
    Field.IsKey signature := by
  cases isSignature with
  | plain named => exact .name named
  | withArguments named _ => exact .withArguments _ named

theorem IsSignature.exists_cons {signature : List Char} (isSignature : IsSignature signature) :
    ∃ c later, signature = c :: later ∧ Text.isNameStart c = true :=
  isSignature.isKey.exists_cons

theorem IsSignature.inline {signature : List Char} (isSignature : IsSignature signature) :
    '\n' ∉ signature := by
  cases isSignature with
  | plain named => exact Text.not_mem_name named (by decide)
  | withArguments named isArguments =>
      simp only [List.mem_append, List.mem_cons, List.not_mem_nil, or_false, not_or]
      exact ⟨Text.not_mem_name named (by decide), by decide, isArguments.inline, by decide⟩

/-! ### Closing parentheses -/

theorem closingsBeforeColon_append_of_not_mem {front back : List Char} (open' : ')' ∉ front) :
    closingsBeforeColon (front ++ back) = closingsBeforeColon back := by
  induction front with
  | nil => rfl
  | cons c front inductionHypothesis =>
      simp only [List.mem_cons, not_or] at open'
      have notClosing : c ≠ ')' := Ne.symm open'.1
      simp [closingsBeforeColon, inductionHypothesis open'.2, notClosing]

theorem closingsBeforeColon_le_append (front back : List Char) :
    closingsBeforeColon back ≤ closingsBeforeColon (front ++ back) := by
  induction front with
  | nil => exact Nat.le_refl _
  | cons c front inductionHypothesis =>
      rw [List.cons_append, closingsBeforeColon]
      omega

theorem head?_dropWhile_gap {gap rest : List Char} (spaced : ∀ c ∈ gap, Text.isBlank c = true) :
    ((gap ++ ':' :: rest).dropWhile Text.isBlank).head? = some ':' := by
  rw [List.dropWhile_append_of_pos spaced, List.dropWhile_cons_of_neg (by decide)]
  rfl

theorem closingsBeforeColon_closing {gap rest : List Char}
    (spaced : ∀ c ∈ gap, Text.isBlank c = true) :
    closingsBeforeColon (')' :: (gap ++ ':' :: rest)) =
      closingsBeforeColon (gap ++ ':' :: rest) + 1 := by
  rw [closingsBeforeColon, head?_dropWhile_gap spaced]
  simp

/-- A text whose own closing parentheses stand before no colon adds none to those behind it. -/
theorem closingsBeforeColon_append {front back : List Char}
    (unambiguous : closesBeforeColon front = false)
    (notColon : (back.dropWhile Text.isBlank).head? ≠ some ':') :
    closingsBeforeColon (front ++ back) = closingsBeforeColon back := by
  induction front with
  | nil => rfl
  | cons c front inductionHypothesis =>
      rw [closesBeforeColon, Bool.or_eq_false_iff] at unambiguous
      have noColon : ¬(c = ')' ∧ ((front ++ back).dropWhile Text.isBlank).head? = some ':') := by
        rintro ⟨rfl, colon⟩
        rw [List.dropWhile_append] at colon
        split at colon
        · exact notColon colon
        · next something =>
            have inFront : (front.dropWhile Text.isBlank).head? = some ':' := by
              cases dropped : front.dropWhile Text.isBlank with
              | nil => simp [dropped] at something
              | cons d later => simpa [dropped] using colon
            simp [inFront] at unambiguous
      rw [List.cons_append, closingsBeforeColon, inductionHypothesis unambiguous.2, if_neg noColon]
      rfl

/-- The closing parenthesis of a signature is the only one before a colon. -/
theorem IsSignature.closingsBeforeColon_le {signature rest : List Char}
    (isSignature : IsSignature signature) (open' : ')' ∉ rest) :
    closingsBeforeColon (signature ++ ':' :: rest) ≤ 1 := by
  have openEnd : ')' ∉ ':' :: rest := by simpa using open'
  have nothing : closingsBeforeColon (':' :: rest) = 0 := by
    have none := @closingsBeforeColon_append_of_not_mem _ [] openEnd
    rwa [List.append_nil] at none
  cases isSignature with
  | plain named =>
      have nameOpen := Text.not_mem_name named (show Text.isNamePart ')' = false by decide)
      rw [closingsBeforeColon_append_of_not_mem nameOpen, nothing]
      exact Nat.zero_le 1
  | @withArguments name arguments named isArguments =>
      have nameOpen := Text.not_mem_name named (show Text.isNamePart ')' = false by decide)
      have startOpen : ')' ∉ name ++ ['('] := by simp [nameOpen]
      have regrouped : (name ++ '(' :: (arguments ++ [')'])) ++ ':' :: rest =
          (name ++ ['(']) ++ (arguments ++ ')' :: ([] ++ ':' :: rest)) := by simp
      have notColon : ((')' :: ([] ++ ':' :: rest)).dropWhile Text.isBlank).head? ≠ some ':' := by
        rw [List.dropWhile_cons_of_neg (by decide)]
        simp
      rw [regrouped, closingsBeforeColon_append_of_not_mem startOpen,
        closingsBeforeColon_append isArguments.unambiguous notColon,
        closingsBeforeColon_closing (by simp), List.nil_append, nothing]

/-! ### Where a text can be cut -/

section Cutting

variable {key key' gap gap' rest rest' : List Char}

theorem gap_inj (spaced : ∀ c ∈ gap, Text.isBlank c = true)
    (spaced' : ∀ c ∈ gap', Text.isBlank c = true)
    (same : gap ++ ':' :: rest = gap' ++ ':' :: rest') : gap = gap' ∧ rest = rest' := by
  have taken := congrArg (List.takeWhile Text.isBlank) same
  rw [List.takeWhile_append_of_pos spaced, List.takeWhile_append_of_pos spaced',
    List.takeWhile_cons_of_neg (by decide), List.takeWhile_cons_of_neg (by decide),
    List.append_nil, List.append_nil] at taken
  subst taken
  exact ⟨rfl, (List.cons.inj (List.append_cancel_left same)).2⟩

/-- Of two closing parentheses before a colon, the text would have two. -/
theorem eq_nil_of_closings {more : List Char} (spaced : ∀ c ∈ gap, Text.isBlank c = true)
    (spaced' : ∀ c ∈ gap', Text.isBlank c = true)
    (same : ')' :: (gap ++ ':' :: rest) = more ++ ')' :: (gap' ++ ':' :: rest'))
    (once : closingsBeforeColon (')' :: (gap ++ ':' :: rest)) ≤ 1) : more = [] := by
  cases more with
  | nil => rfl
  | cons c more =>
      have tails : gap ++ ':' :: rest = more ++ ')' :: (gap' ++ ':' :: rest') :=
        (List.cons.inj same).2
      have second := closingsBeforeColon_le_append more (')' :: (gap' ++ ':' :: rest'))
      rw [closingsBeforeColon_closing spaced'] at second
      rw [closingsBeforeColon_closing spaced, tails] at once
      omega

theorem arguments_unique {inner inner' : List Char} (spaced : ∀ c ∈ gap, Text.isBlank c = true)
    (spaced' : ∀ c ∈ gap', Text.isBlank c = true)
    (once : closingsBeforeColon (inner ++ ')' :: (gap ++ ':' :: rest)) ≤ 1)
    (same : inner ++ ')' :: (gap ++ ':' :: rest) = inner' ++ ')' :: (gap' ++ ':' :: rest')) :
    inner = inner' ∧ gap = gap' ∧ rest = rest' := by
  have sameInner : inner = inner' := by
    have once' := once
    rw [same] at once'
    rcases List.append_eq_append_iff.mp same with ⟨more, rfl, tails⟩ | ⟨more, rfl, tails⟩
    · have here := Nat.le_trans (closingsBeforeColon_le_append inner _) once
      rw [eq_nil_of_closings spaced spaced' tails here, List.append_nil]
    · have here := Nat.le_trans (closingsBeforeColon_le_append inner' _) once'
      rw [eq_nil_of_closings spaced' spaced tails here, List.append_nil]
  subst sameInner
  have tails := (List.cons.inj (List.append_cancel_left same)).2
  exact ⟨rfl, gap_inj spaced spaced' tails⟩

theorem nameEnds_gap (spaced : ∀ c ∈ gap, Text.isBlank c = true) :
    Text.NameEnds (gap ++ ':' :: rest) := by
  cases gap with
  | nil => exact Text.nameEnds_cons (by decide)
  | cons c gap => exact Text.nameEnds_cons_of_blank (spaced c List.mem_cons_self)

theorem gap_ne_opening (spaced : ∀ c ∈ gap, Text.isBlank c = true) {later : List Char} :
    gap ++ ':' :: rest ≠ '(' :: later := by
  intro same
  cases gap with
  | nil => exact absurd (List.cons.inj same).1 (by decide)
  | cons c gap =>
      have isBlank := spaced c List.mem_cons_self
      rw [(List.cons.inj same).1] at isBlank
      exact absurd isBlank (by decide)

/-- Two keys that begin a text are the same, or they have the same name and differ in where its
arguments end. -/
theorem key_cases (isKey : Field.IsKey key) (isKey' : Field.IsKey key')
    (spaced : ∀ c ∈ gap, Text.isBlank c = true) (spaced' : ∀ c ∈ gap', Text.isBlank c = true)
    (same : key ++ (gap ++ ':' :: rest) = key' ++ (gap' ++ ':' :: rest')) :
    (key = key' ∧ gap ++ ':' :: rest = gap' ++ ':' :: rest') ∨
      ∃ name inner inner', key = name ++ '(' :: (inner ++ [')']) ∧
        key' = name ++ '(' :: (inner' ++ [')']) ∧
        inner ++ ')' :: (gap ++ ':' :: rest) = inner' ++ ')' :: (gap' ++ ':' :: rest') := by
  have opening : ∀ {later : List Char}, Text.NameEnds ('(' :: later) :=
    Text.nameEnds_cons (by decide)
  cases isKey with
  | name named =>
      cases isKey' with
      | name named' =>
          exact .inl (Text.name_append_inj named named' (nameEnds_gap spaced)
            (nameEnds_gap spaced') same)
      | withArguments inner' named' =>
          rw [List.append_assoc] at same
          obtain ⟨-, tails⟩ :=
            Text.name_append_inj named named' (nameEnds_gap spaced) opening same
          exact absurd tails (gap_ne_opening spaced)
  | @withArguments name inner named =>
      simp only [List.append_assoc, List.cons_append, List.nil_append] at same
      cases isKey' with
      | name named' =>
          obtain ⟨-, tails⟩ :=
            Text.name_append_inj named named' opening (nameEnds_gap spaced') same
          exact absurd tails.symm (gap_ne_opening spaced')
      | withArguments inner' named' =>
          simp only [List.append_assoc, List.cons_append, List.nil_append] at same
          obtain ⟨rfl, tails⟩ := Text.name_append_inj named named' opening opening same
          exact .inr ⟨name, inner, inner', rfl, rfl, (List.cons.inj tails).2⟩

/-- The key and what follows the colon are settled by the text. -/
theorem key_unique (isKey : Field.IsKey key) (isKey' : Field.IsKey key')
    (spaced : ∀ c ∈ gap, Text.isBlank c = true) (spaced' : ∀ c ∈ gap', Text.isBlank c = true)
    (once : closingsBeforeColon (key ++ (gap ++ ':' :: rest)) ≤ 1)
    (same : key ++ (gap ++ ':' :: rest) = key' ++ (gap' ++ ':' :: rest')) :
    key = key' ∧ rest = rest' := by
  rcases key_cases isKey isKey' spaced spaced' same with
    ⟨rfl, tails⟩ | ⟨name, inner, inner', rfl, rfl, tails⟩
  · exact ⟨rfl, (gap_inj spaced spaced' tails).2⟩
  · have within := Nat.le_trans (closingsBeforeColon_le_append (name ++ ['(']) _)
      (show closingsBeforeColon ((name ++ ['(']) ++ (inner ++ ')' :: (gap ++ ':' :: rest))) ≤ 1 by
        simpa using once)
    obtain ⟨rfl, -, sameRest⟩ := arguments_unique spaced spaced' within tails
    exact ⟨rfl, sameRest⟩

theorem Field.Cut.key_eq {text clause clause' : List Char} (cut : Field.Cut text key clause)
    (cut' : Field.Cut text key' clause') (once : closingsBeforeColon text ≤ 1) : key = key' := by
  cases cut with
  | @atColon key gap after clause isKey spaced _ =>
      generalize same : key ++ (gap ++ ':' :: (after ++ clause)) = text at cut' once
      cases cut' with
      | atColon _ isKey' spaced' _ =>
          exact (key_unique isKey isKey' spaced spaced' (same ▸ once) same).1

/-- Of all ways to cut a text, the one with no closing parenthesis behind the colon has the longest
key. -/
theorem Field.Cut.eq_or_shorter {text clause clause' : List Char} (cut : Field.Cut text key clause)
    (cut' : Field.Cut text key' clause') (open' : ')' ∉ clause) :
    (key' = key ∧ clause'.dropWhile Text.isBlank = clause.dropWhile Text.isBlank) ∨
      key'.length < key.length := by
  cases cut with
  | @atColon key gap after clause isKey spaced followed =>
      generalize same : key ++ (gap ++ ':' :: (after ++ clause)) = text at cut'
      cases cut' with
      | @atColon key' gap' after' clause' isKey' spaced' followed' =>
          have sameClause : gap ++ ':' :: (after ++ clause) = gap' ++ ':' :: (after' ++ clause') →
              clause'.dropWhile Text.isBlank = clause.dropWhile Text.isBlank := by
            intro tails
            have dropped := congrArg (List.dropWhile Text.isBlank) (gap_inj spaced spaced' tails).2
            rw [List.dropWhile_append_of_pos followed,
              List.dropWhile_append_of_pos followed'] at dropped
            exact dropped.symm
          rcases key_cases isKey isKey' spaced spaced' same with
            ⟨rfl, tails⟩ | ⟨name, inner, inner', rfl, rfl, tails⟩
          · exact .inl ⟨rfl, sameClause tails⟩
          · rcases List.append_eq_append_iff.mp tails with ⟨more, rfl, behind⟩ | ⟨more, rfl, behind⟩
            · cases more with
              | nil => exact .inl ⟨by simp, sameClause (List.cons.inj behind).2⟩
              | cons c more =>
                  -- a later end of the arguments would stand behind the colon
                  have member : ')' ∈ gap ++ ':' :: (after ++ clause) := by
                    rw [(List.cons.inj behind).2]
                    simp
                  simp only [List.mem_append, List.mem_cons] at member
                  rcases member with inGap | isColon | inAfter | inClause
                  · exact absurd (spaced ')' inGap) (by decide)
                  · exact absurd isColon (by decide)
                  · exact absurd (followed ')' inAfter) (by decide)
                  · exact absurd inClause open'
            · cases more with
              | nil => exact .inl ⟨by simp, sameClause (List.cons.inj behind).2.symm⟩
              | cons c more =>
                  right
                  simp only [List.length_append, List.length_cons]
                  omega

/-- Two cuts with no closing parenthesis behind the colon leave the same clause. -/
theorem Field.Cut.clause_unique {text clause clause' : List Char}
    (cut : Field.Cut text key clause) (cut' : Field.Cut text key' clause') (open' : ')' ∉ clause)
    (openToo : ')' ∉ clause') :
    clause.dropWhile Text.isBlank = clause'.dropWhile Text.isBlank := by
  rcases cut.eq_or_shorter cut' open' with ⟨-, same⟩ | shorter
  · exact same.symm
  · rcases cut'.eq_or_shorter cut openToo with ⟨-, same⟩ | longer
    · exact same
    · omega

end Cutting

/-! ### The lead of a field -/

theorem matches_argumentList_iff {text : List Char} :
    Matches argumentList text ↔ ∃ inner, text = '(' :: (inner ++ [')']) ∧ '\n' ∉ inner := by
  constructor
  · intro matched
    obtain ⟨opening, rest, rfl, opens, later⟩ := matches_parts_cons_iff.mp matched
    obtain ⟨inner, end', rfl, content, last⟩ := matches_parts_cons_iff.mp later
    obtain ⟨closing, nothing, rfl, closes, none⟩ := matches_parts_cons_iff.mp last
    rw [matches_word_iff] at opens closes
    rw [matches_parts_nil_iff] at none
    subst opens closes none
    exact ⟨inner, rfl, matches_inlineText_iff.mp content⟩
  · intro enclosed
    rcases enclosed with ⟨inner, rfl, inline⟩
    exact (matches_word "(").seq ((matches_inlineText_iff.mpr inline).seq
      ((matches_word ")").seq .empty))

/-- A key on one line is what the grammar takes for a name with its arguments. -/
theorem matches_key_iff {key : List Char} :
    (∃ name arguments, key = name ++ arguments ∧ Matches Pattern.name name ∧
      Matches (optional argumentList) arguments) ↔ Field.IsKey key ∧ '\n' ∉ key := by
  constructor
  · rintro ⟨name, arguments, rfl, named, listed⟩
    rw [matches_name_iff] at named
    have inline : '\n' ∉ name := Text.not_mem_name named (by decide)
    rw [matches_optional_iff, matches_argumentList_iff] at listed
    rcases listed with ⟨inner, rfl, inlineInner⟩ | rfl
    · exact ⟨.withArguments inner named, by simp [inline, inlineInner]⟩
    · rw [List.append_nil]
      exact ⟨.name named, inline⟩
  · rintro ⟨isKey, inline⟩
    cases isKey with
    | name named =>
        exact ⟨key, [], (List.append_nil key).symm, matches_name_iff.mpr named, matches_skipped _⟩
    | @withArguments name inner named =>
        refine ⟨name, _, rfl, matches_name_iff.mpr named, .altLeft ?_⟩
        refine matches_argumentList_iff.mpr ⟨inner, rfl, ?_⟩
        intro member
        exact inline (by simp [member])

theorem matches_fieldLead_iff {text : List Char} :
    Matches fieldLead text ↔ ∃ indent key gap after,
      text = indent ++ (key ++ (gap ++ ':' :: after)) ∧
        (∀ c ∈ indent, Text.isBlank c = true) ∧ (Field.IsKey key ∧ '\n' ∉ key) ∧
        (∀ c ∈ gap, Text.isBlank c = true) ∧ ∀ c ∈ after, Text.isBlank c = true := by
  constructor
  · intro matched
    obtain ⟨indent, _, rfl, indented, matched⟩ := matches_parts_cons_iff.mp matched
    obtain ⟨name, _, rfl, named, matched⟩ := matches_parts_cons_iff.mp matched
    obtain ⟨arguments, _, rfl, listed, matched⟩ := matches_parts_cons_iff.mp matched
    obtain ⟨gap, _, rfl, spaced, matched⟩ := matches_parts_cons_iff.mp matched
    obtain ⟨colon, _, rfl, separated, matched⟩ := matches_parts_cons_iff.mp matched
    obtain ⟨after, nothing, rfl, followed, none⟩ := matches_parts_cons_iff.mp matched
    rw [matches_word_iff] at separated
    rw [matches_parts_nil_iff] at none
    subst separated none
    refine ⟨indent, name ++ arguments, gap, after, by simp, matches_many_iff.mp indented,
      matches_key_iff.mp ⟨name, arguments, rfl, named, listed⟩, matches_many_iff.mp spaced,
      matches_many_iff.mp followed⟩
  · rintro ⟨indent, key, gap, after, rfl, indented, isKey, spaced, followed⟩
    obtain ⟨name, arguments, rfl, named, listed⟩ := matches_key_iff.mpr isKey
    have first : Matches blanks indent := matches_many_iff.mpr indented
    have third : Matches blanks gap := matches_many_iff.mpr spaced
    have last : Matches blanks after := matches_many_iff.mpr followed
    have whole : Matches fieldLead _ := first.seq (named.seq (listed.seq (third.seq
      ((matches_word ":").seq (last.seq .empty)))))
    simpa using whole

/-- The tail does not begin with a blank, so that the blanks behind the colon belong to the
lead. -/
def StartsSolid (tail : Pattern) : Prop :=
  ∀ text, Matches tail text → ∃ c later, text = c :: later ∧ Text.isBlank c = false

/-- A lead at the front of a text that is cut leaves the clause and blanks before it. -/
theorem Field.Cut.rest_of_lead {text key clause front back : List Char}
    (cut : Field.Cut text key clause) (once : closingsBeforeColon text ≤ 1)
    (lead : Matches fieldLead front) (whole : text = front ++ back) :
    ∃ after after', after ++ clause = after' ++ back ∧ (∀ c ∈ after, Text.isBlank c = true) ∧
      ∀ c ∈ after', Text.isBlank c = true := by
  cases cut with
  | @atColon key gap after clause isKey spaced followed =>
      obtain ⟨indent, key', gap', after', rfl, indented, ⟨isKey', -⟩, spaced', followed'⟩ :=
        matches_fieldLead_iff.mp lead
      obtain ⟨c, later, isCons, starts⟩ := isKey.exists_cons
      have solid : ∀ d rest, key ++ (gap ++ ':' :: (after ++ clause)) = d :: rest →
          Text.isBlank d = false := by
        intro d rest same
        rw [isCons] at same
        rw [← (List.cons.inj same).1]
        exact Text.not_blank_of_isNameStart starts
      rw [List.append_assoc] at whole
      obtain rfl := Text.indent_eq_nil solid indented whole
      simp only [List.nil_append, List.append_assoc, List.cons_append] at whole
      obtain ⟨-, sameRest⟩ := key_unique isKey isKey' spaced spaced' once whole
      exact ⟨after, after', sameRest, followed, followed'⟩

/-- A clause that fits the tail makes the whole text fit the rule. -/
theorem Field.Cut.matches_of_tail {text key clause : List Char} (cut : Field.Cut text key clause)
    (inline : '\n' ∉ text) {tail : Pattern} (tailMatch : Matches tail clause) :
    Matches (.seq fieldLead tail) text := by
  cases cut with
  | @atColon key gap after clause isKey spaced followed =>
      have keyInline : '\n' ∉ key := fun member => inline (List.mem_append_left _ member)
      have lead : Matches fieldLead (key ++ (gap ++ ':' :: after)) :=
        matches_fieldLead_iff.mpr ⟨[], key, gap, after, rfl, by simp, ⟨isKey, keyInline⟩, spaced,
          followed⟩
      have whole := lead.seq tailMatch
      simpa using whole

/-- What follows the lead of a text that is cut is the clause. -/
theorem Field.Cut.matches_iff {text key clause : List Char} (cut : Field.Cut text key clause)
    (inline : '\n' ∉ text) (once : closingsBeforeColon text ≤ 1)
    (unindented : clause.dropWhile Text.isBlank = clause) {tail : Pattern}
    (startsSolid : StartsSolid tail) :
    Matches (.seq fieldLead tail) text ↔ Matches tail clause := by
  refine ⟨?_, cut.matches_of_tail inline⟩
  intro matched
  obtain ⟨front, back, whole, lead, tailMatch⟩ := matches_seq_iff.mp matched
  obtain ⟨after, after', same, followed, followed'⟩ := cut.rest_of_lead once lead whole
  obtain ⟨c, later, rfl, solid⟩ := startsSolid back tailMatch
  have dropped := congrArg (List.dropWhile Text.isBlank) same
  rw [List.dropWhile_append_of_pos followed, List.dropWhile_append_of_pos followed', unindented,
    List.dropWhile_cons_of_neg (by simp [solid])] at dropped
  rwa [dropped]

end SdlProjection
