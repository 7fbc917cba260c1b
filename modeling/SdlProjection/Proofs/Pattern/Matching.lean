import Mathlib.Data.List.Basic
import SdlProjection.Pattern

/-!
Contract: the matcher against the texts a pattern stands for.

Owns: what each form of pattern matches, that the matcher accepts exactly the
matching texts, and three ways to see at a glance that it does not: a start of
the text after which no state is left, a character that every match has, and
one that none has.

Does not own: the patterns of the line grammar.
-/

namespace SdlProjection.Pattern

variable {text : List Char}

/-! ### What each form matches -/

@[simp]
theorem matches_empty_iff : Matches .empty text ↔ text = [] := by
  constructor
  · intro matched
    cases matched
    rfl
  · rintro rfl
    exact .empty

@[simp]
theorem matches_one_iff {members : CharClass} :
    Matches (.one members) text ↔ ∃ c, members.holds c = true ∧ text = [c] := by
  constructor
  · intro matched
    cases matched with
    | one held => exact ⟨_, held, rfl⟩
  · rintro ⟨c, held, rfl⟩
    exact .one held

theorem matches_seq_iff {first second : Pattern} :
    Matches (.seq first second) text ↔
      ∃ front back, text = front ++ back ∧ Matches first front ∧ Matches second back := by
  constructor
  · intro matched
    cases matched with
    | seq front back => exact ⟨_, _, rfl, front, back⟩
  · intro split
    rcases split with ⟨front, back, rfl, first, second⟩
    exact .seq first second

theorem matches_alt_iff {left right : Pattern} :
    Matches (.alt left right) text ↔ Matches left text ∨ Matches right text := by
  constructor
  · intro matched
    cases matched with
    | altLeft matched => exact .inl matched
    | altRight matched => exact .inr matched
  · intro matched
    rcases matched with matched | matched
    · exact .altLeft matched
    · exact .altRight matched

theorem matches_optional_iff {body : Pattern} :
    Matches (optional body) text ↔ Matches body text ∨ text = [] := by
  rw [optional, matches_alt_iff, matches_empty_iff]

/-- The first character is one of the first part, unless that matches nothing at all. -/
theorem matches_seq_cons_iff {first second : Pattern} {c : Char} :
    Matches (.seq first second) (c :: text) ↔
      (∃ front back, text = front ++ back ∧ Matches first (c :: front) ∧ Matches second back) ∨
        (Matches first [] ∧ Matches second (c :: text)) := by
  rw [matches_seq_iff]
  constructor
  · intro split
    rcases split with ⟨front, back, whole, firstMatch, secondMatch⟩
    cases front with
    | nil =>
        right
        rw [List.nil_append] at whole
        exact ⟨firstMatch, whole ▸ secondMatch⟩
    | cons d front =>
        left
        simp only [List.cons_append, List.cons.injEq] at whole
        obtain ⟨rfl, rfl⟩ := whole
        exact ⟨front, back, rfl, firstMatch, secondMatch⟩
  · intro split
    rcases split with ⟨front, back, rfl, firstMatch, secondMatch⟩ | ⟨firstMatch, secondMatch⟩
    · exact ⟨c :: front, back, rfl, firstMatch, secondMatch⟩
    · exact ⟨[], c :: text, rfl, firstMatch, secondMatch⟩

/-- A repetition that starts with a character has a round that starts with it. -/
theorem matches_star_cons_iff {body : Pattern} {c : Char} :
    Matches (.star body) (c :: text) ↔
      ∃ front back, text = front ++ back ∧ Matches body (c :: front) ∧
        Matches (.star body) back := by
  constructor
  · intro matched
    generalize whole : c :: text = entire at matched
    generalize repetition : Pattern.star body = pattern at matched
    induction matched with
    | empty | one _ | seq _ _ _ _ | altLeft _ _ | altRight _ _ => cases repetition
    | starNil => cases whole
    | @starCons body' front back first later _ inductionHypothesis =>
        cases repetition
        cases front with
        | nil => exact inductionHypothesis whole rfl
        | cons d front =>
            simp only [List.cons_append, List.cons.injEq] at whole
            obtain ⟨rfl, rfl⟩ := whole
            exact ⟨front, back, rfl, first, later⟩
  · intro split
    rcases split with ⟨front, back, rfl, first, later⟩
    exact .starCons first later

/-- A text whose characters match one by one is a repetition. -/
theorem matches_star_of_forall {body : Pattern} (each : ∀ c ∈ text, Matches body [c]) :
    Matches (.star body) text := by
  induction text with
  | nil => exact .starNil
  | cons c text inductionHypothesis =>
      rw [List.forall_mem_cons] at each
      exact .starCons each.1 (inductionHypothesis each.2)

@[simp]
theorem matches_many_iff {members : CharClass} :
    Matches (many members) text ↔ ∀ c ∈ text, members.holds c = true := by
  induction text with
  | nil => simp [many, Matches.starNil]
  | cons c text inductionHypothesis =>
      rw [many, matches_star_cons_iff, List.forall_mem_cons, ← inductionHypothesis]
      constructor
      · rintro ⟨front, back, rfl, first, later⟩
        obtain ⟨d, held, same⟩ := matches_one_iff.mp first
        cases same
        exact ⟨held, later⟩
      · rintro ⟨held, later⟩
        exact ⟨[], text, rfl, .one held, later⟩

@[simp]
theorem matches_word_iff {expected : String} :
    Matches (word expected) text ↔ text = expected.toList := by
  rw [word]
  generalize expected.toList = characters
  induction characters generalizing text with
  | nil => simp
  | cons d characters inductionHypothesis =>
      rw [List.foldr_cons, matches_seq_iff]
      constructor
      · rintro ⟨front, back, rfl, first, later⟩
        obtain ⟨c, held, rfl⟩ := matches_one_iff.mp first
        have same : c = d := by simpa [CharClass.holds] using held
        rw [inductionHypothesis.mp later, same]
        rfl
      · rintro rfl
        exact ⟨[d], characters, rfl, .one (beq_self_eq_true d), inductionHypothesis.mpr rfl⟩

theorem matches_inlineText_iff : Matches inlineText text ↔ '\n' ∉ text := by
  rw [inlineText, matches_many_iff]
  constructor
  · intro held member
    exact absurd (held _ member) (by decide)
  · intro absent c member
    rw [CharClass.holds, bne_iff_ne]
    rintro rfl
    exact absent member

theorem matches_word (expected : String) : Matches (word expected) expected.toList :=
  matches_word_iff.mpr rfl

theorem matches_noBlanks : Matches blanks [] := .starNil

theorem matches_skipped (body : Pattern) : Matches (optional body) [] := .altRight .empty

@[simp]
theorem matches_name_iff : Matches name text ↔ Text.isName text = true := by
  rw [name, matches_seq_iff]
  cases text with
  | nil => simp [Text.isName]
  | cons c text =>
      simp only [Text.isName, Bool.and_eq_true, List.all_eq_true, matches_many_iff,
        matches_one_iff, CharClass.holds]
      constructor
      · rintro ⟨front, back, whole, ⟨d, held, rfl⟩, later⟩
        cases whole
        exact ⟨held, later⟩
      · rintro ⟨held, later⟩
        exact ⟨[c], text, rfl, ⟨c, held, rfl⟩, later⟩

@[simp]
theorem matches_parts_nil_iff : Matches (parts []) text ↔ text = [] := matches_empty_iff

theorem matches_parts_cons_iff {first : Pattern} {later : List Pattern} :
    Matches (parts (first :: later)) text ↔
      ∃ front back, text = front ++ back ∧ Matches first front ∧ Matches (parts later) back :=
  matches_seq_iff

/-! ### The matcher -/

theorem nullable_iff {pattern : Pattern} : pattern.nullable = true ↔ Matches pattern [] := by
  induction pattern with
  | empty => simp [nullable]
  | one members => simp [nullable]
  | seq first second firstHypothesis secondHypothesis =>
      simp only [nullable, Bool.and_eq_true, firstHypothesis, secondHypothesis, matches_seq_iff]
      constructor
      · rintro ⟨front, back⟩
        exact ⟨[], [], rfl, front, back⟩
      · rintro ⟨front, back, whole, first, second⟩
        obtain ⟨rfl, rfl⟩ := List.nil_eq_append_iff.mp whole
        exact ⟨first, second⟩
  | alt left right leftHypothesis rightHypothesis =>
      rw [nullable, Bool.or_eq_true, leftHypothesis, rightHypothesis, matches_alt_iff]
  | star body _ => simp [nullable, Matches.starNil]

theorem matches_andThen_iff {first second : Pattern} :
    Matches (first.andThen second) text ↔ Matches (.seq first second) text := by
  cases first with
  | empty => simp [andThen, matches_seq_iff]
  | one _ | seq _ _ | alt _ _ | star _ => exact Iff.rfl

/-- What may follow a character goes on with the same rest. -/
theorem matches_joined_iff {starts : List Pattern} {rest : Pattern} :
    (∃ next ∈ starts.map (·.andThen rest), Matches next text) ↔
      ∃ front back, text = front ++ back ∧ (∃ next ∈ starts, Matches next front) ∧
        Matches rest back := by
  simp only [List.mem_map]
  constructor
  · intro matched
    rcases matched with ⟨_, ⟨next, among, rfl⟩, joined⟩
    obtain ⟨front, back, rfl, nextMatch, later⟩ :=
      matches_seq_iff.mp (matches_andThen_iff.mp joined)
    exact ⟨front, back, rfl, ⟨next, among, nextMatch⟩, later⟩
  · intro split
    rcases split with ⟨front, back, rfl, ⟨next, among, nextMatch⟩, later⟩
    exact ⟨_, ⟨next, among, rfl⟩, matches_andThen_iff.mpr (.seq nextMatch later)⟩

/-- What may follow a character, put after it, is what matches with it in front. -/
theorem matches_cons_iff {pattern : Pattern} {c : Char} :
    Matches pattern (c :: text) ↔ ∃ next ∈ pattern.after c, Matches next text := by
  induction pattern generalizing text with
  | empty => simp [after]
  | one members =>
      by_cases held : members.holds c = true
      · simp [after, held, and_comm]
      · simp only [after, held, Bool.false_eq_true, ↓reduceIte, List.not_mem_nil, false_and,
          exists_false, iff_false, matches_one_iff, List.cons.injEq, not_exists]
        rintro d ⟨holds, rfl, -⟩
        exact held holds
  | seq first second firstHypothesis secondHypothesis =>
      have nullFirst : (∃ next ∈ if first.nullable then second.after c else [],
          Matches next text) ↔ Matches first [] ∧ Matches second (c :: text) := by
        rw [secondHypothesis, ← nullable_iff]
        cases first.nullable <;> simp
      rw [matches_seq_cons_iff, ← nullFirst]
      simp only [after, List.mem_append, or_and_right, exists_or, matches_joined_iff,
        firstHypothesis]
  | alt left right leftHypothesis rightHypothesis =>
      simp only [after, List.mem_append, or_and_right, exists_or, matches_alt_iff,
        leftHypothesis, rightHypothesis]
  | star body bodyHypothesis =>
      rw [matches_star_cons_iff, after, matches_joined_iff]
      simp only [bodyHypothesis]

/-- The states after one more character, duplicates dropped. -/
def advance (states : List Pattern) (c : Char) : List Pattern :=
  (states.flatMap (after c)).foldr List.insert []

theorem mem_advance_iff {states : List Pattern} {c : Char} {next : Pattern} :
    next ∈ advance states c ↔ ∃ pattern ∈ states, next ∈ pattern.after c := by
  have kept : ∀ gathered : List Pattern,
      next ∈ gathered.foldr List.insert [] ↔ next ∈ gathered := by
    intro gathered
    induction gathered with
    | nil => simp
    | cons head tail inductionHypothesis => simp [inductionHypothesis]
  rw [advance, kept, List.mem_flatMap]

theorem anyMatch_iff {states : List Pattern} :
    anyMatch states text = true ↔ ∃ pattern ∈ states, Matches pattern text := by
  induction text generalizing states with
  | nil => simp [anyMatch, nullable_iff]
  | cons c text inductionHypothesis =>
      rw [anyMatch, ← advance, inductionHypothesis]
      constructor
      · rintro ⟨next, among, nextMatch⟩
        obtain ⟨pattern, present, follows⟩ := mem_advance_iff.mp among
        exact ⟨pattern, present, matches_cons_iff.mpr ⟨next, follows, nextMatch⟩⟩
      · rintro ⟨pattern, present, matched⟩
        obtain ⟨next, follows, nextMatch⟩ := matches_cons_iff.mp matched
        exact ⟨next, mem_advance_iff.mpr ⟨pattern, present, follows⟩, nextMatch⟩

/-- The matcher accepts exactly the texts the pattern stands for. -/
theorem accepts_iff {pattern : Pattern} : pattern.accepts text = true ↔ Matches pattern text := by
  simp [accepts, anyMatch_iff]

/-! ### Ruling a pattern out -/

/-- What may follow once the whole start has been read. -/
def statesAfter (states : List Pattern) (start : List Char) : List Pattern :=
  start.foldl advance states

theorem anyMatch_append {states : List Pattern} {start : List Char} :
    anyMatch states (start ++ text) = anyMatch (statesAfter states start) text := by
  induction start generalizing states with
  | nil => rfl
  | cons c start inductionHypothesis => exact inductionHypothesis

/-- Every match has the character. -/
def requires (c : Char) : Pattern → Bool
  | .empty => false
  | .one members => members == .exactly c
  | .seq first second => first.requires c || second.requires c
  | .alt left right => left.requires c && right.requires c
  | .star _ => false

theorem mem_of_requires {pattern : Pattern} {c : Char} (required : pattern.requires c = true)
    (matched : Matches pattern text) : c ∈ text := by
  induction matched with
  | empty | starNil | starCons _ _ _ _ => simp [requires] at required
  | one held =>
      simp only [requires, beq_iff_eq] at required
      subst required
      rw [CharClass.holds, beq_iff_eq] at held
      rw [held]
      exact List.mem_singleton_self c
  | seq _ _ firstHypothesis secondHypothesis =>
      rw [requires, Bool.or_eq_true] at required
      rw [List.mem_append]
      exact required.imp firstHypothesis secondHypothesis
  | altLeft _ inductionHypothesis =>
      rw [requires, Bool.and_eq_true] at required
      exact inductionHypothesis required.1
  | altRight _ inductionHypothesis =>
      rw [requires, Bool.and_eq_true] at required
      exact inductionHypothesis required.2

/-- No match has the character. -/
def lacks (c : Char) : Pattern → Bool
  | .empty => true
  | .one members => !members.holds c
  | .seq first second => first.lacks c && second.lacks c
  | .alt left right => left.lacks c && right.lacks c
  | .star body => body.lacks c

theorem not_mem_of_lacks {pattern : Pattern} {c : Char} (lacking : pattern.lacks c = true)
    (matched : Matches pattern text) : c ∉ text := by
  induction matched with
  | empty | starNil => exact List.not_mem_nil
  | one held =>
      rw [List.mem_singleton]
      rintro rfl
      simp [lacks, held] at lacking
  | seq _ _ firstHypothesis secondHypothesis =>
      rw [lacks, Bool.and_eq_true] at lacking
      rw [List.mem_append, not_or]
      exact ⟨firstHypothesis lacking.1, secondHypothesis lacking.2⟩
  | altLeft _ inductionHypothesis =>
      rw [lacks, Bool.and_eq_true] at lacking
      exact inductionHypothesis lacking.1
  | altRight _ inductionHypothesis =>
      rw [lacks, Bool.and_eq_true] at lacking
      exact inductionHypothesis lacking.2
  | starCons _ _ firstHypothesis laterHypothesis =>
      rw [List.mem_append, not_or]
      exact ⟨firstHypothesis lacking, laterHypothesis lacking⟩

/-- Every character that the pattern asks for is of one of the classes. -/
def within (allowed : List CharClass) : Pattern → Bool
  | .empty => true
  | .one members => allowed.contains members
  | .seq first second => first.within allowed && second.within allowed
  | .alt left right => left.within allowed && right.within allowed
  | .star body => body.within allowed

theorem exists_class_of_within {pattern : Pattern} {allowed : List CharClass}
    (inside : pattern.within allowed = true) (matched : Matches pattern text) {c : Char}
    (member : c ∈ text) : ∃ members ∈ allowed, members.holds c = true := by
  induction matched with
  | empty | starNil => cases member
  | one held =>
      rw [List.mem_singleton.mp member]
      exact ⟨_, List.contains_iff_mem.mp inside, held⟩
  | seq _ _ firstHypothesis secondHypothesis =>
      rw [within, Bool.and_eq_true] at inside
      rcases List.mem_append.mp member with inFront | inBack
      · exact firstHypothesis inside.1 inFront
      · exact secondHypothesis inside.2 inBack
  | altLeft _ inductionHypothesis =>
      rw [within, Bool.and_eq_true] at inside
      exact inductionHypothesis inside.1 member
  | altRight _ inductionHypothesis =>
      rw [within, Bool.and_eq_true] at inside
      exact inductionHypothesis inside.2 member
  | starCons _ _ firstHypothesis laterHypothesis =>
      rcases List.mem_append.mp member with inFront | inBack
      · exact firstHypothesis inside inFront
      · exact laterHypothesis inside inBack

/-- No text with that start and without those characters can match. -/
def ruledOut (start absent : List Char) (pattern : Pattern) : Bool :=
  (statesAfter [pattern] start).isEmpty || absent.any fun c => pattern.requires c

theorem not_accepts_of_ruledOut {start absent rest : List Char} {pattern : Pattern}
    (out : pattern.ruledOut start absent = true) (without : ∀ c ∈ absent, c ∉ start ++ rest) :
    pattern.accepts (start ++ rest) = false := by
  rw [ruledOut, Bool.or_eq_true, List.isEmpty_iff, List.any_eq_true] at out
  rw [← Bool.not_eq_true]
  intro accepted
  rcases out with stuck | ⟨c, listed, required⟩
  · rw [accepts, anyMatch_append, stuck, anyMatch_iff] at accepted
    simp at accepted
  · exact without c listed (mem_of_requires required (accepts_iff.mp accepted))

end SdlProjection.Pattern
