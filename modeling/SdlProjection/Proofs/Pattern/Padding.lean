import SdlProjection.Proofs.Pattern.Matching
import SdlProjection.Proofs.Text.Cutting

/-!
Contract: patterns that do not tell a padded text from the trimmed one.

Owns: a pattern read from its end, the two checks by which a blank at the front of
a text may be left out and put there, and that a pattern that passes both from
either end accepts a line exactly if it accepts the trimmed line.

Does not own: which rules pass (`Proofs.Line.Trimming`).
-/

namespace SdlProjection

/-- Some blank is a member. -/
def CharClass.admitsBlank : CharClass → Bool
  | .exactly c => Text.isBlank c
  | .blank | .inline | .any => true
  | .nameStart | .namePart => false

/-- Every blank within a line is a member. -/
def CharClass.admitsAllBlanks : CharClass → Bool
  | .blank | .inline | .any => true
  | .exactly _ | .nameStart | .namePart => false

theorem CharClass.admitsBlank_of_holds {members : CharClass} {c : Char}
    (blank : Text.isBlank c = true) (held : members.holds c = true) :
    members.admitsBlank = true := by
  have notPart : ¬Text.isNamePart c = true := by
    intro part
    rw [Text.not_blank_of_isNamePart part] at blank
    cases blank
  cases members with
  | exactly expected => exact beq_iff_eq.mp held ▸ blank
  | blank | inline | any => rfl
  | nameStart => exact absurd (Text.isNamePart_of_isNameStart held) notPart
  | namePart => exact absurd held notPart

theorem CharClass.holds_of_admitsAllBlanks {members : CharClass} {c : Char}
    (admits : members.admitsAllBlanks = true) (blank : Text.isBlank c = true)
    (inline : c ≠ '\n') : members.holds c = true := by
  cases members with
  | blank => exact blank
  | inline => exact bne_iff_ne.mpr inline
  | any => rfl
  | exactly _ | nameStart | namePart => cases admits

namespace Pattern

variable {text : List Char}

/-! ### Reading from the end -/

/-- The pattern of the reversed texts. -/
def flip : Pattern → Pattern
  | .empty => .empty
  | .one members => .one members
  | .seq first second => .seq second.flip first.flip
  | .alt left right => .alt left.flip right.flip
  | .star body => .star body.flip

theorem flip_flip (pattern : Pattern) : pattern.flip.flip = pattern := by
  induction pattern with
  | empty | one _ => rfl
  | seq first second firstHypothesis secondHypothesis =>
      simp only [flip, firstHypothesis, secondHypothesis]
  | alt left right leftHypothesis rightHypothesis =>
      simp only [flip, leftHypothesis, rightHypothesis]
  | star body bodyHypothesis => simp only [flip, bodyHypothesis]

/-- One more round at the end of a repetition. -/
theorem matches_star_concat {body : Pattern} {front back : List Char}
    (rounds : Matches (.star body) front) (round : Matches body back) :
    Matches (.star body) (front ++ back) := by
  generalize repetition : Pattern.star body = pattern at rounds
  induction rounds with
  | empty | one _ | seq _ _ _ _ | altLeft _ _ | altRight _ _ => cases repetition
  | starNil =>
      cases repetition
      rw [List.nil_append, ← List.append_nil back]
      exact .starCons round .starNil
  | starCons first _ _ inductionHypothesis =>
      cases repetition
      rw [List.append_assoc]
      exact .starCons first (inductionHypothesis rfl)

theorem matches_flip {pattern : Pattern} (matched : Matches pattern text) :
    Matches pattern.flip text.reverse := by
  induction matched with
  | empty => exact .empty
  | one held => exact .one held
  | seq _ _ firstHypothesis secondHypothesis =>
      rw [List.reverse_append]
      exact .seq secondHypothesis firstHypothesis
  | altLeft _ inductionHypothesis => exact .altLeft inductionHypothesis
  | altRight _ inductionHypothesis => exact .altRight inductionHypothesis
  | starNil => exact .starNil
  | starCons _ _ firstHypothesis laterHypothesis =>
      rw [List.reverse_append]
      exact matches_star_concat laterHypothesis firstHypothesis

theorem matches_flip_iff {pattern : Pattern} :
    Matches pattern.flip text.reverse ↔ Matches pattern text := by
  constructor
  · intro matched
    have back := matches_flip matched
    rwa [flip_flip, List.reverse_reverse] at back
  · exact matches_flip

/-! ### A blank at the front -/

def isOne : Pattern → Bool
  | .one _ => true
  | _ => false

theorem eq_nil_of_isOne {pattern : Pattern} {c : Char} (single : pattern.isOne = true)
    (matched : Matches pattern (c :: text)) : text = [] := by
  cases pattern with
  | one members =>
      obtain ⟨d, -, same⟩ := matches_one_iff.mp matched
      exact (List.cons.inj same).2
  | empty | seq _ _ | alt _ _ | star _ => cases single

/-- A blank at the front of a match may be left out. A single character that a blank can be is
left out if nothing may stand in its place. -/
def shedsBlank : Pattern → Bool
  | .empty => true
  | .one members => !members.admitsBlank
  | .seq first second => first.shedsBlank && (!first.nullable || second.shedsBlank)
  | .alt left right =>
    (left.shedsBlank || (left.isOne && right.nullable)) &&
      (right.shedsBlank || (right.isOne && left.nullable))
  | .star body => body.shedsBlank || body.isOne

theorem matches_of_shedsBlank {pattern : Pattern} {c : Char} (sheds : pattern.shedsBlank = true)
    (blank : Text.isBlank c = true) (matched : Matches pattern (c :: text)) :
    Matches pattern text := by
  induction pattern generalizing text with
  | empty => cases matched
  | one members =>
      obtain ⟨d, held, same⟩ := matches_one_iff.mp matched
      cases same
      have admits := CharClass.admitsBlank_of_holds blank held
      simp [shedsBlank, admits] at sheds
  | seq first second firstHypothesis secondHypothesis =>
      rw [shedsBlank, Bool.and_eq_true, Bool.or_eq_true, Bool.not_eq_true'] at sheds
      rcases matches_seq_cons_iff.mp matched with
        ⟨front, back, rfl, firstMatch, secondMatch⟩ | ⟨firstMatch, secondMatch⟩
      · exact .seq (firstHypothesis sheds.1 firstMatch) secondMatch
      · have nullable := nullable_iff.mpr firstMatch
        have secondSheds := sheds.2.resolve_left (by simp [nullable])
        exact .seq firstMatch (secondHypothesis secondSheds secondMatch)
  | alt left right leftHypothesis rightHypothesis =>
      simp only [shedsBlank, Bool.and_eq_true, Bool.or_eq_true] at sheds
      rcases matches_alt_iff.mp matched with ofLeft | ofRight
      · rcases sheds.1 with leftSheds | ⟨single, rightNullable⟩
        · exact .altLeft (leftHypothesis leftSheds ofLeft)
        · rw [eq_nil_of_isOne single ofLeft]
          exact .altRight (nullable_iff.mp rightNullable)
      · rcases sheds.2 with rightSheds | ⟨single, leftNullable⟩
        · exact .altRight (rightHypothesis rightSheds ofRight)
        · rw [eq_nil_of_isOne single ofRight]
          exact .altLeft (nullable_iff.mp leftNullable)
  | star body bodyHypothesis =>
      rw [shedsBlank, Bool.or_eq_true] at sheds
      obtain ⟨front, back, rfl, first, later⟩ := matches_star_cons_iff.mp matched
      rcases sheds with bodySheds | single
      · exact .starCons (bodyHypothesis bodySheds first) later
      · rw [eq_nil_of_isOne single first]
        exact later

/-- The pattern starts with a repetition that every blank within a line belongs to. -/
def takesBlank : Pattern → Bool
  | .empty | .one _ => false
  | .seq first second => first.takesBlank || (first == .empty && second.takesBlank)
  | .alt left right => left.takesBlank && right.takesBlank
  | .star (.one members) => members.admitsAllBlanks
  | .star _ => false

theorem matches_of_takesBlank {pattern : Pattern} {c : Char} (takes : pattern.takesBlank = true)
    (blank : Text.isBlank c = true) (inline : c ≠ '\n') (matched : Matches pattern text) :
    Matches pattern (c :: text) := by
  induction pattern generalizing text with
  | empty | one _ => cases takes
  | seq first second firstHypothesis secondHypothesis =>
      rw [takesBlank, Bool.or_eq_true, Bool.and_eq_true, beq_iff_eq] at takes
      obtain ⟨front, back, rfl, firstMatch, secondMatch⟩ := matches_seq_iff.mp matched
      rcases takes with firstTakes | ⟨rfl, secondTakes⟩
      · rw [← List.cons_append]
        exact .seq (firstHypothesis firstTakes firstMatch) secondMatch
      · rw [matches_empty_iff.mp firstMatch, List.nil_append, ← List.nil_append (c :: back)]
        exact .seq .empty (secondHypothesis secondTakes secondMatch)
  | alt left right leftHypothesis rightHypothesis =>
      rw [takesBlank, Bool.and_eq_true] at takes
      rcases matches_alt_iff.mp matched with ofLeft | ofRight
      · exact .altLeft (leftHypothesis takes.1 ofLeft)
      · exact .altRight (rightHypothesis takes.2 ofRight)
  | star body _ =>
      cases body with
      | one members =>
          have held := CharClass.holds_of_admitsAllBlanks takes blank inline
          exact @Matches.starCons _ [c] _ (.one held) matched
      | empty | seq _ _ | alt _ _ | star _ => cases takes

/-! ### Padding -/

/-- A blank at either end may be left out or put there. -/
def ignoresPadding (pattern : Pattern) : Bool :=
  pattern.shedsBlank && pattern.takesBlank && pattern.flip.shedsBlank && pattern.flip.takesBlank

theorem matches_append_iff {pattern : Pattern} {padding : List Char}
    (sheds : pattern.shedsBlank = true) (takes : pattern.takesBlank = true)
    (blank : ∀ c ∈ padding, Text.isBlank c = true) (inline : '\n' ∉ padding) :
    Matches pattern (padding ++ text) ↔ Matches pattern text := by
  induction padding with
  | nil => rfl
  | cons c padding inductionHypothesis =>
      rw [List.forall_mem_cons] at blank
      rw [List.mem_cons, not_or] at inline
      rw [← inductionHypothesis blank.2 inline.2, List.cons_append]
      constructor
      · exact matches_of_shedsBlank sheds blank.1
      · exact matches_of_takesBlank takes blank.1 (Ne.symm inline.1)

theorem accepts_trim {pattern : Pattern} (ignores : pattern.ignoresPadding = true)
    (inline : '\n' ∉ text) : pattern.accepts (Text.trim text) = pattern.accepts text := by
  simp only [ignoresPadding, Bool.and_eq_true] at ignores
  obtain ⟨⟨⟨sheds, takes⟩, endSheds⟩, endTakes⟩ := ignores
  obtain ⟨front, tail, split, blankFront, blankTail⟩ := Text.exists_trimmed text
  have inlineFront : '\n' ∉ front := by
    intro member
    exact inline (split ▸ List.mem_append_left _ member)
  have inlineTail : '\n' ∉ tail.reverse := by
    intro member
    exact inline (split ▸ List.mem_append_right _
      (List.mem_append_right _ (List.mem_reverse.mp member)))
  have blankReversed : ∀ c ∈ tail.reverse, Text.isBlank c = true :=
    fun c member => blankTail c (List.mem_reverse.mp member)
  rw [Bool.eq_iff_iff, accepts_iff, accepts_iff]
  calc
    Matches pattern (Text.trim text)
      ↔ Matches pattern.flip (Text.trim text).reverse := matches_flip_iff.symm
    _ ↔ Matches pattern.flip (tail.reverse ++ (Text.trim text).reverse) :=
        (matches_append_iff endSheds endTakes blankReversed inlineTail).symm
    _ ↔ Matches pattern (Text.trim text ++ tail) := by
        rw [← List.reverse_append, matches_flip_iff]
    _ ↔ Matches pattern (front ++ (Text.trim text ++ tail)) :=
        (matches_append_iff sheds takes blankFront inlineFront).symm
    _ ↔ Matches pattern text := by rw [← split]

end Pattern

end SdlProjection
