import Mathlib.Data.List.TakeWhile
import SdlProjection.Text.Blank
import SdlProjection.Text.Lines
import SdlProjection.Text.Name

/-!
Contract: cutting a text that was put together from known parts.

Owns: that trimming, splitting off a name, cutting into lines and cutting at a
separator give back the parts, as long as no part holds what the cut looks
for; and that the characters of names are neither blanks nor marks.
-/

namespace SdlProjection.Text

variable {text front tail rest : List Char}

/-! ### Trimming -/

theorem dropEndWhile_eq_nil {drop : Char → Bool} (dropped : ∀ c ∈ text, drop c = true) :
    dropEndWhile drop text = [] := by
  induction text with
  | nil => rfl
  | cons c text inductionHypothesis =>
      rw [List.forall_mem_cons] at dropped
      rw [dropEndWhile, inductionHypothesis dropped.2]
      simp [dropped.1]

theorem dropEndWhile_append_of_all {drop : Char → Bool} (dropped : ∀ c ∈ tail, drop c = true) :
    dropEndWhile drop (front ++ tail) = dropEndWhile drop front := by
  induction front with
  | nil => exact dropEndWhile_eq_nil dropped
  | cons c front inductionHypothesis =>
      rw [List.cons_append, dropEndWhile, dropEndWhile, inductionHypothesis]

/-- What is dropped is the end of the text, and all of it is to be dropped. -/
theorem exists_dropped (drop : Char → Bool) (text : List Char) :
    ∃ tail, text = dropEndWhile drop text ++ tail ∧ ∀ c ∈ tail, drop c = true := by
  induction text with
  | nil => exact ⟨[], rfl, by simp⟩
  | cons c text inductionHypothesis =>
      obtain ⟨tail, split, dropped⟩ := inductionHypothesis
      cases kept : dropEndWhile drop text with
      | nil =>
          rw [kept, List.nil_append] at split
          subst split
          by_cases dropsFirst : drop c = true
          · refine ⟨c :: text, ?_, List.forall_mem_cons.mpr ⟨dropsFirst, dropped⟩⟩
            simp [dropEndWhile, kept, dropsFirst]
          · exact ⟨text, by simp [dropEndWhile, kept, dropsFirst], dropped⟩
      | cons d later =>
          have whole : dropEndWhile drop (c :: text) = c :: d :: later := by
            rw [dropEndWhile, kept]
          rw [kept] at split
          refine ⟨tail, ?_, dropped⟩
          rw [whole, split]
          rfl

/-- A text stays if its last character is kept. -/
theorem dropEndWhile_concat {drop : Char → Bool} {last : Char} (kept : drop last = false) :
    dropEndWhile drop (front ++ [last]) = front ++ [last] := by
  induction front with
  | nil => simp [dropEndWhile, kept]
  | cons c front inductionHypothesis =>
      rw [List.cons_append, dropEndWhile, inductionHypothesis]
      cases front <;> rfl

theorem blank_spaces (count : Nat) : ∀ c ∈ List.replicate count ' ', isBlank c = true := by
  intro c member
  rw [List.eq_of_mem_replicate member]
  decide

/-- The text neither starts nor ends with a blank. -/
structure Flush (text : List Char) : Prop where
  first : ∀ c rest, text = c :: rest → isBlank c = false
  last : ∀ front c, text = front ++ [c] → isBlank c = false

theorem flush_of_no_blank (solid : ∀ c ∈ text, isBlank c = false) : Flush text where
  first := by
    rintro c rest rfl
    exact solid c List.mem_cons_self
  last := by
    rintro front c rfl
    exact solid c (List.mem_append_right front List.mem_cons_self)

/-- No blanks stand before a text that does not start with one. -/
theorem indent_eq_nil {indent later : List Char}
    (solid : ∀ c rest, text = c :: rest → isBlank c = false)
    (indented : ∀ c ∈ indent, isBlank c = true) (same : text = indent ++ later) : indent = [] := by
  cases indent with
  | nil => rfl
  | cons c indent =>
      have notBlank := solid c _ same
      rw [indented c List.mem_cons_self] at notBlank
      cases notBlank

theorem Flush.dropWhile_eq (flush : Flush text) : text.dropWhile isBlank = text := by
  cases text with
  | nil => rfl
  | cons c rest => rw [List.dropWhile_cons_of_neg (by simp [flush.first c rest rfl])]

theorem Flush.trim_eq (flush : Flush text) : trim text = text := by
  rw [trim, flush.dropWhile_eq]
  rcases List.eq_nil_or_concat text with rfl | ⟨front, last, rfl⟩
  · rfl
  · rw [List.concat_eq_append] at flush ⊢
    exact dropEndWhile_concat (flush.last front last rfl)

/-- Blanks at both ends are what trimming takes away. -/
theorem Flush.trim_between (flush : Flush text) (before : ∀ c ∈ front, isBlank c = true)
    (after : ∀ c ∈ tail, isBlank c = true) : trim (front ++ text ++ tail) = text := by
  have unindented : trim (front ++ text ++ tail) = dropEndWhile isBlank
      ((text ++ tail).dropWhile isBlank) := by
    rw [trim, List.append_assoc, List.dropWhile_append_of_pos before]
  rw [unindented]
  cases text with
  | nil =>
      rw [List.nil_append, List.dropWhile_eq_nil_iff.mpr after]
      rfl
  | cons c rest =>
      rw [List.cons_append, List.dropWhile_cons_of_neg (by simp [flush.first c rest rfl]),
        ← List.cons_append, dropEndWhile_append_of_all after]
      have trimmed := flush.trim_eq
      rwa [trim, flush.dropWhile_eq] at trimmed

/-- Only the two ends of a text matter. -/
theorem Flush.around (flush : Flush front) (flush' : Flush tail) (something : front ≠ [])
    (something' : tail ≠ []) (middle : List Char) : Flush (front ++ (middle ++ tail)) where
  first := by
    intro c rest same
    obtain ⟨d, front', rfl⟩ := List.exists_cons_of_ne_nil something
    rw [← (List.cons.inj same).1]
    exact flush.first d front' rfl
  last := by
    intro before c same
    rcases List.eq_nil_or_concat tail with nothing | ⟨tail', last, rfl⟩
    · exact absurd nothing something'
    · rw [List.concat_eq_append] at same flush'
      have regrouped : (front ++ (middle ++ tail')) ++ [last] = before ++ [c] := by simpa using same
      rw [← (List.append_singleton_inj.mp regrouped).2]
      exact flush'.last tail' last rfl

/-- What trimming takes away is blank. -/
theorem exists_trimmed (text : List Char) :
    ∃ front tail, text = front ++ (trim text ++ tail) ∧ (∀ c ∈ front, isBlank c = true) ∧
      ∀ c ∈ tail, isBlank c = true := by
  obtain ⟨tail, split, after⟩ := exists_dropped isBlank (text.dropWhile isBlank)
  refine ⟨text.takeWhile isBlank, tail, ?_, fun c member => List.mem_takeWhile_imp member, after⟩
  rw [trim, ← split, List.takeWhile_append_dropWhile]

theorem mem_of_mem_trim {c : Char} (member : c ∈ trim text) : c ∈ text := by
  obtain ⟨front, tail, split, -, -⟩ := exists_trimmed text
  rw [split]
  exact List.mem_append_right front (List.mem_append_left tail member)

theorem flush_trim (text : List Char) : Flush (trim text) := by
  obtain ⟨tail, split, after⟩ := exists_dropped isBlank (text.dropWhile isBlank)
  rw [← trim] at split
  constructor
  · intro c rest trimmed
    have solid := List.head?_dropWhile_not isBlank text
    rw [split, trimmed] at solid
    simpa using solid
  · intro front c trimmed
    have again : dropEndWhile isBlank (trim text ++ tail) = trim text := by
      rw [← split, trim]
    rw [dropEndWhile_append_of_all after] at again
    cases blank : isBlank c with
    | false => rfl
    | true =>
        -- a blank at the end would be dropped once more
        obtain ⟨tail', shorter, -⟩ := exists_dropped isBlank front
        rw [trimmed, dropEndWhile_append_of_all (by simp [blank])] at again
        have lengths := congrArg List.length shorter
        simp [again] at lengths

theorem trim_trim (text : List Char) : trim (trim text) = trim text :=
  (flush_trim text).trim_eq

theorem trim_eq_nil_iff : trim text = [] ↔ ∀ c ∈ text, isBlank c = true := by
  constructor
  · intro nothing c member
    obtain ⟨front, tail, split, before, after⟩ := exists_trimmed text
    rw [nothing, List.nil_append] at split
    rw [split, List.mem_append] at member
    exact member.elim (before c) (after c)
  · intro blank
    rw [trim, List.dropWhile_eq_nil_iff.mpr blank, dropEndWhile]

/-! ### Names -/

theorem isNamePart_of_isNameStart {c : Char} (starts : isNameStart c = true) :
    isNamePart c = true := by
  rw [isNameStart, Bool.or_eq_true] at starts
  rw [isNamePart, Char.isAlphanum, Bool.or_eq_true, Bool.or_eq_true]
  exact starts.imp_left .inl

theorem not_blank_of_isNamePart {c : Char} (part : isNamePart c = true) : isBlank c = false := by
  have bounds : 0x30 ≤ c.toNat ∧ c.toNat ≤ 0x7a := by
    rw [isNamePart] at part
    delta Char.isAlphanum Char.isAlpha Char.isUpper Char.isLower Char.isDigit at part
    simp only [Bool.or_eq_true, Bool.and_eq_true, decide_eq_true_eq, beq_iff_eq,
      UInt32.le_iff_toNat_le, ge_iff_le] at part
    change (((65 ≤ c.toNat ∧ c.toNat ≤ 90) ∨ (97 ≤ c.toNat ∧ c.toNat ≤ 122)) ∨
      (48 ≤ c.toNat ∧ c.toNat ≤ 57)) ∨ c = '_' at part
    rcases part with (((upper | lower) | digit) | rfl)
    · omega
    · omega
    · omega
    · decide
  simp only [isBlank, blankRanges, List.any_cons, List.any_nil, Bool.or_false, Bool.or_eq_false_iff,
    Bool.and_eq_false_iff, decide_eq_false_iff_not]
  omega

theorem not_isNamePart_of_blank {c : Char} (blank : isBlank c = true) : isNamePart c = false := by
  rw [← Bool.not_eq_true]
  intro part
  rw [not_blank_of_isNamePart part] at blank
  cases blank

theorem not_blank_of_isNameStart {c : Char} (starts : isNameStart c = true) :
    isBlank c = false :=
  not_blank_of_isNamePart (isNamePart_of_isNameStart starts)

theorem isName_cons {c : Char} :
    isName (c :: rest) = true ↔ isNameStart c = true ∧ ∀ d ∈ rest, isNamePart d = true := by
  simp [isName, List.all_eq_true]

theorem isNamePart_of_mem_name (named : isName text = true) {c : Char} (member : c ∈ text) :
    isNamePart c = true := by
  cases text with
  | nil => cases member
  | cons d rest =>
      obtain ⟨starts, parts⟩ := isName_cons.mp named
      rcases List.mem_cons.mp member with rfl | later
      · exact isNamePart_of_isNameStart starts
      · exact parts c later

/-- A character that no name has does not occur in one. -/
theorem not_mem_name (named : isName text = true) {c : Char} (foreign : isNamePart c = false) :
    c ∉ text := by
  intro member
  rw [isNamePart_of_mem_name named member] at foreign
  cases foreign

theorem exists_cons_of_isName (named : isName text = true) :
    ∃ c rest, text = c :: rest ∧ isNameStart c = true := by
  cases text with
  | nil => cases named
  | cons c rest => exact ⟨c, rest, rfl, (isName_cons.mp named).1⟩

theorem dropWhile_isBlank_name (named : isName text = true) (rest : List Char) :
    (text ++ rest).dropWhile isBlank = text ++ rest := by
  obtain ⟨c, more, rfl, starts⟩ := exists_cons_of_isName named
  rw [List.cons_append, List.dropWhile_cons_of_neg (by simp [not_blank_of_isNameStart starts])]

theorem flush_of_isName (named : isName text = true) : Flush text := by
  apply flush_of_no_blank
  intro c member
  exact not_blank_of_isNamePart (isNamePart_of_mem_name named member)

/-- The text does not go on with a character of a name. -/
def NameEnds (rest : List Char) : Prop :=
  ∀ c later, rest = c :: later → isNamePart c = false

theorem nameEnds_nil : NameEnds [] := by
  intro c later same
  cases same

theorem nameEnds_cons {c : Char} (foreign : isNamePart c = false) : NameEnds (c :: rest) := by
  intro d later same
  cases same
  exact foreign

theorem nameEnds_cons_of_blank {c : Char} (blank : isBlank c = true) : NameEnds (c :: rest) :=
  nameEnds_cons (not_isNamePart_of_blank blank)

theorem takeWhile_isNamePart (parts : ∀ c ∈ front, isNamePart c = true) (ends : NameEnds rest) :
    (front ++ rest).takeWhile isNamePart = front ∧
      (front ++ rest).dropWhile isNamePart = rest := by
  rw [List.takeWhile_append_of_pos parts, List.dropWhile_append_of_pos parts]
  cases rest with
  | nil => simp
  | cons c rest => simp [ends c rest rfl]

theorem splitName?_append (named : isName text = true) (ends : NameEnds rest) :
    splitName? (text ++ rest) = some (text, rest) := by
  cases text with
  | nil => cases named
  | cons c text =>
      obtain ⟨starts, parts⟩ := isName_cons.mp named
      obtain ⟨taken, dropped⟩ := takeWhile_isNamePart parts ends
      rw [List.cons_append, splitName?, if_pos starts, taken, dropped]

/-- The name that is split off is the start of the text. -/
theorem splitName?_eq_some {name : List Char} (split : splitName? text = some (name, rest)) :
    text = name ++ rest ∧ isName name = true := by
  cases text with
  | nil => cases split
  | cons c text =>
      rw [splitName?] at split
      split at split
      · next starts =>
          cases split
          refine ⟨?_, isName_cons.mpr ⟨starts, fun d member => List.mem_takeWhile_imp member⟩⟩
          rw [List.cons_append, List.takeWhile_append_dropWhile]
      · cases split

/-- Where a name ends is settled by the text. -/
theorem name_append_inj {name name' rest' : List Char} (named : isName name = true)
    (named' : isName name' = true) (ends : NameEnds rest) (ends' : NameEnds rest')
    (same : name ++ rest = name' ++ rest') : name = name' ∧ rest = rest' := by
  have first := splitName?_append named ends
  have second := splitName?_append named' ends'
  rw [same, second, Option.some.injEq, Prod.mk.injEq] at first
  exact ⟨first.1.symm, first.2.symm⟩

/-! ### Lines -/

/-- Text that can stand on a line: it has no line feed, nor a carriage return that would be
taken for a part of one. -/
structure OneLine (text : List Char) : Prop where
  noFeed : '\n' ∉ text
  noReturn : ∀ front, text ≠ front ++ ['\r']

theorem lines_append (oneLine : OneLine text) :
    lines (text ++ '\n' :: rest) = text :: lines rest := by
  obtain ⟨noFeed, noReturn⟩ := oneLine
  induction text with
  | nil => rw [List.nil_append, lines]
  | cons c text inductionHypothesis =>
      simp only [List.mem_cons, not_or] at noFeed
      have later := inductionHypothesis noFeed.2 (by
        rintro front rfl
        exact noReturn (c :: front) rfl)
      have inside : ¬(c = '\r' ∧ text = []) := by
        rintro ⟨rfl, rfl⟩
        exact noReturn [] rfl
      rw [List.cons_append, lines.eq_4 c _ (Ne.symm noFeed.1), later]
      intro more isReturn atEnd
      cases text with
      | nil => exact inside ⟨isReturn, rfl⟩
      | cons d text =>
          simp only [List.cons_append, List.cons.injEq] at atEnd
          exact noFeed.2 (by simp [atEnd.1])

theorem noFeed_of_mem_lines {line : List Char} (member : line ∈ lines text) : '\n' ∉ line := by
  fun_induction lines text generalizing line with
  | case1 => cases member
  | case2 rest inductionHypothesis =>
      rcases List.mem_cons.mp member with rfl | later
      · exact List.not_mem_nil
      · exact inductionHypothesis later
  | case3 rest inductionHypothesis =>
      rcases List.mem_cons.mp member with rfl | later
      · exact List.not_mem_nil
      · exact inductionHypothesis later
  | case4 c rest notFeed _ nothing _ =>
      rw [List.mem_singleton.mp member, List.mem_singleton]
      exact Ne.symm notFeed
  | case5 c rest notFeed _ line' later same inductionHypothesis =>
      rw [same, List.forall_mem_cons] at inductionHypothesis
      rcases List.mem_cons.mp member with rfl | among
      · rw [List.mem_cons, not_or]
        exact ⟨Ne.symm notFeed, inductionHypothesis.1⟩
      · exact inductionHypothesis.2 _ among

/-- The lines one after the other, each ended by a line feed. -/
def joinLines (all : List (List Char)) : List Char :=
  all.flatMap fun line => line ++ ['\n']

theorem lines_joinLines {all : List (List Char)} (oneLine : ∀ line ∈ all, OneLine line) :
    lines (joinLines all) = all := by
  induction all with
  | nil => rfl
  | cons line all inductionHypothesis =>
      rw [List.forall_mem_cons] at oneLine
      have later := inductionHypothesis oneLine.2
      rw [joinLines, List.flatMap_cons, ← joinLines, List.append_assoc, List.singleton_append,
        lines_append oneLine.1, later]

/-! ### Separators -/

variable {separator : Char}

theorem before_of_not_mem (absent : separator ∉ text) : before separator text = text := by
  rw [before, List.takeWhile_eq_self_iff]
  intro c member
  rw [bne_iff_ne]
  rintro rfl
  exact absent member

theorem before_append (absent : separator ∉ front) :
    before separator (front ++ separator :: rest) = front := by
  have kept : ∀ c ∈ front, (c != separator) = true := by
    intro c member
    rw [bne_iff_ne]
    rintro rfl
    exact absent member
  rw [before, List.takeWhile_append_of_pos kept]
  simp

theorem after?_append (absent : separator ∉ front) :
    after? separator (front ++ separator :: rest) = some rest := by
  induction front with
  | nil => simp [after?]
  | cons c front inductionHypothesis =>
      simp only [List.mem_cons, not_or] at absent
      have different : c ≠ separator := Ne.symm absent.1
      simp [after?, different, inductionHypothesis absent.2]

theorem split_of_not_mem (absent : separator ∉ text) : split separator text = [text] := by
  induction text with
  | nil => rfl
  | cons c text inductionHypothesis =>
      simp only [List.mem_cons, not_or] at absent
      have different : c ≠ separator := Ne.symm absent.1
      simp [split, different, inductionHypothesis absent.2]

theorem split_append (absent : separator ∉ front) :
    split separator (front ++ separator :: rest) = front :: split separator rest := by
  induction front with
  | nil => simp [split]
  | cons c front inductionHypothesis =>
      simp only [List.mem_cons, not_or] at absent
      have different : c ≠ separator := Ne.symm absent.1
      simp [split, different, inductionHypothesis absent.2]

end SdlProjection.Text
