import SdlProjection.Line.Definition
import SdlProjection.Proofs.Text.Cutting

/-!
Contract: the parts of a line with blanks around it.

Owns: `IgnoresBlanks`, that a reading of lines takes no note of a blank at either
end, so that it reads off a line what it reads off the trimmed line; and that
this holds of everything a definition line gives: its name, the members of a
union, the value of an enum line, the target of a root binding.

Does not own: the categories of lines (`Proofs.Line.Trimming`).
-/

namespace SdlProjection

/-- A reading that gives the same with one more blank before the line or after it. -/
structure IgnoresBlanks {α : Type} (read : List Char → α) : Prop where
  before : ∀ {b line}, Text.isBlank b = true → b ≠ '\n' → read (b :: line) = read line
  behind : ∀ {b line}, Text.isBlank b = true → b ≠ '\n' → read (line ++ [b]) = read line

theorem IgnoresBlanks.read_trim {α : Type} {read : List Char → α} (ignores : IgnoresBlanks read)
    {line : List Char} (inline : '\n' ∉ line) : read (Text.trim line) = read line := by
  have leading : ∀ {front : List Char} (rest : List Char), (∀ c ∈ front, Text.isBlank c = true) →
      '\n' ∉ front → read (front ++ rest) = read rest := by
    intro front rest blank inline
    induction front with
    | nil => rfl
    | cons c front inductionHypothesis =>
        rw [List.forall_mem_cons] at blank
        rw [List.mem_cons, not_or] at inline
        rw [List.cons_append, ignores.before blank.1 (Ne.symm inline.1),
          inductionHypothesis blank.2 inline.2]
  have trailing : ∀ {tail : List Char} (text : List Char), (∀ c ∈ tail, Text.isBlank c = true) →
      '\n' ∉ tail → read (text ++ tail) = read text := by
    intro tail text blank inline
    induction tail generalizing text with
    | nil => rw [List.append_nil]
    | cons c tail inductionHypothesis =>
        rw [List.forall_mem_cons] at blank
        rw [List.mem_cons, not_or] at inline
        rw [List.append_cons, inductionHypothesis _ blank.2 inline.2,
          ignores.behind blank.1 (Ne.symm inline.1)]
  obtain ⟨front, tail, split, blankFront, blankTail⟩ := Text.exists_trimmed line
  rw [split, List.mem_append, List.mem_append, not_or, not_or] at inline
  calc
    read (Text.trim line) = read (Text.trim line ++ tail) :=
      (trailing _ blankTail inline.2.2).symm
    _ = read (front ++ (Text.trim line ++ tail)) := (leading _ blankFront inline.1).symm
    _ = read line := by rw [← split]

/-! ### Trimming -/

namespace Text

variable {text : List Char} {b : Char}

theorem dropWhile_isBlank_cons (blank : isBlank b = true) :
    (b :: text).dropWhile isBlank = text.dropWhile isBlank :=
  List.dropWhile_cons_of_pos blank

/-- A blank at the end goes with the rest if that is blank, and stays otherwise. -/
theorem dropWhile_isBlank_concat (blank : isBlank b = true) :
    (text ++ [b]).dropWhile isBlank =
      if text.dropWhile isBlank = [] then [] else text.dropWhile isBlank ++ [b] := by
  induction text with
  | nil => simp [blank]
  | cons c text inductionHypothesis =>
      by_cases first : isBlank c = true
      · rw [List.cons_append, dropWhile_isBlank_cons first, dropWhile_isBlank_cons first,
          inductionHypothesis]
      · rw [List.cons_append, List.dropWhile_cons_of_neg first, List.dropWhile_cons_of_neg first]
        simp

theorem trim_cons (blank : isBlank b = true) : trim (b :: text) = trim text := by
  rw [trim, dropWhile_isBlank_cons blank, ← trim]

theorem trim_concat (blank : isBlank b = true) : trim (text ++ [b]) = trim text := by
  rw [trim, dropWhile_isBlank_concat blank]
  split
  · next nothing => rw [trim, nothing]
  · rw [dropEndWhile_append_of_all (by simp [blank]), ← trim]

theorem ne_of_blank {c : Char} (blank : isBlank b = true) (solid : isBlank c = false) : b ≠ c := by
  rintro rfl
  rw [blank] at solid
  cases solid

/-- A name at the front of a text ends before the blank at the end. -/
theorem takeWhile_isNamePart_concat (blank : isBlank b = true) (text : List Char) :
    (text ++ [b]).takeWhile isNamePart = text.takeWhile isNamePart ∧
      (text ++ [b]).dropWhile isNamePart = text.dropWhile isNamePart ++ [b] := by
  have foreign := not_isNamePart_of_blank blank
  induction text with
  | nil => simp [foreign]
  | cons c text inductionHypothesis =>
      by_cases part : isNamePart c = true
      · simpa [part] using inductionHypothesis
      · simp [part]

theorem splitName?_concat (blank : isBlank b = true) (text : List Char) :
    splitName? (text ++ [b]) = (splitName? text).map fun split => (split.1, split.2 ++ [b]) := by
  cases text with
  | nil =>
      have notStart : ¬isNameStart b = true := by
        intro starts
        rw [not_blank_of_isNameStart starts] at blank
        cases blank
      simp [splitName?, notStart]
  | cons c text =>
      obtain ⟨taken, dropped⟩ := takeWhile_isNamePart_concat blank text
      rw [List.cons_append, splitName?, splitName?, taken, dropped]
      split <;> rfl

end Text

/-! ### Names of definitions -/

namespace Line

open Text

variable {line : List Char} {b : Char}

theorem afterWord?_concat_of_some {word rest : List Char} (found : afterWord? word line = some rest) :
    afterWord? word (line ++ [b]) = some (rest ++ [b]) := by
  fun_induction afterWord? word line with
  | case1 text =>
      cases found
      rw [afterWord?]
  | case2 c word => cases found
  | case3 word d text inductionHypothesis =>
      rw [List.cons_append, afterWord?, if_pos rfl, inductionHypothesis found]
  | case4 c word d text different => cases found

/-- A word that is not there can be completed by the last character, but nothing follows it. -/
theorem afterWord?_concat_of_none {word : List Char} (missing : afterWord? word line = none) :
    afterWord? word (line ++ [b]) = none ∨ afterWord? word (line ++ [b]) = some [] := by
  fun_induction afterWord? word line with
  | case1 text => cases missing
  | case2 c word =>
      rw [List.nil_append, afterWord?]
      split
      · cases word with
        | nil => exact .inr rfl
        | cons d word => exact .inl rfl
      · exact .inl rfl
  | case3 word d text inductionHypothesis =>
      rw [List.cons_append, afterWord?, if_pos rfl]
      exact inductionHypothesis missing
  | case4 c word d text different =>
      rw [List.cons_append, afterWord?, if_neg different]
      exact .inl rfl

theorem splitDefinition?_cons (keyword : String) (blank : isBlank b = true) :
    splitDefinition? keyword (b :: line) = splitDefinition? keyword line := by
  rw [splitDefinition?, dropWhile_isBlank_cons blank, ← splitDefinition?]

/-- A blank at the end of a definition belongs to what follows the name. -/
theorem splitDefinition?_concat (keyword : String) (blank : isBlank b = true) :
    splitDefinition? keyword (line ++ [b]) =
      (splitDefinition? keyword line).map fun split => (split.1, split.2 ++ [b]) := by
  rw [splitDefinition?, splitDefinition?, dropWhile_isBlank_concat blank]
  by_cases nothing : line.dropWhile isBlank = []
  · rw [if_pos nothing, nothing]
    cases keyword.toList <;> rfl
  · rw [if_neg nothing]
    cases found : afterWord? keyword.toList (line.dropWhile isBlank) with
    | none =>
        rcases @afterWord?_concat_of_none _ b _ found with missing | complete
        · rw [missing]
          rfl
        · rw [complete]
          rfl
    | some rest =>
        rw [afterWord?_concat_of_some found]
        cases rest with
        | nil => simp [blank, splitName?]
        | cons c rest =>
            by_cases separates : isBlank c = true
            · simp only [List.cons_append, separates, if_true, dropWhile_isBlank_concat blank]
              split
              · next ended => simp [ended, splitName?]
              · exact splitName?_concat blank _
            · simp [separates]

theorem definitionName_ignoresBlanks (keyword : String) :
    IgnoresBlanks (definitionName keyword) where
  before blank _ := by rw [definitionName, splitDefinition?_cons keyword blank, ← definitionName]
  behind {b line} blank _ := by
    rw [definitionName, definitionName, splitDefinition?_concat keyword blank]
    cases splitDefinition? keyword line <;> rfl

/-! ### Members, values and targets -/

/-- A character that does not separate goes to the last piece. -/
theorem exists_split_concat {separator : Char} (other : b ≠ separator) (line : List Char) :
    ∃ front last, split separator line = front ++ [last] ∧
      split separator (line ++ [b]) = front ++ [last ++ [b]] := by
  have notSeparator : ¬(b == separator) = true := by simpa using other
  induction line with
  | nil => exact ⟨[], [], rfl, by simp [split, notSeparator]⟩
  | cons c line inductionHypothesis =>
      obtain ⟨front, last, pieces, pieces'⟩ := inductionHypothesis
      by_cases separates : (c == separator) = true
      · refine ⟨[] :: front, last, ?_, ?_⟩
        · rw [split, if_pos separates, pieces, List.cons_append]
        · rw [List.cons_append, split, if_pos separates, pieces', List.cons_append]
      · rw [List.cons_append, split, split, if_neg separates, if_neg separates, pieces, pieces']
        cases front with
        | nil => exact ⟨[], c :: last, rfl, rfl⟩
        | cons piece front => exact ⟨(c :: piece) :: front, last, rfl, rfl⟩

theorem map_trim_split_cons {separator : Char} (blank : isBlank b = true) (other : b ≠ separator)
    (line : List Char) :
    (split separator (b :: line)).map trim = (split separator line).map trim := by
  obtain ⟨front, last, pieces, -⟩ := exists_split_concat other line
  rw [split, if_neg (by simpa using other), pieces]
  cases front with
  | nil => simp [trim_cons blank]
  | cons piece front => simp [trim_cons blank]

theorem map_trim_split_concat {separator : Char} (blank : isBlank b = true)
    (other : b ≠ separator) (line : List Char) :
    (split separator (line ++ [b])).map trim = (split separator line).map trim := by
  obtain ⟨front, last, pieces, pieces'⟩ := exists_split_concat other line
  rw [pieces, pieces', List.map_append, List.map_append, List.map_singleton, List.map_singleton,
    trim_concat blank]

theorem unionMembers_ignoresBlanks : IgnoresBlanks unionMembers where
  before blank _ := by
    rw [unionMembers, map_trim_split_cons blank (ne_of_blank blank (by decide)), ← unionMembers]
  behind blank _ := by
    rw [unionMembers, map_trim_split_concat blank (ne_of_blank blank (by decide)), ← unionMembers]

theorem unionDefinition_ignoresBlanks : IgnoresBlanks unionDefinition where
  before blank _ := by
    rw [unionDefinition, splitDefinition?_cons "union" blank, ← unionDefinition]
  behind {b line} blank inline := by
    rw [unionDefinition, unionDefinition, splitDefinition?_concat "union" blank]
    cases splitDefinition? "union" line with
    | none => rfl
    | some split =>
        obtain ⟨name, rest⟩ := split
        simp only [Option.map_some, dropWhile_isBlank_concat blank]
        cases after : rest.dropWhile isBlank with
        | nil => rfl
        | cons c members =>
            have sameMembers : unionMembers (members ++ [b]) = unionMembers members :=
              unionMembers_ignoresBlanks.behind blank inline
            by_cases equals : c = '='
            · subst equals
              simp [sameMembers, Ne.symm inline]
            · simp [equals]

theorem enumValue_ignoresBlanks : IgnoresBlanks enumValue where
  before {b line} blank _ := by
    have other : b ≠ '@' := ne_of_blank blank (by decide)
    simp [enumValue, Text.before, other, trim_cons blank]
  behind {b line} blank _ := by
    have other : b ≠ '@' := ne_of_blank blank (by decide)
    rw [enumValue, enumValue, Text.before, Text.before, List.takeWhile_append]
    split
    · next whole =>
        have kept : line.takeWhile (· != '@') = line :=
          (List.takeWhile_prefix _).eq_of_length whole
        simp [kept, other, trim_concat blank]
    · rfl

theorem after?_concat {separator : Char} (other : b ≠ separator) (line : List Char) :
    after? separator (line ++ [b]) = (after? separator line).map (· ++ [b]) := by
  induction line with
  | nil => simp [after?, other]
  | cons c line inductionHypothesis =>
      by_cases separates : c = separator
      · simp [after?, separates]
      · simp [after?, separates, inductionHypothesis]

theorem bindingTarget_ignoresBlanks : IgnoresBlanks bindingTarget where
  before {b line} blank _ := by
    have other : ¬(b == ':') = true := by simpa using ne_of_blank blank (by decide)
    rw [bindingTarget, after?, if_neg other, ← bindingTarget]
  behind {b line} blank _ := by
    rw [bindingTarget, bindingTarget, after?_concat (ne_of_blank blank (by decide))]
    cases after? ':' line with
    | none => rfl
    | some target => simp [trim_concat blank]

end Line

end SdlProjection
