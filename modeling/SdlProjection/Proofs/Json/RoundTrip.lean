import Mathlib.Tactic.SplitIfs
import SdlProjection.Json.Printer
import SdlProjection.Json.Reader

/-!
Contract: that the compact text of a JSON value is read as that value.

Owns: the law for strings, whatever characters they have, and from it the law
for `Textual` values, those that consist of null, booleans, strings, arrays and
objects. Each reader is followed with anything behind the text that it is to
read, and the length of that text bounds the budget that it needs.

Does not own: numbers, and what else a text may stand for.
-/

namespace SdlProjection.Json

/-! ### Strings -/

/-- The piece stands for the character on its own. -/
def Piece.Spells : Piece → Char → Prop
  | .char own, c => own = c
  | .unit value, c => value = c.toNat ∧ value < 0xd800

theorem joinPieces?_cons {piece : Piece} {c : Char} (spells : piece.Spells c)
    (pieces : List Piece) :
    joinPieces? (piece :: pieces) = (joinPieces? pieces).map (c :: ·) := by
  cases piece with
  | char own =>
      obtain rfl : own = c := spells
      rfl
  | unit value =>
      obtain ⟨rfl, small⟩ := spells
      have noSurrogate : ¬ (0xd800 ≤ c.toNat ∧ c.toNat ≤ 0xdfff) := by omega
      have noHigh : ¬ (0xd800 ≤ c.toNat ∧ c.toNat ≤ 0xdbff) := by omega
      have noLow : ¬ (0xdc00 ≤ c.toNat ∧ c.toNat ≤ 0xdfff) := by omega
      rcases pieces with _ | ⟨_ | _, rest⟩
      · simp [joinPieces?, noSurrogate]
      · simp [joinPieces?, noSurrogate, Function.comp_def]
      · simp [joinPieces?, noHigh, noLow]

theorem hexValue?_hexDigit : ∀ digit < 16, hexValue? (hexDigit digit) = some digit := by
  decide

/-- A character stands for itself, or has a short escape, or is written as a UTF-16 unit. -/
theorem escapeChar_cases (c : Char) :
    (∃ letter, escapeChar c = ['\\', letter] ∧ letter ≠ 'u' ∧ shortEscape? letter = some c) ∨
      (c.toNat < 0x20 ∧ escapeChar c =
        ['\\', 'u', '0', '0', hexDigit (c.toNat / 16), hexDigit (c.toNat % 16)]) ∨
      (escapeChar c = [c] ∧ ¬ c.toNat < 0x20 ∧ c ≠ '"' ∧ c ≠ '\\') := by
  unfold escapeChar
  split_ifs with quote backslash backspace formFeed lineFeed carriageReturn tab control
  · exact .inl ⟨'"', rfl, by decide, by rw [quote]; rfl⟩
  · exact .inl ⟨'\\', rfl, by decide, by rw [backslash]; rfl⟩
  · exact .inl ⟨'b', rfl, by decide, backspace ▸ rfl⟩
  · exact .inl ⟨'f', rfl, by decide, formFeed ▸ rfl⟩
  · exact .inl ⟨'n', rfl, by decide, lineFeed ▸ rfl⟩
  · exact .inl ⟨'r', rfl, by decide, carriageReturn ▸ rfl⟩
  · exact .inl ⟨'t', rfl, by decide, tab ▸ rfl⟩
  · exact .inr (.inl ⟨control, rfl⟩)
  · exact .inr (.inr ⟨rfl, control, quote, backslash⟩)

/-- What a character is written as is read as one piece, in front of whatever is read behind. -/
theorem readPieces_escapeChar (c : Char) :
    ∃ piece : Piece, piece.Spells c ∧ ∀ text pieces rest,
      readPieces text = some (pieces, rest) →
        readPieces (escapeChar c ++ text) = some (piece :: pieces, rest) := by
  rcases escapeChar_cases c with
    ⟨letter, written, short, escape⟩ | ⟨control, written⟩ | ⟨written, plain, noQuote, noEscape⟩
  · refine ⟨.char c, rfl, ?_⟩
    intro text pieces rest read
    rw [written]
    simp [readPieces, short, escape, read]
  · refine ⟨.unit c.toNat, ⟨rfl, by omega⟩, ?_⟩
    intro text pieces rest read
    have high := hexValue?_hexDigit (c.toNat / 16) (by omega)
    have low := hexValue?_hexDigit (c.toNat % 16) (by omega)
    have zero : hexValue? '0' = some 0 := by decide
    have value : c.toNat / 16 * 16 + c.toNat % 16 = c.toNat := by omega
    rw [written]
    simp [readPieces, hexUnit?, high, low, zero, value, read]
  · refine ⟨.char c, rfl, ?_⟩
    intro text pieces rest read
    rw [written]
    simp [readPieces, noEscape, plain, read]

theorem readPieces_escaped (chars rest : List Char) :
    ∃ pieces, readPieces (chars.flatMap escapeChar ++ '"' :: rest) = some (pieces, rest) ∧
      joinPieces? pieces = some chars := by
  induction chars with
  | nil => exact ⟨[], by simp [readPieces], rfl⟩
  | cons c chars inductionHypothesis =>
      obtain ⟨pieces, read, joined⟩ := inductionHypothesis
      obtain ⟨piece, spells, readFirst⟩ := readPieces_escapeChar c
      refine ⟨piece :: pieces, ?_, ?_⟩
      · rw [List.flatMap_cons, List.append_assoc]
        exact readFirst _ _ _ read
      · rw [joinPieces?_cons spells, joined]
        rfl

/-! ### Values -/

/-- Values that consist of null, booleans, strings, arrays and objects. -/
inductive Textual : Json → Prop
  | null : Textual .null
  | bool (value : Bool) : Textual (.bool value)
  | str (value : String) : Textual (.str value)
  | arr {items : List Json} : (∀ item ∈ items, Textual item) → Textual (.arr items)
  | obj {entries : List (String × Json)} : (∀ entry ∈ entries, Textual entry.2) →
      Textual (.obj entries)

/-- The value is read off its text, whatever stands behind it. -/
def Readable (json : Json) : Prop :=
  ∀ budget rest, (compact json).length ≤ budget →
    readValue budget (compact json ++ rest) = some (json, rest)

theorem readable_str (value : String) : Readable (.str value) := by
  intro budget rest enough
  obtain ⟨budget, rfl⟩ : ∃ less, budget = less + 1 := by
    refine Nat.exists_eq_succ_of_ne_zero ?_
    rintro rfl
    simp [compact, quote] at enough
  obtain ⟨pieces, read, joined⟩ := readPieces_escaped value.toList rest
  simp [compact, quote, readValue, read, joined]

/-- A value begins with a character that is neither a blank nor a closing bracket. -/
theorem Textual.begins {json : Json} (textual : Textual json) :
    ∃ first rest, compact json = first :: rest ∧ isGap first = false ∧ first ≠ ']' := by
  cases textual with
  | null => exact ⟨_, _, rfl, by decide, by decide⟩
  | bool value => cases value <;> exact ⟨_, _, rfl, by decide, by decide⟩
  | str value => exact ⟨'"', _, rfl, by decide, by decide⟩
  | arr items => exact ⟨'[', _, rfl, by decide, by decide⟩
  | obj entries => exact ⟨'\x7b', _, rfl, by decide, by decide⟩

theorem skipGaps_cons {first : Char} (noGap : isGap first = false) (rest : List Char) :
    skipGaps (first :: rest) = first :: rest := by
  simp [skipGaps, noGap]

theorem Textual.skipGaps_eq {json : Json} (textual : Textual json) (rest : List Char) :
    skipGaps (compact json ++ rest) = compact json ++ rest := by
  obtain ⟨first, behind, begins, noGap, -⟩ := textual.begins
  rw [begins, List.cons_append, skipGaps_cons noGap]

/-- The items begin with the first character of the first one. -/
theorem Textual.items_begin {item : Json} (textual : Textual item) (items : List Json)
    (rest : List Char) :
    ∃ first behind, compactItems (item :: items) ++ rest = first :: behind ∧
      isGap first = false ∧ first ≠ ']' := by
  obtain ⟨first, behind, begins, noGap, noBracket⟩ := textual.begins
  cases items with
  | nil =>
      rw [compactItems, begins]
      exact ⟨first, _, rfl, noGap, noBracket⟩
  | cons next items =>
      rw [compactItems, begins]
      exact ⟨first, _, rfl, noGap, noBracket⟩

/-- Of the budget, each item takes its length and one more for the comma or the bracket. -/
theorem readItems_compactItems {items : List Json} (notEmpty : items ≠ [])
    (textual : ∀ item ∈ items, Textual item) (readable : ∀ item ∈ items, Readable item)
    (budget : Nat) (rest : List Char) (enough : (compactItems items).length < budget) :
    readItems budget (compactItems items ++ ']' :: rest) = some (items, rest) := by
  induction items generalizing budget with
  | nil => exact absurd rfl notEmpty
  | cons item items inductionHypothesis =>
      obtain ⟨less, rfl⟩ := Nat.exists_eq_succ_of_ne_zero (Nat.ne_zero_of_lt enough)
      have readFirst := readable item List.mem_cons_self
      cases items with
      | nil =>
          simp only [compactItems] at enough ⊢
          have closed : skipGaps (']' :: rest) = ']' :: rest := skipGaps_cons (by decide) rest
          simp [readItems, readFirst less _ (by omega), closed]
      | cons next items =>
          simp only [compactItems, List.length_append, List.length_cons] at enough
          have others := inductionHypothesis (List.cons_ne_nil _ _)
            (fun item member => textual item (List.mem_cons_of_mem _ member))
            (fun item member => readable item (List.mem_cons_of_mem _ member)) less (by omega)
          obtain ⟨first, behind, begins, noGap, -⟩ :=
            (textual next (by simp)).items_begin items (']' :: rest)
          have comma : skipGaps (',' :: first :: behind) = ',' :: first :: behind :=
            skipGaps_cons (by decide) _
          have noBlanks : skipGaps (first :: behind) = first :: behind := skipGaps_cons noGap _
          rw [begins] at others
          rw [compactItems, List.append_assoc, List.cons_append, begins]
          simp [readItems, readFirst less _ (by omega), comma, noBlanks, others]

theorem compactEntries_begin (entry : String × Json) (entries : List (String × Json))
    (rest : List Char) :
    ∃ behind, compactEntries (entry :: entries) ++ rest = '"' :: behind := by
  cases entries with
  | nil => exact ⟨_, rfl⟩
  | cons next entries => exact ⟨_, rfl⟩

/-- Of the budget, each entry takes its length and one more for the comma or the brace. -/
theorem readEntries_compactEntries {entries : List (String × Json)} (notEmpty : entries ≠ [])
    (textual : ∀ entry ∈ entries, Textual entry.2)
    (readable : ∀ entry ∈ entries, Readable entry.2)
    (budget : Nat) (rest : List Char) (enough : (compactEntries entries).length < budget) :
    readEntries budget (compactEntries entries ++ '\x7d' :: rest) = some (some entries, rest) := by
  induction entries generalizing budget with
  | nil => exact absurd rfl notEmpty
  | cons entry entries inductionHypothesis =>
      obtain ⟨key, value⟩ := entry
      obtain ⟨less, rfl⟩ := Nat.exists_eq_succ_of_ne_zero (Nat.ne_zero_of_lt enough)
      have textualFirst : Textual value := textual (key, value) List.mem_cons_self
      have readFirst : Readable value := readable (key, value) List.mem_cons_self
      cases entries with
      | nil =>
          simp only [compactEntries, List.length_append, List.length_cons] at enough
          obtain ⟨pieces, read, joined⟩ :=
            readPieces_escaped key.toList (':' :: (compact value ++ '\x7d' :: rest))
          have colon := skipGaps_cons (by decide : isGap ':' = false)
            (compact value ++ '\x7d' :: rest)
          have closed := skipGaps_cons (by decide : isGap '\x7d' = false) rest
          simp [compactEntries, quote, readEntries, read, joined, colon, textualFirst.skipGaps_eq,
            readFirst less _ (by omega), closed]
      | cons next entries =>
          simp only [compactEntries, List.length_append, List.length_cons] at enough
          have others := inductionHypothesis (List.cons_ne_nil _ _)
            (fun entry member => textual entry (List.mem_cons_of_mem _ member))
            (fun entry member => readable entry (List.mem_cons_of_mem _ member)) less (by omega)
          obtain ⟨behind, begins⟩ := compactEntries_begin next entries ('\x7d' :: rest)
          rw [begins] at others
          obtain ⟨pieces, read, joined⟩ :=
            readPieces_escaped key.toList (':' :: (compact value ++ ',' :: '"' :: behind))
          have colon := skipGaps_cons (by decide : isGap ':' = false)
            (compact value ++ ',' :: '"' :: behind)
          have comma := skipGaps_cons (by decide : isGap ',' = false) ('"' :: behind)
          have noBlanks := skipGaps_cons (by decide : isGap '"' = false) behind
          rw [compactEntries, List.append_assoc, List.cons_append, begins]
          simp [quote, readEntries, read, joined, colon, textualFirst.skipGaps_eq,
            readFirst less _ (by omega), comma, noBlanks, others]

theorem Textual.readable {json : Json} (textual : Textual json) : Readable json := by
  induction textual with
  | str value => exact readable_str value
  | null =>
      intro budget rest enough
      obtain ⟨less, rfl⟩ := Nat.exists_eq_succ_of_ne_zero (Nat.ne_zero_of_lt enough)
      rfl
  | bool value =>
      intro budget rest enough
      cases value with
      | false =>
          obtain ⟨less, rfl⟩ := Nat.exists_eq_succ_of_ne_zero (Nat.ne_zero_of_lt enough)
          rfl
      | true =>
          obtain ⟨less, rfl⟩ := Nat.exists_eq_succ_of_ne_zero (Nat.ne_zero_of_lt enough)
          rfl
  | @arr items textual inductionHypothesis =>
      intro budget rest enough
      simp only [compact, List.length_append, List.length_cons, List.length_nil] at enough
      obtain ⟨less, rfl⟩ := Nat.exists_eq_succ_of_ne_zero (Nat.ne_zero_of_lt enough)
      cases items with
      | nil => rfl
      | cons item items =>
          have inner := readItems_compactItems (List.cons_ne_nil _ _) textual inductionHypothesis
            less rest (by omega)
          obtain ⟨first, behind, begins, noGap, noBracket⟩ :=
            (textual item List.mem_cons_self).items_begin items (']' :: rest)
          have noBlanks : skipGaps (first :: behind) = first :: behind := skipGaps_cons noGap _
          rw [begins] at inner
          have text : compact (.arr (item :: items)) ++ rest = '[' :: first :: behind := by
            rw [← begins]
            simp [compact]
          rw [text]
          simp [readValue, noBlanks, noBracket, inner]
  | @obj entries textual inductionHypothesis =>
      intro budget rest enough
      simp only [compact, List.length_append, List.length_cons, List.length_nil] at enough
      obtain ⟨less, rfl⟩ := Nat.exists_eq_succ_of_ne_zero (Nat.ne_zero_of_lt enough)
      cases entries with
      | nil => rfl
      | cons entry entries =>
          have inner := readEntries_compactEntries (List.cons_ne_nil _ _) textual
            inductionHypothesis less rest (by omega)
          obtain ⟨behind, begins⟩ := compactEntries_begin entry entries ('\x7d' :: rest)
          have noBlanks : skipGaps ('"' :: behind) = '"' :: behind := skipGaps_cons (by decide) _
          rw [begins] at inner
          have text : compact (.obj (entry :: entries)) ++ rest = '\x7b' :: '"' :: behind := by
            rw [← begins]
            simp [compact]
          rw [text]
          simp [readValue, noBlanks, inner]

/-- The whole text is read, and its length is budget enough. -/
theorem read?_compact {json : Json} (textual : Textual json) :
    read? (compact json) = some json := by
  have begins := textual.skipGaps_eq []
  have read := textual.readable ((compact json).length + 1) [] (Nat.le_succ _)
  have atEnd : skipGaps [] = [] := rfl
  rw [List.append_nil] at begins read
  simp [read?, begins, read, atEnd]

end SdlProjection.Json
