/-!
Contract: which characters count as blank, and trimming by a character class.

Owns: the White_Space property of Unicode as a table of ranges, `trim` and the
one-sided drops it is made of. Every other module that skips or trims blanks
goes through this class, so the line grammar and the trimming agree on it.

Does not own: line breaks (`Text.Lines`) and names (`Text.Name`).
-/

namespace SdlProjection.Text

/-- The White_Space property, as inclusive ranges of code points. -/
def blankRanges : List (Nat × Nat) :=
  [(0x09, 0x0d), (0x20, 0x20), (0x85, 0x85), (0xa0, 0xa0), (0x1680, 0x1680),
    (0x2000, 0x200a), (0x2028, 0x2029), (0x202f, 0x202f), (0x205f, 0x205f), (0x3000, 0x3000)]

def isBlank (c : Char) : Bool :=
  blankRanges.any fun range => decide (range.1 ≤ c.toNat) && decide (c.toNat ≤ range.2)

/-- Drops the longest tail whose characters all satisfy `drop`. -/
def dropEndWhile (drop : Char → Bool) : List Char → List Char
  | [] => []
  | c :: rest =>
    match dropEndWhile drop rest with
    | [] => if drop c then [] else [c]
    | kept => c :: kept

/-- Drops the blanks at both ends. -/
def trim (text : List Char) : List Char :=
  dropEndWhile isBlank (text.dropWhile isBlank)

end SdlProjection.Text
