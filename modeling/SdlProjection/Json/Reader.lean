import SdlProjection.Json

/-!
Contract: reading a JSON value off its text.

Owns: `Json.read?`, which accepts exactly one value with blanks around its
tokens and nothing else. A number with a fraction or an exponent, and a string
or a key with half a surrogate pair, read as `foreign` values.

The budget of the recursive readers bounds their depth and their steps
together. An array or an object that is entered spends two units and has two
brackets, and every further item or entry spends one and has a comma, so the
length of the text, plus one, is always enough.
-/

namespace SdlProjection.Json

/-- The four characters that may stand between tokens. -/
def isGap (c : Char) : Bool :=
  c == ' ' || c == '\n' || c == '\r' || c == '\t'

def skipGaps (text : List Char) : List Char :=
  text.dropWhile isGap

def hexValue? (c : Char) : Option Nat :=
  if '0' ≤ c && c ≤ '9' then some (c.toNat - '0'.toNat)
  else if 'a' ≤ c && c ≤ 'f' then some (c.toNat - 'a'.toNat + 10)
  else if 'A' ≤ c && c ≤ 'F' then some (c.toNat - 'A'.toNat + 10)
  else none

/-- Four hexadecimal digits. -/
def hexUnit? : List Char → Option (Nat × List Char)
  | a :: b :: c :: d :: rest => do
    let a ← hexValue? a
    let b ← hexValue? b
    let c ← hexValue? c
    let d ← hexValue? d
    some (a * 4096 + b * 256 + c * 16 + d, rest)
  | _ => none

/-- The character of a one-letter escape. -/
def shortEscape? : Char → Option Char
  | '"' => some '"'
  | '\\' => some '\\'
  | '/' => some '/'
  | 'b' => some '\x08'
  | 'f' => some '\x0c'
  | 'n' => some '\n'
  | 'r' => some '\r'
  | 't' => some '\t'
  | _ => none

/-- The pieces of a string: characters, and UTF-16 units written as `\u` escapes. -/
inductive Piece where
  | char (c : Char)
  | unit (value : Nat)

/-- The pieces up to the closing quote, with what follows it. -/
def readPieces : List Char → Option (List Piece × List Char)
  | [] => none
  | '"' :: rest => some ([], rest)
  | '\\' :: 'u' :: a :: b :: c :: d :: rest => do
    let (unit, _) ← hexUnit? [a, b, c, d]
    let (pieces, rest) ← readPieces rest
    some (.unit unit :: pieces, rest)
  | '\\' :: c :: rest => do
    let c ← shortEscape? c
    let (pieces, rest) ← readPieces rest
    some (.char c :: pieces, rest)
  | c :: rest =>
    if c.toNat < 0x20 then none
    else do
      let (pieces, rest) ← readPieces rest
      some (.char c :: pieces, rest)

/-- The characters of the pieces; none if a surrogate stands without its other half. -/
def joinPieces? : List Piece → Option (List Char)
  | [] => some []
  | .char c :: rest => (joinPieces? rest).map (c :: ·)
  | [.unit unit] =>
    if 0xd800 ≤ unit ∧ unit ≤ 0xdfff then none else some [Char.ofNat unit]
  | .unit unit :: .char c :: rest =>
    if 0xd800 ≤ unit ∧ unit ≤ 0xdfff then none
    else (joinPieces? rest).map (Char.ofNat unit :: c :: ·)
  | .unit unit :: .unit next :: rest =>
    if 0xd800 ≤ unit ∧ unit ≤ 0xdbff then
      if 0xdc00 ≤ next ∧ next ≤ 0xdfff then
        (joinPieces? rest).map
          (Char.ofNat (0x10000 + (unit - 0xd800) * 0x400 + (next - 0xdc00)) :: ·)
      else none
    else if 0xdc00 ≤ unit ∧ unit ≤ 0xdfff then none
    else (joinPieces? (.unit next :: rest)).map (Char.ofNat unit :: ·)

/-- What stands between `text` and its tail `rest`. -/
def sourceBetween (text rest : List Char) : String :=
  String.ofList (text.take (text.length - rest.length))

def isDigit (c : Char) : Bool :=
  '0' ≤ c && c ≤ '9'

/-- Digits at the front, at least one. -/
def readDigits? (text : List Char) : Option (List Char × List Char) :=
  match text.takeWhile isDigit with
  | [] => none
  | digits => some (digits, text.dropWhile isDigit)

/-- The value of a row of decimal digits. -/
def digitsValue (digits : List Char) : Nat :=
  digits.foldl (fun value c => value * 10 + (c.toNat - '0'.toNat)) 0

/-- The fraction of a number, if one starts here; `none` if it is malformed. -/
def skipFraction? : List Char → Option (List Char)
  | '.' :: rest => (readDigits? rest).map Prod.snd
  | rest => some rest

/-- The exponent of a number, if one starts here; `none` if it is malformed. -/
def skipExponent? : List Char → Option (List Char)
  | c :: rest =>
    if c == 'e' || c == 'E' then
      match rest with
      | '+' :: digits => (readDigits? digits).map Prod.snd
      | '-' :: digits => (readDigits? digits).map Prod.snd
      | digits => (readDigits? digits).map Prod.snd
    else some (c :: rest)
  | [] => some []

/-- A number: an integer without leading zeros, then a fraction and an exponent. -/
def readNumber? (text : List Char) : Option (Json × List Char) := do
  let (negative, unsigned) :=
    match text with
    | '-' :: rest => (true, rest)
    | rest => (false, rest)
  let (digits, rest) ← readDigits? unsigned
  if digits.head? == some '0' && digits.length != 1 then none
  else do
    let tail ← skipExponent? (← skipFraction? rest)
    if tail.length == rest.length then
      let value : Int := digitsValue digits
      some (.int (if negative then -value else value), rest)
    else some (.foreign (sourceBetween text tail), tail)

/-- What stands after the given word, if it stands at the front. -/
def skipWord? : List Char → List Char → Option (List Char)
  | [], text => some text
  | c :: word, d :: text => if c == d then skipWord? word text else none
  | _ :: _, [] => none

mutual

/-- One value, with what follows it. -/
def readValue : Nat → List Char → Option (Json × List Char)
  | 0, _ => none
  | budget + 1, text =>
    match text with
    | [] => none
    | '"' :: rest => do
      let (pieces, after) ← readPieces rest
      match joinPieces? pieces with
      | some chars => some (.str (String.ofList chars), after)
      | none => some (.foreign (sourceBetween text after), after)
    | '[' :: rest =>
      match skipGaps rest with
      | ']' :: after => some (.arr [], after)
      | inner => do
        let (items, after) ← readItems budget inner
        some (.arr items, after)
    | '\x7b' :: rest =>
      match skipGaps rest with
      | '\x7d' :: after => some (.obj [], after)
      | inner => do
        let (entries, after) ← readEntries budget inner
        match entries with
        | some entries => some (.obj entries, after)
        | none => some (.foreign (sourceBetween text after), after)
    | 'n' :: rest => (skipWord? "ull".toList rest).map fun after => (.null, after)
    | 't' :: rest => (skipWord? "rue".toList rest).map fun after => (.bool true, after)
    | 'f' :: rest => (skipWord? "alse".toList rest).map fun after => (.bool false, after)
    | _ => readNumber? text

/-- The items of an array that is not empty, and its closing bracket. -/
def readItems : Nat → List Char → Option (List Json × List Char)
  | 0, _ => none
  | budget + 1, text => do
    let (item, after) ← readValue budget text
    match skipGaps after with
    | ']' :: rest => some ([item], rest)
    | ',' :: rest => do
      let (items, rest) ← readItems budget (skipGaps rest)
      some (item :: items, rest)
    | _ => none

/-- The entries of an object that is not empty, and its closing brace. There are none
if a key has half a surrogate pair. -/
def readEntries : Nat → List Char → Option (Option (List (String × Json)) × List Char)
  | 0, _ => none
  | budget + 1, text =>
    match text with
    | '"' :: rest => do
      let (pieces, after) ← readPieces rest
      match skipGaps after with
      | ':' :: inner => do
        let (value, after) ← readValue budget (skipGaps inner)
        let entry := (joinPieces? pieces).map fun key => (String.ofList key, value)
        match skipGaps after with
        | '\x7d' :: rest => some (entry.map ([·]), rest)
        | ',' :: rest => do
          let (entries, rest) ← readEntries budget (skipGaps rest)
          some (entry.bind fun entry => entries.map (entry :: ·), rest)
        | _ => none
      | _ => none
    | _ => none

end

/-- The value a text stands for, if it is the text of one value. -/
def read? (text : List Char) : Option Json := do
  let (value, rest) ← readValue (text.length + 1) (skipGaps text)
  if (skipGaps rest).isEmpty then some value else none

end SdlProjection.Json
