import SdlProjection.Json

/-!
Contract: the text of a JSON value.

Owns: string escapes, the compact form without blanks and the indented form
with two blanks per level, in which empty containers stay on one line.
-/

namespace SdlProjection.Json

/-- The lower-case hexadecimal digit of a number below sixteen. -/
def hexDigit (digit : Nat) : Char :=
  Nat.digitChar digit

/-- One character inside a string. -/
def escapeChar (c : Char) : List Char :=
  if c = '"' then ['\\', '"']
  else if c = '\\' then ['\\', '\\']
  else if c = '\x08' then ['\\', 'b']
  else if c = '\x0c' then ['\\', 'f']
  else if c = '\n' then ['\\', 'n']
  else if c = '\r' then ['\\', 'r']
  else if c = '\t' then ['\\', 't']
  else if c.toNat < 0x20 then
    ['\\', 'u', '0', '0', hexDigit (c.toNat / 16), hexDigit (c.toNat % 16)]
  else [c]

/-- A string in its quotes. -/
def quote (value : String) : List Char :=
  '"' :: value.toList.flatMap escapeChar ++ ['"']

mutual

/-- The form without blanks. -/
def compact : Json → List Char
  | .null => "null".toList
  | .bool value => (if value then "true" else "false").toList
  | .int value => (toString value).toList
  | .str value => quote value
  | .arr items => '[' :: compactItems items ++ [']']
  | .obj entries => '\x7b' :: compactEntries entries ++ ['\x7d']
  | .foreign source => source.toList

def compactItems : List Json → List Char
  | [] => []
  | [item] => compact item
  | item :: next :: rest => compact item ++ ',' :: compactItems (next :: rest)

def compactEntries : List (String × Json) → List Char
  | [] => []
  | [(key, value)] => quote key ++ ':' :: compact value
  | (key, value) :: next :: rest =>
    quote key ++ ':' :: compact value ++ ',' :: compactEntries (next :: rest)

end

/-- A line feed and two blanks per level. -/
def newline (level : Nat) : List Char :=
  '\n' :: List.replicate (2 * level) ' '

mutual

/-- The indented form, for a value that stands at the given level. -/
def indented (level : Nat) : Json → List Char
  | .arr [] => "[]".toList
  | .arr (item :: rest) =>
    '[' :: indentedItems (level + 1) (item :: rest) ++ newline level ++ [']']
  | .obj [] => ['\x7b', '\x7d']
  | .obj (entry :: rest) =>
    '\x7b' :: indentedEntries (level + 1) (entry :: rest) ++ newline level ++ ['\x7d']
  | .null => compact .null
  | .bool value => compact (.bool value)
  | .int value => compact (.int value)
  | .str value => compact (.str value)
  | .foreign source => compact (.foreign source)

def indentedItems (level : Nat) : List Json → List Char
  | [] => []
  | [item] => newline level ++ indented level item
  | item :: next :: rest =>
    newline level ++ indented level item ++ ',' :: indentedItems level (next :: rest)

def indentedEntries (level : Nat) : List (String × Json) → List Char
  | [] => []
  | [(key, value)] => newline level ++ quote key ++ ':' :: ' ' :: indented level value
  | (key, value) :: next :: rest =>
    newline level ++ quote key ++ ':' :: ' ' :: indented level value ++
      ',' :: indentedEntries level (next :: rest)

end

/-- The text of a value, compact or indented. -/
def render (json : Json) (pretty : Bool) : String :=
  String.ofList (if pretty then indented 0 json else compact json)

end SdlProjection.Json
