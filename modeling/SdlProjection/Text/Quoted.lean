import SdlProjection.Text.Printable

/-!
Contract: texts shown in double quotes.

Owns: which characters are escaped and how. The quote, the backslash, the tab,
both line breaks and NUL have short escapes; any other character that is not
printable is written as its code point in braces.
-/

namespace SdlProjection.Text

/-- The digits of a code point in lower-case hexadecimal. -/
def hexDigits (code : Nat) : List Char :=
  Nat.toDigits 16 code

def quotedChar (c : Char) : List Char :=
  if c = '"' then ['\\', '"']
  else if c = '\\' then ['\\', '\\']
  else if c = '\t' then ['\\', 't']
  else if c = '\n' then ['\\', 'n']
  else if c = '\r' then ['\\', 'r']
  else if c = '\x00' then ['\\', '0']
  else if isPrintable c then [c]
  else '\\' :: 'u' :: '\x7b' :: hexDigits c.toNat ++ ['\x7d']

/-- The text in double quotes. -/
def quoted (text : String) : String :=
  String.ofList ('"' :: text.toList.flatMap quotedChar ++ ['"'])

end SdlProjection.Text
