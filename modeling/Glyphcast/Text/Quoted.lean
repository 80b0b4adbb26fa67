import Glyphcast.Text.Visible

/-!
# Quoted text

Messages show a client's or a file's text between double quotes, written so that it stays on one
line and every character of it can be told: a quote and a backslash get a backslash in front, the
tab, the line breaks and NUL have their short forms, and any other character that does not show is
written by its code point in braces.
-/

namespace Glyphcast.Text

/-- A number in lower-case hexadecimal. -/
def hex (n : Nat) : List Char := Nat.toDigits 16 n

/-- How a character is written between quotes. -/
def quoteChar (c : Char) : List Char :=
  if c = '"' then ['\\', '"']
  else if c = '\\' then ['\\', '\\']
  else if c = '\t' then ['\\', 't']
  else if c = '\n' then ['\\', 'n']
  else if c = '\r' then ['\\', 'r']
  else if c = '\x00' then ['\\', '0']
  else if isVisible c then [c]
  else ['\\', 'u', '\x7b'] ++ hex c.toNat ++ ['\x7d']

/-- A text between double quotes. -/
def quote (text : String) : String :=
  String.ofList ('"' :: text.toList.flatMap quoteChar ++ ['"'])

end Glyphcast.Text
