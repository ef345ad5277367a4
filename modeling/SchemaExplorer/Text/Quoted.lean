import SchemaExplorer.Text.Quoted.Table

/-!
Texts in double quotes, as messages show the paths they speak of.
-/

namespace SchemaExplorer.Text

/-- The code point as `\u` and hexadecimal digits in braces. -/
def escapeCodePoint (c : Char) : List Char :=
  ['\\', 'u', '\x7b'] ++ Nat.toDigits 16 c.toNat ++ ['\x7d']

/-- A character as it stands between the quotes. -/
def quoteChar (c : Char) : List Char :=
  if c = '\x00' then ['\\', '0']
  else if c = '\t' then ['\\', 't']
  else if c = '\n' then ['\\', 'n']
  else if c = '\r' then ['\\', 'r']
  else if c = '\\' || c = '"' then ['\\', c]
  else if unprintableRanges.any fun (first, last) => first ≤ c.toNat && c.toNat ≤ last then
    escapeCodePoint c
  else [c]

/-- The text in double quotes. Double quotes and backslashes have a backslash before them, and what
leaves no mark is written by its code point. -/
def quote (s : String) : String :=
  String.ofList ('"' :: s.toList.flatMap quoteChar ++ ['"'])

end SchemaExplorer.Text
