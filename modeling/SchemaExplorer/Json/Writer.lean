import SchemaExplorer.Json.Value

/-!
Writing JSON, on one line or with every value on a line of its own.
-/

namespace SchemaExplorer.Json

/-- What stands between the tokens of a text: a line break before a value at the given depth, and
the mark between a key and its value. -/
structure Layout where
  lineBreak : Nat → List Char
  colon : List Char

/-- No blanks at all. -/
def Layout.compact : Layout :=
  { lineBreak := fun _ => [], colon := [':'] }

/-- A line for each value, with two spaces for each level. -/
def Layout.pretty : Layout :=
  { lineBreak := fun depth => '\n' :: List.replicate (2 * depth) ' ', colon := [':', ' '] }

/-- A character as it stands in a string. -/
def writeChar (c : Char) : List Char :=
  if c = '"' then ['\\', '"']
  else if c = '\\' then ['\\', '\\']
  else if c = '\x08' then ['\\', 'b']
  else if c = '\x0c' then ['\\', 'f']
  else if c = '\n' then ['\\', 'n']
  else if c = '\r' then ['\\', 'r']
  else if c = '\t' then ['\\', 't']
  else if c.toNat < 0x20 then
    ['\\', 'u', '0', '0', Nat.digitChar (c.toNat / 16), Nat.digitChar (c.toNat % 16)]
  else [c]

def writeText (s : String) : List Char :=
  '"' :: s.toList.flatMap writeChar ++ ['"']

/-- A string; one that stands for no text is written as a surrogate alone. -/
def writeString : Option String → List Char
  | some s => writeText s
  | none => ['"', '\\', 'u', 'd', '8', '0', '0', '"']

mutual

/-- The text of a value that stands at the given depth. -/
def write (layout : Layout) (depth : Nat) : Json → List Char
  | null => ['n', 'u', 'l', 'l']
  | bool true => ['t', 'r', 'u', 'e']
  | bool false => ['f', 'a', 'l', 's', 'e']
  | number text => text.toList
  | string text => writeString text
  | array items =>
    '[' :: writeItems layout (depth + 1) items ++
      (if items.isEmpty then [] else layout.lineBreak depth) ++ [']']
  | object entries =>
    '\x7b' :: writeEntries layout (depth + 1) entries ++
      (if entries.isEmpty then [] else layout.lineBreak depth) ++ ['\x7d']

def writeItems (layout : Layout) (depth : Nat) : List Json → List Char
  | [] => []
  | item :: items =>
    layout.lineBreak depth ++ write layout depth item ++ (if items.isEmpty then [] else [',']) ++
      writeItems layout depth items

def writeEntries (layout : Layout) (depth : Nat) : List (Option String × Json) → List Char
  | [] => []
  | (key, value) :: entries =>
    layout.lineBreak depth ++ writeString key ++ layout.colon ++ write layout depth value ++
      (if entries.isEmpty then [] else [',']) ++ writeEntries layout depth entries

end

/-- The value on one line, without blanks. -/
def compact (j : Json) : String :=
  String.ofList (write .compact 0 j)

/-- The value with a line for each of its parts. -/
def pretty (j : Json) : String :=
  String.ofList (write .pretty 0 j)

end SchemaExplorer.Json
