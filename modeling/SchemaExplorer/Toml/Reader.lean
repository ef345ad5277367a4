import SchemaExplorer.Toml.DateTime
import SchemaExplorer.Toml.Number
import SchemaExplorer.Toml.Quoted
import SchemaExplorer.Toml.Value

/-!
Reading TOML documents. A function with `At` in its name reads at the front of a list of
characters and gives what is left.
-/

namespace SchemaExplorer.Toml

/-! ### Keys -/

/-- How deep arrays and tables may lie within each other, and how many parts a key may have: less
than this. -/
def depthLimit : Nat := 80

def isKeyChar (c : Char) : Bool :=
  c.isAlphanum || c == '_' || c == '-'

/-- One part of a key: a bare word, or a string on one line. -/
def keyPartAt? (cs : List Char) : Option (String × List Char) :=
  match cs with
  | '"' :: cs => lineStringAt? '"' cs
  | '\'' :: cs => lineStringAt? '\'' cs
  | _ =>
    let word := cs.takeWhile isKeyChar
    if word.isEmpty then none else some (String.ofList word, cs.dropWhile isKeyChar)

/-- At most `fuel` parts with dots between them, and blanks around them. -/
def keyPartsAt? : Nat → List Char → Option (List String × List Char)
  | 0, _ => none
  | fuel + 1, cs => do
    let (part, cs) ← keyPartAt? (skipSpace cs)
    match skipSpace cs with
    | '.' :: cs =>
      let (parts, cs) ← keyPartsAt? fuel cs
      some (part :: parts, cs)
    | cs => some ([part], cs)

/-- A key: the way to it, and its last part. -/
def keyAt? (cs : List Char) : Option ((List String × String) × List Char) := do
  let (parts, cs) ← keyPartsAt? (depthLimit - 1) cs
  some ((parts.dropLast, ← parts.getLast?), cs)

/-! ### Values -/

mutual

/-- A value that lies within `depth` others, with at most `fuel` calls one within the other. -/
def valueAt? : Nat → Nat → List Char → Option (Toml × List Char)
  | 0, _, _ => none
  | fuel + 1, depth, cs =>
    match cs with
    | [] => none
    | c :: rest =>
      if c = '"' || c = '\'' then (stringAt? c cs).map fun (text, cs) => (string text, cs)
      else if c = '[' then do
        guard (depth + 1 < depthLimit)
        let (items, cs) ← itemsAt? fuel (depth + 1) rest
        some (array items, cs)
      else if c = '\x7b' then do
        guard (depth + 1 < depthLimit)
        match skipSpace rest with
        | '\x7d' :: cs => some (table .inline [], cs)
        | _ =>
          let (entries, cs) ← inlineAt? fuel (depth + 1) [] rest
          some (table .inline entries, cs)
      else
        match afterText? ['t', 'r', 'u', 'e'] cs with
        | some cs => some (boolean true, cs)
        | none =>
          match afterText? ['f', 'a', 'l', 's', 'e'] cs with
          | some cs => some (boolean false, cs)
          | none =>
            match dateTimeAt? cs with
            | some (text, cs) => some (dateTime text, cs)
            | none =>
              match floatAt? cs with
              | some cs => some (number, cs)
              | none => (integerAt? cs).map fun cs => (number, cs)

/-- The items of an array up to its closing bracket. A comma may stand behind the last. -/
def itemsAt? : Nat → Nat → List Char → Option (List Toml × List Char)
  | 0, _, _ => none
  | fuel + 1, depth, cs => do
    match ← skipFiller false cs with
    | ']' :: cs => some ([], cs)
    | cs =>
      let (item, cs) ← valueAt? fuel depth cs
      match ← skipFiller false cs with
      | ']' :: cs => some ([item], cs)
      | ',' :: cs =>
        let (items, cs) ← itemsAt? fuel depth cs
        some (item :: items, cs)
      | _ => none

/-- The entries of a table in braces, added to `entries`, up to the closing brace; at least one. -/
def inlineAt? : Nat → Nat → Entries → List Char → Option (Entries × List Char)
  | 0, _, _, _ => none
  | fuel + 1, depth, entries, cs => do
    let ((path, key), cs) ← keyAt? cs
    let (value, cs) ← valueAt? fuel depth (skipSpace (← afterText? ['='] cs))
    let entries ← insert path key value .header entries
    match skipSpace cs with
    | '\x7d' :: cs => some (entries, cs)
    | ',' :: cs => inlineAt? fuel depth entries cs
    | _ => none

end

/-! ### Documents -/

/-- A document while it is read: its root, and the table that the last header opened. -/
structure Document where
  root : Entries
  current : List String

/-- Enters a value into the table of the last header. -/
def Document.insert (d : Document) (path : List String) (key : String) (value : Toml) :
    Option Document := do
  let root ← changeAt false (Toml.insert path key value) d.current .header d.root
  some { d with root }

/-- One line with a header, or one key with its value, and what follows the end of the line. -/
def expressionAt? (d : Document) (cs : List Char) : Option (Document × List Char) := do
  match cs with
  | '[' :: '[' :: cs =>
    let ((path, key), cs) ← keyAt? cs
    let rest ← restOfLineAt? (← afterText? [']', ']'] cs)
    some (⟨← openRow path key d.root, path ++ [key]⟩, rest)
  | '[' :: cs =>
    let ((path, key), cs) ← keyAt? cs
    let rest ← restOfLineAt? (← afterText? [']'] cs)
    some (⟨← openTable path key d.root, path ++ [key]⟩, rest)
  | _ =>
    let ((path, key), cs) ← keyAt? cs
    let cs := skipSpace (← afterText? ['='] cs)
    let (value, cs) ← valueAt? (2 * cs.length + 2) 0 cs
    let rest ← restOfLineAt? cs
    some (← d.insert path key value, rest)

/-- Reads on to the end, in at most `fuel` expressions. -/
def expressions? : Nat → Document → List Char → Option Entries
  | 0, _, _ => none
  | fuel + 1, d, cs => do
    match ← skipFiller false cs with
    | [] => some d.root
    | cs =>
      let (d, cs) ← expressionAt? d cs
      expressions? fuel d cs

/-- The entries of a document's root. A byte order mark may stand in front. -/
def parse? (s : String) : Option Entries :=
  let cs :=
    match s.toList with
    | '\uFEFF' :: cs => cs
    | cs => cs
  expressions? (cs.length + 1) ⟨[], []⟩ cs

end SchemaExplorer.Toml
