import SchemaExplorer.Text.Digits
import SchemaExplorer.Toml.Blank

/-!
The strings of TOML: in double quotes with escapes or in single quotes without, on one line or
over several.
-/

namespace SchemaExplorer.Toml

/-- How a string is written: with which quotes, with or without escapes, on one line or more. -/
structure StringForm where
  quote : Char
  escapes : Bool
  manyLines : Bool

/-- A piece of a string: some of its text, or the last of it with the closing quotes. -/
inductive StringPiece where
  | text (text : List Char)
  | close (text : List Char)

/-- A character written by its code point, in `width` hexadecimal digits. -/
def codePointAt? (width : Nat) (cs : List Char) : Option (List Char × List Char) := do
  guard (width ≤ cs.length)
  let n ← Text.number? 16 (cs.take width)
  guard n.isValidChar
  some ([Char.ofNat n], cs.drop width)

/-- What an escape stands for, behind its backslash. -/
def escapeAt? : List Char → Option (List Char × List Char)
  | 'b' :: cs => some (['\x08'], cs)
  | 't' :: cs => some (['\t'], cs)
  | 'n' :: cs => some (['\n'], cs)
  | 'f' :: cs => some (['\x0c'], cs)
  | 'r' :: cs => some (['\r'], cs)
  | '"' :: cs => some (['"'], cs)
  | '\\' :: cs => some (['\\'], cs)
  | 'u' :: cs => codePointAt? 4 cs
  | 'U' :: cs => codePointAt? 8 cs
  | _ => none

/-- A backslash at the end of a line: it takes away the line end and all blanks behind it. -/
def continuationAt? (cs : List Char) : Option (List Char) :=
  (lineEndAt? (skipSpace cs)).map skipSpaceAndLines

/-- The next piece of a string. Of a run of three quotes or more over several lines, the last
three close the string; at most two may stand before these. -/
def pieceAt? (form : StringForm) (cs : List Char) : Option (StringPiece × List Char) :=
  match cs with
  | [] => none
  | c :: rest =>
    if c = form.quote then
      if form.manyLines then
        let run := (cs.takeWhile (· == c)).length
        if run < 3 then some (.text (List.replicate run c), cs.drop run)
        else
          let extra := min (run - 3) 2
          some (.close (List.replicate extra c), cs.drop (extra + 3))
      else some (.close [], rest)
    else if c = '\\' && form.escapes then
      match if form.manyLines then continuationAt? rest else none with
      | some rest => some (.text [], rest)
      | none => (escapeAt? rest).map fun (text, rest) => (.text text, rest)
    else if isPlain c then some (.text [c], rest)
    else if form.manyLines then (lineEndAt? cs).map fun rest => (.text ['\n'], rest)
    else none

/-- The text of a string up to its closing quotes, in at most `fuel` pieces. -/
def stringBodyAt? (form : StringForm) : Nat → List Char → Option (List Char × List Char)
  | 0, _ => none
  | fuel + 1, cs =>
    match pieceAt? form cs with
    | none => none
    | some (.close text, rest) => some (text, rest)
    | some (.text text, rest) =>
      (stringBodyAt? form fuel rest).map fun (more, rest) => (text ++ more, rest)

/-- A string on one line, behind its opening quote. -/
def lineStringAt? (quote : Char) (cs : List Char) : Option (String × List Char) :=
  (stringBodyAt? ⟨quote, quote == '"', false⟩ cs.length cs).map fun (text, rest) =>
    (String.ofList text, rest)

/-- A string over several lines, behind its opening quotes. A line end right behind these does not
count. -/
def blockStringAt? (quote : Char) (cs : List Char) : Option (String × List Char) :=
  let cs := (lineEndAt? cs).getD cs
  (stringBodyAt? ⟨quote, quote == '"', true⟩ cs.length cs).map fun (text, rest) =>
    (String.ofList text, rest)

/-- A string of either kind; `quote` stands in front. -/
def stringAt? (quote : Char) (cs : List Char) : Option (String × List Char) :=
  match afterText? [quote, quote, quote] cs with
  | some cs => blockStringAt? quote cs
  | none => lineStringAt? quote (cs.drop 1)

end SchemaExplorer.Toml
