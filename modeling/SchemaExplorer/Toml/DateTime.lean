import SchemaExplorer.Text.Digits
import SchemaExplorer.Text.Split
import SchemaExplorer.Toml.Blank

/-!
The dates and times of TOML, in their usual form: a letter T between a date and its time, a letter
Z for universal time, and no zeros at the end of a fraction.
-/

namespace SchemaExplorer.Toml

/-- A number of exactly `width` digits, from `low` to `high`. -/
def fixedAt? (width low high : Nat) (cs : List Char) : Option (Nat × List Char) := do
  guard (width ≤ cs.length)
  let n ← Text.number? 10 (cs.take width)
  guard (low ≤ n && n ≤ high)
  some (n, cs.drop width)

def daysIn (year month : Nat) : Nat :=
  if month = 2 then
    if year % 4 = 0 && (year % 100 != 0 || year % 400 = 0) then 29 else 28
  else if month = 4 || month = 6 || month = 9 || month = 11 then 30
  else 31

def dateAt? (cs : List Char) : Option (String × List Char) := do
  let (year, cs) ← fixedAt? 4 0 9999 cs
  let (month, cs) ← fixedAt? 2 1 12 (← afterText? ['-'] cs)
  let (day, cs) ← fixedAt? 2 1 (daysIn year month) (← afterText? ['-'] cs)
  some (Text.padded 4 year ++ "-" ++ Text.padded 2 month ++ "-" ++ Text.padded 2 day, cs)

/-- A fraction of a second, or nothing. Nine digits count, and zeros at the end are left out. -/
def secondFractionAt? (cs : List Char) : Option (String × List Char) :=
  match cs with
  | '.' :: cs =>
    let digits := cs.takeWhile Char.isDigit
    if digits.isEmpty then none
    else
      let shown := ((digits.take 9).reverse.dropWhile (· == '0')).reverse
      some (if shown.isEmpty then "" else "." ++ String.ofList shown, cs.dropWhile Char.isDigit)
  | _ => some ("", cs)

def timeAt? (cs : List Char) : Option (String × List Char) := do
  let (hour, cs) ← fixedAt? 2 0 23 cs
  let (minute, cs) ← fixedAt? 2 0 59 (← afterText? [':'] cs)
  let (second, cs) ← fixedAt? 2 0 60 (← afterText? [':'] cs)
  let (fraction, cs) ← secondFractionAt? cs
  let clock := [hour, minute, second].map (Text.padded 2)
  some (Text.join ":" clock ++ fraction, cs)

/-- The distance of a time from the universal one, or nothing. -/
def offsetAt? (cs : List Char) : Option (String × List Char) :=
  match cs with
  | [] => some ("", [])
  | c :: rest =>
    if c = 'Z' || c = 'z' then some ("Z", rest)
    else if c = '+' || c = '-' then do
      let (hour, rest) ← fixedAt? 2 0 23 rest
      let (minute, rest) ← fixedAt? 2 0 59 (← afterText? [':'] rest)
      let sign := if c = '-' && 0 < hour + minute then "-" else "+"
      some (sign ++ Text.padded 2 hour ++ ":" ++ Text.padded 2 minute, rest)
    else some ("", cs)

/-- A time behind a date, or nothing. -/
def dayTimeAt? (cs : List Char) : Option (String × List Char) := do
  match cs with
  | c :: rest =>
    guard (c = 'T' || c = 't' || c = ' ')
    let (time, rest) ← timeAt? rest
    let (offset, rest) ← offsetAt? rest
    some ("T" ++ time ++ offset, rest)
  | [] => none

/-- A date, a time, or both; their text in the usual form. -/
def dateTimeAt? (cs : List Char) : Option (String × List Char) :=
  match dateAt? cs with
  | none => timeAt? cs
  | some (date, rest) =>
    match dayTimeAt? rest with
    | some (time, rest) => some (date ++ time, rest)
    | none => some (date, rest)

end SchemaExplorer.Toml
