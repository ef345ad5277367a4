import SchemaExplorer.Json.Value
import SchemaExplorer.Text.Digits

/-!
Reading JSON. Nothing but blanks may follow the value. A function with `At` in its name reads at
the front of a list of characters and gives what is left.
-/

namespace SchemaExplorer.Json

def isSpace (c : Char) : Bool :=
  c == ' ' || c == '\t' || c == '\n' || c == '\r'

def skipSpace (cs : List Char) : List Char :=
  cs.dropWhile isSpace

/-! ### Strings -/

/-- What a letter behind a backslash stands for. -/
def escape? (c : Char) : Option Char :=
  if c = '"' || c = '\\' || c = '/' then some c
  else if c = 'b' then some '\x08'
  else if c = 'f' then some '\x0c'
  else if c = 'n' then some '\n'
  else if c = 'r' then some '\r'
  else if c = 't' then some '\t'
  else none

/-- The code points of a string, up to its closing quote. A surrogate can come in as an escape
only. -/
def codePointsAt? : List Char → Option (List Nat × List Char)
  | [] => none
  | '"' :: cs => some ([], cs)
  | '\\' :: 'u' :: a :: b :: c :: d :: cs => do
    let n ← Text.number? 16 [a, b, c, d]
    let (ns, cs) ← codePointsAt? cs
    some (n :: ns, cs)
  | '\\' :: e :: cs => do
    let c ← escape? e
    let (ns, cs) ← codePointsAt? cs
    some (c.toNat :: ns, cs)
  | c :: cs => do
    guard (0x20 ≤ c.toNat)
    let (ns, cs) ← codePointsAt? cs
    some (c.toNat :: ns, cs)

def isHighSurrogate (n : Nat) : Bool :=
  0xD800 ≤ n && n ≤ 0xDBFF

def isLowSurrogate (n : Nat) : Bool :=
  0xDC00 ≤ n && n ≤ 0xDFFF

/-- The characters of code points, in which two surrogates write one character. A surrogate
without its partner writes none. -/
def charsOf? : List Nat → Option (List Char)
  | [] => some []
  | n :: ns =>
    if isHighSurrogate n then
      match ns with
      | m :: ms =>
        if isLowSurrogate m then
          (charsOf? ms).map (Char.ofNat (0x10000 + (n - 0xD800) * 0x400 + (m - 0xDC00)) :: ·)
        else none
      | [] => none
    else if isLowSurrogate n then none
    else (charsOf? ns).map (Char.ofNat n :: ·)

/-- A string behind its opening quote. -/
def stringAt? (cs : List Char) : Option (Option String × List Char) :=
  (codePointsAt? cs).map fun (ns, cs) => ((charsOf? ns).map String.ofList, cs)

/-! ### Numbers -/

/-- One digit or more. -/
def digitsAt? (cs : List Char) : Option (List Char × List Char) :=
  match cs.takeWhile Char.isDigit with
  | [] => none
  | digits => some (digits, cs.dropWhile Char.isDigit)

/-- A minus sign, or nothing. -/
def minusAt (cs : List Char) : List Char × List Char :=
  match cs with
  | '-' :: cs => (['-'], cs)
  | _ => ([], cs)

/-- Digits of which the first is zero only if it stands alone. -/
def integerAt? (cs : List Char) : Option (List Char × List Char) :=
  match cs with
  | '0' :: rest => some (['0'], rest)
  | _ => digitsAt? cs

/-- A point and digits, or nothing. -/
def fractionAt? (cs : List Char) : Option (List Char × List Char) :=
  match cs with
  | '.' :: cs => (digitsAt? cs).map fun (digits, cs) => ('.' :: digits, cs)
  | _ => some ([], cs)

/-- An exponent, or nothing. -/
def exponentAt? (cs : List Char) : Option (List Char × List Char) :=
  match cs with
  | e :: cs' =>
    if e = 'e' || e = 'E' then
      match cs' with
      | '+' :: cs => (digitsAt? cs).map fun (digits, cs) => (e :: '+' :: digits, cs)
      | '-' :: cs => (digitsAt? cs).map fun (digits, cs) => (e :: '-' :: digits, cs)
      | _ => (digitsAt? cs').map fun (digits, cs) => (e :: digits, cs)
    else some ([], cs)
  | [] => some ([], [])

def numberAt? (cs : List Char) : Option (String × List Char) := do
  let (sign, cs) := minusAt cs
  let (integer, cs) ← integerAt? cs
  let (fraction, cs) ← fractionAt? cs
  let (exponent, cs) ← exponentAt? cs
  some (String.ofList (sign ++ integer ++ fraction ++ exponent), cs)

/-! ### Values -/

mutual

/-- A value, with at most `fuel` calls one within the other. -/
def valueAt? : Nat → List Char → Option (Json × List Char)
  | 0, _ => none
  | fuel + 1, cs =>
    match skipSpace cs with
    | 'n' :: 'u' :: 'l' :: 'l' :: cs => some (null, cs)
    | 't' :: 'r' :: 'u' :: 'e' :: cs => some (bool true, cs)
    | 'f' :: 'a' :: 'l' :: 's' :: 'e' :: cs => some (bool false, cs)
    | '"' :: cs => (stringAt? cs).map fun (s, cs) => (string s, cs)
    | '[' :: cs =>
      match skipSpace cs with
      | ']' :: cs => some (array [], cs)
      | _ => (itemsAt? fuel cs).map fun (items, cs) => (array items, cs)
    | '\x7b' :: cs =>
      match skipSpace cs with
      | '\x7d' :: cs => some (object [], cs)
      | _ => (entriesAt? fuel cs).map fun (entries, cs) => (object entries, cs)
    | cs => (numberAt? cs).map fun (text, cs) => (number text, cs)

/-- The items of an array up to its closing bracket; at least one. -/
def itemsAt? : Nat → List Char → Option (List Json × List Char)
  | 0, _ => none
  | fuel + 1, cs => do
    let (item, cs) ← valueAt? fuel cs
    match skipSpace cs with
    | ']' :: cs => some ([item], cs)
    | ',' :: cs =>
      let (items, cs) ← itemsAt? fuel cs
      some (item :: items, cs)
    | _ => none

/-- The entries of an object up to its closing brace; at least one. -/
def entriesAt? : Nat → List Char → Option (List (Option String × Json) × List Char)
  | 0, _ => none
  | fuel + 1, cs =>
    match skipSpace cs with
    | '"' :: cs => do
      let (key, cs) ← stringAt? cs
      match skipSpace cs with
      | ':' :: cs =>
        let (value, cs) ← valueAt? fuel cs
        match skipSpace cs with
        | '\x7d' :: cs => some ([(key, value)], cs)
        | ',' :: cs =>
          let (entries, cs) ← entriesAt? fuel cs
          some ((key, value) :: entries, cs)
        | _ => none
      | _ => none
    | _ => none

end

/-- The value that a text writes. Every second call takes a character, so that the length of the
text bounds the calls. -/
def parse? (s : String) : Option Json :=
  let cs := s.toList
  match valueAt? (2 * cs.length + 2) cs with
  | some (j, rest) => if (skipSpace rest).isEmpty then some j else none
  | none => none

end SchemaExplorer.Json
