import SchemaExplorer.Text.Digits
import SchemaExplorer.Text.Split

/-!
The numbers of TOML. Nothing is kept of them: a function here gives what follows a number that is
well formed and not too large.
-/

namespace SchemaExplorer.Toml

/-- Digits with single underscores between them, which are left out. -/
def digitsAt? (isDigit : Char → Bool) (cs : List Char) : Option (List Char × List Char) :=
  let inRun := fun c => isDigit c || c == '_'
  let run := cs.takeWhile inRun
  if (Text.splitChars '_' run).all fun piece => !piece.isEmpty then
    some (run.filter (· != '_'), cs.dropWhile inRun)
  else none

/-- A sign, or nothing; whether it is a minus sign. -/
def signAt (cs : List Char) : Bool × List Char :=
  match cs with
  | '+' :: cs => (false, cs)
  | '-' :: cs => (true, cs)
  | _ => (false, cs)

/-- Decimal digits of which the first is zero only if it stands alone. -/
def decimalAt? (cs : List Char) : Option (List Char × List Char) := do
  let (digits, rest) ← digitsAt? Char.isDigit cs
  guard (digits.length = 1 || digits.head? != some '0')
  some (digits, rest)

/-- A number in a base other than ten, behind the letter that announces it. It must be below 2 to
the power of 63. -/
def basedAt? (base : Nat) (cs : List Char) : Option (List Char) := do
  let (digits, rest) ← digitsAt? (fun c => (Text.hexDigit? c).any (· < base)) cs
  guard ((← Text.number? base digits) < Nat.pow 2 63)
  some rest

/-- A whole number of 64 bits. -/
def integerAt? (cs : List Char) : Option (List Char) :=
  match cs with
  | '0' :: 'x' :: cs => basedAt? 16 cs
  | '0' :: 'o' :: cs => basedAt? 8 cs
  | '0' :: 'b' :: cs => basedAt? 2 cs
  | _ => do
    let (negative, cs) := signAt cs
    let (digits, rest) ← decimalAt? cs
    guard ((← Text.number? 10 digits) < Nat.pow 2 63 + if negative then 1 else 0)
    some rest

/-- A point and digits, or nothing. -/
def fractionAt? (cs : List Char) : Option (List Char × List Char) :=
  match cs with
  | '.' :: cs => digitsAt? Char.isDigit cs
  | _ => some ([], cs)

/-- An exponent, or zero. -/
def exponentAt? (cs : List Char) : Option (Int × List Char) :=
  match cs with
  | [] => some (0, [])
  | c :: behind =>
    if c = 'e' || c = 'E' then do
      let (negative, digits) := signAt behind
      let (digits, rest) ← digitsAt? Char.isDigit digits
      let n ← Text.number? 10 digits
      some (if negative then -(n : Int) else n, rest)
    else some (0, cs)

/-- Whether `n` with the point moved by `exponent` places is too large for a float of 64 bits: at
least halfway from the largest one to the next power of two. -/
def overflows (n : Nat) (exponent : Int) : Bool :=
  let places := (Nat.toDigits 10 n).length + exponent
  if n = 0 || places < 300 then false
  else if 320 < places then true
  else
    let limit := Nat.pow 2 1024 - Nat.pow 2 970
    if 0 ≤ exponent then limit ≤ n * Nat.pow 10 exponent.toNat
    else limit * Nat.pow 10 (-exponent).toNat ≤ n

/-- A number with a fraction or an exponent, or one of `inf` and `nan`. A positive number must not
overflow. -/
def floatAt? (cs : List Char) : Option (List Char) :=
  let (negative, cs) := signAt cs
  match cs with
  | 'i' :: 'n' :: 'f' :: rest => some rest
  | 'n' :: 'a' :: 'n' :: rest => some rest
  | _ => do
    let (whole, afterWhole) ← decimalAt? cs
    let (fraction, afterFraction) ← fractionAt? afterWhole
    let (exponent, rest) ← exponentAt? afterFraction
    guard (rest.length < afterWhole.length)
    let n ← Text.number? 10 (whole ++ fraction)
    guard (negative || !overflows n (exponent - fraction.length))
    some rest

end SchemaExplorer.Toml
