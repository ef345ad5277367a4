/-!
Digits and the numbers they write.
-/

namespace SchemaExplorer.Text

/-- What a hexadecimal digit is worth, in capitals or in small letters. -/
def hexDigit? (c : Char) : Option Nat :=
  if c.isDigit then some (c.toNat - '0'.toNat)
  else if 'a' ≤ c ∧ c ≤ 'f' then some (c.toNat - 'a'.toNat + 10)
  else if 'A' ≤ c ∧ c ≤ 'F' then some (c.toNat - 'A'.toNat + 10)
  else none

/-- The number that digits write, the most significant first. -/
def numberOf (base : Nat) (digits : List Nat) : Nat :=
  digits.foldl (fun n d => n * base + d) 0

/-- The number that characters write, if all of them are digits of the base. -/
def number? (base : Nat) (cs : List Char) : Option Nat :=
  (cs.mapM fun c => (hexDigit? c).filter (· < base)).map (numberOf base)

/-- The decimal text of a number, with zeros in front up to `width` digits. -/
def padded (width n : Nat) : String :=
  let digits := Nat.toDigits 10 n
  String.ofList (List.replicate (width - digits.length) '0' ++ digits)

end SchemaExplorer.Text
