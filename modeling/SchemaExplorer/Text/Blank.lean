/-!
Blank characters, and trimming them from the ends of a text. Trimming works on lists of
characters; the operations on `String` go through that view.
-/

namespace SchemaExplorer.Text

/-- The characters with the Unicode property `White_Space`. -/
def isBlank (c : Char) : Bool :=
  let n := c.toNat
  (0x09 ≤ n && n ≤ 0x0D) || n == 0x20 || n == 0x85 || n == 0xA0 || n == 0x1680 ||
    (0x2000 ≤ n && n ≤ 0x200A) || n == 0x2028 || n == 0x2029 || n == 0x202F || n == 0x205F ||
    n == 0x3000

/-! ### Lists of characters -/

/-- Drops the longest end of `cs` whose characters all satisfy `p`. -/
def dropEndWhile (p : Char → Bool) (cs : List Char) : List Char :=
  (cs.reverse.dropWhile p).reverse

/-- Drops the characters that satisfy `p` from both ends. -/
def stripChars (p : Char → Bool) (cs : List Char) : List Char :=
  dropEndWhile p (cs.dropWhile p)

/-- Drops the blanks at both ends. -/
def trimChars (cs : List Char) : List Char :=
  stripChars isBlank cs

/-! ### Strings -/

/-- Drops the characters that satisfy `p` from both ends. -/
def strip (p : Char → Bool) (s : String) : String :=
  String.ofList (stripChars p s.toList)

/-- Drops the blanks at both ends. -/
def trim (s : String) : String :=
  String.ofList (trimChars s.toList)

/-- The trimmed text, unless nothing is left of it. -/
def nonBlank? (s : String) : Option String :=
  let t := trim s
  if t.isEmpty then none else some t

theorem toList_trim (s : String) : (trim s).toList = trimChars s.toList := by
  simp [trim]

end SchemaExplorer.Text
