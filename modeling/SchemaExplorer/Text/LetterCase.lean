import SchemaExplorer.Text.LetterCase.Table

/-!
Letter case over the whole of Unicode: the upper case of a first letter, and the lower case of a
text. A capital sigma becomes `ς` at the end of a word and `σ` elsewhere.
-/

namespace SchemaExplorer.Text

/-- The upper case of a character; a few have one of two or three characters. -/
def upperChar (c : Char) : List Char :=
  match upperSequences.lookup c.toNat with
  | some ns => ns.map Char.ofNat
  | none =>
    match upperRuns.findSome? (·.image? c.toNat) with
    | some n => [Char.ofNat n]
    | none => [c]

/-- The text with its first character in upper case. -/
def upperFirst (s : String) : String :=
  match s.toList with
  | [] => ""
  | c :: cs => String.ofList (upperChar c ++ cs)

/-- The lower case of a character, wherever it stands. -/
def lowerChar (c : Char) : List Char :=
  if c = 'İ' then ['i', '\u0307']
  else
    match lowerRuns.findSome? (·.image? c.toNat) with
    | some n => [Char.ofNat n]
    | none => [c]

/-- Whether the first character that is not ignored for case is a cased one. -/
def beginsCased (cs : List Char) : Bool :=
  match cs.dropWhile fun c => inRanges caseIgnorableRanges c.toNat with
  | [] => false
  | c :: _ => inRanges casedRanges c.toNat

/-- The lower case of `cs`, which follows the characters `before`, the nearest first. -/
def lowerAfter (before : List Char) : List Char → List Char
  | [] => []
  | c :: cs =>
    (if c = 'Σ' then if beginsCased before && !beginsCased cs then ['ς'] else ['σ']
      else lowerChar c) ++ lowerAfter (c :: before) cs

/-- The text in lower case. -/
def lower (s : String) : String :=
  String.ofList (lowerAfter [] s.toList)

end SchemaExplorer.Text
