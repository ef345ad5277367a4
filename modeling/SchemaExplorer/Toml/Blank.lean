/-!
What stands between the keys and values of TOML: blanks, comments and line ends. A function with
`At` in its name reads at the front of a list of characters and gives what is left.
-/

namespace SchemaExplorer.Toml

def isSpace (c : Char) : Bool :=
  c == ' ' || c == '\t'

def skipSpace (cs : List Char) : List Char :=
  cs.dropWhile isSpace

/-- The characters that comments and strings may hold as they are. -/
def isPlain (c : Char) : Bool :=
  c == '\t' || (0x20 ≤ c.toNat && c.toNat != 0x7F)

/-- What follows a line end. -/
def lineEndAt? : List Char → Option (List Char)
  | '\n' :: cs => some cs
  | '\r' :: '\n' :: cs => some cs
  | _ => none

/-- What follows `front`, if that stands in front. -/
def afterText? (front : List Char) (cs : List Char) : Option (List Char) :=
  if front.isPrefixOf cs then some (cs.drop front.length) else none

/-- Drops blanks and line ends. -/
def skipSpaceAndLines : List Char → List Char
  | [] => []
  | '\r' :: '\n' :: cs => skipSpaceAndLines cs
  | c :: cs => if isSpace c || c == '\n' then skipSpaceAndLines cs else c :: cs

/-- Drops blanks, line ends and comments; every comment must be fit to stand. -/
def skipFiller (inComment : Bool) : List Char → Option (List Char)
  | [] => some []
  | '\n' :: cs => skipFiller false cs
  | '\r' :: '\n' :: cs => skipFiller false cs
  | c :: cs =>
    if inComment then if isPlain c then skipFiller true cs else none
    else if c = '#' then skipFiller true cs
    else if isSpace c then skipFiller false cs
    else some (c :: cs)

/-- What follows the end of a line on which nothing but a comment is left. -/
def restOfLineAt? (cs : List Char) : Option (List Char) :=
  let cs :=
    match skipSpace cs with
    | '#' :: cs => cs.dropWhile isPlain
    | cs => cs
  if cs.isEmpty then some [] else lineEndAt? cs

end SchemaExplorer.Toml
