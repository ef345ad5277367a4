import SchemaExplorer.Schema.Signature

/-!
The shapes that are looked for in a line of schema text: the introduction of a type, a member of
its body, an argument, and a description. A function with `At` in its name looks at the front of
a list of characters only; a search takes the first place at which the shape is found. Names and
references are taken as long as they can be.
-/

namespace SchemaExplorer.Sdl

open Text (isBlank)

/-! ### Names, references and what stands between them -/

def isNameStart (c : Char) : Bool :=
  c.isAlpha || c == '_'

def isNameChar (c : Char) : Bool :=
  c.isAlphanum || c == '_'

/-- The characters of a reference behind the start of its name. -/
def isReferenceChar (c : Char) : Bool :=
  isNameChar c || isWrapper c

def skipBlanks (cs : List Char) : List Char :=
  cs.dropWhile isBlank

/-- What follows `c`, if that stands in front. -/
def after? (c : Char) : List Char → Option (List Char)
  | [] => none
  | d :: cs => if d = c then some cs else none

/-- A name, and what follows it. -/
def nameAt? : List Char → Option (List Char × List Char)
  | [] => none
  | c :: cs =>
    if isNameStart c then some (c :: cs.takeWhile isNameChar, cs.dropWhile isNameChar) else none

/-- A reference to a type, and what follows it: opening brackets, the start of a name, and any
mixture of name characters and wrappers. -/
def referenceAt? (cs : List Char) : Option (List Char × List Char) :=
  match cs.dropWhile (· == '[') with
  | [] => none
  | c :: rest =>
    if isNameStart c then
      some (cs.takeWhile (· == '[') ++ c :: rest.takeWhile isReferenceChar,
        rest.dropWhile isReferenceChar)
    else none

/-- The text in parentheses, if an opening one stands in front, and what follows. There is no
result if the parenthesis is not closed. -/
def argumentsAt? (cs : List Char) : Option (Option (List Char) × List Char) :=
  match after? '(' cs with
  | none => some (none, cs)
  | some inside =>
    (after? ')' (inside.dropWhile (· != ')'))).map fun rest =>
      (some (inside.takeWhile (· != ')')), rest)

/-- The text behind an equals sign and blanks, up to the first character that `stop` holds for. -/
def defaultAt? (stop : Char → Bool) (cs : List Char) : Option (List Char) :=
  (after? '=' (skipBlanks cs)).map fun rest => (skipBlanks rest).takeWhile fun c => !stop c

/-- The first result of `shape` on `cs` and on what is left of it without its first characters. -/
def firstMatch? {α : Type} (shape : List Char → Option α) : List Char → Option α
  | [] => none
  | c :: cs =>
    match shape (c :: cs) with
    | some a => some a
    | none => firstMatch? shape cs

/-! ### The introduction of a type -/

def keywords : List String :=
  ["type", "input", "scalar", "enum", "interface", "union"]

/-- The start of a type definition: a keyword, blanks and the name of the type. -/
structure Intro where
  keyword : String
  name : String
deriving DecidableEq, Repr

/-- A keyword, and what follows it. -/
def keywordAt? (cs : List Char) : Option (String × List Char) :=
  (keywords.find? fun keyword => keyword.toList.isPrefixOf cs).map fun keyword =>
    (keyword, cs.drop keyword.toList.length)

def introAt? (cs : List Char) : Option Intro := do
  let (keyword, rest) ← keywordAt? cs
  guard (rest.head?.any isBlank)
  let (name, _) ← nameAt? (skipBlanks rest)
  some { keyword, name := String.ofList name }

/-- The first introduction in a line. A keyword counts within a longer word too. -/
def intro? (cs : List Char) : Option Intro :=
  firstMatch? introAt? cs

/-! ### Members and arguments -/

/-- A member of a type, as written: `name(arguments): reference = default`. -/
structure Member where
  name : String
  arguments : Option String
  reference : String
  defaultText : Option String
deriving DecidableEq, Repr

/-- The default value of a member goes on to the end of the line; there is none without at least
one character. -/
def lineDefaultAt? (cs : List Char) : Option (List Char) :=
  (defaultAt? (· == '\n') cs).filter (!·.isEmpty)

/-- A member. Its arguments and its default value may be left out. -/
def memberAt? (cs : List Char) : Option Member := do
  let (name, rest) ← nameAt? cs
  let (arguments, rest) ← argumentsAt? (skipBlanks rest)
  let rest ← after? ':' (skipBlanks rest)
  let (reference, rest) ← referenceAt? (skipBlanks rest)
  some
    { name := String.ofList name
      arguments := arguments.map String.ofList
      reference := String.ofList reference
      defaultText := (lineDefaultAt? rest).map String.ofList }

def member? (cs : List Char) : Option Member :=
  firstMatch? memberAt? cs

/-- An argument. Its default value goes on to a comma or a closing parenthesis. -/
def argumentAt? (cs : List Char) : Option Member := do
  let (name, rest) ← nameAt? cs
  let rest ← after? ':' (skipBlanks rest)
  let (reference, rest) ← referenceAt? (skipBlanks rest)
  some
    { name := String.ofList name
      arguments := none
      reference := String.ofList reference
      defaultText := (defaultAt? (fun c => c == ',' || c == ')') rest).map String.ofList }

def argument? (cs : List Char) : Option Member :=
  firstMatch? argumentAt? cs

/-! ### Descriptions -/

/-- The text of a line that is one pair of quotes with no quote between them. -/
def description? (cs : List Char) : Option String := do
  let inside ← after? '"' cs
  guard (inside.dropWhile (· != '"') = ['"'])
  some (String.ofList (inside.takeWhile (· != '"')))

end SchemaExplorer.Sdl
