import SchemaExplorer.Schema.TypeDefinition
import SchemaExplorer.Sdl.Pattern
import SchemaExplorer.Text.Split

/-!
Reading schema text line by line. The reader never fails: it passes over lines that it can make
nothing of, and a type whose body is still open at the end of the text is kept.

Not read are directives, the interfaces a type implements, descriptions over several lines, the
values of an enum, braces within braces, and commas in the default values of arguments.
-/

namespace SchemaExplorer.Sdl

/-! ### Lines -/

/-- What a line is, read by itself. -/
inductive Line where
  | ignored
  | description (text : String)
  | intro (intro : Intro)
  | other
deriving DecidableEq, Repr

/-- What a line without blanks at its ends is. Ignored are empty lines, comments, and lines that
begin with the quotes of a description over several lines. -/
def Line.classify (cs : List Char) : Line :=
  if cs.isEmpty || ['"', '"', '"'].isPrefixOf cs || ['#'].isPrefixOf cs then ignored
  else
    match description? cs with
    | some text => description (Text.trim text)
    | none =>
      match intro? cs with
      | some i => intro i
      | none => other

/-! ### Members -/

/-- The default value of a member or an argument, if it is more than blanks. -/
def Member.defaultValue (m : Member) : Option String :=
  m.defaultText.bind Text.nonBlank?

def Member.argument (m : Member) : Argument :=
  Argument.ofSignature m.name (Signature.parse m.reference) m.defaultValue

/-- The arguments in a list of them: the pieces between commas that look like one. -/
def argumentList (text : String) : List Argument :=
  (Text.splitChars ',' text.toList).filterMap fun piece =>
    (argument? (Text.trimChars piece)).map Member.argument

def Member.field (m : Member) (description : Option String) : Field :=
  let signature := Signature.parse m.reference
  { name := m.name
    typeName := signature.typeName
    isList := signature.isList
    isNonNull := signature.isNonNull
    args := (m.arguments.map argumentList).getD []
    description }

/-- The type with one more member: a field or an input field, as its kind has it. Types of other
kinds take no members. -/
def addMember (d : TypeDefinition) (m : Member) (description : Option String) : TypeDefinition :=
  if d.kind.hasFields then d.addField (m.field description)
  else if d.kind = .inputObject then d.addInputField m.argument
  else d

/-! ### The reader -/

/-- Where the reader stands: between types, behind the introduction of a type whose body has not
begun, or in the body of a type. -/
inductive Place where
  | outside
  | header (type : TypeDefinition)
  | body (type : TypeDefinition)
deriving DecidableEq, Repr

/-- The type that is being read. -/
def Place.type? : Place → Option TypeDefinition
  | outside => none
  | header d => some d
  | body d => some d

/-- A reader in the middle of a text: the types it has finished, where it stands, and the
description that waits for its owner. -/
structure Reader where
  definitions : List TypeDefinition
  place : Place
  description : Option String
deriving DecidableEq, Repr

namespace Reader

def start : Reader :=
  { definitions := [], place := .outside, description := none }

/-- Everything read so far. A type that is still open is the last. -/
def finish (r : Reader) : List TypeDefinition :=
  r.definitions ++ r.place.type?.toList

/-- What an introduction leaves of the type before it: a type with an open body is given up. -/
def settled (r : Reader) : List TypeDefinition :=
  match r.place with
  | .body _ => r.definitions
  | _ => r.finish

/-- The member types of a union, from the line that introduces it. -/
def possibleTypes (cs : List Char) : List String :=
  match Text.splitCharsOnce? '=' cs with
  | none => []
  | some (_, members) =>
    (Text.splitChars '|' members).filterMap fun member => Text.nonBlank? (String.ofList member)

/-- Begins the type that `cs` introduces. A scalar or a union ends at once; the body of any other
type begins with a brace, on this line or a later one. -/
def startType (r : Reader) (i : Intro) (cs : List Char) : Reader :=
  let kind := TypeKind.classify i.keyword i.name
  let d := TypeDefinition.declare i.name kind r.description
  if kind.isSelfTerminating then
    let members := if kind = .union then possibleTypes cs else []
    { definitions := r.settled ++ [{ d with possibleTypes := members }]
      place := .outside
      description := none }
  else
    { definitions := r.settled
      place := if cs.contains '{' then .body d else .header d
      description := none }

def closeType (r : Reader) : Reader :=
  { definitions := r.finish, place := .outside, description := none }

/-- Reads a line of the body of `d`. A description goes to the next member, even to one that has
no place for it. -/
def readMember (r : Reader) (d : TypeDefinition) (cs : List Char) : Reader :=
  match member? cs with
  | none => r
  | some m => { r with place := .body (addMember d m r.description), description := none }

/-- Reads a line that is neither a description nor an introduction. In a body, braces that open
belong to the default value of a member; elsewhere they begin the body. -/
def readOther (r : Reader) (cs : List Char) : Reader :=
  match r.place with
  | .outside => r
  | .header d =>
    if cs.contains '{' then { r with place := .body d }
    else if cs.contains '}' then r.closeType
    else r
  | .body d =>
    if cs.contains '}' && !cs.contains '{' then r.closeType
    else r.readMember d cs

/-- Reads one line. Blanks at its ends do not matter. -/
def readLine (r : Reader) (line : String) : Reader :=
  let cs := Text.trimChars line.toList
  match Line.classify cs with
  | .ignored => r
  | .description text => { r with description := some text }
  | .intro i => r.startType i cs
  | .other => r.readOther cs

def readLines (r : Reader) (lines : List String) : Reader :=
  lines.foldl readLine r

theorem readLines_append (r : Reader) (front back : List String) :
    r.readLines (front ++ back) = (r.readLines front).readLines back :=
  List.foldl_append

end Reader

/-- The types that a text defines, in its order. -/
def parse (text : String) : List TypeDefinition :=
  (Reader.start.readLines (Text.lines text)).finish

end SchemaExplorer.Sdl
