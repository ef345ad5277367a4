import SchemaExplorer.CommandLine.Invocation

/-!
The options of a command line, by the part of it that they belong to.
-/

namespace SchemaExplorer.CommandLine

/-- The part of a command line that options belong to: all of it, or a command. -/
inductive Scope where
  | program
  | generate
  | showType
  | types
deriving DecidableEq, Repr

def commandScope? (name : String) : Option Scope :=
  if name = "generate" then some .generate
  else if name = "show" then some .showType
  else if name = "types" then some .types
  else none

/-- What a word can set. -/
inductive Slot where
  | help
  | version
  | verbose
  | config
  | extensions
  | value
  | fieldPath
  | typeName
  | includeIntrospection
  | json
  | paths
deriving DecidableEq, Repr

namespace Slot

/-- Whether values belong to the slot; otherwise it is a flag. -/
def takesValue : Slot → Bool
  | config | extensions | value | fieldPath | typeName | paths => true
  | _ => false

/-- Whether the slot may be set again, which adds to its values. -/
def isList : Slot → Bool
  | extensions | value | paths => true
  | _ => false

def ofLongName? (scope : Scope) (name : String) : Option Slot :=
  if name = "help" then some help
  else if name = "verbose" then some verbose
  else if name = "config" then some config
  else
    match scope with
    | .program => if name = "version" then some version else none
    | .generate =>
      if name = "schema-file-exts" then some extensions
      else if name = "arg" then some value
      else if name = "field" then some fieldPath
      else none
    | .showType =>
      if name = "schema-file-exts" then some extensions
      else if name = "type" then some typeName
      else none
    | .types =>
      if name = "schema-file-exts" then some extensions
      else if name = "include-introspection" then some includeIntrospection
      else if name = "json" then some json
      else none

def ofLetter? (scope : Scope) (letter : Char) : Option Slot :=
  if letter = 'h' then some help
  else if letter = 'v' then some verbose
  else if letter = 'V' && scope = .program then some version
  else none

/-- The values that one given to the slot counts for. A path must not be empty, a value for an
argument must have a name, and extensions are parted by commas. -/
def values (slot : Slot) (given : String) : Except Stop (List String) :=
  match slot with
  | config | paths => if given.isEmpty then .error (.misuse .invalidValue) else .ok [given]
  | value =>
    match NamedValue.parse given with
    | .ok _ => .ok [given]
    | .error _ => .error (.misuse .malformedValue)
  | extensions => .ok (Text.split ',' given)
  | _ => .ok [given]

end Slot

end SchemaExplorer.CommandLine
