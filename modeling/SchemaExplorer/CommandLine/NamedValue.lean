import SchemaExplorer.Text.Blank
import SchemaExplorer.Text.Split

/-!
Values for arguments, as they are given on the command line: `name=value`.
-/

namespace SchemaExplorer.CommandLine

structure NamedValue where
  name : String
  value : String
deriving DecidableEq, Repr

/-- What is wrong with a text that gives no value. -/
inductive NamedValueError where
  | missingEquals (text : String)
  | emptyName (text : String)
deriving DecidableEq, Repr

def NamedValueError.message : NamedValueError → String
  | missingEquals text => "expected `name=value`, got `" ++ text ++ "`"
  | emptyName text => "argument name is empty in `" ++ text ++ "`"

/-- The name before the first equals sign, without blanks around it, and everything behind the
sign. -/
def NamedValue.parse (text : String) : Except NamedValueError NamedValue :=
  match Text.splitOnce? '=' text with
  | none => .error (.missingEquals text)
  | some (name, value) =>
    match Text.nonBlank? name with
    | none => .error (.emptyName text)
    | some name => .ok { name, value }

end SchemaExplorer.CommandLine
