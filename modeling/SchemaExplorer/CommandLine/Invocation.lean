import SchemaExplorer.CommandLine.NamedValue
import SchemaExplorer.Files.SchemaSource

/-!
What a command line asks for, and why it may not be carried out.
-/

namespace SchemaExplorer.CommandLine

/-- One of the program's commands. -/
inductive Command where
  | types (includeIntrospection json : Bool) (schema : SchemaSource)
  | showType (typeName : String) (schema : SchemaSource)
  | generate (fieldPath : String) (values : List NamedValue) (schema : SchemaSource)
deriving DecidableEq, Repr

def Command.schema : Command → SchemaSource
  | types _ _ schema => schema
  | showType _ schema => schema
  | generate _ _ schema => schema

structure Invocation where
  command? : Option Command
  configPath? : Option String
  verbose : Bool
deriving DecidableEq, Repr

/-- The paths that carrying out the invocation can look at. -/
def Invocation.paths (i : Invocation) : List String :=
  i.configPath?.toList ++ (i.command?.map fun command => command.schema.paths).getD []

/-- What is wrong with a command line. -/
inductive UsageError where
  | missingRequired
  | unknownArgument
  | invalidSubcommand
  | invalidValue
  | malformedValue
  | conflict
  | tooManyValues
deriving DecidableEq, Repr

/-- Why a command line is not carried out: it asks for help or the version, or it is wrong. -/
inductive Stop where
  | help
  | version
  | misuse (e : UsageError)
deriving DecidableEq, Repr

/-- The exit code after a stop. -/
def Stop.exitCode : Stop → Nat
  | help => 0
  | version => 0
  | misuse _ => 2

end SchemaExplorer.CommandLine
