import SchemaExplorer.Catalog.Remarks
import SchemaExplorer.CommandLine.Reading
import SchemaExplorer.Json.Writer
import SchemaExplorer.LoadState
import SchemaExplorer.Query.ConfigFile
import SchemaExplorer.Query.Document
import SchemaExplorer.Schema.Listing

/-!
Carrying out commands.
-/

namespace SchemaExplorer.CommandLine

/-- How a command ends: with a text for its standard output, or for its standard error. -/
inductive Outcome where
  | success (text : String)
  | failure (text : String)
deriving DecidableEq, Repr

namespace Outcome

def exitCode : Outcome → Nat
  | success _ => 0
  | failure _ => 1

def output? : Outcome → Option String
  | success text => some text
  | failure _ => none

def errorOutput? : Outcome → Option String
  | success _ => none
  | failure text => some text

/-- A failure, with the mark that its text begins with. -/
def refuse (text : String) : Outcome :=
  failure ("❌ " ++ text)

end Outcome

/-! ### Loading schemas -/

def loadCatalog (files : FileSystem) (schema : SchemaSource) : Logged (LoadState Catalog) := do
  Logged.note .debug
    ("Loading schema from " ++ toString schema.paths.length ++ " input paths...")
  match ← schema.load files with
  | .error e => pure (.failed e.message)
  | .ok text => do
    Logged.note .debug ("Parsing " ++ toString text.fileCount ++ " schema files.")
    let catalog ← Catalog.ofSdlLogged text.text
    pure (.loaded catalog)

/-- Goes on with a catalog that is loaded. -/
def withCatalog (files : FileSystem) (schema : SchemaSource)
    (use : Catalog → Logged Outcome) : Logged Outcome := do
  match ← loadCatalog files schema with
  | .loaded catalog => use catalog
  | .failed message => pure (.refuse ("Failed to load schema: " ++ message))
  | .loading => pure (.refuse "Schema is still loading.")

/-! ### The list of types -/

/-- The types that are listed. -/
def listedTypes (catalog : Catalog) (includeIntrospection : Bool) : List TypeDefinition :=
  if includeIntrospection then catalog.definitions else catalog.userDefinitions

/-- A line for each type, and their number. -/
def typeList (definitions : List TypeDefinition) : Outcome :=
  if definitions.isEmpty then .refuse "No type definitions found in the schema."
  else
    .success
      (Text.join "\n" (definitions.map TypeDefinition.summary) ++ "\n✅ Found " ++
        toString definitions.length ++ " types.")

def listTypes (catalog : Catalog) (includeIntrospection json : Bool) : Logged Outcome := do
  let definitions := listedTypes catalog includeIntrospection
  Logged.note .debug
    ("Listing " ++ toString definitions.length ++ " of " ++ toString catalog.size ++ " types.")
  pure
    (if json then .success (Json.pretty (.array (definitions.map TypeDefinition.toJson)))
      else typeList definitions)

/-! ### One type -/

def showType (catalog : Catalog) (typeName : String) : Outcome :=
  match catalog.get? typeName with
  | some d => .success d.listing
  | none => .refuse ("No type named `" ++ typeName ++ "` in the schema.")

/-! ### Queries -/

/-- Whether a field has an argument of that name. -/
def takesArgument (f : Field) (name : String) : Bool :=
  f.args.any fun a => a.name = name

/-- The values for arguments that the field has; of two for one argument the later counts. -/
def acceptedValues (f : Field) (values : List NamedValue) : OrderedMap String :=
  .ofList ((values.filter fun v => takesArgument f v.name).map fun v => (v.name, v.value))

/-- A warning for each value that belongs to no argument of the field. -/
def valueWarnings (fieldPath : String) (f : Field) (values : List NamedValue) :
    List Log.Record :=
  (values.filter fun v => !takesArgument f v.name).map fun v =>
    ⟨.warn, "`" ++ fieldPath ++ "` takes no argument named `" ++ v.name ++ "`; ignoring it."⟩

def generateQuery (config : Query.Config) (catalog : Catalog) (fieldPath : String)
    (values : List NamedValue) : Logged Outcome :=
  match catalog.findField fieldPath with
  | .error e => pure (.refuse e.message)
  | .ok f => do
    Logged.notes (valueWarnings fieldPath f values)
    Logged.note .debug
      ("Generated operation `" ++ Query.operationName f.name ++ "` for field `" ++ f.name ++ "`.")
    pure (.success (Query.generate config f (acceptedValues f values)))

/-! ### Commands -/

/-- Carries out a command. The configuration is read before the schema, by the one command that
needs it. -/
def Command.run (files : FileSystem) (configPath? : Option String) : Command → Logged Outcome
  | .types includeIntrospection json schema =>
    withCatalog files schema fun catalog => listTypes catalog includeIntrospection json
  | .showType typeName schema =>
    withCatalog files schema fun catalog => pure (CommandLine.showType catalog typeName)
  | .generate fieldPath values schema => do
    match ← Query.Config.load files configPath? with
    | .error e => pure (.refuse e.message)
    | .ok config =>
      withCatalog files schema fun catalog => generateQuery config catalog fieldPath values

end SchemaExplorer.CommandLine
