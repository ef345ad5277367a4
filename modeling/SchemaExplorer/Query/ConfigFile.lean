import SchemaExplorer.Files.Tree
import SchemaExplorer.Json.Reader
import SchemaExplorer.Log
import SchemaExplorer.Query.Config
import SchemaExplorer.Text.Quoted
import SchemaExplorer.Toml.Reader

/-!
Tables of a configuration from a file, in TOML or JSON by its extension. A table that the file
does not have is the built-in one; all of them are laid over the built-in ones.
-/

namespace SchemaExplorer.Query

/-- Why a file gives no configuration. -/
inductive ConfigError where
  | read (path : String) (cause : FileError)
  | invalidToml (path : String)
  | invalidJson (path : String)
  | unsupportedFormat (path : String)
deriving DecidableEq, Repr

/-- The message for an error; of a text that is malformed it says where that is from, and not what
is wrong. -/
def ConfigError.message : ConfigError → String
  | read path cause => "Failed to read config file " ++ Text.quote path ++ ": " ++ cause.message
  | invalidToml path => "Invalid TOML in config file " ++ Text.quote path ++ ":"
  | invalidJson path => "Invalid JSON in config file " ++ Text.quote path ++ ":"
  | unsupportedFormat path =>
    "Unsupported config file extension for " ++ Text.quote path ++
      "; expected `.toml` or `.json`"

namespace Config

def ofTables (selectionSets codePlaceholders : Option (OrderedMap String)) : Config :=
  { selectionSets := selectionSets.getD builtin.selectionSets
    codePlaceholders := codePlaceholders.getD builtin.codePlaceholders }

/-! ### TOML -/

/-- The key under which a date or a time stands where a table should be. -/
def dateTimeKey : String := "$__toml_private_datetime"

def textOfToml? : Toml → Option String
  | .string text => some text
  | _ => none

/-- A table of strings. A date or a time counts as the table that has nothing but its text. -/
def tableOfToml? : Toml → Option (OrderedMap String)
  | .table _ entries => do
    let pairs ← entries.mapM fun entry => (textOfToml? entry.2).map fun text => (entry.1, text)
    some (.ofList pairs)
  | .dateTime text => some (.ofList [(dateTimeKey, text)])
  | _ => none

/-- A table that may be missing. -/
def optionalTable? {α : Type} (table? : α → Option (OrderedMap String)) :
    Option α → Option (Option (OrderedMap String))
  | none => some none
  | some a => (table? a).map some

def ofToml? (text : String) : Option Config := do
  let entries ← Toml.parse? text
  let selectionSets ← optionalTable? tableOfToml? (entries.lookup "selection_sets")
  let codePlaceholders ← optionalTable? tableOfToml? (entries.lookup "code_placeholders")
  some (ofTables selectionSets codePlaceholders)

/-! ### JSON -/

def tableOfJson? (j : Json) : Option (OrderedMap String) := do
  let pairs ← (← j.entries?).mapM fun entry => entry.2.text?.map fun text => (entry.1, text)
  some (.ofList pairs)

/-- The two tables of an object, or of an array that may end before either. -/
def fieldsOfJson? : Json → Option (List (Option Json))
  | .array [] => some [none, none]
  | .array [first] => some [some first, none]
  | j => j.fields? ["selection_sets", "code_placeholders"]

def ofJson? (text : String) : Option Config := do
  match ← fieldsOfJson? (← Json.parse? text) with
  | [selectionSets, codePlaceholders] =>
    some (ofTables (← optionalTable? tableOfJson? selectionSets)
      (← optionalTable? tableOfJson? codePlaceholders))
  | _ => none

/-! ### Files -/

/-- The configuration that the text of a file writes. -/
def parse (text path : String) : Except ConfigError Config :=
  match Path.extension? path with
  | some "toml" =>
    match ofToml? text with
    | some config => .ok config
    | none => .error (.invalidToml path)
  | some "json" =>
    match ofJson? text with
    | some config => .ok config
    | none => .error (.invalidJson path)
  | _ => .error (.unsupportedFormat path)

/-- The built-in tables, with those of a file laid over them if there is one. -/
def load (files : FileSystem) : Option String → Logged (Except ConfigError Config)
  | none => do
    Logged.note .debug "No config file given; using built-in generator tables."
    pure (.ok builtin)
  | some path => do
    Logged.note .debug ("Reading generator config from " ++ Text.quote path ++ ".")
    match files.readText path with
    | .error cause => pure (.error (.read path cause))
    | .ok text =>
      match parse text path with
      | .error e => pure (.error e)
      | .ok config =>
        Logged.note .info
          ("Loaded " ++ toString config.selectionSets.size ++ " selection sets and " ++
            toString config.codePlaceholders.size ++ " `code` placeholders from " ++
            Text.quote path ++ ".")
        pure (.ok (builtin.merge config))

end Config

end SchemaExplorer.Query
