import SchemaExplorer.Files.Tree
import SchemaExplorer.Log
import SchemaExplorer.Text.Quoted

/-!
The files that a schema is read from: those that are named, and those below the directories that
are named, if they have one of some extensions.
-/

namespace SchemaExplorer

structure SchemaSource where
  extensions : List String
  paths : List String
deriving DecidableEq, Repr

/-- Why a schema has no text. A scan of what is below a path fails at a place: the path itself, or
a directory below it. -/
inductive SchemaSourceError where
  | scan (path place : String) (cause : FileError)
  | read (path : String) (cause : FileError)
  | noFiles (extensions : List String)
deriving DecidableEq, Repr

def SchemaSourceError.message : SchemaSourceError → String
  | scan path place cause =>
    "Failed to scan " ++ Text.quote path ++ ": IO error for operation on " ++ place ++ ": " ++
      cause.message
  | read path cause => "Failed to read schema file " ++ Text.quote path ++ ": " ++ cause.message
  | noFiles extensions =>
    "No schema files found (looked for extensions: " ++ Text.join ", " extensions ++ ")"

/-- A file of a schema. -/
structure SchemaFile where
  path : String
  content : ByteArray

/-- The text of a file, if it can be opened and is a text. -/
def SchemaFile.text (file : SchemaFile) : Except SchemaSourceError String :=
  if FileTree.isPathTooLong file.path then .error (.read file.path .nameTooLong)
  else (FileSystem.text? file.content).mapError (.read file.path)

/-- The text of a schema, and the number of files it comes from. -/
structure SchemaText where
  fileCount : Nat
  text : String

namespace SchemaSource

/-- The extensions without the dots that they may begin with. -/
def plainExtensions (s : SchemaSource) : List String :=
  s.extensions.map fun extension => String.ofList (extension.toList.dropWhile (· == '.'))

/-- Whether a file of a directory counts as one of the schema's. -/
def accepts (s : SchemaSource) (path : String) : Bool :=
  match Path.extension? path with
  | some extension => s.plainExtensions.contains extension
  | none => false

/-- The file at a place of a walk, if it is one of the schema's. -/
def pick? (s : SchemaSource) (visit : FileTree.Visit) : Option SchemaFile :=
  if s.accepts visit.path then visit.content?.map fun content => ⟨visit.path, content⟩ else none

/-- The remark on a place of a walk. -/
def visitRemark (s : SchemaSource) (visit : FileTree.Visit) : Log.Record :=
  let path := Text.quote visit.path
  if visit.content?.isNone then ⟨.trace, "Skipping non-file: " ++ path ++ "."⟩
  else if s.accepts visit.path then ⟨.trace, "Found schema file at " ++ path ++ "."⟩
  else ⟨.trace, "Skipping non-schema file: " ++ path ++ "."⟩

/-- The files of a walk. It ends where it cannot go on. -/
def filesOfWalk (s : SchemaSource) (path : String) (visits : List FileTree.Visit) :
    Logged (Except SchemaSourceError (List SchemaFile)) :=
  match visits.find? FileTree.Visit.isBlocked with
  | none => do
    Logged.notes (visits.map s.visitRemark)
    pure (.ok (visits.filterMap s.pick?))
  | some blocked => do
    let seen := visits.takeWhile fun visit => !visit.isBlocked
    Logged.notes ((seen ++ [blocked]).map s.visitRemark)
    pure (.error (.scan path blocked.path .nameTooLong))

/-- The files at or below one path. A file that is named itself counts whatever its extension. -/
def filesAt (s : SchemaSource) (files : FileSystem) (path : String) :
    Logged (Except SchemaSourceError (List SchemaFile)) :=
  match files path with
  | .error cause => pure (.error (.scan path path cause))
  | .ok (.file content) => do
    Logged.note .trace ("Using explicitly named schema file " ++ Text.quote path ++ ".")
    pure (.ok [⟨path, content⟩])
  | .ok (.directory es) => s.filesOfWalk path (FileTree.visits path (.directory es))

/-- The files at or below the given paths, one path after the other. -/
def filesAtAll (s : SchemaSource) (files : FileSystem) :
    List String → Logged (Except SchemaSourceError (List SchemaFile))
  | [] => pure (.ok [])
  | path :: paths => do
    match ← s.filesAt files path with
    | .error e => pure (.error e)
    | .ok found =>
      match ← s.filesAtAll files paths with
      | .error e => pure (.error e)
      | .ok more => pure (.ok (found ++ more))

/-- All files of the schema; there must be one. -/
def find (s : SchemaSource) (files : FileSystem) :
    Logged (Except SchemaSourceError (List SchemaFile)) := do
  match ← s.filesAtAll files s.paths with
  | .error e => pure (.error e)
  | .ok [] => pure (.error (.noFiles s.extensions))
  | .ok found =>
    Logged.note .debug ("Found " ++ toString found.length ++ " schema files.")
    pure (.ok found)

/-- The texts of files one after the other, with a line feed behind each. -/
def joinTexts : List SchemaFile → Except SchemaSourceError String
  | [] => .ok ""
  | file :: rest => do .ok ((← file.text) ++ "\n" ++ (← joinTexts rest))

def load (s : SchemaSource) (files : FileSystem) :
    Logged (Except SchemaSourceError SchemaText) := do
  match ← s.find files with
  | .error e => pure (.error e)
  | .ok found => pure ((joinTexts found).map fun text => ⟨found.length, text⟩)

end SchemaSource

end SchemaExplorer
