import SchemaExplorer.CommandLine.Program

/-!
The program on the command line: it looks at the files that its words name, runs, and prints.
-/

namespace SchemaExplorer.Main

/-- What is found wrong with a path. -/
def fileError : IO.Error → FileError
  | .noFileOrDirectory .. => .notFound
  | .inappropriateType .. => .notDirectory
  | e => .other (toString e)

/-- The tree at a path, at most `depth` directories deep. What has too long a path to be opened
counts as a file, whose content is not asked for. -/
def readTree : Nat → String → IO FileTree
  | 0, _ => pure .empty
  | depth + 1, path => do
    let place := System.mkFilePath [path]
    if FileTree.isPathTooLong path then pure (.file .empty)
    else if ← place.isDir then
      let names := (← place.readDir).toList.map fun entry => entry.fileName
      let entries ← names.mapM fun name => do
        pure (name, ← readTree depth (Path.child path name))
      pure (.directory entries)
    else
      pure (.file (← IO.FS.readBinFile path))

/-- What a path leads to. The limit for paths bounds the depth of a tree. -/
def readPath (path : String) : IO (Except FileError FileTree) := do
  try
    pure (.ok (← readTree FileTree.pathLimit path))
  catch e =>
    pure (.error (fileError e))

/-- The files that a command line names, as they are now. -/
def readFiles (words : List String) : IO FileSystem := do
  let paths :=
    match CommandLine.parse words with
    | .ok invocation => invocation.paths
    | .error _ => []
  let found ← paths.mapM fun path => do pure (path, ← readPath path)
  pure fun path => (found.lookup path).getD (.error .notFound)

def usage : String :=
  "Usage: schema-explorer [--config PATH] [-v] COMMAND [OPTIONS] SCHEMA_PATHS...\n\n" ++
  "  types [--json] [--include-introspection]      list every type of the schema\n" ++
  "  show --type TYPE_NAME                         show one type and its members\n" ++
  "  generate --field TYPE.FIELD [--arg NAME=VALUE]...\n" ++
  "                                                write a query for one field\n\n" ++
  "  --schema-file-exts EXT,...   the extensions of schema files in directories"

def usageMessage : CommandLine.UsageError → String
  | .missingRequired => "a required argument is missing"
  | .unknownArgument => "unknown argument"
  | .invalidSubcommand => "unrecognized subcommand"
  | .invalidValue => "invalid or missing value"
  | .malformedValue => "malformed value"
  | .conflict => "an argument cannot be used twice"
  | .tooManyValues => "unexpected value"

def printAnswer : CommandLine.Answer → IO Unit
  | .usage => IO.println usage
  | .stop .help => IO.println usage
  | .stop .version => IO.println "schema-explorer 0.1.0"
  | .stop (.misuse e) => IO.eprintln ("error: " ++ usageMessage e ++ "\n\n" ++ usage)
  | .outcome (.success text) => IO.println text
  | .outcome (.failure text) => IO.eprintln text

end SchemaExplorer.Main

open SchemaExplorer in
def main (words : List String) : IO UInt32 := do
  let files ← Main.readFiles words
  let run := CommandLine.run files words (← IO.getEnv "LOG_LEVEL")
  for record in run.shownRecords do
    IO.eprintln (record.level.name ++ " " ++ record.message)
  Main.printAnswer run.answer
  return UInt32.ofNat run.answer.exitCode
