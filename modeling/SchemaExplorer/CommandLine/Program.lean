import SchemaExplorer.CommandLine.Run

/-!
The program as a whole: from the words of a command line to the answer and the log.
-/

namespace SchemaExplorer.CommandLine

/-! ### The level of the log -/

def defaultLevel : Log.Level := .warn

/-- The level that a setting names, in capitals or in small letters. -/
def levelOfName? (name : String) : Option Log.Level :=
  if name = "DEBUG" || name = "debug" then some .debug
  else if name = "INFO" || name = "info" then some .info
  else if name = "TRACE" || name = "trace" then some .trace
  else if name = "VERBOSE" || name = "verbose" then some .debug
  else if name = "WARN" || name = "warn" then some .warn
  else none

/-- The level of the log, with a warning if the setting names none. Verbose output does not look
at the setting. -/
def chooseLevel (verbose : Bool) (setting? : Option String) : Logged Log.Level :=
  if verbose then pure .debug
  else
    match setting?.map Text.trim with
    | none => pure defaultLevel
    | some name =>
      match levelOfName? name with
      | some level => pure level
      | none => do
        Logged.note .warn
          ("Invalid `LOG_LEVEL` environment variable value: `" ++ name ++ "`")
        pure defaultLevel

/-! ### Runs -/

/-- What the program answers: how a command ended, its help text if it was given no command, or
why it does nothing. -/
inductive Answer where
  | outcome (outcome : Outcome)
  | usage
  | stop (stop : Stop)
deriving DecidableEq, Repr

def Answer.exitCode : Answer → Nat
  | outcome o => o.exitCode
  | usage => 0
  | stop s => s.exitCode

/-- A run of the program. -/
structure Run where
  answer : Answer
  level : Log.Level
  records : List Log.Record
deriving DecidableEq, Repr

/-- The records that the log shows. -/
def Run.shownRecords (r : Run) : List Log.Record :=
  Log.shown r.level r.records

/-- The lines of the standard error that are not the first of a record: what is left of the
messages of the log, and then the text of a failure. -/
def Run.errorLines (r : Run) : List String :=
  r.shownRecords.flatMap Log.Record.furtherLines ++
    match r.answer with
    | .outcome (.failure text) => Text.lines (text ++ "\n")
    | _ => []

/-- Runs the program on the words of a command line. The setting is that of the level of the log,
if there is one. -/
def run (files : FileSystem) (words : List String) (setting? : Option String) : Run :=
  match parse words with
  | .error stop => { answer := .stop stop, level := defaultLevel, records := [] }
  | .ok invocation =>
    let level := chooseLevel invocation.verbose setting?
    let begun : Logged Answer := do
      Logged.note .trace ("Initial logging level set to `" ++ level.value.name ++ "`.")
      Logged.notes level.records
      match invocation.command? with
      | none => pure .usage
      | some command => do
        let outcome ← command.run files invocation.configPath?
        pure (.outcome outcome)
    { answer := begun.value, level := level.value, records := begun.records }

end SchemaExplorer.CommandLine
