import SchemaExplorer.CommandLine.Slot

/-!
Reading the words of a command line.

An option takes its value from the same word, behind an equals sign, or from the next word. The
values of an option are checked when the next option begins, or at the end. Options that the whole
program has may stand before the name of a command or behind it.
-/

namespace SchemaExplorer.CommandLine

/-- A command line that is half read: what it has set, in order, and the slot that is still
collecting values. -/
structure Reading where
  settled : List (Slot × List String)
  pending : Option (Slot × List String)

namespace Reading

def start : Reading :=
  { settled := [], pending := none }

/-- Whether a slot was set. -/
def has (r : Reading) (slot : Slot) : Bool :=
  r.settled.any fun entry => entry.1 = slot

/-- All values of a slot. -/
def all (r : Reading) (slot : Slot) : List String :=
  (r.settled.filter fun entry => entry.1 = slot).flatMap Prod.snd

/-- Sets a slot. -/
def enter (r : Reading) (slot : Slot) (given : List String) : Except Stop Reading :=
  match slot with
  | .help => .error .help
  | .version => .error .version
  | _ =>
    if slot.takesValue && given.isEmpty then .error (.misuse .invalidValue)
    else if !slot.isList && r.has slot then .error (.misuse .conflict)
    else do
      let values ← given.mapM slot.values
      .ok { r with settled := r.settled ++ [(slot, values.flatten)] }

/-- Sets the slot that has been collecting values. -/
def settle (r : Reading) : Except Stop Reading :=
  match r.pending with
  | none => .ok r
  | some (slot, given) => { r with pending := none }.enter slot given

/-- Sets a slot after the one that has been collecting values. -/
def give (r : Reading) (slot : Slot) (given : List String) : Except Stop Reading := do
  (← r.settle).enter slot given

/-- Lets another slot collect values. -/
def await (r : Reading) (slot : Slot) (given : List String) : Except Stop Reading := do
  .ok { ← r.settle with pending := some (slot, given) }

/-- Adds a value to the slot that is collecting them. -/
def collect (r : Reading) (word : String) : Reading :=
  { r with pending := r.pending.map fun (slot, given) => (slot, given ++ [word]) }

/-- Adds a path; other paths just before it are collected together with it. -/
def addPath (r : Reading) (path : String) : Except Stop Reading :=
  match r.pending with
  | some (.paths, _) => .ok (r.collect path)
  | _ => r.await .paths [path]

/-- Sets the flags that the letters name. -/
def giveLetters (r : Reading) (scope : Scope) : List Char → Except Stop Reading
  | [] => .ok r
  | letter :: letters =>
    match Slot.ofLetter? scope letter with
    | none => .error (.misuse .unknownArgument)
    | some slot => do (← r.give slot []).giveLetters scope letters

/-- Reads the words behind two hyphens alone, of which none is an option. The program itself takes
none; the name of a command is then taken for an argument. -/
def readPlain (r : Reading) (scope : Scope) : List String → Except Stop Reading
  | [] => .ok r
  | word :: words =>
    if scope = .program then
      if word = "help" || (commandScope? word).isSome then .error (.misuse .unknownArgument)
      else .error (.misuse .invalidSubcommand)
    else do (← r.addPath word).readPlain scope words

/-- What help is asked for behind the word `help`: all, or that of one command. -/
def helpStop : List String → Stop
  | [] => .help
  | [word] =>
    if word = "help" || (commandScope? word).isSome then .help else .misuse .invalidSubcommand
  | _ => .misuse .invalidSubcommand

/-- The name and the value of an option, behind its two hyphens. -/
def splitOption (text : List Char) : String × Option String :=
  match Text.splitCharsOnce? '=' text with
  | some (name, value) => (String.ofList name, some (String.ofList value))
  | none => (String.ofList text, none)

/-- Reads the words of a scope. The words behind the name of a command are left over, with the
scope that the name begins. `awaited` says that the next word can be the value of an option. -/
def read (r : Reading) (scope : Scope) (awaited : Bool) :
    List String → Except Stop (Reading × Option (Scope × List String))
  | [] => .ok (r, none)
  | word :: words =>
    let command? := if scope = .program && !awaited then commandScope? word else none
    if scope = .program && !awaited && word = "help" then .error (helpStop words)
    else
      match command? with
      | some command => .ok (r, some (command, words))
      | none =>
        match word.toList with
        | ['-', '-'] => do .ok (← r.readPlain scope words, none)
        | '-' :: '-' :: text =>
          let (name, value?) := splitOption text
          match Slot.ofLongName? scope name with
          | none => .error (.misuse .unknownArgument)
          | some slot =>
            match slot.takesValue, value? with
            | true, some value => do (← r.give slot [value]).read scope false words
            | true, none => do (← r.await slot []).read scope true words
            | false, some _ => .error (.misuse .tooManyValues)
            | false, none => do (← r.give slot []).read scope false words
        | '-' :: letter :: letters => do
          (← r.giveLetters scope (letter :: letters)).read scope false words
        | _ =>
          if awaited then (r.collect word).read scope false words
          else if scope = .program then .error (.misuse .invalidSubcommand)
          else do (← r.addPath word).read scope false words

/-! ### From readings to invocations -/

/-- The schema that a command reads. -/
def schema (r : Reading) : SchemaSource :=
  { extensions := if r.has .extensions then r.all .extensions else ["graphql", "graphqls"]
    paths := r.all .paths }

/-- The command that a scope's words make, if nothing is missing. -/
def command (r : Reading) (scope : Scope) : Except Stop (Option Command) :=
  let missing : Except Stop (Option Command) := .error (.misuse .missingRequired)
  if scope != .program && !r.has .paths then missing
  else
    match scope with
    | .program => .ok none
    | .types => .ok (some (.types (r.has .includeIntrospection) (r.has .json) r.schema))
    | .showType =>
      match r.all .typeName with
      | typeName :: _ => .ok (some (.showType typeName r.schema))
      | [] => missing
    | .generate =>
      match r.all .fieldPath with
      | fieldPath :: _ =>
        let values := (r.all .value).filterMap fun text => (NamedValue.parse text).toOption
        .ok (some (.generate fieldPath values r.schema))
      | [] => missing

end Reading

/-- Reads a command line. A command is read to its end before the options in front of its name are
checked; of two paths to a configuration the one behind the name counts. -/
def parse (words : List String) : Except Stop Invocation := do
  let (program, rest?) ← Reading.start.read .program false words
  match rest? with
  | none =>
    let program ← program.settle
    .ok
      { command? := none
        configPath? := (program.all .config).head?
        verbose := program.has .verbose }
  | some (scope, words) =>
    let (inner, _) ← Reading.start.read scope false words
    let inner ← inner.settle
    let command? ← inner.command scope
    let program ← program.settle
    .ok
      { command?
        configPath? := (inner.all .config ++ program.all .config).head?
        verbose := inner.has .verbose || program.has .verbose }

end SchemaExplorer.CommandLine
