import SchemaExplorer.Log
import SchemaExplorer.Sdl.Reader

/-!
What the log says of a text that is read.
-/

namespace SchemaExplorer.Sdl

namespace Reader

/-- The remark on a line that belongs to no body. -/
def skipRemark (cs : List Char) : Log.Record :=
  ⟨.trace, "Skipping SDL line outside of any type body: `" ++ String.ofList cs ++ "`"⟩

/-- The remarks on a line of the body of `d`. -/
def memberRemarks (d : TypeDefinition) (cs : List Char) : List Log.Record :=
  match member? cs with
  | none =>
    [⟨.trace, "No field found on line `" ++ String.ofList cs ++ "` in `" ++ d.name ++ "`."⟩]
  | some m =>
    if d.kind.hasFields || d.kind = .inputObject then []
    else
      [⟨.trace, "Ignoring member `" ++ m.name ++ "` of " ++ d.kind.name ++ " type `" ++ d.name ++
        "`."⟩]

/-- The remarks on the line that is read next. -/
def remarks (r : Reader) (line : String) : List Log.Record :=
  let cs := Text.trimChars line.toList
  match Line.classify cs, r.place with
  | .intro _, .body d =>
    [⟨.trace, "Dropping `" ++ d.name ++ "`: a new type began before its body closed."⟩]
  | .other, .outside => [skipRemark cs]
  | .other, .header _ => if cs.contains '{' || cs.contains '}' then [] else [skipRemark cs]
  | .other, .body d =>
    if cs.contains '}' && !cs.contains '{' then [] else memberRemarks d cs
  | _, _ => []

/-- The remarks on the end of the text. -/
def finishRemarks (r : Reader) : List Log.Record :=
  match r.place.type? with
  | some d => [⟨.trace, "Reached end of input inside `" ++ d.name ++ "`; keeping it anyway."⟩]
  | none => []

/-- The remarks on the lines that are left. -/
def linesRemarks (r : Reader) : List String → List Log.Record
  | [] => r.finishRemarks
  | line :: lines => r.remarks line ++ (r.readLine line).linesRemarks lines

end Reader

/-- The types that a text defines, with the remarks on its lines. -/
def parseLogged (text : String) : Logged (List TypeDefinition) := do
  Logged.notes (Reader.start.linesRemarks (Text.lines text))
  let definitions := parse text
  Logged.note .debug ("Parsed " ++ toString definitions.length ++ " type definitions from SDL.")
  pure definitions

end SchemaExplorer.Sdl
