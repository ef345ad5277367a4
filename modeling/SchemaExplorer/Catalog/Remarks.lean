import SchemaExplorer.Catalog
import SchemaExplorer.Sdl.Remarks

/-!
What the log says of a catalog that is put together.
-/

namespace SchemaExplorer.Catalog

/-- The names that come again, each time they do; those in `seen` have come before. -/
def repeatedNames (seen : List String) : List String → List String
  | [] => []
  | name :: names =>
    if seen.contains name then name :: repeatedNames seen names
    else repeatedNames (name :: seen) names

/-- The remarks on definitions that take the place of others. -/
def remarks (definitions : List TypeDefinition) : List Log.Record :=
  (repeatedNames [] (definitions.map TypeDefinition.name)).map fun name =>
    ⟨.debug, "Type `" ++ name ++ "` is defined more than once; keeping the last."⟩

/-- The catalog of a text, with the remarks on both. -/
def ofSdlLogged (text : String) : Logged Catalog := do
  let definitions ← Sdl.parseLogged text
  Logged.notes (remarks definitions)
  pure (ofDefinitions definitions)

end SchemaExplorer.Catalog
