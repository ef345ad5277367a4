import SchemaExplorer.Schema.TypeDefinition

/-!
How types are shown: a line for each in a list, and a short listing of one with its members.
-/

namespace SchemaExplorer

/-- A field in the listing of its type, with its description behind a `#`. -/
def Field.listing (f : Field) : String :=
  f.line ++
    match f.description with
    | some text => "  # " ++ text
    | none => ""

namespace TypeDefinition

/-- The lines of the listing after the first; they are indented. -/
def listingBody (d : TypeDefinition) : List String :=
  (match d.description with
    | some text => ["\"" ++ text ++ "\""]
    | none => []) ++
    d.fields.map Field.listing ++ d.inputFields.map Argument.line ++
    (if d.possibleTypes.isEmpty then [] else ["= " ++ Text.join " | " d.possibleTypes])

/-- A listing of the type: its name and kind, its description, and a line for each field; the
possible types stand together on one line. -/
def listing (d : TypeDefinition) : String :=
  Text.join "\n"
    ((d.name ++ " (" ++ d.kind.name ++ ")") :: d.listingBody.map fun line => "  " ++ line)

/-- The type's line in a list of types. -/
def summary (d : TypeDefinition) : String :=
  d.name ++ " (" ++ d.kind.name ++ ", " ++ toString d.memberCount ++ " members)"

end TypeDefinition

end SchemaExplorer
