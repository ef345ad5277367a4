import SchemaExplorer.Query.Literal

/-!
Query documents that select one field.
-/

namespace SchemaExplorer.Query

/-- The name of the operation for a field: `ContinentGenerated` for `continent`. -/
def operationName (fieldName : String) : String :=
  Text.upperFirst fieldName ++ "Generated"

/-- The arguments of a field with their literals. -/
def argumentText (config : Config) (f : Field) (provided : OrderedMap String) : String :=
  Text.join ", " (f.args.map fun a => a.name ++ ": " ++ literal config f.name provided a)

/-- The field with its arguments, and the selection set for its type if the tables have one. -/
def selection (config : Config) (f : Field) (provided : OrderedMap String) : String :=
  let args := argumentText config f provided
  let set := (config.selectionSet? (bareTypeName f.typeName)).getD ""
  f.name ++ (if args.isEmpty then "" else "(" ++ args ++ ")") ++
    (if set.isEmpty then "" else " " ++ set)

/-- A document with one operation, a query, that selects the field. The field may belong to
another kind of operation: the keyword is the same. -/
def generate (config : Config) (f : Field) (provided : OrderedMap String) : String :=
  "query " ++ operationName f.name ++ " \x7b\n  " ++ selection config f provided ++ "\n\x7d"

end SchemaExplorer.Query
