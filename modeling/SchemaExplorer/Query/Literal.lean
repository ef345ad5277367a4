import SchemaExplorer.Query.Config
import SchemaExplorer.Schema.Member
import SchemaExplorer.Text.LetterCase

/-!
The literals that stand for the arguments of a query.
-/

namespace SchemaExplorer.Query

/-- The literal for a value of a type. Identifiers and strings are put in quotes, booleans are in
lower case, and everything else stands as it is. -/
def providedLiteral (typeName value : String) : String :=
  let name := bareTypeName typeName
  if name = "ID" || name = "String" then "\"" ++ value ++ "\""
  else if name = "Boolean" then Text.lower value
  else value

/-- The literal for an argument of the field `fieldName` that has no value. -/
def placeholder (config : Config) (fieldName : String) (a : Argument) : String :=
  if a.name = "code" then (config.codePlaceholder? fieldName).getD "\"\""
  else if a.name = "filter" then "\x7b\x7d"
  else
    let name := bareTypeName a.typeName
    if name = "ID" || name = "String" then "\"\""
    else if name = "Boolean" then "false"
    else if name = "Int" || name = "Float" then "0"
    else "null"

/-- The literal for an argument. A value that is blank counts as none, and blanks at the ends of
a value are dropped. -/
def literal (config : Config) (fieldName : String) (provided : OrderedMap String)
    (a : Argument) : String :=
  match (provided.get? a.name).bind Text.nonBlank? with
  | some value => providedLiteral a.typeName value
  | none => placeholder config fieldName a

end SchemaExplorer.Query
