import SchemaExplorer.Schema.Signature
import SchemaExplorer.Text.Split

/-!
The members of types: fields and their arguments. An argument is also what an input object has
for a field.
-/

namespace SchemaExplorer

/-- An argument of a field, or a field of an input object. The default value is kept as it is
written in the schema. -/
structure Argument where
  name : String
  typeName : String
  defaultValue : Option String
  isNonNull : Bool
deriving DecidableEq, Repr

namespace Argument

/-- The argument with a signature's type; whether that is a list is not kept. -/
def ofSignature (name : String) (signature : Signature) (defaultValue : Option String) :
    Argument :=
  { name, typeName := signature.typeName, defaultValue, isNonNull := signature.isNonNull }

/-- The type as a schema would have it, and the default value after it, as in `Int! = 10`. -/
def typeText (a : Argument) : String :=
  a.typeName ++ (if a.isNonNull then "!" else "") ++
    match a.defaultValue with
    | some value => " = " ++ value
    | none => ""

/-- The argument as a schema would have it, as in `first: Int! = 10`. -/
def line (a : Argument) : String :=
  a.name ++ ": " ++ a.typeText

end Argument

/-- A field of an object, an interface or a root. -/
structure Field where
  name : String
  typeName : String
  isList : Bool
  isNonNull : Bool
  args : List Argument
  description : Option String
deriving DecidableEq, Repr

namespace Field

def signature (f : Field) : Signature :=
  { typeName := f.typeName, isList := f.isList, isNonNull := f.isNonNull }

def typeText (f : Field) : String :=
  f.signature.text

/-- The field as a schema would have it, as in `country(code: ID!): Country`. -/
def line (f : Field) : String :=
  let args := if f.args.isEmpty then "" else "(" ++ Text.join ", " (f.args.map Argument.line) ++ ")"
  f.name ++ args ++ ": " ++ f.typeText

end Field

end SchemaExplorer
