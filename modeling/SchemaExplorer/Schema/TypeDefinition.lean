import SchemaExplorer.Schema.Kind
import SchemaExplorer.Schema.Member

/-!
The definition of one named type, put together member by member.
-/

namespace SchemaExplorer

/-- One type of a schema. Only the members that suit its kind are there: fields for objects,
interfaces and roots, input fields for input objects, possible types for unions. -/
structure TypeDefinition where
  name : String
  kind : TypeKind
  description : Option String
  fields : List Field
  enumValues : List String
  inputFields : List Argument
  possibleTypes : List String
  ofType : Option String
deriving DecidableEq, Repr

namespace TypeDefinition

/-- A type without members. -/
def declare (name : String) (kind : TypeKind) (description : Option String) : TypeDefinition :=
  { name, kind, description, fields := [], enumValues := [], inputFields := []
    possibleTypes := [], ofType := none }

def withDescription (d : TypeDefinition) (text : String) : TypeDefinition :=
  { d with description := some text }

def addField (d : TypeDefinition) (f : Field) : TypeDefinition :=
  { d with fields := d.fields ++ [f] }

def addInputField (d : TypeDefinition) (a : Argument) : TypeDefinition :=
  { d with inputFields := d.inputFields ++ [a] }

def addPossibleType (d : TypeDefinition) (typeName : String) : TypeDefinition :=
  { d with possibleTypes := d.possibleTypes ++ [typeName] }

/-- The first field of that name. -/
def field? (d : TypeDefinition) (name : String) : Option Field :=
  d.fields.find? (·.name = name)

/-- Names that begin with two underscores are kept for introspection. -/
def isIntrospection (d : TypeDefinition) : Bool :=
  ['_', '_'].isPrefixOf d.name.toList

def memberCount (d : TypeDefinition) : Nat :=
  d.fields.length + d.inputFields.length + d.possibleTypes.length + d.enumValues.length

end TypeDefinition

end SchemaExplorer
