import SchemaExplorer.OrderedMap
import SchemaExplorer.Schema.Encoding
import SchemaExplorer.Sdl.Reader

/-!
The types of a schema, to be found by their names. Of two definitions of one name the later
counts, in the place of the earlier.
-/

namespace SchemaExplorer

/-- Why a field was not found. -/
inductive LookupError where
  | malformedPath (path : String)
  | unknownType (typeName : String)
  | typeHasNoFields (typeName : String) (kind : TypeKind)
  | unknownField (typeName fieldName : String)
deriving DecidableEq, Repr

def LookupError.message : LookupError → String
  | malformedPath path => "Expected a field path of the form `Type.field`, got `" ++ path ++ "`"
  | unknownType typeName => "No type named `" ++ typeName ++ "` is defined in the schema"
  | typeHasNoFields typeName kind =>
    "`" ++ typeName ++ "` is a " ++ kind.name ++ " type and has no fields"
  | unknownField typeName fieldName =>
    "`" ++ typeName ++ "` has no field named `" ++ fieldName ++ "`"

/-- The types by name. A catalog that is read from JSON may hold a type under a name that is not
its own. -/
structure Catalog where
  types : OrderedMap TypeDefinition
deriving DecidableEq

namespace Catalog

def empty : Catalog :=
  ⟨.empty⟩

def ofDefinitions (definitions : List TypeDefinition) : Catalog :=
  ⟨.ofList (definitions.map fun d => (d.name, d))⟩

def ofSdl (text : String) : Catalog :=
  ofDefinitions (Sdl.parse text)

def get? (c : Catalog) (typeName : String) : Option TypeDefinition :=
  c.types.get? typeName

def size (c : Catalog) : Nat :=
  c.types.size

def isEmpty (c : Catalog) : Bool :=
  c.types.isEmpty

def definitions (c : Catalog) : List TypeDefinition :=
  c.types.values

/-- The definitions without those kept for introspection. -/
def userDefinitions (c : Catalog) : List TypeDefinition :=
  c.definitions.filter fun d => !d.isIntrospection

/-- The type with the operations of a kind. A type that only has the name of one does not count. -/
def rootOperation? (c : Catalog) (kind : OperationKind) : Option TypeDefinition :=
  (c.get? kind.rootTypeName).filter fun d => d.kind = kind.typeKind

/-- The type name and the field name in a path such as `Query.country`. -/
def splitPath? (path : String) : Option (String × String) := do
  let (typeName, fieldName) ← Text.splitOnce? '.' path
  some (← Text.nonBlank? typeName, ← Text.nonBlank? fieldName)

def findField (c : Catalog) (path : String) : Except LookupError Field :=
  match splitPath? path with
  | none => .error (.malformedPath path)
  | some (typeName, fieldName) =>
    match c.get? typeName with
    | none => .error (.unknownType typeName)
    | some d =>
      if d.kind.hasFields then
        match d.field? fieldName with
        | some f => .ok f
        | none => .error (.unknownField typeName fieldName)
      else .error (.typeHasNoFields typeName d.kind)

/-! ### JSON -/

def toJson (c : Catalog) : Json :=
  .record [("types", .record (c.types.entries.map fun entry => (entry.1, entry.2.toJson)))]

def ofJson? (j : Json) : Option Catalog := do
  match ← j.fields? ["types"] with
  | [some types] =>
    let entries ← (← types.entries?).mapM fun entry =>
      (TypeDefinition.ofJson? entry.2).map fun d => (entry.1, d)
    some ⟨.ofList entries⟩
  | _ => none

end Catalog

end SchemaExplorer
