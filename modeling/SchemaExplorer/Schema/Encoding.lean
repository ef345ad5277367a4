import SchemaExplorer.Json.Value
import SchemaExplorer.Schema.TypeDefinition

/-!
Type definitions as JSON. Writing gives every field of a record. Reading takes what writing gives;
it also takes a record as an array, lets optional values be missing, and passes over keys that it
does not know.
-/

namespace SchemaExplorer

/-! ### Kinds -/

def TypeKind.toJson (kind : TypeKind) : Json :=
  .text kind.name

/-- The name of a kind: a string, or the only key of an object, with `null` for its value. -/
def kindName? : Json → Option String
  | .string name => name
  | .object [(name, .null)] => name
  | _ => none

def TypeKind.ofJson? (j : Json) : Option TypeKind :=
  (kindName? j).bind ofName?

def OperationKind.ofJson? (j : Json) : Option OperationKind :=
  (kindName? j).bind ofName?

/-! ### Arguments -/

namespace Argument

def toJson (a : Argument) : Json :=
  .record
    [("name", .text a.name), ("type_name", .text a.typeName),
      ("default_value", .optional a.defaultValue), ("is_non_null", .bool a.isNonNull)]

def ofJson? (j : Json) : Option Argument := do
  match ← j.fields? ["name", "type_name", "default_value", "is_non_null"] with
  | [some name, some typeName, defaultValue, some isNonNull] =>
    some
      { name := ← name.text?
        typeName := ← typeName.text?
        defaultValue := ← (defaultValue.getD .null).optional?
        isNonNull := ← isNonNull.bool? }
  | _ => none

end Argument

/-! ### Fields -/

namespace Field

def toJson (f : Field) : Json :=
  .record
    [("name", .text f.name), ("type_name", .text f.typeName), ("is_list", .bool f.isList),
      ("is_non_null", .bool f.isNonNull), ("args", .array (f.args.map Argument.toJson)),
      ("description", .optional f.description)]

def ofJson? (j : Json) : Option Field := do
  match ← j.fields? ["name", "type_name", "is_list", "is_non_null", "args", "description"] with
  | [some name, some typeName, some isList, some isNonNull, some args, description] =>
    some
      { name := ← name.text?
        typeName := ← typeName.text?
        isList := ← isList.bool?
        isNonNull := ← isNonNull.bool?
        args := ← args.listOf? Argument.ofJson?
        description := ← (description.getD .null).optional? }
  | _ => none

end Field

/-! ### Type definitions -/

namespace TypeDefinition

def toJson (d : TypeDefinition) : Json :=
  .record
    [("name", .text d.name), ("kind", d.kind.toJson), ("description", .optional d.description),
      ("fields", .array (d.fields.map Field.toJson)), ("enum_values", .texts d.enumValues),
      ("input_fields", .array (d.inputFields.map Argument.toJson)),
      ("possible_types", .texts d.possibleTypes), ("of_type", .optional d.ofType)]

def ofJson? (j : Json) : Option TypeDefinition := do
  match ← j.fields?
      ["name", "kind", "description", "fields", "enum_values", "input_fields", "possible_types",
        "of_type"] with
  | [some name, some kind, description, some fields, some enumValues, some inputFields,
      some possibleTypes, ofType] =>
    some
      { name := ← name.text?
        kind := ← TypeKind.ofJson? kind
        description := ← (description.getD .null).optional?
        fields := ← fields.listOf? Field.ofJson?
        enumValues := ← enumValues.listOf? Json.text?
        inputFields := ← inputFields.listOf? Argument.ofJson?
        possibleTypes := ← possibleTypes.listOf? Json.text?
        ofType := ← (ofType.getD .null).optional? }
  | _ => none

end TypeDefinition

end SchemaExplorer
