import Mathlib.Data.List.Forall2
import SchemaExplorer.Proofs.Schema.TypeReference
import SchemaExplorer.Query.Document

/-! # Queries and the wrapping of types

The selection set, the literals and the placeholders all look a type up by its bare name. So a
query stays the same when the names of types are wrapped. -/

namespace SchemaExplorer

/-- A name of a type, and what may stand for it: the name, or a reference to it between blanks. -/
inductive Wraps : String → String → Prop
  | same (typeName : String) : Wraps typeName typeName
  | reference (t : TypeReference) (front back : Text.Blanks) :
      Wraps t.core (front.text ++ t.text ++ back.text)

theorem Wraps.bareTypeName_eq {typeName wrapped : String} (h : Wraps typeName wrapped) :
    bareTypeName wrapped = bareTypeName typeName := by
  cases h with
  | same => rfl
  | reference t front back => rw [t.bareTypeName_blanks_append, t.bareTypeName_core]

/-- The argument with its type wrapped. Its default value and its flag do not matter. -/
structure Argument.Wraps (a wrapped : Argument) : Prop where
  name : wrapped.name = a.name
  typeName : SchemaExplorer.Wraps a.typeName wrapped.typeName

/-- The field with its type and those of its arguments wrapped. Its description and its flags do
not matter. -/
structure Field.Wraps (f wrapped : Field) : Prop where
  name : wrapped.name = f.name
  typeName : SchemaExplorer.Wraps f.typeName wrapped.typeName
  args : List.Forall₂ Argument.Wraps f.args wrapped.args

namespace Query

variable {a b : Argument}

theorem providedLiteral_of_wraps (h : a.Wraps b) (value : String) :
    providedLiteral b.typeName value = providedLiteral a.typeName value := by
  rw [providedLiteral, h.typeName.bareTypeName_eq, providedLiteral]

theorem placeholder_of_wraps (config : Config) (fieldName : String) (h : a.Wraps b) :
    placeholder config fieldName b = placeholder config fieldName a := by
  rw [placeholder, h.name, h.typeName.bareTypeName_eq, placeholder]

theorem literal_of_wraps (config : Config) (fieldName : String) (provided : OrderedMap String)
    (h : a.Wraps b) :
    literal config fieldName provided b = literal config fieldName provided a := by
  rw [literal, literal, h.name, placeholder_of_wraps config fieldName h]
  simp only [providedLiteral_of_wraps h]

theorem argumentText_of_wraps {f g : Field} (config : Config) (provided : OrderedMap String)
    (h : f.Wraps g) : argumentText config g provided = argumentText config f provided := by
  let entry := fun a : Argument => a.name ++ ": " ++ literal config f.name provided a
  have hentries : List.Forall₂ (· = ·) (f.args.map entry) (g.args.map entry) := by
    rw [List.forall₂_map_left_iff, List.forall₂_map_right_iff]
    refine h.args.imp fun a b hab => ?_
    simp only [entry, hab.name, literal_of_wraps config f.name provided hab]
  rw [List.forall₂_eq_eq_eq] at hentries
  rw [argumentText, argumentText, h.name, ← hentries]

/-- The query for a field does not depend on how the types of the field and of its arguments are
wrapped: neither the selection set, nor how a value that is provided is written, nor what stands
for one that is not. -/
theorem generate_of_wraps {f g : Field} (h : f.Wraps g) (config : Config)
    (provided : OrderedMap String) :
    generate config g provided = generate config f provided ∧
    config.selectionSet? (bareTypeName g.typeName) =
      config.selectionSet? (bareTypeName f.typeName) ∧
    List.Forall₂ (fun a b =>
      (∀ value, providedLiteral b.typeName value = providedLiteral a.typeName value) ∧
      placeholder config g.name b = placeholder config f.name a) f.args g.args := by
  refine ⟨?_, ?_, h.args.imp fun a b hab => ⟨providedLiteral_of_wraps hab, ?_⟩⟩
  · simp only [generate, selection, argumentText_of_wraps config provided h,
      h.typeName.bareTypeName_eq, h.name]
  · rw [h.typeName.bareTypeName_eq]
  · rw [h.name, placeholder_of_wraps config f.name hab]

/-! A field with an argument for which a value is provided and two for which none is. -/

def plainField : Field :=
  { name := "user", typeName := "User", isList := false, isNonNull := false, description := none
    args := [⟨"active", "Boolean", none, false⟩, ⟨"ids", "ID", none, false⟩,
      ⟨"order", "[Order", none, false⟩] }

def wrappedField : Field :=
  { plainField with
    typeName := " [[User!]!]!!\u2003"
    args := [⟨"active", "[Boolean!]\t", none, false⟩, ⟨"ids", "\n[[ID]]", none, false⟩,
      ⟨"order", "[Order", none, false⟩] }

theorem plainField_wraps : plainField.Wraps wrappedField where
  name := rfl
  typeName := .reference
    (.nonNull (.nonNull (.list (.nonNull (.list (.nonNull (.named "User" (by decide))))))))
    ⟨" ", by decide⟩ ⟨"\u2003", by decide⟩
  args := .cons
    ⟨rfl, .reference (.list (.nonNull (.named "Boolean" (by decide)))) ⟨"", rfl⟩ ⟨"\t", by decide⟩⟩
    (.cons
      ⟨rfl, .reference (.list (.list (.named "ID" (by decide)))) ⟨"\n", by decide⟩ ⟨"", rfl⟩⟩
      (.cons ⟨rfl, .same "[Order"⟩ .nil))

theorem generate_of_wraps_wrappedField :
    plainField.Wraps wrappedField ∧
    generate .builtin wrappedField (.ofList [("active", " TRUE ")]) =
      generate .builtin plainField (.ofList [("active", " TRUE ")]) ∧
    generate .builtin plainField (.ofList [("active", " TRUE ")]) =
      "query UserGenerated \x7b\n  user(active: true, ids: \"\", order: null) \x7b id name email \x7d\n\x7d" :=
  ⟨plainField_wraps, (generate_of_wraps plainField_wraps .builtin _).1, by decide +kernel⟩

end Query

end SchemaExplorer
