import SchemaExplorer.Proofs.Schema.TypeReference
import SchemaExplorer.Proofs.Sdl.Segment
import SchemaExplorer.Query.Document

/-! # What a value that is provided becomes

A value is written as the name at the core of its argument's type asks, since of that type nothing
but the name is kept. So a list is treated like one of its elements: a list of identifiers or
strings is put in quotes as a whole, and a list of booleans is put in lower case. -/

namespace SchemaExplorer

/-! ### Arguments that a text declares -/

namespace Sdl

/-- In a type of the text that is kept and has fields, `m` is a field and `p` an argument of it. -/
def Declares (text : String) (m p : Member) : Prop :=
  ∃ s ∈ keptSegments (segments (significantLines (Text.lines text))),
    s.kind.hasFields = true ∧ m ∈ s.members ∧ p ∈ m.declared

instance (text : String) (m p : Member) : Decidable (Declares text m p) :=
  inferInstanceAs (Decidable (∃ s ∈ _, _))

theorem exists_definition_of_mem_keptSegments {text : String} {s : Segment}
    (hs : s ∈ keptSegments (segments (significantLines (Text.lines text)))) :
    ∃ d ∈ parse text, d.withoutDescriptions = s.definition := by
  have hdefinition : s.definition ∈ (parse text).map TypeDefinition.withoutDescriptions := by
    rw [parse, Reader.map_finish_readLines]
    exact List.mem_append_right [] (List.mem_map_of_mem hs)
  exact List.mem_map.mp hdefinition

/-- What a text declares is a field of one of its types, with that argument. -/
theorem Declares.exists_field {text : String} {m p : Member} (h : Declares text m p) :
    ∃ d ∈ parse text, ∃ f ∈ d.fields, f.withoutDescription = m.field none ∧ p.argument ∈ f.args := by
  obtain ⟨s, hs, hkind, hm, hp⟩ := h
  obtain ⟨d, hd, hdefinition⟩ := exists_definition_of_mem_keptSegments hs
  have hfields : d.fields.map Field.withoutDescription = s.members.map (·.field none) := by
    have hall := congrArg TypeDefinition.fields hdefinition
    simpa [Segment.definition, hkind, TypeDefinition.withoutDescriptions, Member.field_none_eq]
      using hall
  have hfield : m.field none ∈ d.fields.map Field.withoutDescription := by
    rw [hfields]
    exact List.mem_map_of_mem hm
  obtain ⟨f, hf, hfm⟩ := List.mem_map.mp hfield
  have hargs : f.withoutDescription.args = (m.field none).args := congrArg Field.args hfm
  have ha : p.argument ∈ f.withoutDescription.args := by
    rw [hargs, m.args_field]
    exact List.mem_map_of_mem hp
  exact ⟨d, hd, f, hf, hfm, ha⟩

end Sdl

/-! ### Literals -/

namespace Query

theorem literal_of_provided {config : Config} {fieldName : String} {provided : OrderedMap String}
    {a : Argument} {value : String} (hvalue : provided.get? a.name = some value)
    (hblank : Text.trim value ≠ "") :
    literal config fieldName provided a = providedLiteral a.typeName (Text.trim value) := by
  have hprovided : (provided.get? a.name).bind Text.nonBlank? = some (Text.trim value) := by
    rw [hvalue, Option.bind_some, Text.nonBlank?_eq_some_iff]
    exact ⟨rfl, hblank⟩
  rw [literal, hprovided]

/-- The value in quotes, in lower case or as it is, as the type with that name has it. -/
def written (typeName value : String) : String :=
  if typeName ∈ ["ID", "String"] then "\"" ++ value ++ "\""
  else if typeName = "Boolean" then Text.lower value
  else value

theorem providedLiteral_core (t : TypeReference) (value : String) :
    providedLiteral t.core value = written t.core value := by
  simp [providedLiteral, written, t.bareTypeName_core]

theorem written_eq_self_iff {typeName value : String} :
    written typeName value = value ↔
      typeName ∉ ["ID", "String"] ∧ (typeName = "Boolean" → Text.lower value = value) := by
  rw [written]
  split
  · next hquoted =>
    have hne : "\"" ++ value ++ "\"" ≠ value := by
      intro h
      have hlength := congrArg String.length h
      simp only [String.length_append] at hlength
      have hquote : "\"".length = 1 := rfl
      omega
    simp [hquoted, hne]
  · next hquoted =>
    split
    · next hboolean => simp [hboolean]
    · next hboolean => simp [hquoted, hboolean]

/-- The name of each argument stands in the document, with its literal behind it. -/
theorem exists_generate_eq_append (config : Config) (f : Field) (provided : OrderedMap String)
    {a : Argument} (h : a ∈ f.args) :
    ∃ front back, generate config f provided =
      front ++ (a.name ++ ": " ++ literal config f.name provided a) ++ back := by
  let entry := fun a : Argument => a.name ++ ": " ++ literal config f.name provided a
  have hentry : entry a ∈ f.args.map entry := List.mem_map_of_mem h
  obtain ⟨front, back, hargs⟩ : ∃ front back, argumentText config f provided =
      front ++ entry a ++ back := Text.exists_join_eq_append hentry
  have hne : (argumentText config f provided).isEmpty = false := by
    simp [hargs, entry]
  let set := (config.selectionSet? (bareTypeName f.typeName)).getD ""
  let tail := if set.isEmpty then "" else " " ++ set
  have hselection : selection config f provided =
      f.name ++ ("(" ++ (front ++ entry a ++ back) ++ ")") ++ tail := by
    rw [← hargs]
    simp [selection, hne, set, tail]
  refine ⟨"query " ++ operationName f.name ++ " \x7b\n  " ++ f.name ++ "(" ++ front,
    back ++ ")" ++ tail ++ "\n\x7d", ?_⟩
  simp only [generate, hselection, entry, String.append_assoc]

/-- A value that is provided goes into the document as the name at the core of its type asks, however
often that name is wrapped: a list of strings as one string. It is what was provided, without the
blanks at its ends, just when that name is none of those whose values are written in another way. -/
theorem generate_providedValue {text : String} {m p : Sdl.Member} {t : TypeReference} {config : Config}
    {provided : OrderedMap String} {value : String} (hdeclared : Sdl.Declares text m p)
    (hreference : p.reference = t.text) (hvalue : provided.get? p.name = some value)
    (hblank : Text.trim value ≠ "") :
    ∃ d ∈ Sdl.parse text, ∃ f ∈ d.fields, f.withoutDescription = m.field none ∧
      p.argument ∈ f.args ∧
      (∃ front back, generate config f provided =
        front ++ (p.name ++ ": " ++ written t.core (Text.trim value)) ++ back) ∧
      literal config f.name provided p.argument = written t.core (Text.trim value) ∧
      (literal config f.name provided p.argument = Text.trim value ↔
        t.core ∉ ["ID", "String"] ∧
          (t.core = "Boolean" → Text.lower (Text.trim value) = Text.trim value)) := by
  obtain ⟨d, hd, f, hf, hfield, ha⟩ := hdeclared.exists_field
  have htype : p.argument.typeName = t.core := by
    rw [← t.bareTypeName_text, ← hreference]
    rfl
  have hliteral : literal config f.name provided p.argument = written t.core (Text.trim value) := by
    rw [literal_of_provided hvalue hblank, htype, providedLiteral_core]
  have hdocument := exists_generate_eq_append config f provided ha
  rw [hliteral] at hdocument
  refine ⟨d, hd, f, hf, hfield, ha, hdocument, hliteral, ?_⟩
  rw [hliteral, written_eq_self_iff]

def usersSchema : String :=
  "type Query \x7b\n  users(ids: [ID!]!): User\n\x7d"

def usersMember : Sdl.Member :=
  { name := "users", arguments := some "ids: [ID!]!", reference := "User", defaultText := none }

def idsMember : Sdl.Member :=
  { name := "ids", arguments := none, reference := "[ID!]!", defaultText := none }

def idsReference : TypeReference :=
  .nonNull (.list (.nonNull (.named "ID" (by decide))))

def idsValues : OrderedMap String :=
  .ofList [("ids", "[1, 2]")]

theorem declares_usersSchema : Sdl.Declares usersSchema usersMember idsMember := by
  decide +kernel

theorem trim_ids : Text.trim "[1, 2]" = "[1, 2]" := by
  decide

theorem generate_providedValue_ids :
    ∃ d ∈ Sdl.parse usersSchema, ∃ f ∈ d.fields, f.withoutDescription = usersMember.field none ∧
      idsMember.argument ∈ f.args ∧
      (∃ front back, generate .builtin f idsValues =
        front ++ (idsMember.name ++ ": " ++ written idsReference.core "[1, 2]") ++ back) ∧
      literal .builtin f.name idsValues idsMember.argument = written idsReference.core "[1, 2]" ∧
      (literal .builtin f.name idsValues idsMember.argument = "[1, 2]" ↔
        idsReference.core ∉ ["ID", "String"] ∧
          (idsReference.core = "Boolean" → Text.lower "[1, 2]" = "[1, 2]")) := by
  have hids := @generate_providedValue usersSchema usersMember idsMember idsReference .builtin
    idsValues "[1, 2]" declares_usersSchema (by decide) (by decide) (by decide)
  rwa [trim_ids] at hids

/-- A list is not always written as it was provided: identifiers in a list are not told apart from
an identifier. -/
theorem not_forall_literal_eq_trim :
    ¬ ∀ (text : String) (m p : Sdl.Member) (t : TypeReference) (config : Config)
        (provided : OrderedMap String) (value : String),
      Sdl.Declares text m p → p.reference = t.text → t.isList = true →
        provided.get? p.name = some value → Text.trim value ≠ "" →
          literal config m.name provided p.argument = Text.trim value := by
  intro h
  have hids := h usersSchema usersMember idsMember idsReference .builtin idsValues "[1, 2]"
    declares_usersSchema (by decide) rfl (by decide) (by decide)
  have hquoted : literal .builtin usersMember.name idsValues idsMember.argument = "\"[1, 2]\"" := by
    decide +kernel
  rw [hquoted, trim_ids] at hids
  exact absurd hids (by decide)

end Query

end SchemaExplorer
