import SchemaExplorer.Proofs.Catalog.Index
import SchemaExplorer.Proofs.Files.Loading
import SchemaExplorer.Proofs.Schema.Listing

/-! # The list of types and what is shown of each

Two commands show the types of a schema: one lists them all with the numbers of their members, the
other shows the members of one. Of every schema they agree, and the numbers can be checked against
what is shown. -/

namespace SchemaExplorer

/-! ### The types of a catalog -/

namespace Catalog

theorem isListable_of_mem_entries {text name : String} {d : TypeDefinition}
    (h : (name, d) ∈ (ofSdl text).types.entries) : d.IsListable :=
  Sdl.isListable_of_mem_parse
    (get?_ofDefinitions_eq_some (OrderedMap.get?_eq_some_iff.mpr h)).1

end Catalog

namespace CommandLine

open TypeDefinition (newline_not_mem_toDigits)

/-! ### Lists that agree with what is shown -/

/-- The line of an entry in a list of types: its name, its kind, and as many members as are shown
of it. -/
def IsLineOf (shown : String → Outcome) (entry : String × TypeDefinition) (line : String) : Prop :=
  ∃ listing, shown entry.1 = .success listing ∧ entry.2.IsShownBy listing ∧
    line = entry.1 ++ " (" ++ entry.2.kind.name ++ ", " ++ toString (membersShown listing) ++
      " members)"

/-- A list of the entries has the line of each in their order and then the number of these lines.
There is none of no entries. -/
inductive IsListOf (shown : String → Outcome) : List (String × TypeDefinition) → Outcome → Prop
  | empty (message : String) : IsListOf shown [] (.failure message)
  | lines {entries : List (String × TypeDefinition)} {lines : List String} {text : String}
      (hne : entries ≠ []) (hlines : List.Forall₂ (IsLineOf shown) entries lines)
      (htext : Text.split '\n' text =
        lines ++ ["✅ Found " ++ toString lines.length ++ " types."]) :
      IsListOf shown entries (.success text)

theorem isListOf_typeList {shown : String → Outcome} {entries : List (String × TypeDefinition)}
    (h : ∀ entry ∈ entries, entry.2.name = entry.1 ∧ entry.2.IsListable ∧
      shown entry.1 = .success entry.2.listing) :
    IsListOf shown entries (typeList (entries.map Prod.snd)) := by
  by_cases hne : entries = []
  · rw [hne]
    exact .empty _
  let summaries := entries.map fun entry => entry.2.summary
  have hlines : List.Forall₂ (IsLineOf shown) entries summaries := by
    refine List.forall₂_map_right_iff.mpr (List.forall₂_same.mpr fun entry hentry => ?_)
    obtain ⟨hname, hlistable, hshown⟩ := h entry hentry
    refine ⟨_, hshown, hlistable.isShownBy_listing, ?_⟩
    rw [TypeDefinition.summary, hname, hlistable.memberCount_eq]
  have hsummaries : Text.split '\n' (Text.join "\n" summaries) = summaries := by
    apply Text.split_join rfl (by simpa [summaries] using hne)
    intro line hline
    obtain ⟨entry, hentry, rfl⟩ := List.mem_map.mp hline
    exact (h entry hentry).2.1.newline_not_mem_summary
  let total := "✅ Found " ++ toString summaries.length ++ " types."
  have htotal : Text.split '\n' total = [total] := by
    apply Text.split_eq_singleton
    simp [total, newline_not_mem_toDigits]
  have htext : typeList (entries.map Prod.snd) =
      .success (Text.join "\n" summaries ++ "\n" ++ total) := by
    simp [typeList, hne, total, summaries, ← String.toList_inj, Function.comp_def]
  rw [htext]
  exact .lines hne hlines (by rw [Text.split_append rfl, hsummaries, htotal])

/-! ### Runs of the commands -/

variable {files : FileSystem} {schema : SchemaSource} {source : SchemaText}

theorem value_withCatalog (hload : (schema.load files).value = .ok source)
    (use : Catalog → Logged Outcome) :
    (withCatalog files schema use).value = (use (Catalog.ofSdl source.text)).value := by
  simp [withCatalog, loadCatalog, hload, Catalog.ofSdlLogged, Sdl.parseLogged, Catalog.ofSdl]

theorem value_run_types (hload : (schema.load files).value = .ok source)
    (configPath? : Option String) (includeIntrospection : Bool) :
    (Command.run files configPath? (.types includeIntrospection false schema)).value =
      typeList (listedTypes (Catalog.ofSdl source.text) includeIntrospection) := by
  rw [Command.run, value_withCatalog hload]
  rfl

theorem value_run_showType (hload : (schema.load files).value = .ok source)
    (configPath? : Option String) (typeName : String) :
    (Command.run files configPath? (.showType typeName schema)).value =
      showType (Catalog.ofSdl source.text) typeName := by
  rw [Command.run, value_withCatalog hload]
  rfl

/-- The entries that are listed, which are those for introspection only if these are asked for. -/
def listedEntries (c : Catalog) (includeIntrospection : Bool) : List (String × TypeDefinition) :=
  c.types.entries.filter fun entry => includeIntrospection ∨ ¬ "__".toList <+: entry.1.toList

theorem listedTypes_eq (text : String) (includeIntrospection : Bool) :
    listedTypes (Catalog.ofSdl text) includeIntrospection =
      (listedEntries (Catalog.ofSdl text) includeIntrospection).map Prod.snd := by
  have hentries : ∀ entry ∈ (Catalog.ofSdl text).types.entries,
      (!entry.2.isIntrospection) = decide (¬ "__".toList <+: entry.1.toList) := by
    intro entry hentry
    rw [TypeDefinition.isIntrospection_eq, Catalog.name_eq_of_mem_entries hentry, decide_not]
  cases includeIntrospection with
  | true => simp [listedTypes, listedEntries, Catalog.definitions, OrderedMap.values]
  | false =>
    simp only [listedTypes, listedEntries, Catalog.userDefinitions, Catalog.definitions,
      OrderedMap.values, Bool.false_eq_true, false_or, if_false]
    rw [List.filter_map]
    exact congrArg (List.map Prod.snd) (List.filter_congr hentries)

/-- Of every schema that is loaded, the list of types has a line for each entry of the catalog, in
its order, and then the number of these lines; without introspection, the entries whose names begin
with two underscores are left out. There is no list just if there is nothing to list. On the line of
an entry is the number of members that can be counted on what is shown under its name; and under
other names nothing is shown. -/
theorem isListOf_run (hload : (schema.load files).value = .ok source)
    (configPath? : Option String) :
    let catalog := Catalog.ofSdl source.text
    let shown := fun typeName => (Command.run files configPath? (.showType typeName schema)).value
    (∀ includeIntrospection, IsListOf shown (listedEntries catalog includeIntrospection)
      (Command.run files configPath? (.types includeIntrospection false schema)).value) ∧
    ∀ typeName, typeName ∉ catalog.types.keys → ∃ message, shown typeName = .failure message := by
  intro catalog shown
  constructor
  · intro includeIntrospection
    rw [value_run_types hload, listedTypes_eq]
    apply isListOf_typeList
    intro entry hentry
    obtain ⟨name, d⟩ := entry
    have hmem : (name, d) ∈ catalog.types.entries := List.mem_of_mem_filter hentry
    have hget : catalog.get? name = some d := OrderedMap.get?_eq_some_iff.mpr hmem
    refine ⟨Catalog.name_eq_of_mem_entries hmem, Catalog.isListable_of_mem_entries hmem, ?_⟩
    have hshown : shown name = showType catalog name := value_run_showType hload configPath? name
    rw [hshown, showType, hget]
  · intro typeName hname
    have hget : catalog.get? typeName = none := OrderedMap.get?_eq_none_iff.mpr hname
    have hshown : shown typeName = showType catalog typeName :=
      value_run_showType hload configPath? typeName
    rw [hshown, showType, hget]
    exact ⟨_, rfl⟩

/-! A schema whose descriptions and default values look like the lines of unions, and a type that is
kept for introspection. -/

def shapeSchema : String :=
  "\"= Circle | Square\"\ntype Query \x7b\n  shapes(of: String = = a | b): [Shape!]!\n  \"= all\"\n" ++
    "  count: Int\n\x7d\nunion Shape = Circle | Square|Dot\ntype __Unit \x7b\n\x7d\n" ++
    "input Range \x7b\n  min: Int = 0 | 1\n\x7d"

def shapeTypes : List TypeDefinition :=
  [{ TypeDefinition.declare "Query" .query (some "= Circle | Square") with
      fields :=
        [{ name := "shapes", typeName := "Shape", isList := true, isNonNull := true
           args := [⟨"of", "String", some "= a | b", false⟩], description := none },
         { name := "count", typeName := "Int", isList := false, isNonNull := false, args := []
           description := some "= all" }] },
   { TypeDefinition.declare "Shape" .union none with possibleTypes := ["Circle", "Square", "Dot"] },
   .declare "__Unit" .object none,
   { TypeDefinition.declare "Range" .inputObject none with
      inputFields := [⟨"min", "Int", some "0 | 1", false⟩] }]

theorem ofSdl_shapeSchema :
    Catalog.ofSdl (Sdl.concat [shapeSchema]) = .ofDefinitions shapeTypes := by
  have hparse : Sdl.parse (Sdl.concat [shapeSchema]) = shapeTypes := by decide +kernel
  rw [Catalog.ofSdl, hparse]

def shapeFiles : FileSystem := fun path =>
  if path = "shapes.graphql" then .ok (.file shapeSchema.toUTF8) else .error .notFound

def shapeSource : SchemaSource :=
  { extensions := ["graphql"], paths := ["shapes.graphql"] }

theorem load_shapeSource :
    (shapeSource.load shapeFiles).value = .ok ⟨1, Sdl.concat [shapeSchema]⟩ := by
  have hfound : (shapeSource.find shapeFiles).value =
      .ok [⟨"shapes.graphql", shapeSchema.toUTF8⟩] := rfl
  have htext : [(⟨"shapes.graphql", shapeSchema.toUTF8⟩ : SchemaFile)].map SchemaFile.text =
      [shapeSchema].map .ok := by
    rw [List.map_singleton, SchemaFile.text_toUTF8 (by decide), List.map_singleton]
  exact (load_of_text hfound htext).1

theorem isListOf_run_shapes :
    let shown := fun typeName =>
      (Command.run shapeFiles none (.showType typeName shapeSource)).value
    let listed := fun includeIntrospection =>
      (Command.run shapeFiles none (.types includeIntrospection false shapeSource)).value
    let entries := listedEntries (Catalog.ofSdl (Sdl.concat [shapeSchema]))
    (shapeSource.load shapeFiles).value = .ok ⟨1, Sdl.concat [shapeSchema]⟩ ∧
    (IsListOf shown (entries true) (listed true) ∧ IsListOf shown (entries false) (listed false)) ∧
    listed false = .success ("Query (Query, 2 members)\nShape (Union, 3 members)\n" ++
      "Range (InputObject, 1 members)\n✅ Found 3 types.") ∧
    shown "Query" = .success ("Query (Query)\n  \"= Circle | Square\"\n" ++
      "  shapes(of: String = = a | b): [Shape]!\n  count: Int  # = all") ∧
    shown "Shape" = .success "Shape (Union)\n  = Circle | Square | Dot" ∧
    ∃ message, shown "Circle" = .failure message := by
  intro shown listed entries
  obtain ⟨hlists, hother⟩ := isListOf_run load_shapeSource none
  have hlisted := value_run_types load_shapeSource none
  have hshown := value_run_showType load_shapeSource none
  simp only [ofSdl_shapeSchema] at hlisted hshown hother
  refine ⟨load_shapeSource, ⟨hlists true, hlists false⟩, ?_, ?_, ?_, hother "Circle" (by decide)⟩
  · exact (hlisted false).trans (by decide)
  · exact (hshown "Query").trans (by decide)
  · exact (hshown "Shape").trans (by decide)

end CommandLine

end SchemaExplorer
