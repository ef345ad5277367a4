import SchemaExplorer.CommandLine.Run
import SchemaExplorer.Proofs.OrderedMap
import SchemaExplorer.Proofs.Schema.Encoding

/-! # Catalogs as JSON

A catalog is read from the text that it is written as, with its entries in their places; and so are
the types that are listed as JSON. -/

namespace SchemaExplorer

open Json

namespace Catalog

/-- Types under any names are entered one after the other: of two under one name the later counts,
in the place of the earlier. -/
theorem ofJson?_entries (entries : List (String × TypeDefinition)) :
    ofJson? (.record [("types", .record (entries.map fun entry => (entry.1, entry.2.toJson)))]) =
      some ⟨.ofList entries⟩ := by
  have hentries : (entries.map fun entry => (entry.1, entry.2.toJson)).mapM
      (fun entry => (TypeDefinition.ofJson? entry.2).map fun d => (entry.1, d)) =
        some (entries.map id) :=
    mapM_map_eq_some fun entry _ => by simp [TypeDefinition.ofJson?_toJson]
  rw [ofJson?, fields?_record]
  · simp [entries?_record, hentries]
  · rfl
  · decide

theorem ofJson?_toJson (c : Catalog) : ofJson? c.toJson = some c := by
  rw [toJson, ofJson?_entries, OrderedMap.ofList_entries]

theorem isLegible_toJson (c : Catalog) : c.toJson.IsLegible := by
  have htypes : (record (c.types.entries.map fun entry => (entry.1, entry.2.toJson))).IsLegible := by
    apply isLegible_record
    intro entry hentry
    obtain ⟨named, -, rfl⟩ := List.mem_map.mp hentry
    exact named.2.isLegible_toJson
  exact isLegible_record (by simp [htypes])

end Catalog

/-- Definitions that are written as an array are read from its text. -/
theorem TypeDefinition.parse?_pretty_array (ds : List TypeDefinition) :
    (parse? (Json.pretty (.array (ds.map toJson)))).bind (listOf? ofJson?) = some ds := by
  have hlegible : (Json.array (ds.map toJson)).IsLegible :=
    isLegible_array (by simp [isLegible_toJson])
  rw [parse?_pretty hlegible, Option.bind_some]
  exact listOf?_array fun d _ => d.ofJson?_toJson

/-- Every catalog comes back from its text, and from the list of types as JSON come back just the
types that were to be listed, in the order of the catalog. -/
theorem Catalog.parse?_compact_toJson (c : Catalog) :
    (parse? c.toJson.compact).bind ofJson? = some c ∧
      ∀ includeIntrospection : Bool, ∃ text,
        (CommandLine.listTypes c includeIntrospection true).value = .success text ∧
          (parse? text).bind (listOf? TypeDefinition.ofJson?) =
            some (c.types.values.filter fun d =>
              includeIntrospection || !"__".toList.isPrefixOf d.name.toList) := by
  constructor
  · rw [parse?_compact c.isLegible_toJson, Option.bind_some, c.ofJson?_toJson]
  · intro includeIntrospection
    refine ⟨_, rfl, ?_⟩
    rw [TypeDefinition.parse?_pretty_array]
    cases includeIntrospection
    · rfl
    · simp [CommandLine.listedTypes, definitions]

end SchemaExplorer
