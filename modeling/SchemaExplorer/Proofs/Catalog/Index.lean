import Mathlib.Data.Finset.Card
import SchemaExplorer.Proofs.Catalog.Lookup

/-! # What a catalog lists

A name has its place where it occurs first among the definitions, and its definition is the last
that has it. So the place and the definition of a name may come from different occurrences, however
often it is repeated. -/

namespace SchemaExplorer

theorem TypeDefinition.isIntrospection_eq (d : TypeDefinition) :
    d.isIntrospection = decide ("__".toList <+: d.name.toList) := by
  rw [Bool.eq_iff_iff, decide_eq_true_iff]
  exact List.isPrefixOf_iff_prefix

namespace Catalog

variable {ds es : List TypeDefinition}

/-! ### The last definition of a name -/

/-- Of the definitions that have this name the last. -/
def lastNamed? (ds : List TypeDefinition) (name : String) : Option TypeDefinition :=
  (ds.filter (·.name = name)).getLast?

theorem lastNamed?_append (ds es : List TypeDefinition) (name : String) :
    lastNamed? (ds ++ es) name = (lastNamed? es name).or (lastNamed? ds name) := by
  simp [lastNamed?, List.getLast?_append]

theorem lastNamed?_eq_none_iff {name : String} :
    lastNamed? ds name = none ↔ name ∉ ds.map TypeDefinition.name := by
  simp [lastNamed?]

theorem get?_eq_lastNamed? (ds : List TypeDefinition) (name : String) :
    (ofDefinitions ds).get? name = lastNamed? ds name :=
  get?_ofDefinitions ds name

/-! ### What is listed -/

theorem keys_ofDefinitions (ds : List TypeDefinition) :
    (ofDefinitions ds).types.keys = (ds.map TypeDefinition.name).eraseDups := by
  rw [ofDefinitions, OrderedMap.keys_ofList, List.map_map]
  rfl

theorem map_some_definitions (ds : List TypeDefinition) :
    (ofDefinitions ds).definitions.map some =
      (ds.map TypeDefinition.name).eraseDups.map (lastNamed? ds) := by
  rw [definitions, OrderedMap.map_some_values, keys_ofDefinitions]
  exact congrArg (List.map · _) (funext (get?_eq_lastNamed? ds))

theorem name_eq_of_mem_entries {name : String} {d : TypeDefinition}
    (h : (name, d) ∈ (ofDefinitions ds).types.entries) : d.name = name :=
  (get?_ofDefinitions_eq_some (OrderedMap.get?_eq_some_iff.mpr h)).2

/-- Whatever is listed is found under its own name. -/
theorem get?_name_of_mem_definitions {d : TypeDefinition}
    (h : d ∈ (ofDefinitions ds).definitions) : (ofDefinitions ds).get? d.name = some d := by
  obtain ⟨⟨name, d⟩, hentry, rfl⟩ := List.mem_map.mp h
  obtain rfl : d.name = name := name_eq_of_mem_entries hentry
  exact OrderedMap.get?_eq_some_iff.mpr hentry

theorem map_name_definitions (ds : List TypeDefinition) :
    (ofDefinitions ds).definitions.map TypeDefinition.name = (ofDefinitions ds).types.keys := by
  rw [definitions, OrderedMap.values, OrderedMap.keys, List.map_map, List.map_inj_left]
  exact fun entry hentry => name_eq_of_mem_entries hentry

theorem size_ofDefinitions (ds : List TypeDefinition) :
    (ofDefinitions ds).size = (ds.map TypeDefinition.name).toFinset.card := by
  have hkeys : (ofDefinitions ds).types.keys.toFinset = (ds.map TypeDefinition.name).toFinset := by
    ext name
    simp [keys_ofDefinitions]
  calc (ofDefinitions ds).size
      = (ofDefinitions ds).types.keys.length := by simp [size, OrderedMap.size, OrderedMap.keys]
    _ = (ofDefinitions ds).types.keys.toFinset.card :=
      (List.toFinset_card_of_nodup (ofDefinitions ds).types.nodup_keys).symm
    _ = (ds.map TypeDefinition.name).toFinset.card := by rw [hkeys]

theorem isEmpty_ofDefinitions_iff : (ofDefinitions ds).isEmpty = true ↔ ds = [] := by
  have hsize : (ofDefinitions ds).isEmpty = true ↔ (ofDefinitions ds).size = 0 := by
    simp [isEmpty, OrderedMap.isEmpty, size, OrderedMap.size]
  simp [hsize, size_ofDefinitions]

/-! ### Definitions that come again -/

theorem ofDefinitions_append_self (ds : List TypeDefinition) :
    ofDefinitions (ds ++ ds) = ofDefinitions ds := by
  have hkeys : (ofDefinitions (ds ++ ds)).types.keys = (ofDefinitions ds).types.keys := by
    have hnone : ∀ names : List String, names.removeAll names = [] := by simp [List.removeAll]
    rw [keys_ofDefinitions, keys_ofDefinitions, List.map_append, List.eraseDups_append, hnone]
    simp
  have hget : ∀ name, (ofDefinitions (ds ++ ds)).get? name = (ofDefinitions ds).get? name := by
    intro name
    rw [get?_eq_lastNamed?, get?_eq_lastNamed?, lastNamed?_append, Option.or_self]
  exact congrArg Catalog.mk (OrderedMap.ext_get? hkeys hget)

/-- Where no name is in both, what is found does not depend on which definitions come first. -/
theorem get?_ofDefinitions_append_comm
    (h : (ds.map TypeDefinition.name).Disjoint (es.map TypeDefinition.name)) (name : String) :
    (ofDefinitions (ds ++ es)).get? name = (ofDefinitions (es ++ ds)).get? name := by
  rw [get?_eq_lastNamed?, get?_eq_lastNamed?, lastNamed?_append, lastNamed?_append]
  by_cases hname : name ∈ ds.map TypeDefinition.name
  · have hnone : lastNamed? es name = none := lastNamed?_eq_none_iff.mpr fun hes => h hname hes
    rw [hnone, Option.none_or, Option.or_none]
  · rw [lastNamed?_eq_none_iff.mpr hname, Option.none_or, Option.or_none]

/-! ### The catalog of any definitions -/

/-- What a catalog says of the definitions that it was made of. -/
structure Indexes (c : Catalog) (ds : List TypeDefinition) : Prop where
  nodup_names : (c.definitions.map TypeDefinition.name).Nodup
  /-- The names stand in the order of their first occurrences, each with its last definition. -/
  definitions_eq : c.definitions.map some =
    (ds.map TypeDefinition.name).eraseDups.map (lastNamed? ds)
  get?_eq : ∀ name, c.get? name = lastNamed? ds name
  get?_eq_none_iff : ∀ name, c.get? name = none ↔ name ∉ ds.map TypeDefinition.name
  get?_name : ∀ d ∈ c.definitions, c.get? d.name = some d
  size_eq : c.size = (ds.map TypeDefinition.name).toFinset.card
  isEmpty_iff : c.isEmpty = true ↔ ds = []
  userDefinitions_eq : c.userDefinitions =
    c.definitions.filter fun d => ¬ "__".toList <+: d.name.toList

/-- The catalog of any definitions lists each of their names once, in the order in which the names
first occur, with the last definition of each, and finds these. Entering all definitions once more
changes nothing; and of definitions that share no names either may come first. -/
theorem indexes_ofDefinitions :
    (∀ ds, (ofDefinitions ds).Indexes ds ∧ ofDefinitions (ds ++ ds) = ofDefinitions ds) ∧
      ∀ ds es, (ds.map TypeDefinition.name).Disjoint (es.map TypeDefinition.name) →
        ∀ name, (ofDefinitions (ds ++ es)).get? name = (ofDefinitions (es ++ ds)).get? name := by
  constructor
  · intro ds
    have hnodup : ((ofDefinitions ds).definitions.map TypeDefinition.name).Nodup := by
      rw [map_name_definitions]
      exact (ofDefinitions ds).types.nodup_keys
    have hnone : ∀ name,
        (ofDefinitions ds).get? name = none ↔ name ∉ ds.map TypeDefinition.name := by
      intro name
      rw [get?_eq_lastNamed?, lastNamed?_eq_none_iff]
    have huser : (ofDefinitions ds).userDefinitions =
        (ofDefinitions ds).definitions.filter fun d => ¬ "__".toList <+: d.name.toList :=
      List.filter_congr fun d _ => by rw [d.isIntrospection_eq, decide_not]
    exact ⟨⟨hnodup, map_some_definitions ds, get?_eq_lastNamed? ds, hnone,
      fun _ hd => get?_name_of_mem_definitions hd, size_ofDefinitions ds,
      isEmpty_ofDefinitions_iff, huser⟩, ofDefinitions_append_self ds⟩
  · exact fun ds es h name => get?_ofDefinitions_append_comm h name

/-- Types that are defined again with others between the definitions, and one that is not. -/
def editions : List TypeDefinition :=
  [.declare "Country" .object none, .declare "__Type" .object none, .declare "City" .object none,
    .declare "Country" .interface (some "a state"), .declare "City" .object (some "a town")]

def supplement : List TypeDefinition :=
  [.declare "Language" .object none, .declare "Language" .enum none]

theorem indexes_ofDefinitions_editions :
    (editions.map TypeDefinition.name).Disjoint (supplement.map TypeDefinition.name) ∧
      (ofDefinitions editions).Indexes editions ∧
      (ofDefinitions editions).definitions =
        [.declare "Country" .interface (some "a state"), .declare "__Type" .object none,
          .declare "City" .object (some "a town")] ∧
      ∀ name, (ofDefinitions (editions ++ supplement)).get? name =
        (ofDefinitions (supplement ++ editions)).get? name := by
  have hdisjoint : (editions.map TypeDefinition.name).Disjoint
      (supplement.map TypeDefinition.name) := by
    simp [editions, supplement, TypeDefinition.declare]
  exact ⟨hdisjoint, (indexes_ofDefinitions.1 editions).1, by decide,
    indexes_ofDefinitions.2 editions supplement hdisjoint⟩

end Catalog

end SchemaExplorer
