import SchemaExplorer.Catalog
import SchemaExplorer.Proofs.OrderedMap
import SchemaExplorer.Proofs.Sdl.Invariant

/-! # Finding types in a catalog

Of the definitions that have a name the last is found under it. A type with the name of a root is
one, whatever introduced it, so that a root operation is found wherever its name is. -/

namespace SchemaExplorer

namespace Catalog

theorem get?_ofDefinitions (ds : List TypeDefinition) (name : String) :
    (ofDefinitions ds).get? name = (ds.filter (·.name = name)).getLast? := by
  have hpairs : (ds.map fun d => (d.name, d)).filter (·.1 = name) =
      (ds.filter (·.name = name)).map fun d => (d.name, d) := List.filter_map
  rw [get?, ofDefinitions, OrderedMap.get?_ofList, hpairs, List.getLast?_map, Option.map_map]
  exact Option.map_id'

theorem get?_ofDefinitions_eq_some {ds : List TypeDefinition} {name : String} {d : TypeDefinition}
    (h : (ofDefinitions ds).get? name = some d) : d ∈ ds ∧ d.name = name := by
  rw [get?_ofDefinitions] at h
  simpa using List.mem_of_getLast? h

/-- No type that is found under the name of a root is anything else. -/
theorem rootOperation?_ofDefinitions {ds : List TypeDefinition} (h : ∀ d ∈ ds, d.IsWellFormed)
    (kind : OperationKind) :
    (ofDefinitions ds).rootOperation? kind = (ofDefinitions ds).get? kind.rootTypeName := by
  rw [rootOperation?]
  cases hfound : (ofDefinitions ds).get? kind.rootTypeName with
  | none => rfl
  | some d =>
    obtain ⟨hmem, hname⟩ := get?_ofDefinitions_eq_some hfound
    have hkind : d.kind = kind.typeKind := ((h d hmem).kind_eq_typeKind_iff kind).mpr hname
    simp [hkind]

end Catalog

end SchemaExplorer
