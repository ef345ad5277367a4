import Mathlib.Data.List.Induction
import SchemaExplorer.OrderedMap

/-! # Maps and their entries

New keys go to the end, in their order. So a map that is entered again, entry by entry, is the map
that it was. Of the values for one key the last is found, in the place of the first. -/

namespace SchemaExplorer.OrderedMap

universe u

variable {α : Type u}

@[ext] theorem ext {m n : OrderedMap α} (h : m.entries = n.entries) : m = n := by
  cases m
  cases n
  simpa using h

theorem insertEntry_eq_append {key : String} (value : α) {entries : List (String × α)}
    (h : key ∉ entries.map Prod.fst) :
    insertEntry key value entries = entries ++ [(key, value)] := by
  induction entries with
  | nil => rfl
  | cons entry rest ih =>
    rw [List.map_cons, List.mem_cons, not_or] at h
    obtain ⟨hne, hrest⟩ := h
    rw [insertEntry, if_neg (Ne.symm hne), ih hrest, List.cons_append]

theorem entries_insertAll {m : OrderedMap α} {pairs : List (String × α)}
    (h : (m.entries.map Prod.fst ++ pairs.map Prod.fst).Nodup) :
    (m.insertAll pairs).entries = m.entries ++ pairs := by
  induction pairs generalizing m with
  | nil => simp [insertAll]
  | cons pair pairs ih =>
    have hnew : pair.1 ∉ m.entries.map Prod.fst := by
      rw [List.nodup_append] at h
      exact fun hmem => h.2.2 _ hmem _ (by simp) rfl
    have hentries : (m.insert pair.1 pair.2).entries = m.entries ++ [pair] :=
      insertEntry_eq_append pair.2 hnew
    rw [insertAll_cons, ih (by simpa [hentries] using h), hentries, List.append_assoc,
      List.singleton_append]

theorem ofList_entries (m : OrderedMap α) : ofList m.entries = m := by
  apply ext
  rw [ofList, entries_insertAll]
  · rfl
  · exact m.nodup_keys

theorem ofList_concat (pairs : List (String × α)) (pair : String × α) :
    ofList (pairs ++ [pair]) = (ofList pairs).insert pair.1 pair.2 :=
  insertAll_append empty pairs [pair]

theorem get?_ofList (pairs : List (String × α)) (key : String) :
    (ofList pairs).get? key = ((pairs.filter (·.1 = key)).getLast?).map Prod.snd := by
  induction pairs using List.reverseRecOn with
  | nil => rfl
  | append_singleton pairs pair ih =>
    rw [ofList_concat, get?_insert, ih]
    by_cases hkey : key = pair.1
    · simp [hkey]
    · simp [hkey, Ne.symm hkey]

theorem keys_ofList (pairs : List (String × α)) :
    (ofList pairs).keys = (pairs.map Prod.fst).eraseDups := by
  induction pairs using List.reverseRecOn with
  | nil => rfl
  | append_singleton pairs pair ih =>
    rw [ofList_concat, keys_insert, ih, List.map_append, List.eraseDups_append]
    by_cases hmem : pair.1 ∈ pairs.map Prod.fst
    · simp [List.removeAll, hmem]
    · simp [List.removeAll, hmem, List.eraseDups_cons]

/-! ### What is found -/

/-- No entry hides another. -/
theorem get?_eq_some_iff {m : OrderedMap α} {key : String} {value : α} :
    m.get? key = some value ↔ (key, value) ∈ m.entries := by
  constructor
  · intro h
    obtain ⟨front, back, hentries, -⟩ := List.lookup_eq_some_iff.mp h
    simp [hentries]
  · intro h
    obtain ⟨front, back, hentries⟩ := List.append_of_mem h
    have hnodup := m.nodup_keys
    rw [hentries, List.map_append, List.nodup_append] at hnodup
    apply List.lookup_eq_some_iff.mpr
    refine ⟨front, back, hentries, fun entry hentry => ?_⟩
    have hne := hnodup.2.2 entry.1 (List.mem_map_of_mem hentry) key (by simp)
    simpa using Ne.symm hne

theorem get?_eq_none_iff {m : OrderedMap α} {key : String} : m.get? key = none ↔ key ∉ m.keys := by
  rw [Option.eq_none_iff_forall_ne_some]
  simp [get?_eq_some_iff, keys]

theorem mem_values_of_get? {m : OrderedMap α} {key : String} {value : α}
    (h : m.get? key = some value) : value ∈ m.values :=
  List.mem_map_of_mem (get?_eq_some_iff.mp h)

theorem map_some_values (m : OrderedMap α) : m.values.map some = m.keys.map m.get? := by
  rw [values, keys, List.map_map, List.map_map, List.map_inj_left]
  exact fun entry hentry => (get?_eq_some_iff.mpr hentry).symm

/-- A map is given by its keys, in their order, and by what is found under them. -/
theorem ext_get? {m n : OrderedMap α} (hkeys : m.keys = n.keys)
    (h : ∀ key, m.get? key = n.get? key) : m = n := by
  have hvalues : m.values = n.values := by
    apply (List.map_inj_right fun _ _ => Option.some.inj).mp
    rw [map_some_values, map_some_values, hkeys, funext h]
  apply ext
  calc m.entries
      = m.keys.zip m.values := List.zip_of_prod rfl rfl
    _ = n.keys.zip n.values := by rw [hkeys, hvalues]
    _ = n.entries := (List.zip_of_prod rfl rfl).symm

/-! ### Laying one map over another -/

theorem ofList_append (front back : List (String × α)) :
    ofList (front ++ back) = (ofList front).insertAll back :=
  insertAll_append empty front back

theorem merge_eq_ofList (m n : OrderedMap α) : m.merge n = ofList (m.entries ++ n.entries) := by
  rw [ofList_append, ofList_entries, merge]

/-- What the upper map has counts, and else what the lower one has. -/
theorem get?_merge (m n : OrderedMap α) (key : String) :
    (m.merge n).get? key = (n.get? key).or (m.get? key) := by
  rw [merge_eq_ofList, get?_ofList, List.filter_append, List.getLast?_append, Option.map_or,
    ← get?_ofList, ← get?_ofList, ofList_entries, ofList_entries]

theorem keys_insertAll (m : OrderedMap α) {pairs : List (String × α)}
    (h : (pairs.map Prod.fst).Nodup) :
    (m.insertAll pairs).keys = m.keys ++ (pairs.map Prod.fst).filter (· ∉ m.keys) := by
  induction pairs using List.reverseRecOn with
  | nil => simp [insertAll]
  | append_singleton pairs pair ih =>
    rw [List.map_append, List.nodup_append] at h
    obtain ⟨hpairs, -, hnew⟩ := h
    have hpair : pair.1 ∉ pairs.map Prod.fst := fun hmem => hnew _ hmem _ (by simp) rfl
    have hinsert : (m.insertAll (pairs ++ [pair])).keys =
        ((m.insertAll pairs).insert pair.1 pair.2).keys := by
      rw [insertAll_append]
      rfl
    rw [hinsert, keys_insert, ih hpairs, List.map_append, List.filter_append]
    by_cases hmem : pair.1 ∈ m.keys
    · simp [hmem]
    · have hnot : pair.1 ∉ m.keys ++ (pairs.map Prod.fst).filter (· ∉ m.keys) := by
        rw [List.mem_append, List.mem_filter, not_or]
        exact ⟨hmem, fun h => hpair h.1⟩
      rw [if_neg hnot]
      simp [hmem]

/-- The keys of the lower map come first, then the new ones. -/
theorem keys_merge (m n : OrderedMap α) :
    (m.merge n).keys = m.keys ++ n.keys.filter (· ∉ m.keys) :=
  m.keys_insertAll n.nodup_keys

theorem merge_assoc (m n p : OrderedMap α) : (m.merge n).merge p = m.merge (n.merge p) := by
  apply ext_get?
  · simp only [keys_merge, List.filter_append, List.append_assoc, List.filter_filter,
      List.mem_append, List.mem_filter]
    congr 2
    refine List.filter_congr fun key _ => ?_
    by_cases hm : key ∈ m.keys <;> simp [hm]
  · intro key
    simp only [get?_merge, Option.or_assoc]

theorem empty_merge (m : OrderedMap α) : empty.merge m = m :=
  ofList_entries m

theorem merge_self (m : OrderedMap α) : m.merge m = m := by
  apply ext_get?
  · simp [keys_merge]
  · intro key
    rw [get?_merge, Option.or_self]

end SchemaExplorer.OrderedMap
