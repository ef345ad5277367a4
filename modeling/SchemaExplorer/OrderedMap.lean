/-!
Maps from names to values that remember the order in which their keys were first entered.
Entering a key again replaces its value and keeps its place.
-/

namespace SchemaExplorer

universe u

/-- The entries in order; no key stands twice. -/
structure OrderedMap (α : Type u) where
  entries : List (String × α)
  nodup_keys : (entries.map Prod.fst).Nodup
deriving DecidableEq

namespace OrderedMap

variable {α : Type u}

/-- Replaces the value of `key`, or appends an entry if there is none. -/
def insertEntry (key : String) (value : α) : List (String × α) → List (String × α)
  | [] => [(key, value)]
  | entry :: rest =>
    if entry.1 = key then (key, value) :: rest else entry :: insertEntry key value rest

theorem keys_insertEntry (key : String) (value : α) (entries : List (String × α)) :
    (insertEntry key value entries).map Prod.fst =
      if key ∈ entries.map Prod.fst then entries.map Prod.fst
      else entries.map Prod.fst ++ [key] := by
  induction entries with
  | nil => rfl
  | cons entry rest ih =>
    by_cases h : entry.1 = key
    · simp [insertEntry, h]
    · have h' : ¬ key = entry.1 := fun e => h e.symm
      by_cases hmem : key ∈ rest.map Prod.fst
      · simp_all [insertEntry]
      · simp_all [insertEntry]

theorem nodup_keys_insertEntry (key : String) (value : α) {entries : List (String × α)}
    (h : (entries.map Prod.fst).Nodup) :
    ((insertEntry key value entries).map Prod.fst).Nodup := by
  rw [keys_insertEntry]
  split
  · exact h
  · rename_i hmem
    exact List.nodup_append.2 ⟨h, by simp, fun a ha b hb => by
      rintro rfl
      exact hmem (List.mem_singleton.1 hb ▸ ha)⟩

def empty : OrderedMap α := ⟨[], by simp⟩

/-- Enters a value under a key. -/
def insert (m : OrderedMap α) (key : String) (value : α) : OrderedMap α :=
  ⟨insertEntry key value m.entries, nodup_keys_insertEntry key value m.nodup_keys⟩

/-- Enters the given pairs one after the other. -/
def insertAll (m : OrderedMap α) (pairs : List (String × α)) : OrderedMap α :=
  pairs.foldl (fun m pair => m.insert pair.1 pair.2) m

def ofList (pairs : List (String × α)) : OrderedMap α :=
  empty.insertAll pairs

/-- Enters all of `other` into `m`: the values of `other` win, the places of `m` stay. -/
def merge (m other : OrderedMap α) : OrderedMap α :=
  m.insertAll other.entries

def get? (m : OrderedMap α) (key : String) : Option α :=
  m.entries.lookup key

def contains (m : OrderedMap α) (key : String) : Bool :=
  (m.get? key).isSome

def keys (m : OrderedMap α) : List String :=
  m.entries.map Prod.fst

def values (m : OrderedMap α) : List α :=
  m.entries.map Prod.snd

def size (m : OrderedMap α) : Nat :=
  m.entries.length

def isEmpty (m : OrderedMap α) : Bool :=
  m.entries.isEmpty

/-! ### Keys and values after an entry -/

theorem lookup_cons_eq_ite (key : String) (entry : String × α) (rest : List (String × α)) :
    (entry :: rest).lookup key = if key = entry.1 then some entry.2 else rest.lookup key := by
  rw [List.lookup_cons]
  by_cases h : key = entry.1
  · simp [h]
  · have hb : (key == entry.1) = false := by simpa using h
    simp [hb, h]

theorem lookup_insertEntry (key other : String) (value : α) (entries : List (String × α)) :
    (insertEntry key value entries).lookup other =
      if other = key then some value else entries.lookup other := by
  induction entries with
  | nil => simp [insertEntry, lookup_cons_eq_ite]
  | cons entry rest ih =>
    by_cases h : entry.1 = key
    · by_cases ho : other = key <;> simp [insertEntry, lookup_cons_eq_ite, h, ho]
    · by_cases ho : other = entry.1
      · simp [insertEntry, lookup_cons_eq_ite, h, ho]
      · simp [insertEntry, lookup_cons_eq_ite, h, ho, ih]

theorem keys_insert (m : OrderedMap α) (key : String) (value : α) :
    (m.insert key value).keys = if key ∈ m.keys then m.keys else m.keys ++ [key] :=
  keys_insertEntry key value m.entries

theorem get?_insert (m : OrderedMap α) (key other : String) (value : α) :
    (m.insert key value).get? other = if other = key then some value else m.get? other :=
  lookup_insertEntry key other value m.entries

@[simp] theorem get?_empty (key : String) : (empty : OrderedMap α).get? key = none := rfl

@[simp] theorem keys_empty : (empty : OrderedMap α).keys = [] := rfl

theorem insertAll_cons (m : OrderedMap α) (pair : String × α) (pairs : List (String × α)) :
    m.insertAll (pair :: pairs) = (m.insert pair.1 pair.2).insertAll pairs := rfl

theorem insertAll_append (m : OrderedMap α) (front back : List (String × α)) :
    m.insertAll (front ++ back) = (m.insertAll front).insertAll back :=
  List.foldl_append

end OrderedMap

end SchemaExplorer
