import SchemaExplorer.Proofs.OrderedMap
import SchemaExplorer.Proofs.Schema.Encoding
import SchemaExplorer.Query.ConfigFile

/-! # Tables over tables

Laying tables over others is associative, and of each key it keeps the uppermost entry in the place
of the lowest. A file is laid over the built-in tables: what it writes counts, and a table that it
does not write stays the built-in one. -/

namespace SchemaExplorer.Query.Config

/-! ### Tables as they are written -/

/-- A table in JSON: an object with these texts under these keys, which may be repeated. -/
def IsJsonTable (j : Json) (pairs : List (String × String)) : Prop :=
  j = .record (pairs.map fun pair => (pair.1, .text pair.2))

/-- A table in TOML: one with these texts under these keys. A date or a time counts as a table. -/
inductive IsTomlTable : Toml → List (String × String) → Prop
  | table (origin : Toml.Origin) (pairs : List (String × String)) :
      IsTomlTable (.table origin (pairs.map fun pair => (pair.1, .string pair.2))) pairs
  | dateTime (text : String) : IsTomlTable (.dateTime text) [(dateTimeKey, text)]

theorem tableOfJson?_eq_some_iff {j : Json} {m : OrderedMap String} :
    tableOfJson? j = some m ↔ ∃ pairs, IsJsonTable j pairs ∧ m = .ofList pairs := by
  have hentry : ∀ (entry : String × Json) (pair : String × String),
      (entry.2.text?.map fun text => (entry.1, text)) = some pair ↔
        entry = (pair.1, .text pair.2) := by
    rintro ⟨key, value⟩ ⟨key', text⟩
    cases value with
    | string text? => cases text? <;> simp [Json.text?, Json.text]
    | _ => simp [Json.text?, Json.text]
  simp only [tableOfJson?, Option.bind_eq_bind, Option.bind_eq_some_iff, Json.entries?_eq_some_iff,
    Json.mapM_eq_some_iff_eq_map hentry, Option.some.injEq, IsJsonTable]
  constructor
  · rintro ⟨entries, rfl, pairs, rfl, rfl⟩
    exact ⟨pairs, rfl, rfl⟩
  · rintro ⟨pairs, rfl, rfl⟩
    exact ⟨_, rfl, pairs, rfl, rfl⟩

theorem tableOfToml?_eq_some_iff {t : Toml} {m : OrderedMap String} :
    tableOfToml? t = some m ↔ ∃ pairs, IsTomlTable t pairs ∧ m = .ofList pairs := by
  have hentry : ∀ (entry : String × Toml) (pair : String × String),
      ((textOfToml? entry.2).map fun text => (entry.1, text)) = some pair ↔
        entry = (pair.1, .string pair.2) := by
    rintro ⟨key, value⟩ ⟨key', text⟩
    cases value <;> simp [textOfToml?]
  constructor
  · intro h
    cases t with
    | table origin entries =>
      obtain ⟨pairs, hpairs, hm⟩ := Option.bind_eq_some_iff.mp h
      obtain rfl := (Json.mapM_eq_some_iff_eq_map hentry).mp hpairs
      exact ⟨pairs, .table origin pairs, (Option.some.inj hm).symm⟩
    | dateTime text => exact ⟨_, .dateTime text, (Option.some.inj h).symm⟩
    | _ => simp [tableOfToml?] at h
  · rintro ⟨pairs, hpairs, rfl⟩
    cases hpairs with
    | table origin => simp [tableOfToml?, (Json.mapM_eq_some_iff_eq_map hentry).mpr rfl]
    | dateTime text => rfl

/-- A table may be missing, but not be written wrongly. -/
theorem optionalTable?_eq_some_iff {α : Type} {table? : α → Option (OrderedMap String)}
    {IsTable : α → List (String × String) → Prop}
    (h : ∀ {a m}, table? a = some m ↔ ∃ pairs, IsTable a pairs ∧ m = .ofList pairs)
    {a? : Option α} {m? : Option (OrderedMap String)} :
    optionalTable? table? a? = some m? ↔
      ∃ pairs?, Option.Rel IsTable a? pairs? ∧ m? = pairs?.map .ofList := by
  constructor
  · intro hread
    cases a? with
    | none => exact ⟨none, .none, (Option.some.inj hread).symm⟩
    | some a =>
      obtain ⟨m, hm, rfl⟩ := Option.map_eq_some_iff.mp hread
      obtain ⟨pairs, hpairs, rfl⟩ := h.mp hm
      exact ⟨some pairs, .some hpairs, rfl⟩
  · rintro ⟨pairs?, hpairs, rfl⟩
    cases hpairs with
    | none => rfl
    | some hpairs => simp [optionalTable?, h.mpr ⟨_, hpairs, rfl⟩]

/-! ### Files -/

/-- The tables that the text of a file writes, each with its keys and texts in their order; nothing
for a table that the file does not have. -/
inductive WritesTables (path text : String) (sets? placeholders? : Option (List (String × String))) :
    Prop
  | toml {entries : Toml.Entries} (hpath : Path.extension? path = some "toml")
      (h : Toml.parse? text = some entries)
      (hsets : Option.Rel IsTomlTable (entries.lookup "selection_sets") sets?)
      (hplaceholders : Option.Rel IsTomlTable (entries.lookup "code_placeholders") placeholders?)
  | json {j : Json} {first second : Option Json} (hpath : Path.extension? path = some "json")
      (h : Json.parse? text = some j) (hfields : fieldsOfJson? j = some [first, second])
      (hsets : Option.Rel IsJsonTable first sets?)
      (hplaceholders : Option.Rel IsJsonTable second placeholders?)

theorem ofToml?_eq_some_iff {text : String} {config : Config} :
    ofToml? text = some config ↔ ∃ entries sets? placeholders?,
      Toml.parse? text = some entries ∧
      Option.Rel IsTomlTable (entries.lookup "selection_sets") sets? ∧
      Option.Rel IsTomlTable (entries.lookup "code_placeholders") placeholders? ∧
      config = ofTables (sets?.map .ofList) (placeholders?.map .ofList) := by
  simp only [ofToml?, Option.bind_eq_bind, Option.bind_eq_some_iff,
    optionalTable?_eq_some_iff tableOfToml?_eq_some_iff, Option.some.injEq]
  constructor
  · rintro ⟨entries, hparse, _, ⟨sets?, hsets, rfl⟩, _, ⟨placeholders?, hplaceholders, rfl⟩, rfl⟩
    exact ⟨entries, sets?, placeholders?, hparse, hsets, hplaceholders, rfl⟩
  · rintro ⟨entries, sets?, placeholders?, hparse, hsets, hplaceholders, rfl⟩
    exact ⟨entries, hparse, _, ⟨sets?, hsets, rfl⟩, _, ⟨placeholders?, hplaceholders, rfl⟩, rfl⟩

theorem ofJson?_eq_some_iff {text : String} {config : Config} :
    ofJson? text = some config ↔ ∃ j first second sets? placeholders?,
      Json.parse? text = some j ∧ fieldsOfJson? j = some [first, second] ∧
      Option.Rel IsJsonTable first sets? ∧ Option.Rel IsJsonTable second placeholders? ∧
      config = ofTables (sets?.map .ofList) (placeholders?.map .ofList) := by
  simp only [ofJson?, Option.bind_eq_bind, Option.bind_eq_some_iff]
  constructor
  · rintro ⟨j, hparse, fields, hfields, h⟩
    split at h
    · next first second =>
      simp only [Option.bind_eq_some_iff, optionalTable?_eq_some_iff tableOfJson?_eq_some_iff,
        Option.some.injEq] at h
      obtain ⟨_, ⟨sets?, hsets, rfl⟩, _, ⟨placeholders?, hplaceholders, rfl⟩, rfl⟩ := h
      exact ⟨j, first, second, sets?, placeholders?, hparse, hfields, hsets, hplaceholders, rfl⟩
    · simp at h
  · rintro ⟨j, first, second, sets?, placeholders?, hparse, hfields, hsets, hplaceholders, rfl⟩
    refine ⟨j, hparse, _, hfields, ?_⟩
    simp only [Option.bind_eq_some_iff, optionalTable?_eq_some_iff tableOfJson?_eq_some_iff,
      Option.some.injEq]
    exact ⟨_, ⟨sets?, hsets, rfl⟩, _, ⟨placeholders?, hplaceholders, rfl⟩, rfl⟩

theorem parse_eq_ok_iff {text path : String} {config : Config} :
    parse text path = .ok config ↔ ∃ sets? placeholders?,
      WritesTables path text sets? placeholders? ∧
      config = ofTables (sets?.map .ofList) (placeholders?.map .ofList) := by
  constructor
  · intro h
    unfold parse at h
    split at h
    · next hpath =>
      split at h
      · next hread =>
        obtain ⟨entries, sets?, placeholders?, hparse, hsets, hplaceholders, rfl⟩ :=
          ofToml?_eq_some_iff.mp hread
        exact ⟨sets?, placeholders?, .toml hpath hparse hsets hplaceholders,
          (Except.ok.inj h).symm⟩
      · simp at h
    · next hpath =>
      split at h
      · next hread =>
        obtain ⟨j, first, second, sets?, placeholders?, hparse, hfields, hsets, hplaceholders, rfl⟩ :=
          ofJson?_eq_some_iff.mp hread
        exact ⟨sets?, placeholders?, .json hpath hparse hfields hsets hplaceholders,
          (Except.ok.inj h).symm⟩
      · simp at h
    · simp at h
  · rintro ⟨sets?, placeholders?, hwrites, rfl⟩
    cases hwrites with
    | toml hpath h hsets hplaceholders =>
      have hread := ofToml?_eq_some_iff.mpr ⟨_, _, _, h, hsets, hplaceholders, rfl⟩
      simp [parse, hpath, hread]
    | json hpath h hfields hsets hplaceholders =>
      have hread := ofJson?_eq_some_iff.mpr ⟨_, _, _, _, _, h, hfields, hsets, hplaceholders, rfl⟩
      simp [parse, hpath, hread]

theorem load_eq_ok_iff {files : FileSystem} {path : String} {loaded : Config} :
    (load files (some path)).value = .ok loaded ↔ ∃ text config,
      files.readText path = .ok text ∧ parse text path = .ok config ∧
      loaded = builtin.merge config := by
  rw [load, Logged.value_bind]
  cases files.readText path with
  | error cause => simp
  | ok text =>
    cases hparse : parse text path with
    | error e => simp [hparse]
    | ok config => simp [hparse, eq_comm]

/-! ### What is laid over -/

/-- The table has what is written in the upper one, and for all other keys what is in the lower one.
The keys of the lower one come first, then the new ones in the order in which they are written. Of
several texts for one key the last counts. -/
structure Overlays (lower : OrderedMap String) (written? : Option (List (String × String)))
    (m : OrderedMap String) : Prop where
  get? : ∀ key, m.get? key =
    ((((written?.getD []).filter (·.1 = key)).getLast?).map Prod.snd).or (lower.get? key)
  keys : m.keys =
    lower.keys ++ ((written?.getD []).map Prod.fst).eraseDups.filter (· ∉ lower.keys)

theorem Overlays.unique {lower m m' : OrderedMap String}
    {written? : Option (List (String × String))} (h : Overlays lower written? m)
    (h' : Overlays lower written? m') : m = m' :=
  OrderedMap.ext_get? (h.keys.trans h'.keys.symm) fun key => (h.get? key).trans (h'.get? key).symm

/-- A table that is missing is read as the lower one, which changes nothing. -/
theorem overlays_merge (lower : OrderedMap String) (written? : Option (List (String × String))) :
    Overlays lower written? (lower.merge ((written?.map .ofList).getD lower)) := by
  cases written? with
  | none =>
    rw [Option.map_none, Option.getD_none, OrderedMap.merge_self]
    exact ⟨fun key => by simp, by simp⟩
  | some pairs =>
    rw [Option.map_some, Option.getD_some]
    refine ⟨fun key => ?_, ?_⟩
    · rw [OrderedMap.get?_merge, OrderedMap.get?_ofList, Option.getD_some]
    · rw [OrderedMap.keys_merge, OrderedMap.keys_ofList, Option.getD_some]

theorem eq_merge_ofTables_iff {loaded : Config} {sets? placeholders? : Option (List (String × String))} :
    loaded = builtin.merge (ofTables (sets?.map .ofList) (placeholders?.map .ofList)) ↔
      Overlays builtin.selectionSets sets? loaded.selectionSets ∧
      Overlays builtin.codePlaceholders placeholders? loaded.codePlaceholders := by
  have hsets := overlays_merge builtin.selectionSets sets?
  have hplaceholders := overlays_merge builtin.codePlaceholders placeholders?
  constructor
  · rintro rfl
    exact ⟨hsets, hplaceholders⟩
  · rintro ⟨hloadedSets, hloadedPlaceholders⟩
    calc loaded
        = ⟨loaded.selectionSets, loaded.codePlaceholders⟩ := rfl
      _ = builtin.merge (ofTables (sets?.map .ofList) (placeholders?.map .ofList)) := by
            rw [hloadedSets.unique hsets, hloadedPlaceholders.unique hplaceholders]
            rfl

/-- What is found under a key is its entry in the table. Laying tables over others is associative,
leaves them alone if either are empty or both are the same, keeps what the upper ones have and else
what the lower ones do, and puts new keys behind those of the lower ones. So a configuration that is
loaded from a file has what the file writes, whether or not it writes both of the tables, over the
built-in entries, which come first. -/
theorem merge_layers :
    (∀ (a : Config) (key text : String),
      (a.selectionSet? key = some text ↔ (key, text) ∈ a.selectionSets.entries) ∧
      (a.codePlaceholder? key = some text ↔ (key, text) ∈ a.codePlaceholders.entries)) ∧
    (∀ a b c : Config, (a.merge b).merge c = a.merge (b.merge c)) ∧
    (∀ a : Config, empty.merge a = a ∧ a.merge empty = a ∧ a.merge a = a) ∧
    (∀ (a b : Config) (key : String),
      (a.merge b).selectionSet? key =
        (b.selectionSets.get? key).or (a.selectionSets.get? key) ∧
      (a.merge b).codePlaceholder? key =
        (b.codePlaceholders.get? key).or (a.codePlaceholders.get? key)) ∧
    (∀ a b : Config,
      (a.merge b).selectionSets.keys =
        a.selectionSets.keys ++ b.selectionSets.keys.filter (· ∉ a.selectionSets.keys) ∧
      (a.merge b).codePlaceholders.keys =
        a.codePlaceholders.keys ++ b.codePlaceholders.keys.filter (· ∉ a.codePlaceholders.keys)) ∧
    ∀ (files : FileSystem) (path : String) (loaded : Config),
      (load files (some path)).value = .ok loaded ↔ ∃ text sets? placeholders?,
        files.readText path = .ok text ∧ WritesTables path text sets? placeholders? ∧
        Overlays builtin.selectionSets sets? loaded.selectionSets ∧
        Overlays builtin.codePlaceholders placeholders? loaded.codePlaceholders := by
  refine ⟨fun a key text => ⟨?_, ?_⟩, fun a b c => ?_, fun a => ⟨?_, rfl, ?_⟩,
    fun a b key => ⟨?_, ?_⟩, fun a b => ⟨?_, ?_⟩, fun files path loaded => ?_⟩
  · exact OrderedMap.get?_eq_some_iff
  · exact OrderedMap.get?_eq_some_iff
  · simp only [merge, OrderedMap.merge_assoc]
  · simp only [merge, empty, OrderedMap.empty_merge]
  · simp only [merge, OrderedMap.merge_self]
  · exact a.selectionSets.get?_merge b.selectionSets key
  · exact a.codePlaceholders.get?_merge b.codePlaceholders key
  · exact a.selectionSets.keys_merge b.selectionSets
  · exact a.codePlaceholders.keys_merge b.codePlaceholders
  · simp only [load_eq_ok_iff, parse_eq_ok_iff]
    constructor
    · rintro ⟨text, config, htext, ⟨sets?, placeholders?, hwrites, rfl⟩, hloaded⟩
      exact ⟨text, sets?, placeholders?, htext, hwrites, eq_merge_ofTables_iff.mp hloaded⟩
    · rintro ⟨text, sets?, placeholders?, htext, hwrites, hoverlays⟩
      exact ⟨text, _, htext, ⟨sets?, placeholders?, hwrites, rfl⟩,
        eq_merge_ofTables_iff.mpr hoverlays⟩

end SchemaExplorer.Query.Config
