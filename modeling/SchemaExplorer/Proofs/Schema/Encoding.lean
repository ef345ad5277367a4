import SchemaExplorer.Proofs.Json.RoundTrip
import SchemaExplorer.Schema.Encoding

/-! # Type definitions as JSON

A record that is written with all of its fields is read field by field, and every definition comes
back from the JSON that stands for it. -/

namespace SchemaExplorer

namespace Json

/-! ### Lists and records -/

theorem mapM_map_eq_some {α β γ : Type} {f : β → Option γ} {g : α → β} {r : α → γ} {as : List α}
    (h : ∀ a ∈ as, f (g a) = some (r a)) : (as.map g).mapM f = some (as.map r) := by
  induction as with
  | nil => rfl
  | cons a as ih =>
    have ha := h a List.mem_cons_self
    have hrest := ih fun b hb => h b (List.mem_cons_of_mem a hb)
    simp [List.mapM_cons, ha, hrest]

theorem mapM_eq_some_iff_eq_map {α β : Type} {f : α → Option β} {g : β → α}
    (h : ∀ a b, f a = some b ↔ a = g b) {as : List α} {bs : List β} :
    as.mapM f = some bs ↔ as = bs.map g := by
  induction as generalizing bs with
  | nil => cases bs <;> simp
  | cons a as ih =>
    simp only [List.mapM_cons, Option.bind_eq_bind, Option.bind_eq_some_iff, h, ih, Option.pure_def,
      Option.some.injEq]
    constructor
    · rintro ⟨b, rfl, rest, rfl, rfl⟩
      rfl
    · intro heq
      cases bs with
      | nil => simp at heq
      | cons b bs =>
        obtain ⟨rfl, rfl⟩ := List.cons.inj heq
        exact ⟨b, rfl, bs, rfl, rfl⟩

theorem listOf?_array {α : Type} {item? : Json → Option α} {toJson : α → Json} {as : List α}
    (h : ∀ a ∈ as, item? (toJson a) = some a) :
    listOf? item? (array (as.map toJson)) = some as := by
  have hread := mapM_map_eq_some (r := id) h
  simpa [listOf?, array?] using hread

@[simp] theorem listOf?_texts (ss : List String) : listOf? text? (texts ss) = some ss :=
  listOf?_array fun _ _ => rfl

@[simp] theorem text?_text (s : String) : (text s).text? = some s := rfl

@[simp] theorem bool?_bool (b : Bool) : (bool b).bool? = some b := rfl

@[simp] theorem optional?_optional (s : Option String) : (optional s).optional? = some s := by
  cases s <;> rfl

theorem entries?_record (entries : List (String × Json)) :
    (record entries).entries? = some entries := by
  have hread : (entries.map fun entry => (some entry.1, entry.2)).mapM
      (fun entry : Option String × Json => entry.1.map fun key => (key, entry.2)) =
        some (entries.map id) :=
    mapM_map_eq_some fun _ _ => rfl
  simpa [entries?, record] using hread

theorem entries?_eq_some_iff {j : Json} {entries : List (String × Json)} :
    j.entries? = some entries ↔ j = record entries := by
  constructor
  · intro h
    cases j with
    | object written =>
      have hentry : ∀ (entry : Option String × Json) (pair : String × Json),
          (entry.1.map fun key => (key, entry.2)) = some pair ↔ entry = (some pair.1, pair.2) := by
        rintro ⟨key?, value⟩ ⟨key, value'⟩
        cases key? <;> simp
      rw [record, (mapM_eq_some_iff_eq_map hentry).mp h]
    | _ => simp [entries?] at h
  · rintro rfl
    exact entries?_record entries

/-- An entry whose key is not repeated is the one under its key. -/
theorem filter_key_eq_singleton {entries : List (String × Json)} {entry : String × Json}
    (hkeys : (entries.map Prod.fst).Nodup) (h : entry ∈ entries) :
    entries.filter (·.1 = entry.1) = [entry] := by
  induction entries with
  | nil => simp at h
  | cons first rest ih =>
    obtain ⟨hfirst, hrest⟩ := List.nodup_cons.mp hkeys
    rcases List.mem_cons.mp h with rfl | h
    · have hnone : rest.filter (·.1 = entry.1) = [] := by
        apply List.filter_eq_nil_iff.mpr
        intro other hother
        have hne : other.1 ≠ entry.1 := fun e => hfirst (e ▸ List.mem_map_of_mem hother)
        simpa using hne
      simp [hnone]
    · have hne : first.1 ≠ entry.1 := fun e => hfirst (e ▸ List.mem_map_of_mem h)
      simp [hne, ih hrest h]

/-- A record has a value for each of its fields, in their order. -/
theorem fields?_record {names : List String} {entries : List (String × Json)}
    (hnames : entries.map Prod.fst = names) (h : names.Nodup) :
    (record entries).fields? names = some (entries.map fun entry => some entry.2) := by
  subst hnames
  have hread : fieldsOf? (entries.map Prod.fst) entries =
      some (entries.map fun entry => some entry.2) := by
    apply mapM_map_eq_some
    intro entry hentry
    simp [filter_key_eq_singleton h hentry]
  have hentries := entries?_record entries
  rw [record] at hentries ⊢
  simp [fields?, hentries, hread]

/-! ### Numbers -/

theorem isLegible_array {items : List Json} (h : ∀ item ∈ items, item.IsLegible) :
    (array items).IsLegible := by
  rw [IsLegible]
  induction items with
  | nil => trivial
  | cons item items ih =>
    exact ⟨h item List.mem_cons_self, ih fun other ho => h other (List.mem_cons_of_mem item ho)⟩

theorem isLegible_record {entries : List (String × Json)} (h : ∀ entry ∈ entries, entry.2.IsLegible) :
    (record entries).IsLegible := by
  rw [record, IsLegible]
  induction entries with
  | nil => trivial
  | cons entry entries ih =>
    exact ⟨h entry List.mem_cons_self, ih fun other ho => h other (List.mem_cons_of_mem entry ho)⟩

@[simp] theorem isLegible_text (s : String) : (text s).IsLegible := by
  simp [text, IsLegible]

@[simp] theorem isLegible_bool (b : Bool) : (bool b).IsLegible := by
  simp [IsLegible]

@[simp] theorem isLegible_optional (s : Option String) : (optional s).IsLegible := by
  cases s <;> simp [optional, IsLegible]

@[simp] theorem isLegible_texts (ss : List String) : (texts ss).IsLegible :=
  isLegible_array (by simp)

end Json

open Json

/-! ### Definitions and what they are made of -/

@[simp] theorem TypeKind.ofJson?_toJson (kind : TypeKind) : ofJson? kind.toJson = some kind :=
  ofName?_name kind

@[simp] theorem TypeKind.isLegible_toJson (kind : TypeKind) : kind.toJson.IsLegible :=
  isLegible_text kind.name

namespace Argument

theorem ofJson?_toJson (a : Argument) : ofJson? a.toJson = some a := by
  rw [ofJson?, toJson, fields?_record]
  · simp
  · rfl
  · decide

theorem isLegible_toJson (a : Argument) : a.toJson.IsLegible :=
  isLegible_record (by simp)

end Argument

namespace Field

theorem ofJson?_toJson (f : Field) : ofJson? f.toJson = some f := by
  have hargs : listOf? Argument.ofJson? (.array (f.args.map Argument.toJson)) = some f.args :=
    listOf?_array fun a _ => a.ofJson?_toJson
  rw [ofJson?, toJson, fields?_record]
  · simp [hargs]
  · rfl
  · decide

theorem isLegible_toJson (f : Field) : f.toJson.IsLegible := by
  have hargs : (Json.array (f.args.map Argument.toJson)).IsLegible :=
    isLegible_array (by simp [Argument.isLegible_toJson])
  exact isLegible_record (by simp [hargs])

end Field

namespace TypeDefinition

theorem ofJson?_toJson (d : TypeDefinition) : ofJson? d.toJson = some d := by
  have hmembers : listOf? Field.ofJson? (.array (d.fields.map Field.toJson)) = some d.fields :=
    listOf?_array fun f _ => f.ofJson?_toJson
  have hinputs : listOf? Argument.ofJson? (.array (d.inputFields.map Argument.toJson)) =
      some d.inputFields :=
    listOf?_array fun a _ => a.ofJson?_toJson
  rw [ofJson?, toJson, fields?_record]
  · simp [hmembers, hinputs]
  · rfl
  · decide

theorem isLegible_toJson (d : TypeDefinition) : d.toJson.IsLegible := by
  have hmembers : (Json.array (d.fields.map Field.toJson)).IsLegible :=
    isLegible_array (by simp [Field.isLegible_toJson])
  have hinputs : (Json.array (d.inputFields.map Argument.toJson)).IsLegible :=
    isLegible_array (by simp [Argument.isLegible_toJson])
  exact isLegible_record (by simp [hmembers, hinputs])

end TypeDefinition

end SchemaExplorer
