import SchemaExplorer.Proofs.Catalog.Index
import SchemaExplorer.Proofs.CommandLine.GivenValues

/-! # Finding fields by their paths

A path has one outcome: the first field of that name in the type that is named, or the first of the
reasons why there is none. Whatever fields a schema has are found by their paths, since no name has
a dot or a blank in it. -/

namespace SchemaExplorer

open Text (Blanks trim)

namespace Catalog

/-! ### Paths -/

/-- What stands in front of the first dot and behind it, without the blanks at the ends. -/
def Splits (path typeName fieldName : String) : Prop :=
  ∃ front back, path = front ++ "." ++ back ∧ '.' ∉ front.toList ∧
    trim front = typeName ∧ trim back = fieldName

/-- The path names a type and a field. -/
def Names (path typeName fieldName : String) : Prop :=
  Splits path typeName fieldName ∧ typeName ≠ "" ∧ fieldName ≠ ""

/-- There is no dot, or nothing but blanks on one side of the first. -/
def IsMalformed (path : String) : Prop :=
  '.' ∉ path.toList ∨
    ∃ typeName fieldName, Splits path typeName fieldName ∧ (typeName = "" ∨ fieldName = "")

theorem splitOnce?_dot_eq_some_iff {path front back : String} :
    Text.splitOnce? '.' path = some (front, back) ↔
      path = front ++ "." ++ back ∧ '.' ∉ front.toList := by
  rw [Text.splitOnce?_eq_some_iff, ← String.toList_inj]
  simp

theorem splitPath?_eq_some_iff {path typeName fieldName : String} :
    splitPath? path = some (typeName, fieldName) ↔ Names path typeName fieldName := by
  simp only [splitPath?, Option.bind_eq_bind, Option.bind_eq_some_iff, Prod.exists,
    splitOnce?_dot_eq_some_iff, Text.nonBlank?_eq_some_iff, Option.some.injEq, Prod.mk.injEq]
  constructor
  · rintro ⟨front, back, ⟨hpath, hdot⟩, _, ⟨hfront, hne⟩, _, ⟨hback, hne'⟩, rfl, rfl⟩
    exact ⟨⟨front, back, hpath, hdot, hfront, hback⟩, hne, hne'⟩
  · rintro ⟨⟨front, back, hpath, hdot, hfront, hback⟩, hne, hne'⟩
    exact ⟨front, back, ⟨hpath, hdot⟩, _, ⟨hfront, hne⟩, _, ⟨hback, hne'⟩, rfl, rfl⟩

theorem splitPath?_eq_none_iff {path : String} : splitPath? path = none ↔ IsMalformed path := by
  cases hsplit : Text.splitOnce? '.' path with
  | none =>
    have hdot : '.' ∉ path.toList := Text.splitOnce?_eq_none_iff.mp hsplit
    simp [splitPath?, hsplit, IsMalformed, hdot]
  | some pair =>
    obtain ⟨front, back⟩ := pair
    obtain ⟨hpath, hfront⟩ := splitOnce?_dot_eq_some_iff.mp hsplit
    have hnone : splitPath? path = none ↔ trim front = "" ∨ trim back = "" := by
      cases htype : Text.nonBlank? front <;> cases hfield : Text.nonBlank? back <;>
        simp [splitPath?, hsplit, htype, hfield, ← Text.nonBlank?_eq_none_iff]
    rw [hnone]
    constructor
    · exact fun h => .inr ⟨_, _, ⟨front, back, hpath, hfront, rfl, rfl⟩, h⟩
    · rintro (hdot | ⟨_, _, ⟨front', back', hpath', hfront', rfl, rfl⟩, h⟩)
      · simp [hpath] at hdot
      · have hsame := hsplit.symm.trans (splitOnce?_dot_eq_some_iff.mpr ⟨hpath', hfront'⟩)
        obtain ⟨rfl, rfl⟩ := Prod.mk.inj (Option.some.inj hsame)
        exact h

/-! ### Outcomes -/

/-- What comes of a path. Each reason why there is no field counts only where those before it do
not hold, and the first field of a name hides those behind it. -/
inductive Finds (c : Catalog) (path : String) : Except LookupError Field → Prop
  | malformedPath (h : IsMalformed path) : Finds c path (.error (.malformedPath path))
  | unknownType {typeName fieldName} (h : Names path typeName fieldName)
      (hnone : typeName ∉ c.types.keys) : Finds c path (.error (.unknownType typeName))
  | typeHasNoFields {typeName fieldName d} (h : Names path typeName fieldName)
      (hd : (typeName, d) ∈ c.types.entries) (hkind : d.kind.hasFields = false) :
      Finds c path (.error (.typeHasNoFields typeName d.kind))
  | unknownField {typeName fieldName d} (h : Names path typeName fieldName)
      (hd : (typeName, d) ∈ c.types.entries) (hkind : d.kind.hasFields = true)
      (hnone : ∀ f ∈ d.fields, f.name ≠ fieldName) :
      Finds c path (.error (.unknownField typeName fieldName))
  | field {typeName fieldName d front f back} (h : Names path typeName fieldName)
      (hd : (typeName, d) ∈ c.types.entries) (hkind : d.kind.hasFields = true)
      (hfields : d.fields = front ++ f :: back) (hname : f.name = fieldName)
      (hfirst : ∀ g ∈ front, g.name ≠ fieldName) : Finds c path (.ok f)

theorem field?_eq_some_iff {d : TypeDefinition} {name : String} {f : Field} :
    d.field? name = some f ↔
      f.name = name ∧ ∃ front back, d.fields = front ++ f :: back ∧ ∀ g ∈ front, g.name ≠ name := by
  simp [TypeDefinition.field?, List.find?_eq_some_iff_append]

theorem field?_eq_none_iff {d : TypeDefinition} {name : String} :
    d.field? name = none ↔ ∀ f ∈ d.fields, f.name ≠ name := by
  simp [TypeDefinition.field?]

theorem finds_findField (c : Catalog) (path : String) : Finds c path (c.findField path) := by
  rw [findField]
  split
  · next hpath => exact .malformedPath (splitPath?_eq_none_iff.mp hpath)
  · next typeName fieldName hpath =>
    have hnames := splitPath?_eq_some_iff.mp hpath
    split
    · next htype => exact .unknownType hnames (OrderedMap.get?_eq_none_iff.mp htype)
    · next d htype =>
      have hd := OrderedMap.get?_eq_some_iff.mp htype
      split
      · next hkind =>
        split
        · next f hfield =>
          obtain ⟨hname, front, back, hfields, hfirst⟩ := field?_eq_some_iff.mp hfield
          exact .field hnames hd hkind hfields hname hfirst
        · next hfield => exact .unknownField hnames hd hkind (field?_eq_none_iff.mp hfield)
      · next hkind => exact .typeHasNoFields hnames hd (by simpa using hkind)

theorem Finds.findField_eq {c : Catalog} {path : String} {result : Except LookupError Field}
    (h : Finds c path result) : c.findField path = result := by
  cases h with
  | malformedPath h => rw [findField, splitPath?_eq_none_iff.mpr h]
  | unknownType h hnone =>
    have htype := OrderedMap.get?_eq_none_iff.mpr hnone
    simp [findField, splitPath?_eq_some_iff.mpr h, get?, htype]
  | typeHasNoFields h hd hkind =>
    have htype := OrderedMap.get?_eq_some_iff.mpr hd
    simp [findField, splitPath?_eq_some_iff.mpr h, get?, htype, hkind]
  | unknownField h hd hkind hnone =>
    have htype := OrderedMap.get?_eq_some_iff.mpr hd
    simp [findField, splitPath?_eq_some_iff.mpr h, get?, htype, hkind,
      field?_eq_none_iff.mpr hnone]
  | field h hd hkind hfields hname hfirst =>
    have htype := OrderedMap.get?_eq_some_iff.mpr hd
    have hfield := field?_eq_some_iff.mpr ⟨hname, _, _, hfields, hfirst⟩
    simp [findField, splitPath?_eq_some_iff.mpr h, get?, htype, hkind, hfield]

/-! ### The fields of a schema -/

/-- The path of a field, with any blanks around both names. -/
def pathOf (b₁ : Blanks) (typeName : String) (b₂ b₃ : Blanks) (fieldName : String)
    (b₄ : Blanks) : String :=
  b₁.text ++ typeName ++ b₂.text ++ "." ++ (b₃.text ++ fieldName ++ b₄.text)

theorem names_pathOf {typeName fieldName : String} (htype : Sdl.isName typeName.toList = true)
    (hfield : Sdl.isName fieldName.toList = true) (b₁ b₂ b₃ b₄ : Blanks) :
    Names (pathOf b₁ typeName b₂ b₃ fieldName b₄) typeName fieldName := by
  have htrim : ∀ name : String, Sdl.isName name.toList = true → trim name = name ∧ name ≠ "" :=
    fun name h => ⟨Text.trim_eq_self_iff.mpr (Sdl.isStripped_of_isName h), by
      simpa using Sdl.isName_ne_nil h⟩
  have hblank : ∀ b : Blanks, '.' ∉ b.text.toList := fun b hmem =>
    absurd (b.isBlank_of_mem _ hmem) (by decide)
  have hdot : '.' ∉ (b₁.text ++ typeName ++ b₂.text).toList := by
    simp [hblank, Sdl.not_mem_of_isName htype (c := '.') (by decide)]
  obtain ⟨htypeTrim, htypeNe⟩ := htrim typeName htype
  obtain ⟨hfieldTrim, hfieldNe⟩ := htrim fieldName hfield
  exact ⟨⟨_, _, rfl, hdot, (Text.trim_blanks_append b₁ typeName b₂).trans htypeTrim,
    (Text.trim_blanks_append b₃ fieldName b₄).trans hfieldTrim⟩, htypeNe, hfieldNe⟩

/-- Among the fields of one name there is a first one. -/
theorem exists_field?_eq_some {d : TypeDefinition} {f : Field} (hf : f ∈ d.fields) :
    ∃ g, d.field? f.name = some g := by
  apply Option.ne_none_iff_exists'.mp
  rw [ne_eq, field?_eq_none_iff]
  exact fun hnone => hnone f hf rfl

theorem finds_pathOf {text : String} {d : TypeDefinition} {f g : Field}
    (hd : d ∈ (ofSdl text).definitions) (hkind : d.kind.hasFields = true) (hf : f ∈ d.fields)
    (hg : d.field? f.name = some g) (b₁ b₂ b₃ b₄ : Blanks) :
    Finds (ofSdl text) (pathOf b₁ d.name b₂ b₃ f.name b₄) (.ok g) := by
  have hfound : (ofSdl text).get? d.name = some d := get?_name_of_mem_definitions hd
  have hformed := Sdl.isWellFormed_of_mem_parse (get?_ofDefinitions_eq_some hfound).1
  have hnames := names_pathOf hformed.isName (hformed.fields f hf).1 b₁ b₂ b₃ b₄
  obtain ⟨hname, front, back, hfields, hfirst⟩ := field?_eq_some_iff.mp hg
  exact .field hnames (OrderedMap.get?_eq_some_iff.mp hfound) hkind hfields hname hfirst

/-- A path of any catalog has just the outcome that is derived for it. In the catalog of a schema the
name of a type that has fields and the name of any of these lead to the first field of that name,
whatever blanks stand around the names; so of all that is listed under the type a query can be
made. -/
theorem findField_eq_iff_finds :
    (∀ (c : Catalog) (path : String) (result : Except LookupError Field),
      c.findField path = result ↔ Finds c path result) ∧
    ∀ (text : String) (d : TypeDefinition) (f : Field), d ∈ (ofSdl text).definitions →
      d.kind.hasFields = true → f ∈ d.fields → ∃ front g back,
        d.fields = front ++ g :: back ∧ g.name = f.name ∧ (∀ h ∈ front, h.name ≠ f.name) ∧
          ∀ b₁ b₂ b₃ b₄ : Blanks,
            let path := pathOf b₁ d.name b₂ b₃ f.name b₄
            (ofSdl text).findField path = .ok g ∧ ∀ config values,
              (CommandLine.generateQuery config (ofSdl text) path values).value =
                .success (Query.generate config g (CommandLine.acceptedValues g values)) := by
  constructor
  · intro c path result
    constructor
    · rintro rfl
      exact finds_findField c path
    · exact fun h => h.findField_eq
  · intro text d f hd hkind hf
    obtain ⟨g, hg⟩ := exists_field?_eq_some hf
    obtain ⟨hname, front, back, hfields, hfirst⟩ := field?_eq_some_iff.mp hg
    refine ⟨front, g, back, hfields, hname, hfirst, fun b₁ b₂ b₃ b₄ => ?_⟩
    have hfield := (finds_pathOf hd hkind hf hg b₁ b₂ b₃ b₄).findField_eq
    exact ⟨hfield, fun config values =>
      (CommandLine.generateQuery_of_findField config hfield values).1⟩

/-- A type that is there twice, with a field that is there twice. -/
def repeatedSchema : String :=
  "type Query \x7b\n  user: Name\n\x7d\n" ++
    "type Query \x7b\n  me: User\n  user(id: ID): User\n  user: Text\n\x7d"

def repeatedField : Field :=
  { name := "user", typeName := "Text", isList := false, isNonNull := false, args := []
    description := none }

def repeatedType : TypeDefinition :=
  { TypeDefinition.declare "Query" .query none with
    fields :=
      [{ repeatedField with name := "me", typeName := "User" },
       { repeatedField with
          typeName := "User"
          args := [{ name := "id", typeName := "ID", defaultValue := none, isNonNull := false }] },
       repeatedField] }

theorem findField_eq_iff_finds_repeatedSchema :
    (repeatedType ∈ (ofSdl repeatedSchema).definitions ∧ repeatedType.kind.hasFields = true ∧
      repeatedField ∈ repeatedType.fields) ∧
    Finds (ofSdl repeatedSchema) " Query.user.id" (.error (.unknownField "Query" "user.id")) ∧
    ∃ front g back,
      repeatedType.fields = front ++ g :: back ∧ g.name = "user" ∧
        (∀ h ∈ front, h.name ≠ "user") ∧
        (ofSdl repeatedSchema).findField (" Query\t" ++ "." ++ " user") = .ok g := by
  have hd : repeatedType ∈ (ofSdl repeatedSchema).definitions := by decide +kernel
  have hf : repeatedField ∈ repeatedType.fields := by decide
  have hunknown : (ofSdl repeatedSchema).findField " Query.user.id" =
      .error (.unknownField "Query" "user.id") := by
    decide +kernel
  obtain ⟨front, g, back, hfields, hname, hfirst, hfind⟩ :=
    findField_eq_iff_finds.2 repeatedSchema repeatedType repeatedField hd rfl hf
  have hfield := (hfind ⟨" ", by decide⟩ ⟨"\t", by decide⟩ ⟨" ", by decide⟩ ⟨"", by decide⟩).1
  exact ⟨⟨hd, rfl, hf⟩, (findField_eq_iff_finds.1 _ _ _).mp hunknown, front, g, back, hfields, hname,
    hfirst, hfield⟩

end Catalog

end SchemaExplorer
