import Mathlib.Data.List.Flatten
import SchemaExplorer.Proofs.Query.Provided
import SchemaExplorer.Proofs.Sdl.Found

/-! # Which type names are bare

The name of a type is what a reference to it leaves when the wrappers at its ends are taken off. A
reader that is not strict takes references with wrappers inside, and these stay in the name. -/

namespace SchemaExplorer

/-- The type names of the fields, of their arguments and of the input fields. -/
def TypeDefinition.typeNames (d : TypeDefinition) : List String :=
  (d.fields.flatMap fun f => f.typeName :: f.args.map Argument.typeName) ++
    d.inputFields.map Argument.typeName

namespace Sdl

/-! ### References -/

/-- No wrapper is left in the name. -/
def IsBare (name : String) : Prop :=
  ∀ c ∈ name.toList, isWrapper c = false

instance (name : String) : Decidable (IsBare name) :=
  inferInstanceAs (Decidable (∀ c ∈ name.toList, isWrapper c = false))

/-- The reference without any of its wrappers. -/
def unwrapped (reference : String) : String :=
  String.ofList (reference.toList.filter (!isWrapper ·))

/-- A name with brackets in front of it and wrappers behind it. -/
def IsPlain (reference : String) : Prop :=
  ∃ brackets name closing, reference.toList = brackets ++ (name ++ closing) ∧
    (∀ b ∈ brackets, b = '[') ∧ isName name = true ∧ ∀ c ∈ closing, isWrapper c = true

theorem isBare_unwrapped (reference : String) : IsBare (unwrapped reference) := by
  intro c hc
  rw [unwrapped, String.toList_ofList, List.mem_filter] at hc
  simpa using hc.2

theorem isName_of_isCore {cs : List Char} (h : isCore cs = true)
    (hbare : ∀ c ∈ cs, isWrapper c = false) : isName cs = true := by
  cases cs with
  | nil => simp [isCore] at h
  | cons c cs =>
    obtain ⟨hc, hcs, -⟩ := isCore_cons.mp h
    refine isName_cons.mpr ⟨hc, fun d hd => ?_⟩
    have hd' := hcs d hd
    rwa [isReferenceChar, hbare d (List.mem_cons_of_mem c hd), Bool.or_false] at hd'

variable {reference : String}

theorem IsReference.isBare_iff (h : IsReference reference.toList) :
    IsBare (bareTypeName reference) ↔ IsPlain reference := by
  obtain ⟨brackets, core, closing, htext, hbrackets, hcore, hclosing, hbare⟩ :=
    h.exists_bareTypeName
  constructor
  · intro hname
    rw [hbare, IsBare, String.toList_ofList] at hname
    exact ⟨brackets, core, closing, htext, hbrackets, isName_of_isCore hcore hname, hclosing⟩
  · rintro ⟨brackets', name, closing', htext', hbrackets', hname, hclosing'⟩ c hc
    rw [bareTypeName_eq htext' hbrackets' (isCore_of_isName hname) hclosing',
      String.toList_ofList] at hc
    exact isWrapper_of_isNameChar (isNameChar_of_mem hname hc)

/-- To take the wrappers off the ends is to take them all off just when none is inside. -/
theorem IsReference.bareTypeName_eq_unwrapped_iff (h : IsReference reference.toList) :
    bareTypeName reference = unwrapped reference ↔ IsPlain reference := by
  rw [← h.isBare_iff]
  constructor
  · intro heq
    rw [heq]
    exact isBare_unwrapped reference
  · intro hname
    obtain ⟨brackets, core, closing, htext, hbrackets, -, hclosing, hbare⟩ := h.exists_bareTypeName
    rw [hbare, IsBare, String.toList_ofList] at hname
    have hfront : brackets.filter (!isWrapper ·) = [] :=
      List.filter_eq_nil_iff.mpr fun b hb => by
        rw [hbrackets b hb]
        decide
    have hback : closing.filter (!isWrapper ·) = [] :=
      List.filter_eq_nil_iff.mpr fun c hc => by simp [hclosing c hc]
    have hmiddle : core.filter (!isWrapper ·) = core :=
      List.filter_eq_self.mpr fun c hc => by simp [hname c hc]
    rw [hbare, unwrapped, htext, List.filter_append, List.filter_append, hfront, hback, hmiddle,
      List.nil_append, List.append_nil]

/-! ### References of a text -/

theorem Member.isReference_of_mem_declared {m p : Member} (h : p ∈ m.declared) :
    IsReference p.reference.toList := by
  rw [declared] at h
  split at h
  · simp at h
  · obtain ⟨piece, -, hread⟩ := List.mem_filterMap.mp h
    exact (isFoundIn_of_argument? hread).isReference

theorem Segment.isReference_of_mem_members {s : Segment} {m : Member} (h : m ∈ s.members) :
    IsReference m.reference.toList := by
  obtain ⟨cs, -, hread⟩ := List.mem_filterMap.mp h
  exact (isFoundIn_of_member? hread).isReference

/-- The references of the type's fields with those of their arguments, or of its input fields. -/
def Segment.references (s : Segment) : List String :=
  if s.kind.hasFields then
    s.members.flatMap fun m => m.reference :: m.declared.map Member.reference
  else if s.kind = .inputObject then s.members.map Member.reference
  else []

def references (text : String) : List String :=
  (keptSegments (segments (significantLines (Text.lines text)))).flatMap Segment.references

theorem Segment.typeNames_definition (s : Segment) :
    s.definition.typeNames = s.references.map bareTypeName := by
  have htype : ∀ reference, (signatureOf reference).typeName = bareTypeName reference :=
    fun reference => by rw [← parse_eq_signatureOf, Signature.typeName_parse]
  have hargument : ∀ m : Member, (argumentOf m).typeName = bareTypeName m.reference :=
    fun m => htype m.reference
  have hfield : ∀ m : Member, ((fieldOf m).typeName :: (fieldOf m).args.map Argument.typeName) =
      (m.reference :: m.declared.map Member.reference).map bareTypeName := fun m => by
    simp [fieldOf, argumentOf, htype, Function.comp_def]
  rw [TypeDefinition.typeNames, definition, references]
  by_cases hkind : s.kind.hasFields = true
  · have hinput : s.kind ≠ .inputObject := fun he => by simp [he, TypeKind.hasFields] at hkind
    simp [hkind, hinput, List.flatMap_map, List.map_flatMap, hfield]
  · simp only [if_neg hkind]
    by_cases hinput : s.kind = .inputObject <;> simp [hinput, hargument]

theorem typeNames_withoutDescriptions (d : TypeDefinition) :
    d.withoutDescriptions.typeNames = d.typeNames := by
  simp only [TypeDefinition.typeNames, TypeDefinition.withoutDescriptions, List.flatMap_map]
  rfl

theorem isReference_of_mem_references {text : String} (h : reference ∈ references text) :
    IsReference reference.toList := by
  obtain ⟨s, -, hs⟩ := List.mem_flatMap.mp h
  rw [Segment.references] at hs
  split at hs
  · obtain ⟨m, hm, hmem⟩ := List.mem_flatMap.mp hs
    rcases List.mem_cons.mp hmem with rfl | hmem
    · exact s.isReference_of_mem_members hm
    · obtain ⟨p, hp, rfl⟩ := List.mem_map.mp hmem
      exact m.isReference_of_mem_declared hp
  · split at hs
    · obtain ⟨m, hm, rfl⟩ := List.mem_map.mp hs
      exact s.isReference_of_mem_members hm
    · simp at hs

/-- The type names of a text are its references without the wrappers at their ends. They are all
bare just when each of the references has its wrappers at the ends only, and that is when taking
off those is taking off all. -/
theorem typeNames_parse (text : String) :
    (parse text).flatMap TypeDefinition.typeNames = (references text).map bareTypeName ∧
    ((∀ name ∈ (parse text).flatMap TypeDefinition.typeNames, IsBare name) ↔
      ∀ reference ∈ references text, IsPlain reference) ∧
    ∀ reference ∈ references text,
      (bareTypeName reference = unwrapped reference ↔ IsPlain reference) := by
  have hnames : (parse text).flatMap TypeDefinition.typeNames =
      (references text).map bareTypeName := by
    calc (parse text).flatMap TypeDefinition.typeNames
      _ = ((parse text).map TypeDefinition.withoutDescriptions).flatMap
            TypeDefinition.typeNames := by
        simp only [List.flatMap_map, typeNames_withoutDescriptions]
      _ = ((keptSegments (segments (significantLines (Text.lines text)))).map
            Segment.definition).flatMap TypeDefinition.typeNames := by
        rw [parse, Reader.map_finish_readLines]
        rfl
      _ = (references text).map bareTypeName := by
        simp only [List.flatMap_map, Segment.typeNames_definition, references, List.map_flatMap]
  refine ⟨hnames, ?_, fun reference h =>
    (isReference_of_mem_references h).bareTypeName_eq_unwrapped_iff⟩
  rw [hnames, List.forall_mem_map]
  exact forall₂_congr fun reference h => (isReference_of_mem_references h).isBare_iff

/-- Not every type name is bare: the wrapper stays that stands within a reference. -/
theorem not_forall_isBare :
    ¬ ∀ text, ∀ name ∈ (parse text).flatMap TypeDefinition.typeNames, IsBare name := by
  intro h
  have hname := h "type Query \x7b\n  user: User!Admin\n\x7d" "User!Admin" (by decide +kernel)
  have hmark : isWrapper '!' = false := hname '!' (by decide)
  exact absurd hmark (by decide)

end Sdl

end SchemaExplorer
