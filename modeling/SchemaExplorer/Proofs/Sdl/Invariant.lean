import SchemaExplorer.Proofs.Sdl.Found
import SchemaExplorer.Proofs.Sdl.Reader

/-! # What holds of every type that is read

A type comes from an introduction and takes one member after the other. What holds of it at first
and is kept by each member holds of all types of every text. -/

namespace SchemaExplorer

open Text (isBlank)
open Sdl

namespace Sdl

/-! ### Types, member by member -/

section

variable {P : TypeDefinition → Prop}

/-- A line keeps what holds of all types, if its introduction and its member do. -/
theorem Reader.forall_mem_finish_readLine {r : Reader} {line : String}
    (hintro : ∀ i description, lineOf line = .intro i →
      P (Reader.introduced i (Text.trimChars line.toList) description))
    (hmember : ∀ d m description, P d → lineOf line = .other →
      member? (Text.trimChars line.toList) = some m → P (addMember d m description))
    (h : ∀ d ∈ r.finish, P d) : ∀ d ∈ (r.readLine line).finish, P d := by
  cases hline : lineOf line with
  | ignored => rwa [readLine_of_ignored hline]
  | description text =>
    rw [readLine_of_description hline]
    exact h
  | intro i =>
    have hsettled : ∀ d ∈ r.settled, P d := by
      intro d hd
      apply h
      cases hp : r.place <;> simp_all [settled, finish]
    rw [readLine_of_intro hline, finish_startType]
    intro d hd
    rcases List.mem_append.mp hd with hd | hd
    · exact hsettled d hd
    · rw [List.mem_singleton.mp hd]
      exact hintro i _ hline
  | other =>
    rw [readLine_of_other hline]
    rcases readOther_cases r (Text.trimChars line.toList) with hr | ⟨d, hp, hr⟩ | hr | ⟨d, m, hp, hm, hr⟩
    · rwa [hr]
    · rw [hr]
      simpa [finish, hp, Place.type?] using h
    · rwa [hr, finish_closeType]
    · have hd : P (addMember d m r.description) :=
        hmember d m _ (h d (by simp [finish, hp, Place.type?])) hline hm
      rw [hr]
      intro e he
      simp only [finish, Place.type?, Option.toList_some, List.mem_append, List.mem_singleton] at he
      rcases he with he | rfl
      · exact h e (by simp [finish, he])
      · exact hd

/-- What holds of a type when it is introduced, and is kept by each member it gets, holds of all
types that are read from the lines. -/
theorem forall_mem_finish_readLines {lines : List String}
    (hintro : ∀ line ∈ lines, ∀ i description, lineOf line = .intro i →
      P (Reader.introduced i (Text.trimChars line.toList) description))
    (hmember : ∀ line ∈ lines, ∀ d m description, P d → lineOf line = .other →
      member? (Text.trimChars line.toList) = some m → P (addMember d m description)) :
    ∀ d ∈ (Reader.start.readLines lines).finish, P d := by
  have hread : ∀ r : Reader, (∀ d ∈ r.finish, P d) → ∀ d ∈ (r.readLines lines).finish, P d := by
    induction lines with
    | nil => exact fun r h => h
    | cons line lines ih =>
      intro r h
      apply ih (fun l hl => hintro l (List.mem_cons_of_mem _ hl))
        (fun l hl => hmember l (List.mem_cons_of_mem _ hl))
      exact r.forall_mem_finish_readLine (hintro line List.mem_cons_self)
        (hmember line List.mem_cons_self) h
  exact hread Reader.start (by simp [Reader.start, Reader.finish, Place.type?])

end

/-! ### Introductions -/

theorem isName_of_intro? {cs : List Char} {i : Intro} (h : intro? cs = some i) :
    isName i.name.toList = true := by
  obtain ⟨back, -, hat⟩ := exists_suffix_of_firstMatch? h
  obtain ⟨rest, name, behind, -, -, hname, hi⟩ := introAt?_eq_some_iff.mp hat
  rw [hi]
  simpa using isName_of_nameAt? hname

theorem isPossibleType_of_mem {cs : List Char} {t : String} (h : t ∈ Reader.possibleTypes cs) :
    Text.trim t = t ∧ t ≠ "" ∧ '|' ∉ t.toList := by
  unfold Reader.possibleTypes at h
  split at h
  · simp at h
  · next front members _ =>
    obtain ⟨piece, hpiece, hread⟩ := List.mem_filterMap.mp h
    obtain ⟨rfl, hne⟩ := Text.nonBlank?_eq_some_iff.mp hread
    have hbar : '|' ∉ piece := Text.not_mem_of_mem_splitChars hpiece
    refine ⟨Text.trim_trim _, hne, fun hmem => hbar ?_⟩
    rw [Text.toList_trim, String.toList_ofList] at hmem
    exact (Text.isInfix_stripChars isBlank piece).subset hmem

end Sdl

/-- A type is a root just when it has the name of one, and is never a wrapper. -/
theorem TypeKind.classify_eq_typeKind_iff (keyword typeName : String) (kind : OperationKind) :
    TypeKind.classify keyword typeName = kind.typeKind ↔ typeName = kind.rootTypeName := by
  have hkeyword : TypeKind.ofKeyword keyword ≠ kind.typeKind := by
    unfold TypeKind.ofKeyword
    cases kind <;> repeat' split
    all_goals simp [OperationKind.typeKind]
  unfold TypeKind.classify
  cases kind <;> repeat' split
  all_goals simp_all [OperationKind.typeKind, OperationKind.rootTypeName]

theorem TypeKind.classify_ne_wrapper (keyword typeName : String) :
    TypeKind.classify keyword typeName ≠ .list ∧ TypeKind.classify keyword typeName ≠ .nonNull := by
  unfold TypeKind.classify TypeKind.ofKeyword
  repeat' split
  all_goals simp

/-! ### Types that are well formed -/

/-- The kind of the type agrees with its name, it has only the members that suit its kind, and
all it is made of has the shape that it should have. -/
structure TypeDefinition.IsWellFormed (d : TypeDefinition) : Prop where
  isName : isName d.name.toList = true
  kind_ne_list : d.kind ≠ .list
  kind_ne_nonNull : d.kind ≠ .nonNull
  kind_eq_typeKind_iff : ∀ kind : OperationKind, d.kind = kind.typeKind ↔ d.name = kind.rootTypeName
  hasFields : d.fields ≠ [] → d.kind.hasFields = true
  isInputObject : d.inputFields ≠ [] → d.kind = .inputObject
  isUnion : d.possibleTypes ≠ [] → d.kind = .union
  enumValues_eq : d.enumValues = []
  ofType_eq : d.ofType = none
  fields : ∀ f ∈ d.fields, f.IsNamed
  inputFields : ∀ a ∈ d.inputFields, a.IsNamed ∧ ∀ v ∈ a.defaultValue, IsDefault (· == '\n') v
  possibleTypes : ∀ t ∈ d.possibleTypes, Text.trim t = t ∧ t ≠ "" ∧ '|' ∉ t.toList

namespace Sdl

theorem isWellFormed_introduced {i : Intro} (h : isName i.name.toList = true) (cs : List Char)
    (description : Option String) : (Reader.introduced i cs description).IsWellFormed := by
  obtain ⟨hlist, hnonNull⟩ := TypeKind.classify_ne_wrapper i.keyword i.name
  refine ⟨h, hlist, hnonNull, TypeKind.classify_eq_typeKind_iff i.keyword i.name,
    fun hne => absurd rfl hne, fun hne => absurd rfl hne, ?_, rfl, rfl, ?_, ?_, ?_⟩
  · intro hne
    by_contra hkind
    simp only [Reader.introduced, TypeDefinition.declare] at hkind hne
    rw [if_neg hkind] at hne
    exact hne rfl
  · simp [Reader.introduced, TypeDefinition.declare]
  · simp [Reader.introduced, TypeDefinition.declare]
  · intro t ht
    simp only [Reader.introduced] at ht
    split at ht
    · exact isPossibleType_of_mem ht
    · simp at ht

theorem isWellFormed_addMember {d : TypeDefinition} {m : Member} {cs : List Char}
    (h : d.IsWellFormed) (hm : member? cs = some m) (description : Option String) :
    (addMember d m description).IsWellFormed := by
  have hfound := isFoundIn_of_member? hm
  rw [addMember]
  split
  · next hkind =>
    refine { h with hasFields := fun _ => hkind, fields := fun f hf => ?_ }
    rcases List.mem_append.mp hf with hf | hf
    · exact h.fields f hf
    · rw [List.mem_singleton.mp hf]
      exact hfound.isNamed_field description
  · split
    · next hkind =>
      refine { h with isInputObject := fun _ => hkind, inputFields := fun a ha => ?_ }
      rcases List.mem_append.mp ha with ha | ha
      · exact h.inputFields a ha
      · rw [List.mem_singleton.mp ha]
        exact ⟨hfound.isNamed_argument, fun v hv => (hfound.defaultValue v hv).1⟩
    · exact h

/-- Whatever lines are read, the types are well formed. -/
theorem isWellFormed_of_mem_finish {lines : List String} {d : TypeDefinition}
    (hd : d ∈ (Reader.start.readLines lines).finish) : d.IsWellFormed :=
  forall_mem_finish_readLines
    (fun _ _ _ description hi =>
      isWellFormed_introduced (isName_of_intro? (intro?_of_lineOf hi)) _ description)
    (fun _ _ _ _ description h _ hm => isWellFormed_addMember h hm description) d hd

theorem isWellFormed_of_mem_parse {text : String} {d : TypeDefinition} (hd : d ∈ parse text) :
    d.IsWellFormed :=
  isWellFormed_of_mem_finish hd

end Sdl

/-! ### Names -/

/-- The field and all of its arguments have names. -/
def Field.HasNames (f : Field) : Prop :=
  isName f.name.toList = true ∧ ∀ a ∈ f.args, isName a.name.toList = true

theorem Field.IsNamed.hasNames {f : Field} (h : f.IsNamed) : f.HasNames :=
  ⟨h.1, fun a ha => (h.2.2 a ha).1.1⟩

/-- Whatever text is read, fields and their arguments have names. -/
theorem Sdl.hasNames_of_mem_parse {text : String} {d : TypeDefinition} (hd : d ∈ parse text)
    {f : Field} (hf : f ∈ d.fields) : f.HasNames :=
  ((isWellFormed_of_mem_parse hd).fields f hf).hasNames

end SchemaExplorer
