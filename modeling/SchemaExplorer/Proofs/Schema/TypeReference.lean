import SchemaExplorer.Proofs.Sdl.Reference

/-! # References as they are nested

A reference is a name, a list of what another one stands for, or one that is never null. However
deep it is nested, the bare name of its text is the name at its core, and its signature has the
outermost wrapping. -/

namespace SchemaExplorer

open Sdl

inductive TypeReference where
  | named (name : String) (isName : isName name.toList = true)
  | list (element : TypeReference)
  | nonNull (type : TypeReference)
deriving DecidableEq

namespace TypeReference

/-- The reference as a schema has it, as in `[Country!]!`. -/
def text : TypeReference → String
  | named name _ => name
  | list element => "[" ++ element.text ++ "]"
  | nonNull type => type.text ++ "!"

/-- The name that is wrapped in the reference. -/
def core : TypeReference → String
  | named name _ => name
  | list element => element.core
  | nonNull type => type.core

/-- A list, whether or not it may be null. -/
def isList : TypeReference → Bool
  | named _ _ => false
  | list _ => true
  | nonNull type => type.isList

theorem isName_core (t : TypeReference) : isName t.core.toList = true := by
  induction t with
  | named name h => exact h
  | list element ih => exact ih
  | nonNull type ih => exact ih

/-- Around the core there is nothing but wrappers, and brackets alone in front of it. -/
theorem exists_toList_text (t : TypeReference) :
    ∃ opening closing, t.text.toList = opening ++ (t.core.toList ++ closing) ∧
      (∀ c ∈ opening, c = '[') ∧ ∀ c ∈ closing, isWrapper c = true := by
  induction t with
  | named name h => exact ⟨[], [], by simp [text, core], by simp, by simp⟩
  | list element ih =>
    obtain ⟨opening, closing, htext, hopening, hclosing⟩ := ih
    exact ⟨'[' :: opening, closing ++ [']'], by simp [text, core, htext], by simpa using hopening,
      List.forall_mem_append.mpr ⟨hclosing, List.forall_mem_singleton.mpr rfl⟩⟩
  | nonNull type ih =>
    obtain ⟨opening, closing, htext, hopening, hclosing⟩ := ih
    exact ⟨opening, closing ++ ['!'], by simp [text, core, htext], hopening,
      List.forall_mem_append.mpr ⟨hclosing, List.forall_mem_singleton.mpr rfl⟩⟩

theorem bareTypeName_text (t : TypeReference) : bareTypeName t.text = t.core := by
  obtain ⟨opening, closing, htext, hopening, hclosing⟩ := t.exists_toList_text
  rw [bareTypeName_eq htext hopening (isCore_of_isName t.isName_core) hclosing,
    String.ofList_toList]

/-- A name is a reference to itself. -/
theorem bareTypeName_core (t : TypeReference) : bareTypeName t.core = t.core :=
  (named t.core t.isName_core).bareTypeName_text

/-! ### The outermost wrapping -/

def isNonNull : TypeReference → Bool
  | nonNull _ => true
  | _ => false

/-- The reference without its final `!`. -/
def nullable : TypeReference → TypeReference
  | nonNull type => type
  | t => t

/-- What is never null is not said to be so twice: no `!` stands behind another one. -/
def isProper : TypeReference → Bool
  | named _ _ => true
  | list element => element.isProper
  | nonNull type => !type.isNonNull && type.isProper

def signature (t : TypeReference) : Signature :=
  { typeName := t.core, isList := t.isList, isNonNull := t.isNonNull }

theorem isReferenceChar_of_mem_text (t : TypeReference) {c : Char} (hc : c ∈ t.text.toList) :
    isReferenceChar c = true := by
  obtain ⟨opening, closing, htext, hopening, hclosing⟩ := t.exists_toList_text
  rw [htext, List.mem_append, List.mem_append] at hc
  rcases hc with hc | hc | hc
  · rw [hopening c hc]
    decide
  · exact isReferenceChar_of_isNameChar (isNameChar_of_mem t.isName_core hc)
  · rw [isReferenceChar, hclosing c hc, Bool.or_true]

theorem isBlank_of_mem_text (t : TypeReference) {c : Char} (hc : c ∈ t.text.toList) :
    Text.isBlank c = false :=
  isBlank_of_isReferenceChar (t.isReferenceChar_of_mem_text hc)

theorem toList_text_ne_nil (t : TypeReference) : t.text.toList ≠ [] := by
  cases t with
  | named name h => exact isName_ne_nil h
  | list element => simp [text]
  | nonNull type => simp [text]

/-- A reference is read as a whole in front of anything that cannot continue it. -/
theorem referenceAt?_text_append (t : TypeReference) {rest : List Char}
    (hrest : rest.head?.all (!isReferenceChar ·) = true) :
    referenceAt? (t.text.toList ++ rest) = some (t.text.toList, rest) := by
  obtain ⟨opening, closing, htext, hopening, hclosing⟩ := t.exists_toList_text
  have hname := t.isName_core
  cases hcore : t.core.toList with
  | nil => simp [hcore, isName] at hname
  | cons c cs =>
    rw [hcore] at hname htext
    obtain ⟨hc, hcs⟩ := isName_cons.mp hname
    have htail : ∀ d ∈ cs ++ closing, isReferenceChar d = true := by
      intro d hd
      rcases List.mem_append.mp hd with hd | hd
      · exact isReferenceChar_of_isNameChar (hcs d hd)
      · rw [isReferenceChar, hclosing d hd, Bool.or_true]
    simpa [htext] using referenceAt?_append hopening hc htail hrest

/-- Only what is never null ends with `!`. -/
theorem getLast?_text_eq_bang (t : TypeReference) :
    (t.text.toList.getLast? == some '!') = t.isNonNull := by
  cases t with
  | named name h =>
    have hbang : '!' ∉ name.toList := not_mem_of_isName h (by decide)
    have hlast : name.toList.getLast? ≠ some '!' := fun hlast => hbang (List.mem_of_getLast? hlast)
    simpa [text, isNonNull] using hlast
  | list element => simp [text, isNonNull, List.getLast?_cons]
  | nonNull type => simp [text, isNonNull]

/-- Brackets stand at both ends of a list only, unless it is never null. -/
theorem brackets_text_eq (t : TypeReference) (h : t.isNonNull = false) :
    (t.text.toList.head? == some '[' && t.text.toList.getLast? == some ']') = t.isList := by
  cases t with
  | named name hname =>
    have hbracket : '[' ∉ name.toList := not_mem_of_isName hname (by decide)
    have hhead : name.toList.head? ≠ some '[' := fun hhead => hbracket (List.mem_of_head? hhead)
    simp [text, isList, hhead]
  | list element => simp [text, isList, List.getLast?_cons]
  | nonNull type => simp [isNonNull] at h

theorem toList_text_nullable (t : TypeReference) :
    t.nullable.text.toList = if t.isNonNull then t.text.toList.dropLast else t.text.toList := by
  cases t <;> simp [nullable, isNonNull, text]

theorem isNonNull_nullable {t : TypeReference} (h : t.isProper = true) :
    t.nullable.isNonNull = false := by
  cases t with
  | named name hname => rfl
  | list element => rfl
  | nonNull type =>
    simp only [isProper, Bool.and_eq_true, Bool.not_eq_true'] at h
    exact h.1

theorem isList_nullable (t : TypeReference) : t.nullable.isList = t.isList := by
  cases t <;> rfl

/-- A signature has the outermost wrapping of its reference. -/
theorem parse_text (t : TypeReference) (h : t.isProper = true) :
    Signature.parse t.text = t.signature := by
  have htrim : Text.trimChars t.text.toList = t.text.toList :=
    Text.trimChars_eq_self_of_no_blank fun c hc => t.isBlank_of_mem_text hc
  have hlist := t.nullable.brackets_text_eq (isNonNull_nullable h)
  rw [toList_text_nullable, isList_nullable] at hlist
  simp only [Signature.parse, bareTypeName_text, htrim, getLast?_text_eq_bang, signature, hlist]

/-! ### References between blanks -/

theorem parse_blanks_append (front back : Text.Blanks) (reference : String) :
    Signature.parse (front.text ++ reference ++ back.text) = Signature.parse reference := by
  have htrim := Text.trim_blanks_append front reference back
  simp only [Signature.parse, bareTypeName, ← Text.toList_trim, htrim]

theorem bareTypeName_blanks_append (front back : Text.Blanks) (t : TypeReference) :
    bareTypeName (front.text ++ t.text ++ back.text) = t.core := by
  rw [← Signature.typeName_parse, parse_blanks_append, Signature.typeName_parse,
    bareTypeName_text]

end TypeReference

end SchemaExplorer
