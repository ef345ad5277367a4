import SchemaExplorer.Proofs.Sdl.Name
import SchemaExplorer.Proofs.Text.Blank

/-! # References to types

What a signature writes is read as one reference, and taking that apart gives the signature again
when its name can be told apart from what is written around it. The name at the core of a reference
may have wrappers inside: a reader that is not strict keeps them. -/

namespace SchemaExplorer

open Text (isBlank isStripped trimChars stripChars dropEndWhile)
open Sdl

/-! ### The core of a reference -/

namespace Sdl

theorem isReferenceChar_of_isNameChar {c : Char} (h : isNameChar c = true) :
    isReferenceChar c = true := by
  simp [isReferenceChar, h]

theorem isBlank_of_isReferenceChar {c : Char} (h : isReferenceChar c = true) :
    isBlank c = false := by
  simp only [isReferenceChar, isWrapper, Bool.or_eq_true, beq_iff_eq] at h
  rcases h with h | (rfl | rfl) | rfl
  · exact isBlank_of_isNameChar h
  all_goals decide

/-- The start of a name and characters of references behind it, of which the last is no wrapper. A
name alone is a core. -/
def isCore : List Char → Bool
  | [] => false
  | c :: cs => isNameStart c && cs.all isReferenceChar && (c :: cs).getLast?.all (!isWrapper ·)

theorem isCore_cons {c : Char} {cs : List Char} :
    isCore (c :: cs) = true ↔ isNameStart c = true ∧ (∀ d ∈ cs, isReferenceChar d = true) ∧
      (c :: cs).getLast?.all (!isWrapper ·) = true := by
  simp [isCore, and_assoc]

theorem isCore_of_isName {cs : List Char} (h : isName cs = true) : isCore cs = true := by
  have hlast : cs.getLast?.all (!isWrapper ·) = true :=
    Text.all_getLast?_of_forall fun c hc => by simp [isWrapper_of_isNameChar (isNameChar_of_mem h hc)]
  cases cs with
  | nil => simp [isName] at h
  | cons c cs =>
    obtain ⟨hc, hcs⟩ := isName_cons.mp h
    exact isCore_cons.mpr ⟨hc, fun d hd => isReferenceChar_of_isNameChar (hcs d hd), hlast⟩

theorem isReferenceChar_of_mem_core {cs : List Char} (h : isCore cs = true) {c : Char}
    (hc : c ∈ cs) : isReferenceChar c = true := by
  cases cs with
  | nil => simp at hc
  | cons d cs =>
    obtain ⟨hd, hcs, -⟩ := isCore_cons.mp h
    rcases List.mem_cons.mp hc with rfl | hc
    · exact isReferenceChar_of_isNameChar (isNameChar_of_isNameStart hd)
    · exact hcs c hc

theorem isStripped_core {cs : List Char} (h : isCore cs = true) :
    Text.isStripped isWrapper cs = true := by
  cases cs with
  | nil => simp [isCore] at h
  | cons c cs =>
    obtain ⟨hc, -, hlast⟩ := isCore_cons.mp h
    simp [Text.isStripped, isWrapper_of_isNameChar (isNameChar_of_isNameStart hc), hlast]

theorem skipBlanks_append {blanks : List Char} (cs : List Char)
    (h : ∀ b ∈ blanks, isBlank b = true) : skipBlanks (blanks ++ cs) = skipBlanks cs :=
  List.dropWhile_append_of_pos h

theorem skipBlanks_cons_of_isBlank {c : Char} (cs : List Char) (h : isBlank c = true) :
    skipBlanks (c :: cs) = skipBlanks cs :=
  List.dropWhile_cons_of_pos h

@[simp] theorem skipBlanks_colon (cs : List Char) : skipBlanks (':' :: cs) = ':' :: cs := rfl

theorem skipBlanks_eq_self {cs : List Char} (h : cs.head?.all (!isBlank ·) = true) :
    skipBlanks cs = cs :=
  Text.dropWhile_eq_self_of_all_head? h

/-- Brackets that open, the start of a name and all that can follow it make a reference. -/
theorem referenceAt?_append {brackets tail rest : List Char} {c : Char}
    (hbrackets : ∀ b ∈ brackets, b = '[') (hc : isNameStart c = true)
    (htail : ∀ d ∈ tail, isReferenceChar d = true)
    (hrest : rest.head?.all (!isReferenceChar ·) = true) :
    referenceAt? (brackets ++ c :: (tail ++ rest)) = some (brackets ++ c :: tail, rest) := by
  have hb : ∀ b ∈ brackets, (b == '[') = true := by simpa using hbrackets
  have hcb : (c == '[') = false := by
    apply beq_false_of_ne
    rintro rfl
    exact absurd hc (by decide)
  simp [referenceAt?, List.dropWhile_append_of_pos hb, List.takeWhile_append_of_pos hb, hcb, hc,
    Text.takeWhile_append_eq htail hrest, Text.dropWhile_append_eq htail hrest]

end Sdl

/-- The wrappers around a core are dropped. -/
theorem bareTypeName_eq {reference : String} {brackets core closing : List Char}
    (htext : reference.toList = brackets ++ (core ++ closing))
    (hbrackets : ∀ b ∈ brackets, b = '[') (hcore : isCore core = true)
    (hclosing : ∀ c ∈ closing, isWrapper c = true) :
    bareTypeName reference = String.ofList core := by
  have hopening : ∀ b ∈ brackets, isWrapper b = true := fun b hb => by
    rw [hbrackets b hb]
    decide
  have hchars : ∀ c ∈ reference.toList, isReferenceChar c = true := fun c hc => by
    rw [htext, List.mem_append, List.mem_append] at hc
    rcases hc with hc | hc | hc
    · rw [isReferenceChar, hopening c hc, Bool.or_true]
    · exact isReferenceChar_of_mem_core hcore hc
    · rw [isReferenceChar, hclosing c hc, Bool.or_true]
  have htrim : Text.trimChars reference.toList = reference.toList :=
    Text.trimChars_eq_self_of_no_blank fun c hc => isBlank_of_isReferenceChar (hchars c hc)
  rw [bareTypeName, Text.strip, Text.toList_trim, htrim, htext,
    Text.stripChars_append_left _ hopening, Text.stripChars_append_right _ hclosing,
    Text.stripChars_eq_self_iff.mpr (isStripped_core hcore)]

/-! ### Signatures -/

namespace Signature

/-- The characters that stand around the core. -/
def opening (s : Signature) : List Char :=
  if s.isList then ['['] else []

def closing (s : Signature) : List Char :=
  (if s.isList then [']'] else []) ++ if s.isNonNull then ['!'] else []

theorem toList_text (s : Signature) :
    s.text.toList = s.opening ++ (s.typeName.toList ++ s.closing) := by
  rcases s with ⟨typeName, _ | _, _ | _⟩ <;> simp [text, opening, closing]

theorem isReferenceChar_of_mem_closing {s : Signature} {c : Char} (h : c ∈ s.closing) :
    isReferenceChar c = true ∧ isWrapper c = true := by
  rcases s with ⟨typeName, _ | _, _ | _⟩ <;> simp [closing] at h
  · subst h; decide
  · subst h; decide
  · rcases h with rfl | rfl <;> decide

theorem eq_of_mem_opening {s : Signature} {c : Char} (h : c ∈ s.opening) : c = '[' := by
  rcases s with ⟨typeName, _ | _, nonNull⟩ <;> simp_all [opening]

theorem isReferenceChar_of_mem_text {s : Signature} (h : isCore s.typeName.toList = true)
    {c : Char} (hc : c ∈ s.text.toList) : isReferenceChar c = true := by
  simp only [toList_text, List.mem_append] at hc
  rcases hc with hc | hc | hc
  · rw [eq_of_mem_opening hc]
    decide
  · exact isReferenceChar_of_mem_core h hc
  · exact (isReferenceChar_of_mem_closing hc).1

theorem isBlank_of_mem_text {s : Signature} (h : isCore s.typeName.toList = true) {c : Char}
    (hc : c ∈ s.text.toList) : isBlank c = false :=
  isBlank_of_isReferenceChar (isReferenceChar_of_mem_text h hc)

theorem toList_text_ne_nil {s : Signature} (h : isCore s.typeName.toList = true) :
    s.text.toList ≠ [] := by
  intro ht
  simp only [toList_text, List.append_eq_nil_iff] at ht
  rw [ht.2.1] at h
  simp [isCore] at h

theorem referenceAt?_text {s : Signature} (h : isCore s.typeName.toList = true)
    {rest : List Char} (hrest : rest.head?.all (!isReferenceChar ·) = true) :
    referenceAt? (s.text.toList ++ rest) = some (s.text.toList, rest) := by
  rw [toList_text]
  cases hn : s.typeName.toList with
  | nil => simp [hn, isCore] at h
  | cons c cs =>
    rw [hn] at h
    obtain ⟨hc, hcs, -⟩ := isCore_cons.mp h
    have htail : ∀ d ∈ cs ++ s.closing, isReferenceChar d = true := by
      intro d hd
      rcases List.mem_append.mp hd with hd | hd
      · exact hcs d hd
      · exact (isReferenceChar_of_mem_closing hd).1
    simpa using referenceAt?_append (fun b hb => eq_of_mem_opening hb) hc htail hrest

theorem skipBlanks_text_append {s : Signature} (h : isCore s.typeName.toList = true)
    (rest : List Char) : skipBlanks (s.text.toList ++ rest) = s.text.toList ++ rest := by
  apply skipBlanks_eq_self
  rw [List.head?_append_of_ne_nil _ (toList_text_ne_nil h)]
  exact Text.all_head?_of_forall fun c hc => by simp [isBlank_of_mem_text h hc]

/-! ### Names that are read back -/

/-- What trimming leaves of the name: brackets keep the blanks at both of its ends, and a final `!`
those behind it. -/
def trimmedName (s : Signature) : List Char :=
  if s.isList then s.typeName.toList
  else if s.isNonNull then s.typeName.toList.dropWhile isBlank
  else trimChars s.typeName.toList

theorem infix_trimmedName (s : Signature) : s.trimmedName <:+: s.typeName.toList := by
  rw [trimmedName]
  split
  · exact List.infix_rfl
  · split
    · exact (List.dropWhile_suffix isBlank).isInfix
    · exact Text.isInfix_stripChars isBlank _

theorem trimChars_toList_text (s : Signature) :
    trimChars s.text.toList = s.opening ++ (s.trimmedName ++ s.closing) := by
  have hbang : isBlank '!' = false := by decide
  have hbracket : isBlank '[' = false := by decide
  have hend : ∀ front : List Char, ∀ c, isBlank c = false →
      dropEndWhile isBlank (front ++ [c]) = front ++ [c] := fun front c hc =>
    Text.dropEndWhile_append_cons front [] hc
  rw [toList_text, trimChars, stripChars]
  rcases s with ⟨typeName, _ | _, _ | _⟩
  · simp [opening, closing, trimmedName, trimChars, stripChars]
  · simp [opening, closing, trimmedName, Text.dropWhile_append_cons _ [] hbang, hend _ _ hbang]
  · simpa [opening, closing, trimmedName, hbracket] using
      hend ('[' :: typeName.toList) ']' (by decide)
  · simpa [opening, closing, trimmedName, hbracket] using
      hend ('[' :: typeName.toList ++ [']']) '!' hbang

theorem toList_bareTypeName_text (s : Signature) :
    (bareTypeName s.text).toList = stripChars isWrapper s.trimmedName := by
  have hopening : ∀ c ∈ s.opening, isWrapper c = true := fun c hc => by
    rw [eq_of_mem_opening hc]
    decide
  have hclosing : ∀ c ∈ s.closing, isWrapper c = true := fun c hc =>
    (isReferenceChar_of_mem_closing hc).2
  rw [bareTypeName, Text.strip, String.toList_ofList, Text.toList_trim, trimChars_toList_text,
    Text.stripChars_append_left _ hopening, Text.stripChars_append_right _ hclosing]

/-- The name can be told apart from what is written around it: no wrapper is at its ends, and no
blank at an end which nothing is written at. -/
structure IsReadable (s : Signature) : Prop where
  isStripped : isStripped isWrapper s.typeName.toList = true
  front : s.isList = false → s.typeName.toList.head?.all (!isBlank ·) = true
  back : s.isList = false → s.isNonNull = false → s.typeName.toList.getLast?.all (!isBlank ·) = true

theorem trimmedName_eq_iff (s : Signature) :
    s.trimmedName = s.typeName.toList ↔
      (s.isList = false → s.typeName.toList.head?.all (!isBlank ·) = true) ∧
      (s.isList = false → s.isNonNull = false →
        s.typeName.toList.getLast?.all (!isBlank ·) = true) := by
  rcases s with ⟨typeName, _ | _, _ | _⟩
  · simp [trimmedName, trimChars, Text.stripChars_eq_self_iff, Text.isStripped]
  · simp only [trimmedName, Bool.false_eq_true, if_false, if_true,
      Text.dropWhile_eq_self_iff_all_head?]
    simp
  · simp [trimmedName]
  · simp [trimmedName]

theorem bareTypeName_text_eq_iff (s : Signature) :
    bareTypeName s.text = s.typeName ↔ s.IsReadable := by
  rw [← String.toList_inj, toList_bareTypeName_text,
    Text.stripChars_eq_iff_of_infix s.infix_trimmedName, trimmedName_eq_iff]
  constructor
  · rintro ⟨⟨hfront, hback⟩, hstripped⟩
    exact ⟨hstripped, hfront, hback⟩
  · rintro ⟨hstripped, hfront, hback⟩
    exact ⟨⟨hfront, hback⟩, hstripped⟩

theorem typeName_parse (reference : String) :
    (parse reference).typeName = bareTypeName reference := rfl

/-- A signature is taken from what it writes if its name is. -/
theorem parse_text_eq_iff (s : Signature) :
    parse s.text = s ↔ bareTypeName s.text = s.typeName := by
  constructor
  · intro h
    rw [← typeName_parse, h]
  · intro hname
    have hreadable := s.bareTypeName_text_eq_iff.mp hname
    have htrim : trimChars s.text.toList = s.text.toList := by
      rw [trimChars_toList_text, s.trimmedName_eq_iff.mpr ⟨hreadable.front, hreadable.back⟩,
        toList_text]
    have hstripped := hreadable.isStripped
    simp only [Text.isStripped, Bool.and_eq_true] at hstripped
    have hhead : s.typeName.toList.head? ≠ some '[' := fun h => by
      simp [h, isWrapper] at hstripped
    have hlast : s.typeName.toList.getLast? ≠ some '!' := fun h => by
      simp [h, isWrapper] at hstripped
    simp only [parse, hname, htrim]
    rcases s with ⟨typeName, _ | _, _ | _⟩
    · simp [text, hlast, hhead]
    · simp [text, hhead]
    · simp [text, List.getLast?_cons]
    · simp [text, List.getLast?_cons, List.dropLast_cons_of_ne_nil, List.dropLast_append_of_ne_nil]

theorem isReadable_of_isCore {s : Signature} (h : isCore s.typeName.toList = true) :
    s.IsReadable := by
  have hblank : ∀ c ∈ s.typeName.toList, (!isBlank c) = true := fun c hc => by
    rw [isBlank_of_isReferenceChar (isReferenceChar_of_mem_core h hc), Bool.not_false]
  exact ⟨isStripped_core h, fun _ => Text.all_head?_of_forall hblank,
    fun _ _ => Text.all_getLast?_of_forall hblank⟩

/-- Taking apart the reference that a signature writes gives the signature. -/
theorem parse_text {s : Signature} (h : isCore s.typeName.toList = true) : parse s.text = s :=
  s.parse_text_eq_iff.mpr (s.bareTypeName_text_eq_iff.mpr (isReadable_of_isCore h))

end Signature

end SchemaExplorer
