import Mathlib.Data.List.TakeWhile
import SchemaExplorer.Proofs.Text.Blank
import SchemaExplorer.Sdl.Pattern

/-! # Names

A name is a letter or an underscore, and letters, digits and underscores behind it. Its characters
are neither blanks nor wrappers, so that nothing of it is lost where those are dropped. -/

namespace SchemaExplorer.Sdl

open Text (isBlank)

/-! ### Characters of names -/

theorem isNameStart_iff {c : Char} :
    isNameStart c = true ↔ 0x41 ≤ c.toNat ∧ c.toNat ≤ 0x5A ∨ c.toNat = 0x5F ∨
      0x61 ≤ c.toNat ∧ c.toNat ≤ 0x7A := by
  have hunderscore : c = '_' ↔ c.toNat = 0x5F := by
    rw [← Char.toNat_inj]
    rfl
  have hletter : c.isAlpha = (decide (c.val ≥ 'A'.val ∧ c.val ≤ 'Z'.val) ||
      (decide (c.val ≥ 'a'.val) && decide (c.val ≤ 'z'.val))) := rfl
  simp only [isNameStart, hletter, Bool.or_eq_true, Bool.and_eq_true, decide_eq_true_eq, beq_iff_eq,
    hunderscore, ge_iff_le, UInt32.le_iff_toNat_le]
  change (0x41 ≤ c.toNat ∧ c.toNat ≤ 0x5A ∨ 0x61 ≤ c.toNat ∧ c.toNat ≤ 0x7A) ∨ c.toNat = 0x5F ↔ _
  omega

theorem isNameChar_eq_or {c : Char} : isNameChar c = (isNameStart c || c.isDigit) := by
  rw [isNameChar, isNameStart, Char.isAlphanum, Bool.or_right_comm]

theorem isNameChar_iff {c : Char} :
    isNameChar c = true ↔ 0x30 ≤ c.toNat ∧ c.toNat ≤ 0x39 ∨ 0x41 ≤ c.toNat ∧ c.toNat ≤ 0x5A ∨
      c.toNat = 0x5F ∨ 0x61 ≤ c.toNat ∧ c.toNat ≤ 0x7A := by
  rw [isNameChar_eq_or, Bool.or_eq_true, isNameStart_iff, Char.isDigit_iff_toNat]
  change _ ∨ 0x30 ≤ c.toNat ∧ c.toNat ≤ 0x39 ↔ _
  omega

theorem isNameChar_of_isNameStart {c : Char} (h : isNameStart c = true) : isNameChar c = true := by
  rw [isNameChar_eq_or, h, Bool.true_or]

theorem isNameStart_of_isDigit {c : Char} (h : c.isDigit = true) : isNameStart c = false := by
  have hdigit : 0x30 ≤ c.toNat ∧ c.toNat ≤ 0x39 := Char.isDigit_iff_toNat.mp h
  rw [← Bool.not_eq_true, isNameStart_iff]
  omega

theorem isBlank_of_isNameChar {c : Char} (h : isNameChar c = true) : isBlank c = false := by
  rw [isNameChar_iff] at h
  simp only [isBlank, Bool.or_eq_false_iff, Bool.and_eq_false_iff, decide_eq_false_iff_not,
    beq_eq_false_iff_ne]
  omega

theorem isNameChar_of_isBlank {c : Char} (h : isBlank c = true) : isNameChar c = false := by
  by_contra hname
  simp [isBlank_of_isNameChar (Bool.not_eq_false _ ▸ hname)] at h

theorem isNameStart_of_isBlank {c : Char} (h : isBlank c = true) : isNameStart c = false := by
  by_contra hstart
  have hname := isNameChar_of_isNameStart (Bool.not_eq_false _ ▸ hstart)
  simp [isNameChar_of_isBlank h] at hname

theorem isWrapper_of_isNameChar {c : Char} (h : isNameChar c = true) : isWrapper c = false := by
  have hne : ∀ d, isNameChar d = false → c ≠ d := by
    rintro d hd rfl
    simp [h] at hd
  simp [isWrapper, hne '[' (by decide), hne ']' (by decide), hne '!' (by decide)]

/-! ### Names as texts -/

/-- The characters of a name. -/
def isName : List Char → Bool
  | [] => false
  | c :: cs => isNameStart c && cs.all isNameChar

theorem isName_cons {c : Char} {cs : List Char} :
    isName (c :: cs) = true ↔ isNameStart c = true ∧ ∀ d ∈ cs, isNameChar d = true := by
  simp [isName]

theorem isName_ne_nil {cs : List Char} (h : isName cs = true) : cs ≠ [] := by
  rintro rfl
  simp [isName] at h

theorem any_head?_append_of_isName {name : List Char} (h : isName name = true) (rest : List Char) :
    (name ++ rest).head?.any isNameStart = true := by
  cases name with
  | nil => simp [isName] at h
  | cons c cs => simpa using (isName_cons.mp h).1

theorem isNameChar_of_mem {cs : List Char} (h : isName cs = true) {c : Char} (hc : c ∈ cs) :
    isNameChar c = true := by
  cases cs with
  | nil => simp at hc
  | cons d cs =>
    obtain ⟨hd, hcs⟩ := isName_cons.mp h
    rcases List.mem_cons.mp hc with rfl | hc
    · exact isNameChar_of_isNameStart hd
    · exact hcs c hc

theorem isBlank_of_mem_name {cs : List Char} (h : isName cs = true) {c : Char} (hc : c ∈ cs) :
    isBlank c = false :=
  isBlank_of_isNameChar (isNameChar_of_mem h hc)

theorem isStripped_of_isName {cs : List Char} (h : isName cs = true) :
    Text.isStripped isBlank cs = true :=
  Text.stripChars_eq_self_iff.mp
    (Text.trimChars_eq_self_of_no_blank fun _ hc => isBlank_of_mem_name h hc)

/-- A character that is in no name is not in this one. -/
theorem not_mem_of_isName {cs : List Char} (h : isName cs = true) {c : Char}
    (hc : isNameChar c = false) : c ∉ cs := by
  intro hmem
  simp [isNameChar_of_mem h hmem] at hc

/-- A name is read as a whole in front of anything that cannot continue it. -/
theorem nameAt?_append {name rest : List Char} (hname : isName name = true)
    (hrest : rest.head?.all (!isNameChar ·) = true) :
    nameAt? (name ++ rest) = some (name, rest) := by
  cases name with
  | nil => simp [isName] at hname
  | cons c cs =>
    obtain ⟨hc, hcs⟩ := isName_cons.mp hname
    rw [List.cons_append, nameAt?, if_pos hc, Text.takeWhile_append_eq hcs hrest,
      Text.dropWhile_append_eq hcs hrest]

theorem eq_append_of_nameAt? {cs name rest : List Char} (h : nameAt? cs = some (name, rest)) :
    cs = name ++ rest := by
  cases cs with
  | nil => simp [nameAt?] at h
  | cons c cs =>
    rw [nameAt?] at h
    split at h
    · obtain ⟨rfl, rfl⟩ := Prod.mk.inj (Option.some.inj h)
      simp
    · simp at h

theorem isName_of_nameAt? {cs name rest : List Char} (h : nameAt? cs = some (name, rest)) :
    isName name = true := by
  cases cs with
  | nil => simp [nameAt?] at h
  | cons c cs =>
    rw [nameAt?] at h
    split at h
    · next hc =>
      obtain ⟨rfl, -⟩ := Prod.mk.inj (Option.some.inj h)
      exact isName_cons.mpr ⟨hc, fun d hd => List.mem_takeWhile_imp hd⟩
    · simp at h

theorem after?_eq_some_iff {c : Char} {cs rest : List Char} :
    after? c cs = some rest ↔ cs = c :: rest := by
  cases cs with
  | nil => simp [after?]
  | cons d cs => by_cases hd : d = c <;> simp [after?, hd]

end SchemaExplorer.Sdl
