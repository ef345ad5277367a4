import Mathlib.Data.Option.Basic
import SchemaExplorer.Json.Reader
import SchemaExplorer.Json.Writer

/-! # Strings in a text

Every character is written so that reading gives its code point back, and the code points of
characters write just these: none of them is a surrogate. A string is read whatever follows its
closing quote. -/

namespace SchemaExplorer.Json

/-! ### Code points -/

theorem number?_digitChars : ∀ n < 0x20,
    Text.number? 16 ['0', '0', Nat.digitChar (n / 16), Nat.digitChar (n % 16)] = some n := by
  decide +kernel

theorem codePointsAt?_self {c : Char} (cs : List Char) (hquote : c ≠ '"') (hslash : c ≠ '\\')
    (hc : 0x20 ≤ c.toNat) :
    codePointsAt? (c :: cs) = (codePointsAt? cs).map fun (ns, rest) => (c.toNat :: ns, rest) := by
  cases h : codePointsAt? cs <;> simp [codePointsAt?, guard, hslash, hc, h]

theorem codePointsAt?_escape {c e : Char} (cs : List Char) (he : e ≠ 'u')
    (hc : escape? e = some c) :
    codePointsAt? ('\\' :: e :: cs) =
      (codePointsAt? cs).map fun (ns, rest) => (c.toNat :: ns, rest) := by
  cases h : codePointsAt? cs <;> simp [codePointsAt?, he, hc, h]

/-- A character has a letter behind a backslash, or its number there, or stands for itself. -/
theorem codePointsAt?_writeChar (c : Char) (cs : List Char) :
    codePointsAt? (writeChar c ++ cs) =
      (codePointsAt? cs).map fun (ns, rest) => (c.toNat :: ns, rest) := by
  by_cases hletter : c ∈ ['"', '\\', '\x08', '\x0c', '\n', '\r', '\t']
  · simp only [List.mem_cons, List.not_mem_nil, or_false] at hletter
    rcases hletter with rfl | rfl | rfl | rfl | rfl | rfl | rfl
    all_goals exact codePointsAt?_escape cs (by decide) rfl
  · simp only [List.mem_cons, List.not_mem_nil, or_false, not_or] at hletter
    by_cases hcontrol : c.toNat < 0x20
    · have hdigits := number?_digitChars c.toNat hcontrol
      cases h : codePointsAt? cs <;>
        simp [writeChar, hletter, hcontrol, codePointsAt?, hdigits, h]
    · have hself : writeChar c = [c] := by simp [writeChar, hletter, hcontrol]
      rw [hself, List.singleton_append]
      exact codePointsAt?_self cs hletter.1 hletter.2.1 (by omega)

theorem codePointsAt?_flatMap (cs rest : List Char) :
    codePointsAt? (cs.flatMap writeChar ++ '"' :: rest) = some (cs.map Char.toNat, rest) := by
  induction cs with
  | nil => rfl
  | cons c cs ih =>
    rw [List.flatMap_cons, List.append_assoc, codePointsAt?_writeChar, ih]
    rfl

/-! ### Characters -/

theorem not_surrogate (c : Char) :
    isHighSurrogate c.toNat = false ∧ isLowSurrogate c.toNat = false := by
  have hvalid : c.toNat < 0xD800 ∨ 0xDFFF < c.toNat ∧ c.toNat < 0x110000 := c.valid
  simp only [isHighSurrogate, isLowSurrogate, Bool.and_eq_false_iff, decide_eq_false_iff_not]
  omega

theorem charsOf?_map_toNat (cs : List Char) : charsOf? (cs.map Char.toNat) = some cs := by
  induction cs with
  | nil => rfl
  | cons c cs ih =>
    obtain ⟨hhigh, hlow⟩ := not_surrogate c
    rw [List.map_cons, charsOf?.eq_def]
    simp [hhigh, hlow, ih]

/-! ### Strings -/

/-- A string is read behind its opening quote, be it one that stands for no text. -/
theorem exists_stringAt?_writeString (s : Option String) :
    ∃ body, writeString s = '"' :: body ∧
      ∀ rest, stringAt? (body ++ rest) = some (s, rest) := by
  cases s with
  | none => exact ⟨_, rfl, fun rest => rfl⟩
  | some s =>
    refine ⟨s.toList.flatMap writeChar ++ ['"'], rfl, fun rest => ?_⟩
    rw [List.append_assoc, List.singleton_append, stringAt?, codePointsAt?_flatMap]
    simp [charsOf?_map_toNat]

end SchemaExplorer.Json
