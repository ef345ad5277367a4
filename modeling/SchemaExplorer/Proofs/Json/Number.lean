import Mathlib.Data.List.TakeWhile
import SchemaExplorer.Json.Reader
import SchemaExplorer.Proofs.Text.Blank

/-! # Numbers in a text

The number at the front of a text is what the text loses when it is read. It is the same whatever
follows it, as long as that cannot continue a number. -/

namespace SchemaExplorer.Json

/-! ### What is read is what was there -/

theorem digitsAt?_eq_some_iff {cs digits rest : List Char} :
    digitsAt? cs = some (digits, rest) ↔
      cs = digits ++ rest ∧ digits ≠ [] ∧ (∀ d ∈ digits, d.isDigit = true) ∧
        rest.head?.all (!Char.isDigit ·) = true := by
  constructor
  · intro h
    rw [digitsAt?] at h
    split at h
    · simp at h
    · next hne =>
      obtain ⟨rfl, rfl⟩ := Prod.mk.inj (Option.some.inj h)
      exact ⟨List.takeWhile_append_dropWhile.symm, hne, fun d hd => List.mem_takeWhile_imp hd,
        Text.all_head?_dropWhile cs⟩
  · rintro ⟨rfl, hne, hdigits, hrest⟩
    rw [digitsAt?, Text.takeWhile_append_eq hdigits hrest, Text.dropWhile_append_eq hdigits hrest]
    cases digits with
    | nil => exact absurd rfl hne
    | cons d digits => rfl

theorem eq_append_of_digitsAt? {cs digits rest : List Char}
    (h : digitsAt? cs = some (digits, rest)) : cs = digits ++ rest :=
  (digitsAt?_eq_some_iff.mp h).1

theorem eq_append_of_integerAt? {cs integer rest : List Char}
    (h : integerAt? cs = some (integer, rest)) : cs = integer ++ rest := by
  unfold integerAt? at h
  split at h
  · obtain ⟨rfl, rfl⟩ := Prod.mk.inj (Option.some.inj h)
    rfl
  · exact eq_append_of_digitsAt? h

theorem eq_append_of_fractionAt? {cs fraction rest : List Char}
    (h : fractionAt? cs = some (fraction, rest)) : cs = fraction ++ rest := by
  unfold fractionAt? at h
  split at h
  · obtain ⟨⟨digits, rest'⟩, hdigits, heq⟩ := Option.map_eq_some_iff.mp h
    obtain ⟨rfl, rfl⟩ := Prod.mk.inj heq
    rw [eq_append_of_digitsAt? hdigits]
    rfl
  · obtain ⟨rfl, rfl⟩ := Prod.mk.inj (Option.some.inj h)
    rfl

theorem eq_append_of_exponentAt? {cs exponent rest : List Char}
    (h : exponentAt? cs = some (exponent, rest)) : cs = exponent ++ rest := by
  unfold exponentAt? at h
  split at h
  · split at h
    · split at h
      all_goals
        obtain ⟨⟨digits, rest'⟩, hdigits, heq⟩ := Option.map_eq_some_iff.mp h
        obtain ⟨rfl, rfl⟩ := Prod.mk.inj heq
        rw [eq_append_of_digitsAt? hdigits]
        rfl
    · obtain ⟨rfl, rfl⟩ := Prod.mk.inj (Option.some.inj h)
      rfl
  · obtain ⟨rfl, rfl⟩ := Prod.mk.inj (Option.some.inj h)
    rfl

theorem eq_append_of_minusAt (cs : List Char) : cs = (minusAt cs).1 ++ (minusAt cs).2 := by
  unfold minusAt
  split <;> rfl

theorem numberAt?_eq_some_iff {cs rest : List Char} {text : String} :
    numberAt? cs = some (text, rest) ↔
      ∃ integer cs₁ fraction cs₂ exponent, integerAt? (minusAt cs).2 = some (integer, cs₁) ∧
        fractionAt? cs₁ = some (fraction, cs₂) ∧ exponentAt? cs₂ = some (exponent, rest) ∧
        text = String.ofList ((minusAt cs).1 ++ integer ++ fraction ++ exponent) := by
  simp only [numberAt?, Option.bind_eq_bind, Option.bind_eq_some_iff, Prod.exists,
    Option.some.injEq, Prod.mk.injEq]
  constructor
  · rintro ⟨integer, cs₁, hinteger, fraction, cs₂, hfraction, exponent, cs₃, hexponent, rfl, rfl⟩
    exact ⟨integer, cs₁, fraction, cs₂, exponent, hinteger, hfraction, hexponent, rfl⟩
  · rintro ⟨integer, cs₁, fraction, cs₂, exponent, hinteger, hfraction, hexponent, rfl⟩
    exact ⟨integer, cs₁, hinteger, fraction, cs₂, hfraction, exponent, rest, hexponent, rfl, rfl⟩

theorem eq_append_of_numberAt? {cs rest : List Char} {text : String}
    (h : numberAt? cs = some (text, rest)) : cs = text.toList ++ rest := by
  obtain ⟨integer, cs₁, fraction, cs₂, exponent, hinteger, hfraction, hexponent, rfl⟩ :=
    numberAt?_eq_some_iff.mp h
  calc cs = (minusAt cs).1 ++ (minusAt cs).2 := eq_append_of_minusAt cs
    _ = (minusAt cs).1 ++ (integer ++ (fraction ++ (exponent ++ rest))) := by
      rw [← eq_append_of_exponentAt? hexponent, ← eq_append_of_fractionAt? hfraction,
        ← eq_append_of_integerAt? hinteger]
    _ = (String.ofList ((minusAt cs).1 ++ integer ++ fraction ++ exponent)).toList ++ rest := by
      simp

theorem numberAt?_nil : numberAt? [] = none := rfl

theorem eq_or_isDigit_of_numberAt? {c : Char} {cs rest : List Char} {text : String}
    (h : numberAt? (c :: cs) = some (text, rest)) : c = '-' ∨ c.isDigit = true := by
  by_contra hc
  simp only [not_or, Bool.not_eq_true] at hc
  have hzero : c ≠ '0' := by
    rintro rfl
    simp at hc
  simp [numberAt?, minusAt, integerAt?, digitsAt?, hc, hzero] at h

/-! ### What follows is left alone -/

/-- A character that can continue a number. -/
def isNumberChar (c : Char) : Bool :=
  c.isDigit || c == '.' || c == 'e' || c == 'E'

variable {tail : List Char}

theorem digitsAt?_append {cs digits rest : List Char} (h : digitsAt? cs = some (digits, rest))
    (htail : tail.head?.all (!isNumberChar ·) = true) :
    digitsAt? (cs ++ tail) = some (digits, rest ++ tail) := by
  obtain ⟨rfl, hne, hdigits, hrest⟩ := digitsAt?_eq_some_iff.mp h
  refine digitsAt?_eq_some_iff.mpr ⟨by simp, hne, hdigits, ?_⟩
  cases rest with
  | nil => cases tail <;> simp_all [isNumberChar]
  | cons c rest => exact hrest

theorem integerAt?_append {cs integer rest : List Char}
    (h : integerAt? cs = some (integer, rest)) (htail : tail.head?.all (!isNumberChar ·) = true) :
    integerAt? (cs ++ tail) = some (integer, rest ++ tail) := by
  cases cs with
  | nil => simp [integerAt?, digitsAt?] at h
  | cons c cs =>
    by_cases hc : c = '0'
    · subst hc
      simp_all [integerAt?]
    · have hdigits : ∀ cs, integerAt? (c :: cs) = digitsAt? (c :: cs) := fun cs => by
        simp [integerAt?, hc]
      rw [hdigits] at h
      rw [List.cons_append, hdigits]
      exact digitsAt?_append h htail

theorem fractionAt?_append {cs fraction rest : List Char}
    (h : fractionAt? cs = some (fraction, rest)) (htail : tail.head?.all (!isNumberChar ·) = true) :
    fractionAt? (cs ++ tail) = some (fraction, rest ++ tail) := by
  have hother : ∀ cs : List Char, cs.head? ≠ some '.' → fractionAt? cs = some ([], cs) := by
    intro cs hcs
    unfold fractionAt?
    split
    · simp at hcs
    · rfl
  cases cs with
  | nil =>
    have htail' : tail.head? ≠ some '.' := fun e => by simp [e, isNumberChar] at htail
    rw [hother [] (by simp)] at h
    obtain ⟨rfl, rfl⟩ := Prod.mk.inj (Option.some.inj h)
    simpa using hother tail htail'
  | cons c cs =>
    by_cases hc : c = '.'
    · subst hc
      obtain ⟨⟨digits, rest'⟩, hdigits, heq⟩ := Option.map_eq_some_iff.mp h
      obtain ⟨rfl, rfl⟩ := Prod.mk.inj heq
      simp [fractionAt?, digitsAt?_append hdigits htail]
    · rw [hother _ (by simpa using hc)] at h
      obtain ⟨rfl, rfl⟩ := Prod.mk.inj (Option.some.inj h)
      exact hother _ (by simpa using hc)

/-- The sign of an exponent that has something behind its letter is settled by that. -/
theorem exists_exponentAt?_eq {e c : Char} (cs : List Char) (he : e = 'e' ∨ e = 'E') :
    ∃ sign back, ∀ tail, exponentAt? (e :: c :: (cs ++ tail)) =
      (digitsAt? (back ++ tail)).map fun (digits, rest) => (e :: (sign ++ digits), rest) := by
  by_cases hplus : c = '+'
  · exact ⟨['+'], cs, fun tail => by simp [exponentAt?, he, hplus]⟩
  · by_cases hminus : c = '-'
    · exact ⟨['-'], cs, fun tail => by simp [exponentAt?, he, hminus]⟩
    · exact ⟨[], c :: cs, fun tail => by simp [exponentAt?, he, hplus, hminus]⟩

theorem exponentAt?_append {cs exponent rest : List Char}
    (h : exponentAt? cs = some (exponent, rest)) (htail : tail.head?.all (!isNumberChar ·) = true) :
    exponentAt? (cs ++ tail) = some (exponent, rest ++ tail) := by
  cases cs with
  | nil =>
    obtain ⟨rfl, rfl⟩ := Prod.mk.inj (Option.some.inj h)
    cases tail with
    | nil => rfl
    | cons c tail => simp_all [exponentAt?, isNumberChar]
  | cons e cs =>
    by_cases he : e = 'e' ∨ e = 'E'
    · cases cs with
      | nil => simp [exponentAt?, he, digitsAt?] at h
      | cons c cs =>
        obtain ⟨sign, back, hread⟩ := exists_exponentAt?_eq (c := c) cs he
        have hnil := hread []
        rw [List.append_nil, List.append_nil, h] at hnil
        obtain ⟨⟨digits, rest'⟩, hdigits, heq⟩ := Option.map_eq_some_iff.mp hnil.symm
        obtain ⟨rfl, rfl⟩ := Prod.mk.inj heq
        rw [List.cons_append, List.cons_append, hread tail, digitsAt?_append hdigits htail]
        rfl
    · have hother : ∀ cs, exponentAt? (e :: cs) = some ([], e :: cs) := fun cs => by
        simp [exponentAt?, he]
      rw [hother] at h
      obtain ⟨rfl, rfl⟩ := Prod.mk.inj (Option.some.inj h)
      exact hother (cs ++ tail)

theorem numberAt?_append {cs rest : List Char} {text : String}
    (h : numberAt? cs = some (text, rest)) (htail : tail.head?.all (!isNumberChar ·) = true) :
    numberAt? (cs ++ tail) = some (text, rest ++ tail) := by
  obtain ⟨integer, cs₁, fraction, cs₂, exponent, hinteger, hfraction, hexponent, rfl⟩ :=
    numberAt?_eq_some_iff.mp h
  have hminus : minusAt (cs ++ tail) = ((minusAt cs).1, (minusAt cs).2 ++ tail) := by
    cases cs with
    | nil => simp [minusAt, integerAt?, digitsAt?] at hinteger
    | cons c cs => by_cases hc : c = '-' <;> simp [minusAt, hc]
  rw [numberAt?_eq_some_iff, hminus]
  exact ⟨integer, cs₁ ++ tail, fraction, cs₂ ++ tail, exponent, integerAt?_append hinteger htail,
    fractionAt?_append hfraction htail, exponentAt?_append hexponent htail, rfl⟩

end SchemaExplorer.Json
