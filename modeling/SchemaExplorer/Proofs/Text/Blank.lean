import Mathlib.Data.List.DropRight
import SchemaExplorer.Text.Blank

/-! # Trimming

A text is left alone by trimming when no blank stands at either of its ends, and blanks that are
put around a text are taken off again. -/

namespace SchemaExplorer.Text

/-! ### Characters of a class at the ends -/

variable {p : Char → Bool}

/-- Neither end of `cs` is a character of the class. -/
def isStripped (p : Char → Bool) (cs : List Char) : Bool :=
  cs.head?.all (!p ·) && cs.getLast?.all (!p ·)

theorem dropWhile_eq_self_of_all_head? {cs : List Char} (h : cs.head?.all (!p ·) = true) :
    cs.dropWhile p = cs := by
  cases cs with
  | nil => rfl
  | cons c cs => simp_all

/-- A run of characters of the class ends in front of anything else. -/
theorem takeWhile_append_eq {front back : List Char} (hfront : ∀ c ∈ front, p c = true)
    (hback : back.head?.all (!p ·) = true) : (front ++ back).takeWhile p = front := by
  have hnil : back.takeWhile p = [] := by
    cases back with
    | nil => rfl
    | cons c back => simp_all
  rw [List.takeWhile_append_of_pos hfront, hnil, List.append_nil]

theorem dropWhile_append_eq {front back : List Char} (hfront : ∀ c ∈ front, p c = true)
    (hback : back.head?.all (!p ·) = true) : (front ++ back).dropWhile p = back := by
  rw [List.dropWhile_append_of_pos hfront, dropWhile_eq_self_of_all_head? hback]

theorem dropEndWhile_eq_self_of_all_getLast? {cs : List Char}
    (h : cs.getLast?.all (!p ·) = true) : dropEndWhile p cs = cs := by
  apply List.rdropWhile_eq_self_iff.mpr
  intro hne
  simpa [List.getLast?_eq_some_getLast hne] using h

theorem all_head?_dropWhile (cs : List Char) : (cs.dropWhile p).head?.all (!p ·) = true := by
  induction cs with
  | nil => rfl
  | cons c cs ih =>
    by_cases hc : p c = true
    · simpa [hc] using ih
    · simp [hc]

theorem dropWhile_eq_self_iff_all_head? {cs : List Char} :
    cs.dropWhile p = cs ↔ cs.head?.all (!p ·) = true := by
  constructor
  · intro h
    rw [← h]
    exact all_head?_dropWhile cs
  · exact dropWhile_eq_self_of_all_head?

theorem all_head?_of_forall {q : Char → Bool} {cs : List Char} (h : ∀ c ∈ cs, q c = true) :
    cs.head?.all q = true := by
  rw [Option.all_eq_true]
  exact fun c hc => h c (List.mem_of_head? hc)

theorem all_getLast?_of_forall {q : Char → Bool} {cs : List Char} (h : ∀ c ∈ cs, q c = true) :
    cs.getLast?.all q = true := by
  rw [Option.all_eq_true]
  exact fun c hc => h c (List.mem_of_getLast? hc)

theorem all_head?_of_prefix {q : Char → Bool} {front cs : List Char} (h : front <+: cs)
    (hcs : cs.head?.all q = true) : front.head?.all q = true := by
  obtain ⟨back, rfl⟩ := h
  cases front with
  | nil => rfl
  | cons c front => simpa using hcs

theorem all_getLast?_of_suffix {q : Char → Bool} {back cs : List Char} (h : back <:+ cs)
    (hcs : cs.getLast?.all q = true) : back.getLast?.all q = true := by
  obtain ⟨front, rfl⟩ := h
  cases back with
  | nil => rfl
  | cons c back => rwa [List.getLast?_append_of_ne_nil _ (List.cons_ne_nil c back)] at hcs

theorem all_head?_append {q : Char → Bool} {front back : List Char}
    (hfront : front.head?.all q = true) (hback : back.head?.all q = true) :
    (front ++ back).head?.all q = true := by
  cases front with
  | nil => exact hback
  | cons c front => exact hfront

theorem isStripped_stripChars (cs : List Char) : isStripped p (stripChars p cs) = true := by
  have hprefix : stripChars p cs <+: cs.dropWhile p := List.rdropWhile_prefix p _
  have hfront := all_head?_of_prefix hprefix (all_head?_dropWhile cs)
  have hback : (stripChars p cs).getLast?.all (!p ·) = true := by
    rw [stripChars, dropEndWhile, List.getLast?_reverse]
    exact all_head?_dropWhile _
  simp [isStripped, hfront, hback]

theorem isInfix_stripChars (p : Char → Bool) (cs : List Char) : stripChars p cs <:+: cs :=
  (List.rdropWhile_prefix p _).isInfix.trans (List.dropWhile_suffix p).isInfix

theorem stripChars_eq_self_iff {cs : List Char} :
    stripChars p cs = cs ↔ isStripped p cs = true := by
  constructor
  · intro h
    rw [← h]
    exact isStripped_stripChars cs
  · intro h
    obtain ⟨hfront, hback⟩ := (Bool.and_eq_true _ _).mp h
    rw [stripChars, dropWhile_eq_self_of_all_head? hfront,
      dropEndWhile_eq_self_of_all_getLast? hback]

/-- What is stripped of a part of a text is the whole text only if the part is all of it and loses
nothing. -/
theorem stripChars_eq_iff_of_infix {part cs : List Char} (h : part <:+: cs) :
    stripChars p part = cs ↔ part = cs ∧ isStripped p cs = true := by
  constructor
  · intro hstrip
    have hpart : part = cs := by
      apply h.eq_of_length_le
      rw [← hstrip]
      exact (isInfix_stripChars p part).length_le
    subst hpart
    exact ⟨rfl, stripChars_eq_self_iff.mp hstrip⟩
  · rintro ⟨rfl, hstripped⟩
    exact stripChars_eq_self_iff.mpr hstripped

theorem isStripped_append {front back : List Char} (hfront : front ≠ []) (hback : back ≠ []) :
    isStripped p (front ++ back) =
      (front.head?.all (!p ·) && back.getLast?.all (!p ·)) := by
  rw [isStripped, List.head?_append_of_ne_nil _ hfront, List.getLast?_append_of_ne_nil _ hback]

/-- Behind a text that no character is dropped from, only the end can lose characters. -/
theorem stripChars_append {front : List Char} (back : List Char) (hne : front ≠ [])
    (hfront : isStripped p front = true) :
    stripChars p (front ++ back) = front ++ dropEndWhile p back := by
  simp only [isStripped, Bool.and_eq_true] at hfront
  obtain ⟨hhead, hlast⟩ := hfront
  have hhead' : (front ++ back).head?.all (!p ·) = true := by
    rwa [List.head?_append_of_ne_nil _ hne]
  rw [stripChars, dropWhile_eq_self_of_all_head? hhead', dropEndWhile, List.reverse_append,
    List.dropWhile_append]
  split
  · next hnil =>
    have hback : dropEndWhile p back = [] := by simpa [dropEndWhile] using hnil
    have hkeep : dropEndWhile p front = front := dropEndWhile_eq_self_of_all_getLast? hlast
    rw [hback, List.append_nil, ← dropEndWhile, hkeep]
  · rw [List.reverse_append, List.reverse_reverse, ← dropEndWhile]

theorem stripChars_append_left {front : List Char} (cs : List Char)
    (h : ∀ c ∈ front, p c = true) : stripChars p (front ++ cs) = stripChars p cs := by
  rw [stripChars, List.dropWhile_append_of_pos h, stripChars]

theorem dropEndWhile_append_right (cs : List Char) {back : List Char}
    (h : ∀ c ∈ back, p c = true) : dropEndWhile p (cs ++ back) = dropEndWhile p cs := by
  have hr : ∀ c ∈ back.reverse, p c = true := fun c hc => h c (List.mem_reverse.mp hc)
  rw [dropEndWhile, List.reverse_append, List.dropWhile_append_of_pos hr, dropEndWhile]

theorem stripChars_append_right (cs : List Char) {back : List Char}
    (h : ∀ c ∈ back, p c = true) : stripChars p (cs ++ back) = stripChars p cs := by
  rw [stripChars, List.dropWhile_append, stripChars]
  split
  · next hnil =>
    have hcs : cs.dropWhile p = [] := by simpa using hnil
    have hback : back.dropWhile p = [] := List.dropWhile_eq_nil_iff.mpr h
    rw [hcs, hback]
  · exact dropEndWhile_append_right _ h

/-- A character that is none of the class keeps what is behind it. -/
theorem dropWhile_append_cons (front : List Char) {c : Char} (back : List Char) (hc : p c = false) :
    (front ++ c :: back).dropWhile p = front.dropWhile p ++ c :: back := by
  rw [List.dropWhile_append]
  split
  · next hnil =>
    have hfront : front.dropWhile p = [] := by simpa using hnil
    simp [hfront, hc]
  · rfl

theorem dropEndWhile_append_cons (front : List Char) {c : Char} (back : List Char)
    (hc : p c = false) : dropEndWhile p (front ++ c :: back) = front ++ c :: dropEndWhile p back := by
  have hlist : (front ++ c :: back).reverse = back.reverse ++ c :: front.reverse := by simp
  rw [dropEndWhile, hlist, List.dropWhile_append, dropEndWhile]
  split
  · next hnil =>
    have hback : back.reverse.dropWhile p = [] := by simpa using hnil
    simp [hback, hc]
  · simp

theorem stripChars_dropWhile (cs : List Char) : stripChars p (cs.dropWhile p) = stripChars p cs := by
  rw [stripChars, dropWhile_eq_self_of_all_head? (all_head?_dropWhile cs), stripChars]

theorem stripChars_dropEndWhile (cs : List Char) :
    stripChars p (dropEndWhile p cs) = stripChars p cs := by
  have hend : ∀ c ∈ cs.rtakeWhile p, p c = true := fun c hc => List.mem_rtakeWhile_imp hc
  calc stripChars p (dropEndWhile p cs)
      = stripChars p (cs.rdropWhile p ++ cs.rtakeWhile p) :=
        (stripChars_append_right _ hend).symm
    _ = stripChars p cs := by rw [List.rdropWhile_append_rtakeWhile]

theorem mem_dropWhile_iff {cs : List Char} {c : Char} (hc : p c = false) :
    c ∈ cs.dropWhile p ↔ c ∈ cs := by
  constructor
  · exact fun h => (List.dropWhile_suffix p).subset h
  · intro h
    rw [← List.takeWhile_append_dropWhile (p := p) (l := cs), List.mem_append] at h
    rcases h with h | h
    · simp [List.mem_takeWhile_imp h] at hc
    · exact h

/-- A character that is not of the class is not dropped. -/
theorem mem_stripChars_iff {cs : List Char} {c : Char} (hc : p c = false) :
    c ∈ stripChars p cs ↔ c ∈ cs := by
  rw [stripChars, dropEndWhile, List.mem_reverse, mem_dropWhile_iff hc, List.mem_reverse,
    mem_dropWhile_iff hc]

/-! ### Blanks -/

theorem trimChars_eq_self_of_no_blank {cs : List Char} (h : ∀ c ∈ cs, isBlank c = false) :
    trimChars cs = cs := by
  have hnot : ∀ c ∈ cs, (!isBlank c) = true := by simpa using h
  apply stripChars_eq_self_iff.mpr
  simp [isStripped, all_head?_of_forall hnot, all_getLast?_of_forall hnot]

theorem trim_eq_self_iff {s : String} : trim s = s ↔ isStripped isBlank s.toList = true := by
  rw [← stripChars_eq_self_iff, ← String.toList_inj, toList_trim, trimChars]

theorem trim_trim (s : String) : trim (trim s) = trim s := by
  rw [trim_eq_self_iff, toList_trim]
  exact isStripped_stripChars s.toList

/-- Any number of blanks in a row. -/
structure Blanks where
  text : String
  all_isBlank : text.toList.all isBlank = true

theorem Blanks.isBlank_of_mem (b : Blanks) : ∀ c ∈ b.text.toList, isBlank c = true :=
  List.all_eq_true.mp b.all_isBlank

theorem Blanks.not_mem (b : Blanks) {c : Char} (hc : isBlank c = false) : c ∉ b.text.toList := by
  intro hmem
  simp [b.isBlank_of_mem c hmem] at hc

theorem trim_blanks_append (front : Blanks) (s : String) (back : Blanks) :
    trim (front.text ++ s ++ back.text) = trim s := by
  rw [← String.toList_inj, toList_trim, toList_trim, String.toList_append, String.toList_append,
    trimChars, stripChars_append_right _ back.isBlank_of_mem,
    stripChars_append_left _ front.isBlank_of_mem, trimChars]

theorem exists_blanks_trim (s : String) :
    ∃ front back : Blanks, s = front.text ++ trim s ++ back.text := by
  have hfront : ((s.toList.takeWhile isBlank).all isBlank) = true :=
    List.all_eq_true.mpr fun _ hc => List.mem_takeWhile_imp hc
  have hback : (((s.toList.dropWhile isBlank).rtakeWhile isBlank).all isBlank) = true :=
    List.all_eq_true.mpr fun _ hc => List.mem_rtakeWhile_imp hc
  refine ⟨⟨String.ofList (s.toList.takeWhile isBlank), by simp [hfront]⟩,
    ⟨String.ofList ((s.toList.dropWhile isBlank).rtakeWhile isBlank), by simpa using hback⟩, ?_⟩
  calc s
      = String.ofList (s.toList.takeWhile isBlank ++ s.toList.dropWhile isBlank) := by
          rw [List.takeWhile_append_dropWhile, String.ofList_toList]
    _ = String.ofList (s.toList.takeWhile isBlank ++ ((s.toList.dropWhile isBlank).rdropWhile isBlank
          ++ (s.toList.dropWhile isBlank).rtakeWhile isBlank)) := by
          rw [List.rdropWhile_append_rtakeWhile]
    _ = _ := by
          rw [← List.append_assoc, String.ofList_append, String.ofList_append]
          rfl

theorem nonBlank?_eq_none_iff {s : String} : nonBlank? s = none ↔ trim s = "" := by
  simp [nonBlank?]

theorem nonBlank?_eq_some_iff {s t : String} : nonBlank? s = some t ↔ trim s = t ∧ t ≠ "" := by
  by_cases h : trim s = ""
  · have hnone : nonBlank? s = none := by simp [nonBlank?, h]
    rw [hnone, h]
    constructor
    · exact fun e => absurd e (by simp)
    · rintro ⟨rfl, hne⟩
      exact absurd rfl hne
  · have hsome : nonBlank? s = some (trim s) := by simp [nonBlank?, h]
    rw [hsome, Option.some.injEq]
    constructor
    · rintro rfl
      exact ⟨rfl, h⟩
    · exact fun e => e.1

/-- A trimmed text that is not empty counts as it stands. -/
theorem nonBlank?_eq_some {s : String} (hs : trim s = s) (hne : s ≠ "") :
    nonBlank? s = some s :=
  nonBlank?_eq_some_iff.mpr ⟨hs, hne⟩

end SchemaExplorer.Text
