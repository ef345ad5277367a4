import Mathlib.Data.Option.Basic
import SchemaExplorer.Proofs.Sdl.Reference
import SchemaExplorer.Proofs.Text.Split

/-! # Introductions in a line

A line introduces a type where a keyword, blanks and the start of a name stand in a row. Such a
run is unbroken: lines can be put together from pieces without one, with separators between them,
and introduce nothing either. -/

namespace SchemaExplorer.Sdl

open Text (isBlank)

/-! ### The first match -/

theorem firstMatch?_of_some {α : Type} {shape : List Char → Option α} {cs : List Char} {a : α}
    (hne : cs ≠ []) (h : shape cs = some a) : firstMatch? shape cs = some a := by
  cases cs with
  | nil => exact absurd rfl hne
  | cons c cs => simp [firstMatch?, h]

/-- What is found stands at the front of some end of the line. -/
theorem exists_suffix_of_firstMatch? {α : Type} {shape : List Char → Option α} {cs : List Char}
    {a : α} (h : firstMatch? shape cs = some a) : ∃ back, back <:+ cs ∧ shape back = some a := by
  induction cs with
  | nil => simp [firstMatch?] at h
  | cons c cs ih =>
    rw [firstMatch?] at h
    split at h
    · next hb => exact ⟨c :: cs, List.suffix_rfl, hb.trans h⟩
    · obtain ⟨back, hback, hshape⟩ := ih h
      exact ⟨back, hback.trans (List.suffix_cons c cs), hshape⟩

theorem firstMatch?_ne_none {α : Type} {shape : List Char → Option α} {cs back : List Char}
    (hback : back <:+ cs) (hne : back ≠ []) (h : shape back ≠ none) :
    firstMatch? shape cs ≠ none := by
  induction cs with
  | nil => exact absurd (List.suffix_nil.mp hback) hne
  | cons c cs ih =>
    rw [firstMatch?]
    split
    · simp
    · next hnone =>
      rcases List.suffix_cons_iff.mp hback with rfl | hback
      · exact absurd hnone h
      · exact ih hback

/-! ### Introductions -/

/-- A keyword, blanks, and the start of a name. -/
def IntroRun (run : List Char) : Prop :=
  ∃ keyword ∈ keywords, ∃ blanks c, run = keyword.toList ++ blanks ++ [c] ∧ blanks ≠ [] ∧
    (∀ b ∈ blanks, isBlank b = true) ∧ isNameStart c = true

theorem IntroRun.ne_nil {run : List Char} (h : IntroRun run) : run ≠ [] := by
  obtain ⟨keyword, -, blanks, c, rfl, -⟩ := h
  simp

/-- Somewhere in the line a type is introduced. -/
def Introduces (cs : List Char) : Prop :=
  ∃ run, IntroRun run ∧ run <:+: cs

theorem Introduces.mono {cs ds : List Char} (h : Introduces cs) (hcs : cs <:+: ds) :
    Introduces ds := by
  obtain ⟨run, hrun, hpart⟩ := h
  exact ⟨run, hrun, hpart.trans hcs⟩

theorem isName_of_mem_keywords : ∀ keyword ∈ keywords, isName keyword.toList = true := by
  decide

/-- No keyword begins another one, so that the first that fits is the one that is there. -/
theorem keywordAt?_append {keyword : String} (h : keyword ∈ keywords) (rest : List Char) :
    keywordAt? (keyword.toList ++ rest) = some (keyword, rest) := by
  simp only [keywords, List.mem_cons, List.not_mem_nil, or_false] at h
  rcases h with rfl | rfl | rfl | rfl | rfl | rfl <;> rfl

theorem eq_append_of_keywordAt? {cs rest : List Char} {keyword : String}
    (h : keywordAt? cs = some (keyword, rest)) :
    keyword ∈ keywords ∧ cs = keyword.toList ++ rest := by
  obtain ⟨word, hfind, heq⟩ := Option.map_eq_some_iff.mp h
  simp only [Prod.mk.injEq] at heq
  obtain ⟨rfl, rfl⟩ := heq
  have hword : word.toList.isPrefixOf cs = true := by simpa using List.find?_some hfind
  obtain ⟨back, rfl⟩ := List.isPrefixOf_iff_prefix.mp hword
  exact ⟨List.mem_of_find?_eq_some hfind, by simp⟩

theorem introAt?_eq_some_iff {cs : List Char} {i : Intro} :
    introAt? cs = some i ↔ ∃ rest name back, keywordAt? cs = some (i.keyword, rest) ∧
      rest.head?.any isBlank = true ∧ nameAt? (skipBlanks rest) = some (name, back) ∧
      i.name = String.ofList name := by
  constructor
  · intro h
    simp only [introAt?, Option.bind_eq_bind, Option.bind_eq_some_iff, Prod.exists,
      Option.guard_eq_some'] at h
    obtain ⟨keyword, rest, hkeyword, -, hhead, name, back, hname, hi⟩ := h
    obtain rfl := Option.some.inj hi
    exact ⟨rest, name, back, hkeyword, hhead, hname, rfl⟩
  · rintro ⟨rest, name, back, hkeyword, hhead, hname, hi⟩
    simp only [introAt?, Option.bind_eq_bind, Option.bind_eq_some_iff, Prod.exists,
      Option.guard_eq_some']
    exact ⟨i.keyword, rest, hkeyword, (), hhead, name, back, hname, by rw [← hi]⟩

theorem exists_introRun_of_introAt? {cs : List Char} {i : Intro} (h : introAt? cs = some i) :
    ∃ run, IntroRun run ∧ run <+: cs := by
  obtain ⟨rest, name, back, hkeyword, hhead, hname, -⟩ := introAt?_eq_some_iff.mp h
  obtain ⟨hmem, rfl⟩ := eq_append_of_keywordAt? hkeyword
  have hsplit : rest = rest.takeWhile isBlank ++ skipBlanks rest :=
    List.takeWhile_append_dropWhile.symm
  have hblanks : rest.takeWhile isBlank ≠ [] := by
    cases rest with
    | nil => simp at hhead
    | cons b rest =>
      have hb : isBlank b = true := by simpa using hhead
      simp [hb]
  cases hrest : skipBlanks rest with
  | nil => simp [hrest, nameAt?] at hname
  | cons c tail =>
    have hc : isNameStart c = true := by
      by_contra hc
      simp [hrest, nameAt?, hc] at hname
    rw [hrest] at hsplit
    refine ⟨i.keyword.toList ++ rest.takeWhile isBlank ++ [c], ⟨i.keyword, hmem,
      rest.takeWhile isBlank, c, rfl, hblanks, fun b hb => List.mem_takeWhile_imp hb, hc⟩, tail, ?_⟩
    calc i.keyword.toList ++ rest.takeWhile isBlank ++ [c] ++ tail
        = i.keyword.toList ++ (rest.takeWhile isBlank ++ c :: tail) := by simp
      _ = i.keyword.toList ++ rest := by rw [← hsplit]

theorem introAt?_ne_none_of_introRun {run : List Char} (h : IntroRun run) (tail : List Char) :
    introAt? (run ++ tail) ≠ none := by
  obtain ⟨keyword, hkeyword, blanks, c, rfl, hne, hblanks, hc⟩ := h
  have hcblank := isBlank_of_isNameChar (isNameChar_of_isNameStart hc)
  have hrest : keyword.toList ++ blanks ++ [c] ++ tail =
      keyword.toList ++ (blanks ++ c :: tail) := by simp
  have hhead : (blanks ++ c :: tail).head?.any isBlank = true := by
    cases blanks with
    | nil => exact absurd rfl hne
    | cons b blanks => simpa using hblanks b (by simp)
  have hskip : skipBlanks (blanks ++ c :: tail) = c :: tail := by
    rw [skipBlanks_append _ hblanks, skipBlanks_eq_self (by simp [hcblank])]
  have hname : nameAt? (c :: tail) =
      some (c :: tail.takeWhile isNameChar, tail.dropWhile isNameChar) := by
    rw [nameAt?, if_pos hc]
  apply Option.ne_none_iff_exists'.mpr
  exact ⟨{ keyword, name := _ }, introAt?_eq_some_iff.mpr
    ⟨_, _, _, hrest ▸ keywordAt?_append hkeyword _, hhead, hskip ▸ hname, rfl⟩⟩

/-- A line in which no type is introduced is one in which none is found. -/
theorem intro?_eq_none_iff {cs : List Char} : intro? cs = none ↔ ¬ Introduces cs := by
  constructor
  · rintro h ⟨run, hrun, front, back, rfl⟩
    have hback : run ++ back <:+ front ++ run ++ back := by simp
    exact firstMatch?_ne_none hback (by simp [hrun.ne_nil]) (introAt?_ne_none_of_introRun hrun back)
      h
  · intro h
    by_contra hsome
    obtain ⟨i, hi⟩ := Option.ne_none_iff_exists'.mp hsome
    obtain ⟨back, hback, hat⟩ := exists_suffix_of_firstMatch? hi
    obtain ⟨run, hrun, hprefix⟩ := exists_introRun_of_introAt? hat
    exact h ⟨run, hrun, hprefix.isInfix.trans hback.isInfix⟩

/-! ### Lines put together -/

theorem all_isNameStart_of_mem_keywords :
    ∀ keyword ∈ keywords, keyword.toList.all isNameStart = true := by
  decide

theorem IntroRun.isNameStart_or_isBlank {run : List Char} (h : IntroRun run) {c : Char}
    (hc : c ∈ run) : isNameStart c = true ∨ isBlank c = true := by
  obtain ⟨keyword, hkeyword, blanks, d, rfl, -, hblanks, hd⟩ := h
  simp only [List.mem_append, List.mem_singleton] at hc
  rcases hc with (hc | hc) | rfl
  · exact .inl (List.all_eq_true.mp (all_isNameStart_of_mem_keywords keyword hkeyword) c hc)
  · exact .inr (hblanks c hc)
  · exact .inl hd

theorem not_introduces_of_no_blank {cs : List Char} (h : ∀ c ∈ cs, isBlank c = false) :
    ¬ Introduces cs := by
  rintro ⟨run, ⟨keyword, -, blanks, c, rfl, hne, hblanks, -⟩, hinfix⟩
  obtain ⟨b, hb⟩ := List.exists_mem_of_ne_nil blanks hne
  have hmem : b ∈ cs := hinfix.subset (by simp [hb])
  simpa [h b hmem] using hblanks b hb

theorem introduces_append_cons {front back : List Char} {c : Char} (hblank : isBlank c = false)
    (hstart : isNameStart c = false) :
    Introduces (front ++ c :: back) ↔ Introduces front ∨ Introduces back := by
  constructor
  · rintro ⟨run, hrun, hinfix⟩
    have hc : c ∉ run := fun hmem => by
      simpa [hblank, hstart] using hrun.isNameStart_or_isBlank hmem
    rcases List.infix_append_iff.mp hinfix with h | h | ⟨left, right, rfl, hleft, hright⟩
    · exact .inl ⟨run, hrun, h⟩
    · rcases List.infix_cons_iff.mp h with h | h
      · rcases List.prefix_cons_iff.mp h with h | ⟨rest, rfl, -⟩
        · exact absurd h hrun.ne_nil
        · simp at hc
      · exact .inr ⟨run, hrun, h⟩
    · rcases List.prefix_cons_iff.mp hright with rfl | ⟨rest, rfl, -⟩
      · exact .inl ⟨left, by simpa using hrun, hleft.isInfix⟩
      · simp at hc
  · rintro (⟨run, hrun, h⟩ | ⟨run, hrun, h⟩)
    · exact ⟨run, hrun, h.trans (List.prefix_append front _).isInfix⟩
    · exact ⟨run, hrun, h.trans ((List.suffix_cons c back).trans
        (List.suffix_append front _)).isInfix⟩

/-- A run begins with a letter, so that a blank in front makes none. -/
theorem introduces_cons_of_isBlank {cs : List Char} {b : Char} (hb : isBlank b = true) :
    Introduces (b :: cs) ↔ Introduces cs := by
  constructor
  · rintro ⟨run, hrun, hinfix⟩
    rcases List.infix_cons_iff.mp hinfix with h | h
    · obtain ⟨keyword, hkeyword, blanks, c, rfl, -⟩ := hrun
      have hname := isName_of_mem_keywords keyword hkeyword
      cases hk : keyword.toList with
      | nil => simp [hk, isName] at hname
      | cons d rest =>
        rw [hk] at h hname
        obtain ⟨rfl, -⟩ := List.cons_prefix_cons.mp h
        have hd := isBlank_of_isNameChar (isNameChar_of_mem hname (List.mem_cons_self))
        simp [hb] at hd
    · exact ⟨run, hrun, h⟩
  · rintro ⟨run, hrun, h⟩
    exact ⟨run, hrun, h.trans (List.suffix_cons b cs).isInfix⟩

/-- A run ends with the start of a name, so that a blank behind makes none. -/
theorem introduces_concat_of_isBlank {cs : List Char} {b : Char} (hb : isBlank b = true) :
    Introduces (cs ++ [b]) ↔ Introduces cs := by
  constructor
  · rintro ⟨run, hrun, hinfix⟩
    rcases List.infix_concat_iff.mp hinfix with h | h
    · obtain ⟨keyword, -, blanks, c, rfl, -, -, hc⟩ := hrun
      rcases List.suffix_concat_iff.mp h with h | ⟨front, heq, -⟩
      · simp at h
      · obtain ⟨-, hcb⟩ := List.append_inj' heq rfl
        obtain rfl : c = b := by simpa using hcb
        have hcblank := isBlank_of_isNameChar (isNameChar_of_isNameStart hc)
        simp [hb] at hcblank
    · exact ⟨run, hrun, h⟩
  · rintro ⟨run, hrun, h⟩
    exact ⟨run, hrun, h.trans (List.prefix_append cs [b]).isInfix⟩

theorem not_introduces_join {ss : List String} (h : ∀ s ∈ ss, ¬ Introduces s.toList) :
    ¬ Introduces (Text.join ", " ss).toList := by
  induction ss with
  | nil => exact not_introduces_of_no_blank (by simp [Text.join])
  | cons s ss ih =>
    have hs := h s (by simp)
    cases ss with
    | nil => exact hs
    | cons t rest =>
      have hlist : (Text.join ", " (s :: t :: rest)).toList =
          s.toList ++ ',' :: ' ' :: (Text.join ", " (t :: rest)).toList := by
        simp [Text.join_cons_cons]
      rw [hlist, introduces_append_cons (by decide) (by decide),
        introduces_cons_of_isBlank (b := ' ') (by decide)]
      rintro (hintro | hintro)
      · exact hs hintro
      · exact ih (fun u hu => h u (List.mem_cons_of_mem _ hu)) hintro

end SchemaExplorer.Sdl
