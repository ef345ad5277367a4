import Mathlib.Order.Bounds.Basic
import SchemaExplorer.Proofs.Sdl.Found

/-! # The grammar of lines

The shapes that are looked for in a line, said without a reader: pieces that stand in a row, with no
word about how far each of them goes. A search finds a shape just if one begins somewhere in the
line, and it takes the leftmost. There the pieces can be told apart in one way only, the end of a
reference aside; of a reference and of the name of a type as much is taken as there is. -/

namespace SchemaExplorer.Sdl

open Text (isBlank)

/-! ### Pieces at the front -/

theorem nameAt?_eq_some_iff {cs name rest : List Char} :
    nameAt? cs = some (name, rest) ↔
      cs = name ++ rest ∧ isName name = true ∧ rest.head?.all (!isNameChar ·) = true := by
  constructor
  · intro h
    refine ⟨eq_append_of_nameAt? h, isName_of_nameAt? h, ?_⟩
    cases cs with
    | nil => simp [nameAt?] at h
    | cons c cs =>
      rw [nameAt?] at h
      split at h
      · obtain ⟨-, rfl⟩ := Prod.mk.inj (Option.some.inj h)
        exact Text.all_head?_dropWhile cs
      · simp at h
  · rintro ⟨rfl, hname, hrest⟩
    exact nameAt?_append hname hrest

theorem after?_eq_none_iff {c : Char} {cs : List Char} :
    after? c cs = none ↔ cs.head? ≠ some c := by
  cases cs with
  | nil => simp [after?]
  | cons d cs => simp [after?]

theorem after?_cons_of_ne {c d : Char} (h : d ≠ c) (cs : List Char) : after? c (d :: cs) = none :=
  if_neg h

theorem nameAt?_cons_of_isBlank {c : Char} (hc : isBlank c = true) (cs : List Char) :
    nameAt? (c :: cs) = none :=
  if_neg (by simp [isNameStart_of_isBlank hc])

theorem ne_of_isBlank {c d : Char} (hc : isBlank c = true) (hd : isBlank d = false) : c ≠ d := by
  rintro rfl
  simp [hc] at hd

theorem referenceAt?_cons_of_isBlank {c : Char} (hc : isBlank c = true) (cs : List Char) :
    referenceAt? (c :: cs) = none := by
  have hbracket : (c == '[') = false := beq_false_of_ne (ne_of_isBlank hc (by decide))
  simp [referenceAt?, hbracket, isNameStart_of_isBlank hc]

/-- The arguments of a member as they are written, if there are any. -/
def parenthesized : Option (List Char) → List Char
  | none => []
  | some inside => '(' :: (inside ++ [')'])

theorem argumentsAt?_eq_some_iff {cs rest : List Char} {arguments : Option (List Char)} :
    argumentsAt? cs = some (arguments, rest) ↔
      cs = parenthesized arguments ++ rest ∧ (∀ inside ∈ arguments, ')' ∉ inside) ∧
        (arguments = none → cs.head? ≠ some '(') := by
  constructor
  · intro h
    rw [argumentsAt?] at h
    split at h
    · next hnone =>
      obtain ⟨rfl, rfl⟩ := Prod.mk.inj (Option.some.inj h)
      exact ⟨rfl, by simp, fun _ => after?_eq_none_iff.mp hnone⟩
    · next inside hinside =>
      obtain ⟨back, hback, hpair⟩ := Option.map_eq_some_iff.mp h
      obtain ⟨rfl, rfl⟩ := Prod.mk.inj hpair
      have hsplit := List.takeWhile_append_dropWhile (p := (· != ')')) (l := inside)
      rw [after?_eq_some_iff.mp hback] at hsplit
      refine ⟨?_, ?_, by simp⟩
      · rw [after?_eq_some_iff.mp hinside]
        conv => lhs; rw [← hsplit]
        simp [parenthesized]
      · intro other hother hmem
        obtain rfl := Option.some.inj hother
        simpa using List.mem_takeWhile_imp hmem
  · rintro ⟨rfl, hclosing, hopening⟩
    cases arguments with
    | none =>
      rw [argumentsAt?, parenthesized, List.nil_append,
        after?_eq_none_iff.mpr (by simpa [parenthesized] using hopening rfl)]
    | some inside =>
      have hinside : ∀ c ∈ inside, (c != ')') = true := by
        intro c hc
        rw [bne_iff_ne]
        rintro rfl
        exact hclosing inside rfl hc
      simp [argumentsAt?, parenthesized, after?, List.dropWhile_append_of_pos hinside,
        List.takeWhile_append_of_pos hinside]

theorem referenceAt?_eq_some_iff {cs reference rest : List Char} :
    referenceAt? cs = some (reference, rest) ↔
      cs = reference ++ rest ∧ IsReference reference ∧
        rest.head?.all (!isReferenceChar ·) = true := by
  constructor
  · intro h
    obtain ⟨hcs, hreference⟩ := referenceAt?_eq_some h
    refine ⟨hcs, hreference, ?_⟩
    rw [referenceAt?] at h
    split at h
    · simp at h
    · split at h
      · obtain ⟨-, rfl⟩ := Prod.mk.inj (Option.some.inj h)
        exact Text.all_head?_dropWhile _
      · simp at h
  · rintro ⟨rfl, ⟨brackets, c, tail, rfl, hbrackets, hc, htail⟩, hrest⟩
    simpa using referenceAt?_append hbrackets hc htail hrest

theorem IsReference.all_head?_append {reference : List Char} (h : IsReference reference)
    (rest : List Char) : (reference ++ rest).head?.all (!isBlank ·) = true := by
  obtain ⟨brackets, c, tail, rfl, hbrackets, hc, -⟩ := h
  cases brackets with
  | nil => simp [isBlank_of_isNameChar (isNameChar_of_isNameStart hc)]
  | cons b brackets =>
    rw [hbrackets b (by simp)]
    rfl

theorem IsReference.append {reference more : List Char} (h : IsReference reference)
    (hmore : ∀ c ∈ more, isReferenceChar c = true) : IsReference (reference ++ more) := by
  obtain ⟨brackets, c, tail, rfl, hbrackets, hc, htail⟩ := h
  refine ⟨brackets, c, tail ++ more, by simp, hbrackets, hc, ?_⟩
  exact List.forall_mem_append.mpr ⟨htail, hmore⟩

/-- Blanks and what else is in no name end a name. -/
theorem all_head?_blanks_append_cons {blanks : List Char} (h : ∀ b ∈ blanks, isBlank b = true)
    {c : Char} (hc : isNameChar c = false) (cs : List Char) :
    (blanks ++ c :: cs).head?.all (!isNameChar ·) = true := by
  apply Text.all_head?_append
  · exact Text.all_head?_of_forall fun b hb => by simp [isNameChar_of_isBlank (h b hb)]
  · simp [hc]

/-- In front of anything else, blanks are taken off as far as they go. -/
theorem skipBlanks_append_eq {blanks rest : List Char} (h : ∀ b ∈ blanks, isBlank b = true)
    (hrest : rest.head?.all (!isBlank ·) = true) : skipBlanks (blanks ++ rest) = rest :=
  Text.dropWhile_append_eq h hrest

theorem exists_blanks_append_skipBlanks (cs : List Char) :
    ∃ blanks, cs = blanks ++ skipBlanks cs ∧ ∀ b ∈ blanks, isBlank b = true :=
  ⟨cs.takeWhile isBlank, List.takeWhile_append_dropWhile.symm,
    fun _ hb => List.mem_takeWhile_imp hb⟩

/-! ### Introductions -/

/-- A keyword, blanks and the start of a name stand at the front. -/
def BeginsIntro (cs : List Char) : Prop :=
  ∃ run, IntroRun run ∧ run <+: cs

/-- The introduction at the front, with the name as long as it can be. -/
def IsIntro (cs : List Char) (i : Intro) : Prop :=
  ∃ blanks back, cs = i.keyword.toList ++ (blanks ++ (i.name.toList ++ back)) ∧
    i.keyword ∈ keywords ∧ blanks ≠ [] ∧ (∀ b ∈ blanks, isBlank b = true) ∧
    isName i.name.toList = true ∧ back.head?.all (!isNameChar ·) = true

theorem introAt?_ne_none_iff {cs : List Char} : introAt? cs ≠ none ↔ BeginsIntro cs := by
  constructor
  · intro h
    obtain ⟨i, hi⟩ := Option.ne_none_iff_exists'.mp h
    exact exists_introRun_of_introAt? hi
  · rintro ⟨run, hrun, back, rfl⟩
    exact introAt?_ne_none_of_introRun hrun back

theorem isName.all_head?_append {name : List Char} (h : isName name = true) (rest : List Char) :
    (name ++ rest).head?.all (!isBlank ·) = true := by
  cases name with
  | nil => simp [isName] at h
  | cons c name => simp [isBlank_of_mem_name h (List.mem_cons_self)]

theorem introAt?_eq_some_iff_isIntro {cs : List Char} {i : Intro} :
    introAt? cs = some i ↔ IsIntro cs i := by
  rw [introAt?_eq_some_iff]
  constructor
  · rintro ⟨rest, name, back, hkeyword, hhead, hname, hi⟩
    obtain ⟨hmem, rfl⟩ := eq_append_of_keywordAt? hkeyword
    obtain ⟨blanks, hrest, hblanks⟩ := exists_blanks_append_skipBlanks rest
    obtain ⟨hsplit, hisName, hback⟩ := nameAt?_eq_some_iff.mp hname
    have htext : i.name.toList = name := by rw [hi, String.toList_ofList]
    refine ⟨blanks, back, ?_, hmem, ?_, hblanks, htext ▸ hisName, hback⟩
    · rw [htext, ← hsplit, ← hrest]
    · rintro rfl
      have hstart := isName.all_head?_append hisName back
      rw [← hsplit, ← List.nil_append (skipBlanks rest), ← hrest] at hstart
      cases rest with
      | nil => simp at hhead
      | cons b rest =>
        simp only [List.head?_cons, Option.any_some, Option.all_some] at hhead hstart
        simp [hhead] at hstart
  · rintro ⟨blanks, back, rfl, hmem, hne, hblanks, hname, hback⟩
    refine ⟨_, i.name.toList, back, keywordAt?_append hmem _, ?_, ?_, by simp⟩
    · cases blanks with
      | nil => exact absurd rfl hne
      | cons b blanks => simp [hblanks b (List.mem_cons_self)]
    · rw [skipBlanks_append_eq hblanks (isName.all_head?_append hname back)]
      exact nameAt?_append hname hback

/-! ### Members -/

/-- The pieces of a member stand in a row at the front, and `rest` behind them: a name, arguments in
parentheses if there are any, a colon, and a reference. There may be blanks between them. -/
def WritesMember (cs name : List Char) (arguments : Option (List Char))
    (reference rest : List Char) : Prop :=
  ∃ blanks₁ blanks₂ blanks₃,
    cs = name ++ (blanks₁ ++ (parenthesized arguments ++
      (blanks₂ ++ ':' :: (blanks₃ ++ (reference ++ rest))))) ∧
    (∀ b ∈ blanks₁ ++ blanks₂ ++ blanks₃, isBlank b = true) ∧ isName name = true ∧
    (∀ inside ∈ arguments, ')' ∉ inside) ∧ IsReference reference

/-- A member stands at the front. -/
def BeginsMember (cs : List Char) : Prop :=
  ∃ name arguments reference rest, WritesMember cs name arguments reference rest

/-- Behind a reference stand an equals sign and a value. There may be blanks around the sign. -/
def WritesDefault (rest value : List Char) : Prop :=
  ∃ before behind, rest = before ++ '=' :: (behind ++ value) ∧
    ∀ b ∈ before ++ behind, isBlank b = true

/-- The member at the front: its name and its reference are as long as they can be, its arguments
are there if a parenthesis opens behind the name, and its default value, if anything stands behind
an equals sign, is the rest of the line. -/
structure IsMember (cs : List Char) (m : Member) (rest : List Char) : Prop where
  writes : WritesMember cs m.name.toList (m.arguments.map String.toList) m.reference.toList rest
  name_eq : m.name.toList = cs.takeWhile isNameChar
  arguments_isSome_iff : m.arguments.isSome = true ↔
    (skipBlanks (cs.dropWhile isNameChar)).head? = some '('
  reference_maximal : rest.head?.all (!isReferenceChar ·) = true
  defaultText_isSome_iff : m.defaultText.isSome = true ↔ ∃ value, value ≠ [] ∧ WritesDefault rest value
  defaultText_eq : ∀ text ∈ m.defaultText, text ≠ "" ∧ WritesDefault rest text.toList ∧
    text.toList.head?.all (!isBlank ·) = true

/-- On one line a default value is all that stands behind the equals sign and blanks. -/
theorem lineDefaultAt?_eq {cs : List Char} (hnewline : '\n' ∉ cs) :
    lineDefaultAt? cs = ((after? '=' (skipBlanks cs)).map skipBlanks).filter (!·.isEmpty) := by
  rw [lineDefaultAt?, defaultAt?]
  congr 1
  refine Option.map_congr fun rest hrest => List.takeWhile_eq_self_iff.mpr fun c hc => ?_
  have hpart : skipBlanks rest <:+ cs := (skipBlanks_suffix rest).trans (suffix_of_after? hrest)
  simpa using fun e : c = '\n' => hnewline (hpart.subset (e ▸ hc))

theorem lineDefaultAt?_eq_some_iff {rest value : List Char} (hnewline : '\n' ∉ rest) :
    lineDefaultAt? rest = some value ↔
      value ≠ [] ∧ WritesDefault rest value ∧ value.head?.all (!isBlank ·) = true := by
  rw [lineDefaultAt?_eq hnewline]
  constructor
  · intro h
    obtain ⟨hvalue, hne⟩ := Option.filter_eq_some_iff.mp h
    obtain ⟨tail, htail, rfl⟩ := Option.map_eq_some_iff.mp hvalue
    obtain ⟨before, hrest, hbefore⟩ := exists_blanks_append_skipBlanks rest
    obtain ⟨behind, hsplit, hbehind⟩ := exists_blanks_append_skipBlanks tail
    refine ⟨by simpa using hne, ⟨before, behind, ?_, ?_⟩, Text.all_head?_dropWhile tail⟩
    · rw [← hsplit, ← after?_eq_some_iff.mp htail, ← hrest]
    · exact List.forall_mem_append.mpr ⟨hbefore, hbehind⟩
  · rintro ⟨hne, ⟨before, behind, rfl, hblanks⟩, hhead⟩
    obtain ⟨hbefore, hbehind⟩ := List.forall_mem_append.mp hblanks
    have hfront : skipBlanks (before ++ '=' :: (behind ++ value)) = '=' :: (behind ++ value) :=
      skipBlanks_append_eq hbefore rfl
    rw [hfront, after?_eq_some_iff.mpr rfl, Option.map_some, skipBlanks_append_eq hbehind hhead]
    simp [Option.filter, hne]

/-- Of a text that does not end with a blank, blanks are all only if there is nothing. -/
theorem skipBlanks_ne_nil {cs : List Char} (hne : cs ≠ [])
    (hlast : cs.getLast?.all (!isBlank ·) = true) : skipBlanks cs ≠ [] := by
  intro hnil
  have hblank : isBlank (cs.getLast hne) = true :=
    List.dropWhile_eq_nil_iff.mp hnil _ (List.getLast_mem hne)
  rw [List.getLast?_eq_some_getLast hne] at hlast
  simp [hblank] at hlast

/-- A line that does not end with a blank has a default value if there is anything behind the
equals sign. -/
theorem lineDefaultAt?_isSome_iff {rest : List Char} (hnewline : '\n' ∉ rest)
    (hlast : rest.getLast?.all (!isBlank ·) = true) :
    (lineDefaultAt? rest).isSome = true ↔ ∃ value, value ≠ [] ∧ WritesDefault rest value := by
  rw [Option.isSome_iff_exists]
  constructor
  · rintro ⟨value, hvalue⟩
    obtain ⟨hne, hwrites, -⟩ := (lineDefaultAt?_eq_some_iff hnewline).mp hvalue
    exact ⟨value, hne, hwrites⟩
  · rintro ⟨value, hne, before, behind, hrest, hblanks⟩
    obtain ⟨blanks, hsplit, hblanks'⟩ := exists_blanks_append_skipBlanks value
    refine ⟨skipBlanks value, (lineDefaultAt?_eq_some_iff hnewline).mpr
      ⟨?_, ⟨before, behind ++ blanks, ?_, ?_⟩, Text.all_head?_dropWhile value⟩⟩
    · have hvalue : value <:+ rest := ⟨before ++ '=' :: behind, by simp [hrest]⟩
      exact skipBlanks_ne_nil hne (Text.all_getLast?_of_suffix hvalue hlast)
    · rw [hrest, List.append_assoc, ← hsplit]
    · simp only [List.forall_mem_append] at hblanks ⊢
      exact ⟨hblanks.1, hblanks.2, hblanks'⟩

/-- Whatever reference there is, the longest can be put in its place. -/
theorem WritesMember.exists_longest {cs name reference rest : List Char}
    {arguments : Option (List Char)} (h : WritesMember cs name arguments reference rest) :
    WritesMember cs name arguments (reference ++ rest.takeWhile isReferenceChar)
      (rest.dropWhile isReferenceChar) := by
  obtain ⟨blanks₁, blanks₂, blanks₃, hcs, hblanks, hname, harguments, hreference⟩ := h
  refine ⟨blanks₁, blanks₂, blanks₃, ?_, hblanks, hname, harguments,
    hreference.append fun c hc => List.mem_takeWhile_imp hc⟩
  rw [List.append_assoc, List.takeWhile_append_dropWhile, hcs]

section

variable {blanks₁ blanks₂ : List Char} {arguments : Option (List Char)}

/-- What stands behind the name of a member does not continue it. -/
theorem all_head?_behind_name (hblanks : ∀ b ∈ blanks₁ ++ blanks₂, isBlank b = true)
    (tail : List Char) :
    (blanks₁ ++ (parenthesized arguments ++ (blanks₂ ++ ':' :: tail))).head?.all
      (!isNameChar ·) = true := by
  cases arguments with
  | none =>
    rw [parenthesized, List.nil_append, ← List.append_assoc]
    exact all_head?_blanks_append_cons hblanks (by decide) tail
  | some inside =>
    exact all_head?_blanks_append_cons (List.forall_mem_append.mp hblanks).1 (by decide) _

/-- Behind the name and blanks, a parenthesis opens the arguments, and without them the colon is
next. -/
theorem head?_behind_name (hblanks : ∀ b ∈ blanks₁ ++ blanks₂, isBlank b = true)
    (tail : List Char) :
    (skipBlanks (blanks₁ ++ (parenthesized arguments ++ (blanks₂ ++ ':' :: tail)))).head? =
      some (if arguments.isSome then '(' else ':') := by
  cases arguments with
  | none =>
    rw [parenthesized, List.nil_append, ← List.append_assoc, skipBlanks_append_eq hblanks rfl]
    rfl
  | some inside =>
    rw [skipBlanks_append_eq (List.forall_mem_append.mp hblanks).1 rfl]
    rfl

theorem exists_argumentsAt?_behind_name (hblanks : ∀ b ∈ blanks₁ ++ blanks₂, isBlank b = true)
    (hclosing : ∀ inside ∈ arguments, ')' ∉ inside) (tail : List Char) :
    ∃ behind, argumentsAt? (skipBlanks
        (blanks₁ ++ (parenthesized arguments ++ (blanks₂ ++ ':' :: tail)))) =
          some (arguments, behind) ∧
      skipBlanks behind = ':' :: tail := by
  obtain ⟨hblanks₁, hblanks₂⟩ := List.forall_mem_append.mp hblanks
  cases arguments with
  | none =>
    refine ⟨':' :: tail, ?_, rfl⟩
    rw [parenthesized, List.nil_append, ← List.append_assoc, skipBlanks_append_eq hblanks rfl]
    rfl
  | some inside =>
    refine ⟨blanks₂ ++ ':' :: tail, ?_, skipBlanks_append_eq hblanks₂ rfl⟩
    rw [skipBlanks_append_eq hblanks₁ rfl]
    exact argumentsAt?_eq_some_iff.mpr ⟨rfl, hclosing, by simp⟩

end

/-- A member is read from pieces that stand in a row, if its reference cannot be longer. -/
theorem memberAt?_eq_some_iff {cs : List Char} {m : Member} :
    memberAt? cs = some m ↔ ∃ name arguments reference rest,
      WritesMember cs name arguments reference rest ∧ rest.head?.all (!isReferenceChar ·) = true ∧
        m = { name := String.ofList name
              arguments := arguments.map String.ofList
              reference := String.ofList reference
              defaultText := (lineDefaultAt? rest).map String.ofList } := by
  constructor
  · intro h
    simp only [memberAt?, Option.bind_eq_bind, Option.bind_eq_some_iff, Prod.exists] at h
    obtain ⟨name, back, hname, arguments, behind, harguments, tail, hcolon, reference, rest,
      hreference, hm⟩ := h
    obtain ⟨rfl, hisName, -⟩ := nameAt?_eq_some_iff.mp hname
    obtain ⟨hback, hclosing, -⟩ := argumentsAt?_eq_some_iff.mp harguments
    obtain ⟨htail, hisReference, hrest⟩ := referenceAt?_eq_some_iff.mp hreference
    rw [after?_eq_some_iff] at hcolon
    obtain ⟨blanks₁, hblanks₁, hall₁⟩ := exists_blanks_append_skipBlanks back
    obtain ⟨blanks₂, hblanks₂, hall₂⟩ := exists_blanks_append_skipBlanks behind
    obtain ⟨blanks₃, hblanks₃, hall₃⟩ := exists_blanks_append_skipBlanks tail
    refine ⟨name, arguments, reference, rest,
      ⟨blanks₁, blanks₂, blanks₃, ?_, ?_, hisName, hclosing, hisReference⟩, hrest,
      (Option.some.inj hm).symm⟩
    · rw [← htail, ← hblanks₃, ← hcolon, ← hblanks₂, ← hback, ← hblanks₁]
    · exact List.forall_mem_append.mpr ⟨List.forall_mem_append.mpr ⟨hall₁, hall₂⟩, hall₃⟩
  · rintro ⟨name, arguments, reference, rest,
      ⟨blanks₁, blanks₂, blanks₃, rfl, hblanks, hname, hclosing, hreference⟩, hrest, rfl⟩
    obtain ⟨hblanks, hblanks₃⟩ := List.forall_mem_append.mp hblanks
    obtain ⟨behind, harguments, hbehind⟩ := exists_argumentsAt?_behind_name hblanks hclosing
      (blanks₃ ++ (reference ++ rest))
    have htail : skipBlanks (blanks₃ ++ (reference ++ rest)) = reference ++ rest :=
      skipBlanks_append_eq hblanks₃ (hreference.all_head?_append rest)
    have hread : referenceAt? (reference ++ rest) = some (reference, rest) :=
      referenceAt?_eq_some_iff.mpr ⟨rfl, hreference, hrest⟩
    simp [memberAt?, nameAt?_append hname (all_head?_behind_name hblanks _), harguments, hbehind,
      after?, htail, hread]

theorem memberAt?_ne_none_iff {cs : List Char} : memberAt? cs ≠ none ↔ BeginsMember cs := by
  rw [Option.ne_none_iff_exists']
  constructor
  · rintro ⟨m, hm⟩
    obtain ⟨name, arguments, reference, rest, hwrites, -⟩ := memberAt?_eq_some_iff.mp hm
    exact ⟨name, arguments, reference, rest, hwrites⟩
  · rintro ⟨name, arguments, reference, rest, hwrites⟩
    exact ⟨_, memberAt?_eq_some_iff.mpr ⟨name, arguments, _, _, hwrites.exists_longest,
      Text.all_head?_dropWhile rest, rfl⟩⟩

theorem WritesMember.takeWhile_name {cs name reference rest : List Char}
    {arguments : Option (List Char)} (h : WritesMember cs name arguments reference rest) :
    name = cs.takeWhile isNameChar ∧
      (arguments.isSome = true ↔ (skipBlanks (cs.dropWhile isNameChar)).head? = some '(') := by
  obtain ⟨blanks₁, blanks₂, blanks₃, rfl, hblanks, hname, -, -⟩ := h
  obtain ⟨hblanks, -⟩ := List.forall_mem_append.mp hblanks
  have hall : ∀ c ∈ name, isNameChar c = true := fun c hc => isNameChar_of_mem hname hc
  have hbehind := @all_head?_behind_name _ _ arguments hblanks (blanks₃ ++ (reference ++ rest))
  refine ⟨(Text.takeWhile_append_eq hall hbehind).symm, ?_⟩
  rw [Text.dropWhile_append_eq hall hbehind, head?_behind_name hblanks]
  cases arguments <;> simp

theorem WritesMember.suffix_rest {cs name reference rest : List Char}
    {arguments : Option (List Char)} (h : WritesMember cs name arguments reference rest) :
    rest <:+ cs := by
  obtain ⟨blanks₁, blanks₂, blanks₃, rfl, -⟩ := h
  exact ⟨name ++ blanks₁ ++ parenthesized arguments ++ blanks₂ ++ ':' :: blanks₃ ++ reference,
    by simp⟩

theorem map_ofList_toList (text : Option String) :
    (text.map String.toList).map String.ofList = text := by
  cases text <;> simp

theorem memberAt?_eq_some_iff_isMember {cs : List Char} {m : Member} (hnewline : '\n' ∉ cs)
    (hlast : cs.getLast?.all (!isBlank ·) = true) :
    memberAt? cs = some m ↔ ∃ rest, IsMember cs m rest := by
  rw [memberAt?_eq_some_iff]
  constructor
  · rintro ⟨name, arguments, reference, rest, hwrites, hrest, rfl⟩
    have hnewline' : '\n' ∉ rest := fun hmem => hnewline (hwrites.suffix_rest.subset hmem)
    have hlast' := Text.all_getLast?_of_suffix hwrites.suffix_rest hlast
    obtain ⟨hname, harguments⟩ := hwrites.takeWhile_name
    refine ⟨rest, ?_, by simpa using hname, by simpa using harguments, hrest, ?_, ?_⟩
    · simpa [Function.comp_def] using hwrites
    · simpa using lineDefaultAt?_isSome_iff hnewline' hlast'
    · intro text htext
      obtain ⟨value, hvalue, rfl⟩ := Option.map_eq_some_iff.mp htext
      simpa using (lineDefaultAt?_eq_some_iff hnewline').mp hvalue
  · rintro ⟨rest, h⟩
    have hnewline' : '\n' ∉ rest := fun hmem => hnewline (h.writes.suffix_rest.subset hmem)
    have hdefault : lineDefaultAt? rest = m.defaultText.map String.toList := by
      cases htext : m.defaultText with
      | none =>
        by_contra hne
        obtain ⟨value, hvalue⟩ := Option.ne_none_iff_exists'.mp hne
        obtain ⟨hvalue, hwrites, -⟩ := (lineDefaultAt?_eq_some_iff hnewline').mp hvalue
        have hsome := h.defaultText_isSome_iff.mpr ⟨value, hvalue, hwrites⟩
        simp [htext] at hsome
      | some text =>
        obtain ⟨hne, hwrites, hhead⟩ := h.defaultText_eq text htext
        exact (lineDefaultAt?_eq_some_iff hnewline').mpr ⟨by simpa using hne, hwrites, hhead⟩
    refine ⟨_, _, _, rest, h.writes, h.reference_maximal, ?_⟩
    rw [hdefault, map_ofList_toList, map_ofList_toList, String.ofList_toList, String.ofList_toList]

/-- There is one way only to tell the pieces apart, but that a reference may be cut short. -/
theorem WritesMember.eq_of_isMember {cs name reference rest rest' : List Char}
    {arguments : Option (List Char)} {m : Member}
    (h : WritesMember cs name arguments reference rest) (hm : IsMember cs m rest') :
    name = m.name.toList ∧ arguments = m.arguments.map String.toList ∧
      reference <+: m.reference.toList := by
  have hlongest := memberAt?_eq_some_iff.mpr
    ⟨_, _, _, _, h.exists_longest, Text.all_head?_dropWhile rest, rfl⟩
  have hmember := memberAt?_eq_some_iff.mpr ⟨_, _, _, _, hm.writes, hm.reference_maximal, rfl⟩
  have heq := Option.some.inj (hlongest.symm.trans hmember)
  simp only [Member.mk.injEq, String.ofList_inj] at heq
  obtain ⟨hname, harguments, hreference, -⟩ := heq
  refine ⟨hname, ?_, rest.takeWhile isReferenceChar, hreference⟩
  exact Option.map_injective (fun _ _ => String.ofList_inj.mp) harguments

/-! ### Searches -/

variable {α : Type} {shape : List Char → Option α}

/-- Where no match begins at the front, the leftmost is that of the rest of the line. -/
theorem isLeast_drop_cons_iff {c : Char} {cs : List Char} (h : shape (c :: cs) = none) {p : Nat} :
    IsLeast {p | shape ((c :: cs).drop p) ≠ none} (p + 1) ↔
      IsLeast {p | shape (cs.drop p) ≠ none} p := by
  constructor
  · rintro ⟨hp, hleast⟩
    exact ⟨by simpa using hp, fun q hq => Nat.le_of_succ_le_succ (hleast (by simpa using hq))⟩
  · rintro ⟨hp, hleast⟩
    refine ⟨by simpa using hp, fun q hq => ?_⟩
    cases q with
    | zero => exact absurd h hq
    | succ q => exact Nat.succ_le_succ (hleast hq)

/-- A search finds the leftmost match. -/
theorem firstMatch?_eq_some_iff (hnil : shape [] = none) {cs : List Char} {a : α} :
    firstMatch? shape cs = some a ↔
      ∃ p, IsLeast {p | shape (cs.drop p) ≠ none} p ∧ shape (cs.drop p) = some a := by
  induction cs with
  | nil => simp [firstMatch?, hnil]
  | cons c cs ih =>
    rw [firstMatch?]
    split
    · next b hshape =>
      have hleast : IsLeast {p | shape ((c :: cs).drop p) ≠ none} 0 :=
        ⟨by simp [hshape], fun _ _ => Nat.zero_le _⟩
      constructor
      · intro h
        exact ⟨0, hleast, by rw [List.drop_zero, hshape, h]⟩
      · rintro ⟨p, hp, hat⟩
        obtain rfl := hp.unique hleast
        rwa [List.drop_zero, hshape] at hat
    · next hshape =>
      rw [ih]
      constructor
      · rintro ⟨p, hp, hat⟩
        exact ⟨p + 1, (isLeast_drop_cons_iff hshape).mpr hp, hat⟩
      · rintro ⟨p, hp, hat⟩
        cases p with
        | zero => exact absurd hshape hp.1
        | succ p => exact ⟨p, (isLeast_drop_cons_iff hshape).mp hp, hat⟩

theorem firstMatch?_isSome_iff (hnil : shape [] = none) {cs : List Char} :
    (firstMatch? shape cs).isSome = true ↔ ∃ p, shape (cs.drop p) ≠ none := by
  rw [Option.isSome_iff_ne_none]
  constructor
  · intro h
    obtain ⟨a, ha⟩ := Option.ne_none_iff_exists'.mp h
    obtain ⟨p, hp, -⟩ := (firstMatch?_eq_some_iff hnil).mp ha
    exact ⟨p, hp.1⟩
  · rintro ⟨p, hp⟩
    refine firstMatch?_ne_none (List.drop_suffix p cs) ?_ hp
    intro hempty
    exact hp (hempty ▸ hnil)

/-- What is found in a line is found where the leftmost shape begins, and something is found if one
begins anywhere. -/
structure FindsLeftmost (found : Option α) (begins : List Char → Prop)
    (is : List Char → α → Prop) (cs : List Char) : Prop where
  isSome_iff : found.isSome = true ↔ ∃ p, begins (cs.drop p)
  eq_some_iff : ∀ a, found = some a ↔
    ∃ p, IsLeast {p | begins (cs.drop p)} p ∧ is (cs.drop p) a

theorem findsLeftmost_firstMatch? {begins : List Char → Prop} {is : List Char → α → Prop}
    {cs : List Char} (hnil : shape [] = none)
    (hbegins : ∀ p, shape (cs.drop p) ≠ none ↔ begins (cs.drop p))
    (his : ∀ p a, shape (cs.drop p) = some a ↔ is (cs.drop p) a) :
    FindsLeftmost (firstMatch? shape cs) begins is cs := by
  refine ⟨?_, fun a => ?_⟩
  · simp only [firstMatch?_isSome_iff hnil, hbegins]
  · simp only [firstMatch?_eq_some_iff hnil, hbegins, his]

/-- An introduction is found if a keyword, blanks and the start of a name stand in a row. -/
theorem findsLeftmost_intro? (cs : List Char) :
    FindsLeftmost (intro? cs) BeginsIntro IsIntro cs :=
  findsLeftmost_firstMatch? (by decide) (fun _ => introAt?_ne_none_iff)
    fun _ _ => introAt?_eq_some_iff_isIntro

/-- In a trimmed line a member is found if its pieces stand in a row. -/
theorem findsLeftmost_member? {cs : List Char} (hnewline : '\n' ∉ cs)
    (hlast : cs.getLast?.all (!isBlank ·) = true) :
    FindsLeftmost (member? cs) BeginsMember (fun back m => ∃ rest, IsMember back m rest) cs := by
  refine findsLeftmost_firstMatch? (by decide) (fun _ => memberAt?_ne_none_iff) fun p m => ?_
  have hsuffix : cs.drop p <:+ cs := List.drop_suffix p cs
  exact memberAt?_eq_some_iff_isMember (fun hmem => hnewline (hsuffix.subset hmem))
    (Text.all_getLast?_of_suffix hsuffix hlast)

end SchemaExplorer.Sdl
