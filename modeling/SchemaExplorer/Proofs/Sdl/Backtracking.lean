import SchemaExplorer.Proofs.Sdl.Grammar

/-! # Patterns and turning back

The introduction of a type and a member as patterns, and a search that tries all ways to match a
pattern: of two alternatives the left one first, of repeated characters the most first, and another
way wherever what follows does not match. The readers of lines find the same and never turn back. -/

namespace SchemaExplorer.Sdl

open Text (isBlank)

/-! ### Patterns -/

/-- What may stand at the front of a text. -/
inductive Pattern where
  /-- The text itself. -/
  | text (t : String)
  /-- One character of a class. -/
  | char (p : Char → Bool)
  /-- Any number of characters of a class. -/
  | many (p : Char → Bool)
  | seq (a b : Pattern)
  | alt (a b : Pattern)
  | maybe (a : Pattern)
  /-- What `a` matches, which is kept under a number. -/
  | group (n : Nat) (a : Pattern)

/-- What the groups of a pattern match, in the order in which they end. -/
abbrev Groups : Type := List (Nat × String)

namespace Pattern

variable {β : Type}

/-- Goes on behind characters of a class, first behind as many as there are; with fewer of them if
that has no result. -/
def runMany (p : Char → Bool) (k : List Char → Option β) : List Char → Option β
  | [] => k []
  | c :: cs => if p c then (runMany p k cs).or (k (c :: cs)) else k (c :: cs)

/-- Goes on behind what the pattern matches at the front of `cs`, in the first way in which that has
a result. -/
def run : Pattern → Groups → List Char → (Groups → List Char → Option β) → Option β
  | text t, g, cs, k => if t.toList.isPrefixOf cs then k g (cs.drop t.toList.length) else none
  | char p, g, cs, k =>
    match cs with
    | [] => none
    | c :: cs => if p c then k g cs else none
  | many p, g, cs, k => runMany p (k g) cs
  | seq a b, g, cs, k => a.run g cs fun g cs => b.run g cs k
  | alt a b, g, cs, k => (a.run g cs k).or (b.run g cs k)
  | maybe a, g, cs, k => (a.run g cs k).or (k g cs)
  | group n a, g, cs, k =>
    a.run g cs fun g rest =>
      k (g ++ [(n, String.ofList (cs.take (cs.length - rest.length)))]) rest

/-- The groups of a match at the front. -/
def matchAt? (pattern : Pattern) (cs : List Char) : Option Groups :=
  pattern.run [] cs fun g _ => some g

/-- The groups of the first match anywhere in the text, be it at its end. -/
def search (pattern : Pattern) (cs : List Char) : Option Groups :=
  (firstMatch? pattern.matchAt? cs).or (pattern.matchAt? [])

def literal (c : Char) : Pattern :=
  char (· == c)

def many1 (p : Char → Bool) : Pattern :=
  seq (char p) (many p)

def name : Pattern :=
  seq (char isNameStart) (many isNameChar)

def reference : Pattern :=
  seq (many (· == '[')) (seq (char isNameStart) (many isReferenceChar))

/-- One of the texts; of none of them, nothing. -/
def oneOf : List String → Pattern
  | [] => char fun _ => false
  | [t] => text t
  | t :: ts => alt (text t) (oneOf ts)

/-- The introduction of a type: its keyword and its name are kept. -/
def typeIntro : Pattern :=
  seq (group 1 (oneOf keywords)) (seq (many1 isBlank) (group 2 name))

def arguments : Pattern :=
  seq (literal '(') (seq (group 2 (many (· != ')'))) (literal ')'))

def defaultValue : Pattern :=
  seq (many isBlank) (seq (literal '=') (seq (many isBlank) (group 4 (many1 (· != '\n')))))

/-- What a member has behind its arguments. -/
def typed : Pattern :=
  seq (many isBlank) (seq (literal ':') (seq (many isBlank) (seq (group 3 reference)
    (maybe defaultValue))))

/-- A member: its name, arguments, reference and default value are kept. -/
def field : Pattern :=
  seq (group 1 name) (seq (many isBlank) (seq (maybe arguments) typed))

/-! ### Runs that are not cut short -/

/-- With fewer characters of the class there is a result only if there is one with the most. -/
def IsGreedy (p : Char → Bool) (k : List Char → Option β) : Prop :=
  ∀ c cs, p c = true → k (cs.dropWhile p) = none → k (c :: cs) = none

theorem runMany_eq {p : Char → Bool} {k : List Char → Option β} (h : IsGreedy p k)
    (cs : List Char) : runMany p k cs = k (cs.dropWhile p) := by
  induction cs with
  | nil => rfl
  | cons c cs ih =>
    rw [runMany]
    split
    · next hc =>
      rw [List.dropWhile_cons_of_pos hc, ih]
      cases hk : k (cs.dropWhile p) with
      | none => rw [h c cs hc hk, Option.or_none]
      | some b => rfl
    · next hc => rw [List.dropWhile_cons_of_neg hc]

/-- What a group matches is what is gone of the text. -/
theorem take_append_sub (front rest : List Char) :
    (front ++ rest).take ((front ++ rest).length - rest.length) = front := by
  simp

/-! ### Pieces -/

variable {k : Groups → List Char → Option β}

theorem run_seq (a b : Pattern) (g : Groups) (cs : List Char) :
    (seq a b).run g cs k = a.run g cs fun g cs => b.run g cs k := rfl

theorem run_literal (c : Char) (g : Groups) (cs : List Char) :
    (literal c).run g cs k = (after? c cs).bind (k g) := by
  cases cs with
  | nil => rfl
  | cons d cs => by_cases hd : d = c <;> simp [literal, run, after?, hd]

theorem run_blanks (g : Groups) (cs : List Char) (h : IsGreedy isBlank (k g)) :
    (many isBlank).run g cs k = k g (skipBlanks cs) :=
  runMany_eq h cs

theorem run_group_name (n : Nat) (g : Groups) (cs : List Char)
    (h : ∀ f : List Char → Groups, IsGreedy isNameChar fun rest => k (f rest) rest) :
    (group n name).run g cs k =
      (nameAt? cs).bind fun (name, rest) => k (g ++ [(n, String.ofList name)]) rest := by
  cases cs with
  | nil => rfl
  | cons c cs =>
    simp only [name, run, nameAt?]
    split
    · rw [runMany_eq (h _), Option.bind_some]
      have hgroup := take_append_sub (c :: cs.takeWhile isNameChar) (cs.dropWhile isNameChar)
      rw [List.cons_append, List.takeWhile_append_dropWhile] at hgroup
      rw [hgroup]
    · rfl

theorem run_group_reference (n : Nat) (g : Groups) (cs : List Char)
    (h : ∀ f : List Char → Groups, IsGreedy isReferenceChar fun rest => k (f rest) rest) :
    (group n reference).run g cs k =
      (referenceAt? cs).bind fun (reference, rest) =>
        k (g ++ [(n, String.ofList reference)]) rest := by
  simp only [reference, run]
  rw [runMany_eq, referenceAt?]
  · cases hcs : cs.dropWhile (· == '[') with
    | nil => rfl
    | cons c rest =>
      dsimp only
      split
      · rw [runMany_eq (h _), Option.bind_some]
        have hgroup := take_append_sub
          (cs.takeWhile (· == '[') ++ c :: rest.takeWhile isReferenceChar)
          (rest.dropWhile isReferenceChar)
        have hsplit : cs.takeWhile (· == '[') ++ c :: rest.takeWhile isReferenceChar ++
            rest.dropWhile isReferenceChar = cs := by
          rw [List.append_assoc, List.cons_append, List.takeWhile_append_dropWhile, ← hcs,
            List.takeWhile_append_dropWhile]
        rw [hsplit] at hgroup
        rw [hgroup]
      · rfl
  · -- A bracket that is left over does not start a name.
    intro c cs hc _
    obtain rfl : c = '[' := by simpa using hc
    rfl

theorem run_arguments (g : Groups) (cs : List Char) :
    arguments.run g cs k =
      (after? '(' cs).bind fun inside => (after? ')' (inside.dropWhile (· != ')'))).bind fun rest =>
        k (g ++ [(2, String.ofList (inside.takeWhile (· != ')')))]) rest := by
  rw [arguments, run_seq, run_literal]
  congr 1
  funext inside
  have hgreedy : IsGreedy (· != ')') fun rest =>
      (literal ')').run (g ++ [(2, String.ofList (inside.take (inside.length - rest.length)))]) rest k := by
    intro c cs hc _
    dsimp only
    rw [run_literal, after?, if_neg (by simpa using hc), Option.bind_none]
  have hgroup := take_append_sub (inside.takeWhile (· != ')')) (inside.dropWhile (· != ')'))
  rw [List.takeWhile_append_dropWhile] at hgroup
  calc (seq (group 2 (many (· != ')'))) (literal ')')).run g inside k
      = runMany (· != ')') (fun rest => (literal ')').run
          (g ++ [(2, String.ofList (inside.take (inside.length - rest.length)))]) rest k) inside := rfl
    _ = _ := by rw [runMany_eq hgreedy, hgroup, run_literal]

/-- Arguments are matched if they are there: what follows them does not begin with a parenthesis. -/
theorem run_maybe_arguments (g : Groups) (cs : List Char) (h : ∀ rest, k g ('(' :: rest) = none) :
    (maybe arguments).run g cs k =
      (argumentsAt? cs).bind fun (inside?, rest) =>
        k (g ++ inside?.toList.map fun inside => (2, String.ofList inside)) rest := by
  rw [run, run_arguments, argumentsAt?]
  cases hopen : after? '(' cs with
  | none => simp
  | some inside =>
    rw [after?_eq_some_iff.mp hopen, h, Option.or_none]
    simp [Option.bind_map]

/-- A line is matched to its end. -/
theorem run_line (n : Nat) (g : Groups) {cs : List Char} (hne : cs ≠ []) (hnewline : '\n' ∉ cs) :
    (group n (many1 (· != '\n'))).run g cs (fun g _ => some g) =
      some (g ++ [(n, String.ofList cs)]) := by
  cases cs with
  | nil => exact absurd rfl hne
  | cons c cs =>
    simp only [List.mem_cons, not_or] at hnewline
    obtain ⟨hc, hcs⟩ := hnewline
    have hall : cs.dropWhile (· != '\n') = [] := by
      rw [List.dropWhile_eq_nil_iff]
      intro d hd
      simpa using fun e : d = '\n' => hcs (e ▸ hd)
    simp only [many1, run, bne_iff_ne, ne_eq, Ne.symm hc, not_false_eq_true, if_true]
    rw [runMany_eq (by simp [IsGreedy]), hall]
    simp

theorem runMany_eq_of_some {p : Char → Bool} {k : List Char → Option β} {b : β} {cs : List Char}
    (h : k (cs.dropWhile p) = some b) : runMany p k cs = some b := by
  induction cs with
  | nil => exact h
  | cons c cs ih =>
    rw [runMany]
    split
    · next hc =>
      rw [List.dropWhile_cons_of_pos hc] at h
      rw [ih h, Option.some_or]
    · next hc => rwa [List.dropWhile_cons_of_neg hc] at h

/-- A default value is matched if it is there. -/
theorem run_maybe_defaultValue (g : Groups) {cs : List Char} (hnewline : '\n' ∉ cs)
    (hlast : cs.getLast?.all (!isBlank ·) = true) :
    (maybe defaultValue).run g cs (fun g _ => some g) =
      some (g ++ (lineDefaultAt? cs).toList.map fun value => (4, String.ofList value)) := by
  have hequals : IsGreedy isBlank fun rest => (literal '=').run g rest fun g rest =>
      (seq (many isBlank) (group 4 (many1 (· != '\n')))).run g rest fun g _ => some g := by
    intro c cs hc _
    dsimp only
    rw [run_literal, after?_cons_of_ne (ne_of_isBlank hc (by decide)), Option.bind_none]
  rw [run, defaultValue, run_seq, run_blanks _ _ hequals, run_seq, run_literal,
    lineDefaultAt?_eq hnewline]
  cases hopen : after? '=' (skipBlanks cs) with
  | none => simp
  | some rest =>
    have hsuffix : rest <:+ cs := suffix_of_after? hopen
    have hskip : '\n' ∉ skipBlanks rest :=
      fun hmem => hnewline (((skipBlanks_suffix rest).trans hsuffix).subset hmem)
    by_cases hrest : rest = []
    · subst hrest
      simp [run, runMany, many1, skipBlanks]
    · have hvalue := skipBlanks_ne_nil hrest (Text.all_getLast?_of_suffix hsuffix hlast)
      have hline := run_line 4 g hvalue hskip
      rw [Option.bind_some, run_seq, run, runMany_eq_of_some hline]
      simp [Option.filter, hvalue]

/-! ### Members -/

theorem run_typed (g : Groups) (cs : List Char) :
    typed.run g cs (fun g _ => some g) =
      (after? ':' (skipBlanks cs)).bind fun tail =>
        (referenceAt? (skipBlanks tail)).bind fun (reference, rest) =>
          (maybe defaultValue).run (g ++ [(3, String.ofList reference)]) rest fun g _ => some g := by
  have hreference : ∀ cs, (seq (group 3 reference) (maybe defaultValue)).run g cs
      (fun g _ => some g) = (referenceAt? cs).bind fun (reference, rest) =>
        (maybe defaultValue).run (g ++ [(3, String.ofList reference)]) rest fun g _ => some g := by
    intro cs
    rw [run_seq, run_group_reference]
    intro f c cs _ hnone
    simp [run] at hnone
  have hblanks : ∀ cs, (seq (many isBlank) (seq (group 3 reference) (maybe defaultValue))).run g cs
      (fun g _ => some g) = (seq (group 3 reference) (maybe defaultValue)).run g (skipBlanks cs)
        fun g _ => some g := by
    intro cs
    rw [run_seq, run_blanks]
    intro c cs hc _
    dsimp only
    rw [hreference, referenceAt?_cons_of_isBlank hc, Option.bind_none]
  rw [typed, run_seq, run_blanks, run_seq, run_literal]
  · simp only [hblanks, hreference]
  · intro c cs hc _
    dsimp only
    rw [run_seq, run_literal, after?_cons_of_ne (ne_of_isBlank hc (by decide)), Option.bind_none]

theorem run_typed_cons_of_ne {c : Char} (hblank : isBlank c = false) (hcolon : c ≠ ':')
    (g : Groups) (cs : List Char) : typed.run g (c :: cs) (fun g _ => some g) = none := by
  rw [run_typed, skipBlanks_eq_self (by simp [hblank]), after?_cons_of_ne hcolon, Option.bind_none]

theorem run_typed_skipBlanks (g : Groups) (cs : List Char) :
    typed.run g (skipBlanks cs) (fun g _ => some g) = typed.run g cs fun g _ => some g := by
  have hskip : skipBlanks (skipBlanks cs) = skipBlanks cs :=
    skipBlanks_eq_self (Text.all_head?_dropWhile cs)
  rw [run_typed, run_typed, hskip]

/-- What a member has behind its name. -/
theorem run_behind_name (g : Groups) (cs : List Char) :
    (seq (many isBlank) (seq (maybe arguments) typed)).run g cs (fun g _ => some g) =
      (argumentsAt? (skipBlanks cs)).bind fun (inside?, rest) =>
        typed.run (g ++ inside?.toList.map fun inside => (2, String.ofList inside)) rest
          fun g _ => some g := by
  have hparenthesis : ∀ g rest, typed.run g ('(' :: rest) (fun g _ => some g) = none :=
    run_typed_cons_of_ne (by decide) (by decide)
  rw [run_seq, run_blanks, run_seq, run_maybe_arguments _ _ (hparenthesis g)]
  intro c cs hc hnone
  dsimp only at hnone ⊢
  -- With a blank in front there are no arguments, and without arguments the blank does not matter.
  have hopen : arguments.run g (c :: cs) (fun g cs => typed.run g cs fun g _ => some g) = none := by
    rw [run_arguments, after?_cons_of_ne (ne_of_isBlank hc (by decide)), Option.bind_none]
  have htyped : typed.run g (c :: cs) (fun g _ => some g) = none := by
    rw [run_seq, run, Option.or_eq_none_iff] at hnone
    rw [← run_typed_skipBlanks, skipBlanks_cons_of_isBlank cs hc]
    exact hnone.2
  rw [run_seq, run, hopen, htyped, Option.or_none]

theorem run_field (cs : List Char) :
    field.run [] cs (fun g _ => some g) =
      (nameAt? cs).bind fun (name, back) =>
        (argumentsAt? (skipBlanks back)).bind fun (inside?, behind) =>
          typed.run ((1, String.ofList name) ::
            inside?.toList.map fun inside => (2, String.ofList inside)) behind fun g _ => some g := by
  rw [field, run_seq, run_group_name]
  · simp only [run_behind_name, List.nil_append, List.singleton_append]
  · intro f c cs hc _
    have hblank : isBlank c = false := isBlank_of_isNameChar hc
    have hne : ∀ d, isNameChar d = false → c ≠ d := by
      rintro d hd rfl
      simp [hc] at hd
    dsimp only
    rw [run_behind_name, skipBlanks_eq_self (by simp [hblank]), argumentsAt?,
      after?_cons_of_ne (hne '(' (by decide))]
    exact run_typed_cons_of_ne hblank (hne ':' (by decide)) _ cs

end Pattern

/-- The groups of the pattern of members. -/
def Member.groups (m : Member) : Groups :=
  (1, m.name) :: (m.arguments.toList.map (2, ·) ++ (3, m.reference) ::
    m.defaultText.toList.map (4, ·))

namespace Pattern

/-- Turning back gives no member that is not read without. -/
theorem matchAt?_field {cs : List Char} (hnewline : '\n' ∉ cs)
    (hlast : cs.getLast?.all (!isBlank ·) = true) :
    field.matchAt? cs = (memberAt? cs).map Member.groups := by
  have hkeep : ∀ (n : Nat) (text : Option (List Char)),
      text.toList.map (fun value => (n, String.ofList value)) =
        (text.map String.ofList).toList.map (n, ·) := by
    intro n text
    cases text <;> rfl
  rw [matchAt?, run_field, memberAt?]
  cases hname : nameAt? cs with
  | none => rfl
  | some pair =>
    obtain ⟨name, back⟩ := pair
    cases harguments : argumentsAt? (skipBlanks back) with
    | none => simp [harguments]
    | some pair =>
      obtain ⟨inside?, behind⟩ := pair
      cases hcolon : after? ':' (skipBlanks behind) with
      | none => simp [run_typed, harguments, hcolon]
      | some tail =>
        cases hreference : referenceAt? (skipBlanks tail) with
        | none => simp [run_typed, harguments, hcolon, hreference]
        | some pair =>
          obtain ⟨reference, rest⟩ := pair
          have hrest : rest <:+ cs :=
            (((suffix_of_referenceAt? hreference).trans (suffix_of_after? hcolon)).trans
              (suffix_of_argumentsAt? harguments)).trans (suffix_of_nameAt? hname)
          have hdefault := fun g => run_maybe_defaultValue g
            (fun hmem => hnewline (hrest.subset hmem)) (Text.all_getLast?_of_suffix hrest hlast)
          simp [run_typed, harguments, hcolon, hreference, hdefault, hkeep, Member.groups]

/-! ### Introductions -/

/-- No keyword begins another. -/
theorem not_prefix_keywords :
    keywords.Pairwise fun t u => ¬ t.toList <+: u.toList ∧ ¬ u.toList <+: t.toList := by
  decide

/-- Of texts of which none begins another, at most one is at the front. -/
theorem run_oneOf {ts : List String}
    (h : ts.Pairwise fun t u => ¬ t.toList <+: u.toList ∧ ¬ u.toList <+: t.toList)
    (g : Groups) (cs : List Char) :
    (oneOf ts).run g cs k =
      (ts.find? fun t => t.toList.isPrefixOf cs).bind fun t => k g (cs.drop t.toList.length) := by
  induction ts with
  | nil => cases cs <;> rfl
  | cons t ts ih =>
    obtain ⟨ht, hts⟩ := List.pairwise_cons.mp h
    have hrun : (oneOf (t :: ts)).run g cs k = ((text t).run g cs k).or ((oneOf ts).run g cs k) := by
      cases ts with
      | nil =>
        have hnone : (oneOf []).run g cs k = none := by cases cs <;> rfl
        rw [hnone, Option.or_none]
        rfl
      | cons u ts => rfl
    rw [hrun, ih hts, run]
    by_cases hfront : t.toList.isPrefixOf cs = true
    · have hothers : ts.find? (fun u => u.toList.isPrefixOf cs) = none := by
        rw [List.find?_eq_none]
        intro u hu hother
        rw [List.isPrefixOf_iff_prefix] at hfront hother
        rcases List.prefix_or_prefix_of_prefix hfront hother with hle | hle
        · exact (ht u hu).1 hle
        · exact (ht u hu).2 hle
      simp [hfront, hothers]
    · simp [hfront]

theorem run_group_keyword (n : Nat) (g : Groups) (cs : List Char) :
    (group n (oneOf keywords)).run g cs k =
      (keywordAt? cs).bind fun (keyword, rest) => k (g ++ [(n, keyword)]) rest := by
  rw [run, run_oneOf not_prefix_keywords, keywordAt?, Option.bind_map]
  refine Option.bind_congr fun t ht => ?_
  have hfront : t.toList <+: cs := by
    rw [← List.isPrefixOf_iff_prefix]
    simpa using List.find?_some ht
  obtain ⟨rest, rfl⟩ := hfront
  simp

end Pattern

/-- The groups of the pattern of introductions. -/
def Intro.groups (i : Intro) : Groups :=
  [(1, i.keyword), (2, i.name)]

namespace Pattern

theorem matchAt?_typeIntro (cs : List Char) :
    typeIntro.matchAt? cs = (introAt? cs).map Intro.groups := by
  have hname : ∀ g cs, (group 2 name).run g cs (fun g _ => some g) =
      (nameAt? cs).bind fun (name, _) => some (g ++ [(2, String.ofList name)]) := by
    intro g cs
    rw [run_group_name]
    intro f c cs _ hnone
    simp at hnone
  have hblanks : ∀ g cs, (many isBlank).run g cs (fun g cs => (group 2 name).run g cs
      fun g _ => some g) = (group 2 name).run g (skipBlanks cs) fun g _ => some g := by
    intro g cs
    rw [run_blanks]
    intro c cs hc _
    dsimp only
    rw [hname, nameAt?_cons_of_isBlank hc, Option.bind_none]
  rw [matchAt?, typeIntro, run_seq, run_group_keyword, introAt?]
  cases hkeyword : keywordAt? cs with
  | none => rfl
  | some pair =>
    obtain ⟨t, rest⟩ := pair
    cases rest with
    | nil => rfl
    | cons c rest =>
      by_cases hc : isBlank c = true
      · have hskip : skipBlanks (c :: rest) = skipBlanks rest := skipBlanks_cons_of_isBlank rest hc
        have hone : ∀ g, (many1 isBlank).run g (c :: rest) (fun g cs => (group 2 name).run g cs
            fun g _ => some g) = (group 2 name).run g (skipBlanks rest) fun g _ => some g := by
          intro g
          rw [many1, run_seq, run, if_pos hc, hblanks]
        rw [Option.bind_some]
        dsimp only
        rw [run_seq, hone, hname]
        cases hfound : nameAt? (skipBlanks rest) <;> simp [hskip, hfound, hc, Intro.groups]
      · simp [many1, run_seq, run, hc]

/-! ### Searches -/

/-- Where two shapes are the same at the front of each end of the line, so are the first matches. -/
theorem firstMatch?_eq_map {α : Type} {shape : List Char → Option α}
    {other : List Char → Option β} {f : α → β} {cs : List Char}
    (h : ∀ back, back <:+ cs → other back = (shape back).map f) :
    firstMatch? other cs = (firstMatch? shape cs).map f := by
  induction cs with
  | nil => rfl
  | cons c cs ih =>
    rw [firstMatch?, firstMatch?, h _ List.suffix_rfl,
      ih fun back hback => h back (hback.trans (List.suffix_cons c cs))]
    cases shape (c :: cs) <;> rfl

theorem search_typeIntro (cs : List Char) :
    typeIntro.search cs = (intro? cs).map Intro.groups := by
  have hend : typeIntro.matchAt? [] = none := rfl
  rw [search, hend, Option.or_none]
  exact firstMatch?_eq_map fun back _ => matchAt?_typeIntro back

theorem search_field {cs : List Char} (hnewline : '\n' ∉ cs)
    (hlast : cs.getLast?.all (!isBlank ·) = true) :
    field.search cs = (member? cs).map Member.groups := by
  have hend : field.matchAt? [] = none := rfl
  rw [search, hend, Option.or_none]
  exact firstMatch?_eq_map fun back hback => matchAt?_field
    (fun hmem => hnewline (hback.subset hmem)) (Text.all_getLast?_of_suffix hback hlast)

/-- Of every trimmed line: a search with either pattern has the groups of what is read, and that is
found if, and where first, its pieces stand in a row: a keyword, blanks and a name, or the pieces of
a member. Wherever the pieces of a member stand in a row there is one way only to tell them apart,
but that the reference may be cut short. -/
theorem search_findsLeftmost {cs : List Char} (hstripped : Text.isStripped isBlank cs = true)
    (hnewline : '\n' ∉ cs) :
    (typeIntro.search cs = (intro? cs).map Intro.groups ∧
      FindsLeftmost (intro? cs) BeginsIntro IsIntro cs) ∧
    (field.search cs = (member? cs).map Member.groups ∧
      FindsLeftmost (member? cs) BeginsMember (fun back m => ∃ rest, IsMember back m rest) cs) ∧
    ∀ p name arguments reference rest m rest',
      WritesMember (cs.drop p) name arguments reference rest → IsMember (cs.drop p) m rest' →
        name = m.name.toList ∧ arguments = m.arguments.map String.toList ∧
          reference <+: m.reference.toList := by
  have hlast : cs.getLast?.all (!isBlank ·) = true := ((Bool.and_eq_true _ _).mp hstripped).2
  exact ⟨⟨search_typeIntro cs, findsLeftmost_intro? cs⟩,
    ⟨search_field hnewline hlast, findsLeftmost_member? hnewline hlast⟩,
    fun p name arguments reference rest m rest' h hm => h.eq_of_isMember hm⟩

/-! In `subtype\u3000 Q9(a) :[T = b)` the keyword counts within the longer word, a name follows it
behind blanks, and the member begins there too: its reference ends at the blank, and its default
value is `b)`. -/

theorem search_findsLeftmost_subtype :
    Text.isStripped isBlank "subtype\u3000 Q9(a) :[T = b)".toList = true ∧
    '\n' ∉ "subtype\u3000 Q9(a) :[T = b)".toList ∧
    typeIntro.search "subtype\u3000 Q9(a) :[T = b)".toList = some [(1, "type"), (2, "Q9")] ∧
    field.search "subtype\u3000 Q9(a) :[T = b)".toList =
      some [(1, "Q9"), (2, "a"), (3, "[T"), (4, "b)")] := by
  have hstripped : Text.isStripped isBlank "subtype\u3000 Q9(a) :[T = b)".toList = true := by decide
  have hnewline : '\n' ∉ "subtype\u3000 Q9(a) :[T = b)".toList := by decide
  obtain ⟨⟨hintro, -⟩, ⟨hmember, -⟩, -⟩ := search_findsLeftmost hstripped hnewline
  refine ⟨hstripped, hnewline, ?_, ?_⟩
  · rw [hintro]
    decide
  · rw [hmember]
    decide

end Pattern

end SchemaExplorer.Sdl
