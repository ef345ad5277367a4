import Mathlib.Data.Option.Basic
import SchemaExplorer.Proofs.Sdl.Name
import SchemaExplorer.Sdl.Reader

/-! # What a line does to a reader

One equation for each thing that a line can do, and what follows from it for a whole text. The
proofs about readers go through these equations and do not look into the reader. -/

namespace SchemaExplorer.Sdl

/-! ### Lines -/

/-- A brace opens on the line. -/
def opensBrace (cs : List Char) : Bool :=
  cs.contains '{'

/-- A line on which braces only close. It ends the type that is being read. -/
def isClosing (cs : List Char) : Bool :=
  cs.contains '}' && !cs.contains '{'

/-- What a line is, without the blanks at its ends. -/
def lineOf (line : String) : Line :=
  Line.classify (Text.trimChars line.toList)

/-- A line that begins like a name is an introduction if there is one in it; it is no comment and
no description. -/
theorem classify_of_isNameStart {cs : List Char} (h : cs.head?.any isNameStart = true) :
    Line.classify cs = (intro? cs).elim .other .intro := by
  cases cs with
  | nil => simp at h
  | cons c cs =>
    have hne : ∀ d, isNameStart d = false → c ≠ d := by
      rintro d hd rfl
      simp [hd] at h
    have hquote : c ≠ '"' := hne '"' (by decide)
    have hcomment : c ≠ '#' := hne '#' (by decide)
    have hdescription : description? (c :: cs) = none := by
      rw [description?, after?, if_neg hquote]
      rfl
    simp only [Line.classify, List.isEmpty_cons, List.isPrefixOf, beq_false_of_ne hquote.symm,
      beq_false_of_ne hcomment.symm, Bool.false_and, Bool.or_false, hdescription]
    cases intro? (c :: cs) <;> rfl

/-- The line is a text in quotes, with no quote in it, and this describes what comes next, without
the blanks at its ends. -/
def Describes (cs : List Char) (text : String) : Prop :=
  ∃ inside : String, cs = '"' :: (inside.toList ++ ['"']) ∧ '"' ∉ inside.toList ∧
    text = Text.trim inside

theorem description?_eq_some_iff {cs : List Char} {inside : String} :
    description? cs = some inside ↔
      cs = '"' :: (inside.toList ++ ['"']) ∧ '"' ∉ inside.toList := by
  simp only [description?, Option.bind_eq_bind, Option.bind_eq_some_iff, after?_eq_some_iff,
    Option.guard_eq_some', exists_const, Option.some.injEq]
  constructor
  · rintro ⟨behind, rfl, hend, rfl⟩
    rw [String.toList_ofList]
    refine ⟨?_, fun hmem => by simpa using List.mem_takeWhile_imp hmem⟩
    rw [← hend, List.takeWhile_append_dropWhile]
  · rintro ⟨rfl, hquote⟩
    have hinside : ∀ c ∈ inside.toList, (c != '"') = true := by
      intro c hc
      rw [bne_iff_ne]
      rintro rfl
      exact hquote hc
    refine ⟨inside.toList ++ ['"'], rfl, ?_, ?_⟩
    · simp [List.dropWhile_append_of_pos hinside]
    · simp [List.takeWhile_append_of_pos hinside]

theorem classify_eq_description_iff {cs : List Char} {text : String} :
    Line.classify cs = .description text ↔ Describes cs text := by
  constructor
  · intro h
    rw [Line.classify] at h
    split at h
    · simp at h
    · split at h
      · next inside hread =>
        obtain ⟨hcs, hquote⟩ := description?_eq_some_iff.mp hread
        exact ⟨inside, hcs, hquote, (Line.description.inj h).symm⟩
      · split at h <;> simp at h
  · rintro ⟨inside, rfl, hquote, rfl⟩
    have hquotes : ['"', '"', '"'].isPrefixOf ('"' :: (inside.toList ++ ['"'])) = false := by
      cases hlist : inside.toList with
      | nil => rfl
      | cons c rest =>
        have hc : '"' ≠ c := by
          rintro rfl
          exact hquote (by simp [hlist])
        simp [List.isPrefixOf, hc]
    have hcomment : ['#'].isPrefixOf ('"' :: (inside.toList ++ ['"'])) = false := rfl
    rw [Line.classify, description?_eq_some_iff.mpr ⟨rfl, hquote⟩, hquotes, hcomment]
    rfl

theorem Describes.unique {cs : List Char} {text other : String} (h : Describes cs text)
    (h' : Describes cs other) : text = other :=
  Line.description.inj
    ((classify_eq_description_iff.mpr h).symm.trans (classify_eq_description_iff.mpr h'))

theorem isClosing_of_opensBrace {cs : List Char} (h : opensBrace cs = true) :
    isClosing cs = false := by
  rw [opensBrace] at h
  rw [isClosing, h, Bool.not_true, Bool.and_false]

theorem intro?_of_lineOf {line : String} {i : Intro} (h : lineOf line = .intro i) :
    intro? (Text.trimChars line.toList) = some i := by
  rw [lineOf, Line.classify] at h
  split at h
  · simp at h
  · split at h
    · simp at h
    · split at h
      · next hi => rw [hi, Line.intro.inj h]
      · simp at h

theorem intro?_of_lineOf_eq_other {line : String} (h : lineOf line = .other) :
    intro? (Text.trimChars line.toList) = none := by
  rw [lineOf, Line.classify] at h
  split at h
  · simp at h
  · split at h
    · simp at h
    · split at h
      · simp at h
      · assumption

namespace Reader

theorem readLines_concat (r : Reader) (lines : List String) (line : String) :
    r.readLines (lines ++ [line]) = (r.readLines lines).readLine line := by
  rw [readLines_append]
  rfl

theorem readLine_of_ignored {r : Reader} {line : String} (h : lineOf line = .ignored) :
    r.readLine line = r := by
  unfold lineOf at h
  simp [readLine, h]

theorem readLine_of_description {r : Reader} {line text : String}
    (h : lineOf line = .description text) :
    r.readLine line = { r with description := some text } := by
  unfold lineOf at h
  simp [readLine, h]

theorem readLine_of_intro {r : Reader} {line : String} {i : Intro} (h : lineOf line = .intro i) :
    r.readLine line = r.startType i (Text.trimChars line.toList) := by
  unfold lineOf at h
  simp [readLine, h]

theorem readLine_of_other {r : Reader} {line : String} (h : lineOf line = .other) :
    r.readLine line = r.readOther (Text.trimChars line.toList) := by
  unfold lineOf at h
  simp [readLine, h]

/-! ### Introductions -/

/-- The type that a line introduces, as far as that line goes. -/
def introduced (i : Intro) (cs : List Char) (description : Option String) : TypeDefinition :=
  let kind := TypeKind.classify i.keyword i.name
  { TypeDefinition.declare i.name kind description with
    possibleTypes := if kind = .union then possibleTypes cs else [] }

theorem startType_eq (r : Reader) (i : Intro) (cs : List Char) :
    r.startType i cs =
      if (TypeKind.classify i.keyword i.name).isSelfTerminating then
        { definitions := r.settled ++ [introduced i cs r.description]
          place := .outside
          description := none }
      else
        { definitions := r.settled
          place := if opensBrace cs then .body (introduced i cs r.description)
            else .header (introduced i cs r.description)
          description := none } := by
  by_cases h : (TypeKind.classify i.keyword i.name).isSelfTerminating = true
  · simp [startType, introduced, h]
  · have hunion : TypeKind.classify i.keyword i.name ≠ .union := fun e => by
      simp [e, TypeKind.isSelfTerminating] at h
    simp [startType, introduced, h, hunion, TypeDefinition.declare, opensBrace]

theorem finish_startType (r : Reader) (i : Intro) (cs : List Char) :
    (r.startType i cs).finish = r.settled ++ [introduced i cs r.description] := by
  rw [startType_eq]
  split
  · simp [finish, Place.type?]
  · simp only [finish]
    split <;> simp [Place.type?]

/-! ### Other lines -/

theorem readOther_outside {r : Reader} (h : r.place = .outside) (cs : List Char) :
    r.readOther cs = r := by
  simp [readOther, h]

theorem readOther_header {r : Reader} {d : TypeDefinition} (h : r.place = .header d)
    (cs : List Char) :
    r.readOther cs =
      if opensBrace cs then { r with place := .body d }
      else if isClosing cs then r.closeType
      else r := by
  by_cases hopen : '{' ∈ cs <;> simp [readOther, h, opensBrace, isClosing, hopen]

theorem readOther_body {r : Reader} {d : TypeDefinition} (h : r.place = .body d)
    (cs : List Char) :
    r.readOther cs = if isClosing cs then r.closeType else r.readMember d cs := by
  simp [readOther, h, isClosing]

theorem finish_closeType (r : Reader) : r.closeType.finish = r.finish := by
  simp [closeType, finish, Place.type?]

/-- All that a line can do that is neither a description nor an introduction. -/
theorem readOther_cases (r : Reader) (cs : List Char) :
    r.readOther cs = r ∨
    (∃ d, r.place = .header d ∧ r.readOther cs = { r with place := .body d }) ∨
    r.readOther cs = r.closeType ∨
    ∃ d m, r.place = .body d ∧ member? cs = some m ∧
      r.readOther cs =
        { r with place := .body (addMember d m r.description), description := none } := by
  cases hp : r.place with
  | outside => exact .inl (readOther_outside hp cs)
  | header d =>
    rw [readOther_header hp]
    split
    · exact .inr (.inl ⟨d, rfl, rfl⟩)
    · split
      · exact .inr (.inr (.inl rfl))
      · exact .inl rfl
  | body d =>
    rw [readOther_body hp]
    split
    · exact .inr (.inr (.inl rfl))
    · cases hm : member? cs with
      | none => simp [readMember, hm]
      | some m => exact .inr (.inr (.inr ⟨d, m, rfl, rfl, by simp [readMember, hm]⟩))

end Reader

end SchemaExplorer.Sdl
