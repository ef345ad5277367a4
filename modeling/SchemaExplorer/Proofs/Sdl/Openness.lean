import Mathlib.Data.List.GetD
import SchemaExplorer.Proofs.Sdl.Layout

/-! # What is open in front of a line

Whether a type is open in front of a line, whether its body has begun, and what the line then does,
said of the lines of a text by their numbers. None of this asks a reader; a reader that has read the
lines in front of a line stands where these say. -/

namespace SchemaExplorer.Sdl

/-- The kind of the type that is introduced. -/
def Intro.kind (i : Intro) : TypeKind :=
  TypeKind.classify i.keyword i.name

/-! ### Lines by their numbers -/

section

variable (lines : List String)

/-- Line `n` without the blanks at its ends. Behind the last line all are empty. -/
def charsAt (n : Nat) : List Char :=
  Text.trimChars (lines.getD n "").toList

def lineAt (n : Nat) : Line :=
  Line.classify (charsAt lines n)

/-- In front of line `n` the type that line `h` introduces is open: it has a body, and no line
between the two ends it or introduces another type. -/
structure IsOpen (h n : Nat) (i : Intro) : Prop where
  lt : h < n
  intro : lineAt lines h = .intro i
  hasBody : i.kind.isSelfTerminating = false
  noIntro : ∀ j, h < j → j < n → ∀ other, lineAt lines j ≠ .intro other
  noClosing : ∀ j, h < j → j < n → lineAt lines j = .other → isClosing (charsAt lines j) = false

/-- In front of line `n` a brace has opened on line `h` or behind it. -/
def HasBegun (h n : Nat) : Prop :=
  ∃ j, h ≤ j ∧ j < n ∧ (j = h ∨ lineAt lines j = .other) ∧ opensBrace (charsAt lines j) = true

/-- Line `n` is read as a member of the type that line `h` introduces. -/
structure TakesMember (h n : Nat) (m : Member) : Prop where
  isOpen : ∃ i, IsOpen lines h n i
  hasBegun : HasBegun lines h n
  isOther : lineAt lines n = .other
  notClosing : isClosing (charsAt lines n) = false
  isMember : member? (charsAt lines n) = some m

/-- Line `n` ends a type that is open. -/
def Closes (n : Nat) : Prop :=
  (∃ h i, IsOpen lines h n i) ∧ lineAt lines n = .other ∧ isClosing (charsAt lines n) = true

end

variable {lines : List String} {h h' n : Nat} {i i' : Intro}

theorem lineAt_eq_description_iff {text : String} :
    lineAt lines n = .description text ↔ Describes (charsAt lines n) text :=
  classify_eq_description_iff

theorem IsOpen.unique (hopen : IsOpen lines h n i) (hopen' : IsOpen lines h' n i') : h = h' := by
  rcases Nat.lt_trichotomy h h' with hlt | heq | hlt
  · exact absurd hopen'.intro (hopen.noIntro h' hlt hopen'.lt i')
  · exact heq
  · exact absurd hopen.intro (hopen'.noIntro h hlt hopen.lt i)

/-- A line keeps a type open that it neither ends nor follows up with another. -/
theorem isOpen_succ_iff : IsOpen lines h (n + 1) i ↔
    (h = n ∧ lineAt lines n = .intro i ∧ i.kind.isSelfTerminating = false) ∨
    (IsOpen lines h n i ∧ (∀ other, lineAt lines n ≠ .intro other) ∧
      (lineAt lines n = .other → isClosing (charsAt lines n) = false)) := by
  constructor
  · intro hopen
    rcases Nat.lt_succ_iff_lt_or_eq.mp hopen.lt with hlt | rfl
    · refine .inr ⟨⟨hlt, hopen.intro, hopen.hasBody, fun j hj hjn => ?_, fun j hj hjn => ?_⟩, ?_,
        ?_⟩
      · exact hopen.noIntro j hj (by omega)
      · exact hopen.noClosing j hj (by omega)
      · exact hopen.noIntro n hlt (by omega)
      · exact hopen.noClosing n hlt (by omega)
    · exact .inl ⟨rfl, hopen.intro, hopen.hasBody⟩
  · rintro (⟨rfl, hintro, hbody⟩ | ⟨hopen, hintro, hclosing⟩)
    · exact ⟨by omega, hintro, hbody, fun j hj hjn => by omega, fun j hj hjn => by omega⟩
    · refine ⟨Nat.lt_succ_of_lt hopen.lt, hopen.intro, hopen.hasBody, fun j hj hjn => ?_,
        fun j hj hjn => ?_⟩
      · rcases Nat.lt_succ_iff_lt_or_eq.mp hjn with hlt | rfl
        · exact hopen.noIntro j hj hlt
        · exact hintro
      · rcases Nat.lt_succ_iff_lt_or_eq.mp hjn with hlt | rfl
        · exact hopen.noClosing j hj hlt
        · exact hclosing

theorem hasBegun_succ_iff : HasBegun lines h (n + 1) ↔
    HasBegun lines h n ∨
      (h ≤ n ∧ (n = h ∨ lineAt lines n = .other) ∧ opensBrace (charsAt lines n) = true) := by
  constructor
  · rintro ⟨j, hj, hjn, hread, hbrace⟩
    rcases Nat.lt_succ_iff_lt_or_eq.mp hjn with hlt | rfl
    · exact .inl ⟨j, hj, hlt, hread, hbrace⟩
    · exact .inr ⟨hj, hread, hbrace⟩
  · rintro (⟨j, hj, hjn, hread, hbrace⟩ | ⟨hn, hread, hbrace⟩)
    · exact ⟨j, hj, by omega, hread, hbrace⟩
    · exact ⟨n, hn, by omega, hread, hbrace⟩

/-- What a line leaves open that introduces no type. -/
theorem isOpen_succ_iff_of_not_intro (hintro : ∀ other, lineAt lines n ≠ .intro other) :
    IsOpen lines h (n + 1) i ↔
      IsOpen lines h n i ∧ (lineAt lines n = .other → isClosing (charsAt lines n) = false) := by
  rw [isOpen_succ_iff]
  constructor
  · rintro (⟨-, he, -⟩ | ⟨hopen, -, hclosing⟩)
    · exact absurd he (hintro i)
    · exact ⟨hopen, hclosing⟩
  · exact fun ⟨hopen, hclosing⟩ => .inr ⟨hopen, hintro, hclosing⟩

theorem hasBegun_succ_iff_of_ne (hn : h < n) (hother : lineAt lines n ≠ .other) :
    HasBegun lines h (n + 1) ↔ HasBegun lines h n := by
  rw [hasBegun_succ_iff]
  constructor
  · rintro (hbegun | ⟨-, rfl | he, -⟩)
    · exact hbegun
    · omega
    · exact absurd he hother
  · exact .inl

/-! ### Readers in front of a line -/

/-- The reader that has read the lines in front of line `n`. -/
def readTo (lines : List String) (n : Nat) : Reader :=
  Reader.start.readLines (lines.take n)

theorem readTo_succ (lines : List String) (n : Nat) :
    readTo lines (n + 1) = (readTo lines n).readLine (lines.getD n "") := by
  by_cases hn : n < lines.length
  · rw [readTo, List.take_succ_eq_append_getElem hn, Reader.readLines_concat,
      List.getD_eq_getElem _ _ hn]
    rfl
  · have hle : lines.length ≤ n := Nat.le_of_not_lt hn
    rw [readTo, readTo, List.take_of_length_le hle, List.take_of_length_le (by omega),
      List.getD_eq_default _ _ hle, Reader.readLine_empty]

/-- The place of a reader in front of line `n`, by what is open there. -/
def Place.IsAt (lines : List String) (n : Nat) : Place → Prop
  | .outside => ∀ h i, ¬ IsOpen lines h n i
  | .header _ => ∃ h i, IsOpen lines h n i ∧ ¬ HasBegun lines h n
  | .body _ => ∃ h i, IsOpen lines h n i ∧ HasBegun lines h n

theorem Place.IsAt.succ_of_ne {p : Place} (hp : p.IsAt lines n)
    (hintro : ∀ other, lineAt lines n ≠ .intro other) (hother : lineAt lines n ≠ .other) :
    p.IsAt lines (n + 1) := by
  have hopen : ∀ h i, IsOpen lines h (n + 1) i ↔ IsOpen lines h n i := fun h i => by
    rw [isOpen_succ_iff_of_not_intro hintro]
    exact and_iff_left fun he => absurd he hother
  cases p with
  | outside => exact fun h i hopen' => hp h i ((hopen h i).mp hopen')
  | header d =>
    obtain ⟨h, i, hi, hbegun⟩ := hp
    exact ⟨h, i, (hopen h i).mpr hi, (hasBegun_succ_iff_of_ne hi.lt hother).not.mpr hbegun⟩
  | body d =>
    obtain ⟨h, i, hi, hbegun⟩ := hp
    exact ⟨h, i, (hopen h i).mpr hi, (hasBegun_succ_iff_of_ne hi.lt hother).mpr hbegun⟩

theorem isAt_startType {r : Reader} (hintro : lineAt lines n = .intro i) :
    (r.startType i (charsAt lines n)).place.IsAt lines (n + 1) := by
  rw [Reader.startType_eq]
  split
  · next hself =>
    rintro h j hopen
    rcases isOpen_succ_iff.mp hopen with ⟨-, he, hbody⟩ | ⟨-, hne, -⟩
    · obtain rfl := Line.intro.inj (hintro.symm.trans he)
      exact absurd hself (by simpa [Intro.kind] using hbody)
    · exact hne i hintro
  · next hself =>
    have hopen : IsOpen lines n (n + 1) i :=
      isOpen_succ_iff.mpr (.inl ⟨rfl, hintro, by simpa [Intro.kind] using hself⟩)
    have hbegun : HasBegun lines n (n + 1) ↔ opensBrace (charsAt lines n) = true := by
      rw [hasBegun_succ_iff]
      constructor
      · rintro (⟨j, hj, hjn, -⟩ | ⟨-, -, hbrace⟩)
        · omega
        · exact hbrace
      · exact fun hbrace => .inr ⟨le_rfl, .inl rfl, hbrace⟩
    dsimp only
    split
    · next hbrace => exact ⟨n, i, hopen, hbegun.mpr hbrace⟩
    · next hbrace => exact ⟨n, i, hopen, hbegun.not.mpr hbrace⟩

/-- A line that is neither a description nor an introduction may begin the body of a type or do
nothing, end a type, or be read as a member. -/
theorem readOther_of_isAt {r : Reader} (hp : r.place.IsAt lines n)
    (hother : lineAt lines n = .other) :
    (∃ p : Place, r.readOther (charsAt lines n) = { r with place := p } ∧
      p.type? = r.place.type? ∧ p.IsAt lines (n + 1) ∧ ¬ Closes lines n ∧
      ∀ h m, ¬ TakesMember lines h n m) ∨
    (r.readOther (charsAt lines n) = r.closeType ∧ Closes lines n ∧
      Place.outside.IsAt lines (n + 1)) ∨
    ∃ h d m, r.place = .body d ∧ TakesMember lines h n m ∧
      (∀ e, (Place.body e).IsAt lines (n + 1)) ∧
      r.readOther (charsAt lines n) =
        { r with place := .body (addMember d m r.description), description := none } := by
  have hintro : ∀ other, lineAt lines n ≠ .intro other := fun i he => by simp [hother] at he
  have hkeep : ∀ {h i}, isClosing (charsAt lines n) = false → IsOpen lines h n i →
      IsOpen lines h (n + 1) i := fun hclosing hi =>
    (isOpen_succ_iff_of_not_intro hintro).mpr ⟨hi, fun _ => hclosing⟩
  have hclose : isClosing (charsAt lines n) = true → Place.outside.IsAt lines (n + 1) :=
    fun hclosing h i hopen => by
      have hne := ((isOpen_succ_iff_of_not_intro hintro).mp hopen).2 hother
      simp [hclosing] at hne
  have hnot : isClosing (charsAt lines n) = false → ¬ Closes lines n := fun hclosing hc => by
    have hc' := hc.2.2
    simp [hclosing] at hc'
  cases hplace : r.place with
  | outside =>
    rw [hplace] at hp
    refine .inl ⟨.outside, ?_, rfl, ?_, fun ⟨⟨h, i, hi⟩, _⟩ => hp h i hi, fun h m hm => ?_⟩
    · rw [Reader.readOther_outside hplace, ← hplace]
    · exact fun h i hopen => hp h i ((isOpen_succ_iff_of_not_intro hintro).mp hopen).1
    · obtain ⟨i, hi⟩ := hm.isOpen
      exact hp h i hi
  | header d =>
    rw [hplace] at hp
    obtain ⟨h, i, hi, hbegun⟩ := hp
    -- the one type that is open has no body yet, so nothing is read as a member
    have hm : ∀ h m, ¬ TakesMember lines h n m := fun h' m hm => by
      obtain ⟨i', hi'⟩ := hm.isOpen
      obtain rfl := hi.unique hi'
      exact hbegun hm.hasBegun
    rw [Reader.readOther_header hplace]
    split
    · next hbrace =>
      have hclosing := isClosing_of_opensBrace hbrace
      exact .inl ⟨.body d, rfl, rfl, ⟨h, i, hkeep hclosing hi,
        hasBegun_succ_iff.mpr (.inr ⟨hi.lt.le, .inr hother, hbrace⟩)⟩, hnot hclosing, hm⟩
    · next hbrace =>
      split
      · next hclosing => exact .inr (.inl ⟨rfl, ⟨⟨h, i, hi⟩, hother, hclosing⟩, hclose hclosing⟩)
      · next hclosing =>
        have hclosing : isClosing (charsAt lines n) = false := by simpa using hclosing
        refine .inl ⟨.header d, by rw [← hplace], rfl, ⟨h, i, hkeep hclosing hi, fun he => ?_⟩,
          hnot hclosing, hm⟩
        rcases hasBegun_succ_iff.mp he with he | ⟨-, -, he⟩
        · exact hbegun he
        · exact hbrace he
  | body d =>
    rw [hplace] at hp
    obtain ⟨h, i, hi, hbegun⟩ := hp
    rw [Reader.readOther_body hplace]
    split
    · next hclosing => exact .inr (.inl ⟨rfl, ⟨⟨h, i, hi⟩, hother, hclosing⟩, hclose hclosing⟩)
    · next hclosing =>
      have hclosing : isClosing (charsAt lines n) = false := by simpa using hclosing
      have hbody : ∀ e, (Place.body e).IsAt lines (n + 1) := fun e =>
        ⟨h, i, hkeep hclosing hi, hasBegun_succ_iff.mpr (.inl hbegun)⟩
      cases hmember : member? (charsAt lines n) with
      | none =>
        refine .inl ⟨.body d, ?_, rfl, hbody d, hnot hclosing, fun h m hm => ?_⟩
        · rw [Reader.readMember, hmember, ← hplace]
        · simp [hm.isMember] at hmember
      | some m =>
        refine .inr (.inr ⟨h, d, m, rfl, ⟨⟨i, hi⟩, hbegun, hother, hclosing, hmember⟩, hbody, ?_⟩)
        rw [Reader.readMember, hmember]

end SchemaExplorer.Sdl
