import Mathlib.Data.List.Forall2
import SchemaExplorer.Proofs.Sdl.Openness
import SchemaExplorer.Proofs.Sdl.Segment

/-! # Types and fields by the lines they come from

Which types and fields the lines of a text leave, with which descriptions, said of the lines by
their numbers; and that a reader holds these at every line. -/

namespace SchemaExplorer.Sdl

/-! ### Numbers in order -/

/-- The list has the numbers that `P` holds of, each once and in their order. -/
def Enumerates (ns : List Nat) (P : Nat → Prop) : Prop :=
  ns.Pairwise (· < ·) ∧ ∀ n, n ∈ ns ↔ P n

namespace Enumerates

variable {ns : List Nat} {P Q : Nat → Prop} {n : Nat}

theorem congr (hns : Enumerates ns P) (h : ∀ m, P m ↔ Q m) : Enumerates ns Q :=
  ⟨hns.1, fun m => (hns.2 m).trans (h m)⟩

theorem concat (hns : Enumerates ns P) (hlt : ∀ m, P m → m < n) :
    Enumerates (ns ++ [n]) fun m => P m ∨ m = n := by
  refine ⟨List.pairwise_append.mpr ⟨hns.1, by simp, fun a ha b hb => ?_⟩, fun m => ?_⟩
  · rw [List.mem_singleton.mp hb]
    exact hlt a ((hns.2 a).mp ha)
  · rw [List.mem_append, hns.2, List.mem_singleton]

theorem lt_of_concat (hns : Enumerates (ns ++ [n]) P) {m : Nat} (hm : m ∈ ns) : m < n :=
  (List.pairwise_append.mp hns.1).2.2 m hm n (List.mem_singleton.mpr rfl)

theorem of_concat (hns : Enumerates (ns ++ [n]) P) : Enumerates ns fun m => P m ∧ m ≠ n := by
  refine ⟨(List.pairwise_append.mp hns.1).1, fun m => ?_⟩
  change m ∈ ns ↔ P m ∧ m ≠ n
  rw [← hns.2, List.mem_append, List.mem_singleton]
  constructor
  · exact fun hm => ⟨.inl hm, (hns.lt_of_concat hm).ne⟩
  · exact fun ⟨hm, hne⟩ => hm.resolve_right hne

end Enumerates

/-! ### Owners -/

section

variable (lines : List String)

/-- A line that takes the description that waits, or makes an end of it: one that introduces a
type, one that is read as a member, whatever comes of that, and one that ends a type. -/
def Consumes (n : Nat) : Prop :=
  (∃ i, lineAt lines n = .intro i) ∨ (∃ h m, TakesMember lines h n m) ∨ Closes lines n

/-- The description `text` on line `k` waits for line `n`: it is the last in front of that line,
and no line between the two consumes it. -/
structure Awaits (k n : Nat) (text : String) : Prop where
  lt : k < n
  description : Describes (charsAt lines k) text
  last : ∀ j, k < j → j < n → ∀ other, ¬ Describes (charsAt lines j) other
  notConsumed : ∀ j, k < j → j < n → ¬ Consumes lines j

/-- The text that a line is described by, if any. -/
def IsAwaited (n : Nat) (description : Option String) : Prop :=
  ∀ text, description = some text ↔ ∃ k, Awaits lines k n text

/-- Of the types introduced in front of line `n`, the one on line `h` is kept: its body is not open
when another type is introduced. -/
structure IsKept (n h : Nat) : Prop where
  lt : h < n
  intro : ∃ i, lineAt lines h = .intro i
  notOpen : ∀ j < n, (∃ i, lineAt lines j = .intro i) → (∃ i, IsOpen lines h j i) →
    ¬ HasBegun lines h j

/-- The field is the member on line `k` of the type that line `h` introduces, with the description
that waits for that line. -/
structure IsFieldOf (h : Nat) (f : Field) (k : Nat) : Prop where
  member : ∃ m, TakesMember lines h k m ∧ f.withoutDescription = Segment.fieldOf m
  description : IsAwaited lines k f.description

/-- The type is the one that line `h` introduces, with the description that waits for that line. Its
fields are the members in front of line `n`, in their order, if its kind has fields. -/
structure IsTypeOf (n : Nat) (d : TypeDefinition) (h : Nat) : Prop where
  intro : ∃ i, lineAt lines h = .intro i ∧ d.name = i.name ∧ d.kind = i.kind
  description : IsAwaited lines h d.description
  fields : ∃ ks, Enumerates ks (fun k => k < n ∧ d.kind.hasFields = true ∧
      ∃ m, TakesMember lines h k m) ∧ List.Forall₂ (IsFieldOf lines h) d.fields ks

end

variable {lines : List String} {h k n : Nat} {i : Intro} {m : Member} {d : TypeDefinition}
  {text : String}

/-! ### The description that waits -/

theorem TakesMember.lt (hm : TakesMember lines h n m) : h < n := by
  obtain ⟨i, hopen⟩ := hm.isOpen
  exact hopen.lt

theorem not_describes_of_ne (hline : ∀ other, lineAt lines n ≠ .description other)
    (other : String) : ¬ Describes (charsAt lines n) other :=
  fun h => hline other (lineAt_eq_description_iff.mpr h)

theorem not_consumes_of_ne (hintro : ∀ other, lineAt lines n ≠ .intro other)
    (hother : lineAt lines n ≠ .other) : ¬ Consumes lines n := by
  rintro (⟨i, hi⟩ | ⟨h, m, hm⟩ | ⟨-, hn, -⟩)
  · exact hintro i hi
  · exact hother hm.isOther
  · exact hother hn

theorem isAwaited_zero : IsAwaited lines 0 none := by
  intro text
  constructor
  · simp
  · rintro ⟨k, hk⟩
    exact absurd hk.lt (Nat.not_lt_zero k)

/-- A line that neither is a description nor consumes one lets it wait. -/
theorem IsAwaited.succ {description : Option String} (hd : IsAwaited lines n description)
    (hline : ∀ other, ¬ Describes (charsAt lines n) other) (hconsumes : ¬ Consumes lines n) :
    IsAwaited lines (n + 1) description := by
  intro text
  rw [hd text]
  constructor
  · rintro ⟨k, hk⟩
    refine ⟨k, Nat.lt_succ_of_lt hk.lt, hk.description, fun j hj hjn => ?_, fun j hj hjn => ?_⟩
    · rcases Nat.lt_succ_iff_lt_or_eq.mp hjn with hlt | rfl
      · exact hk.last j hj hlt
      · exact hline
    · rcases Nat.lt_succ_iff_lt_or_eq.mp hjn with hlt | rfl
      · exact hk.notConsumed j hj hlt
      · exact hconsumes
  · rintro ⟨k, hk⟩
    have hne : k ≠ n := by
      rintro rfl
      exact hline text hk.description
    have hlt : k < n := by
      have := hk.lt
      omega
    exact ⟨k, hlt, hk.description, fun j hj hjn => hk.last j hj (by omega),
      fun j hj hjn => hk.notConsumed j hj (by omega)⟩

theorem isAwaited_succ_of_describes (hline : Describes (charsAt lines n) text) :
    IsAwaited lines (n + 1) (some text) := by
  intro other
  constructor
  · rintro ⟨rfl⟩
    exact ⟨n, by omega, hline, fun j hj hjn => by omega, fun j hj hjn => by omega⟩
  · rintro ⟨k, hk⟩
    rcases Nat.lt_succ_iff_lt_or_eq.mp hk.lt with hlt | rfl
    · exact absurd hline (hk.last n hlt (by omega) text)
    · rw [hline.unique hk.description]

theorem isAwaited_succ_of_consumes (hconsumes : Consumes lines n)
    (hline : ∀ other, ¬ Describes (charsAt lines n) other) : IsAwaited lines (n + 1) none := by
  intro text
  constructor
  · simp
  · rintro ⟨k, hk⟩
    rcases Nat.lt_succ_iff_lt_or_eq.mp hk.lt with hlt | rfl
    · exact absurd hconsumes (hk.notConsumed n hlt (by omega))
    · exact absurd hk.description (hline text)

/-! ### Types that were read before a line -/

/-- A line that takes no member of a type leaves it as it is. -/
theorem IsTypeOf.succ (hd : IsTypeOf lines n d h) (hm : ∀ m, ¬ TakesMember lines h n m) :
    IsTypeOf lines (n + 1) d h := by
  obtain ⟨ks, hks, hfields⟩ := hd.fields
  refine ⟨hd.intro, hd.description, ks, hks.congr fun k => ?_, hfields⟩
  constructor
  · exact fun ⟨hk, hkind, htakes⟩ => ⟨by omega, hkind, htakes⟩
  · rintro ⟨hk, hkind, m, htakes⟩
    have hne : k ≠ n := by
      rintro rfl
      exact hm m htakes
    exact ⟨by omega, hkind, m, htakes⟩

theorem isKept_succ_iff_of_not_intro (hintro : ∀ other, lineAt lines n ≠ .intro other) :
    IsKept lines (n + 1) h ↔ IsKept lines n h := by
  constructor
  · intro hkept
    have hne : h ≠ n := by
      rintro rfl
      obtain ⟨i, hi⟩ := hkept.intro
      exact hintro i hi
    have hlt := hkept.lt
    exact ⟨by omega, hkept.intro, fun j hj => hkept.notOpen j (by omega)⟩
  · intro hkept
    refine ⟨Nat.lt_succ_of_lt hkept.lt, hkept.intro, fun j hj => ?_⟩
    rcases Nat.lt_succ_iff_lt_or_eq.mp hj with hlt | rfl
    · exact hkept.notOpen j hlt
    · exact fun ⟨i, hi⟩ => absurd hi (hintro i)

/-- An introduction is kept for the time being, and a type is given up whose body is open. -/
theorem isKept_succ_iff_of_intro (hintro : lineAt lines n = .intro i) :
    IsKept lines (n + 1) h ↔
      (IsKept lines n h ∧ ((∃ i, IsOpen lines h n i) → ¬ HasBegun lines h n)) ∨ h = n := by
  constructor
  · intro hkept
    rcases Nat.lt_succ_iff_lt_or_eq.mp hkept.lt with hlt | heq
    · exact .inl ⟨⟨hlt, hkept.intro, fun j hj => hkept.notOpen j (by omega)⟩,
        hkept.notOpen n (by omega) ⟨i, hintro⟩⟩
    · exact .inr heq
  · rintro (⟨hkept, hnot⟩ | rfl)
    · refine ⟨Nat.lt_succ_of_lt hkept.lt, hkept.intro, fun j hj => ?_⟩
      rcases Nat.lt_succ_iff_lt_or_eq.mp hj with hlt | rfl
      · exact hkept.notOpen j hlt
      · exact fun _ => hnot
    · refine ⟨by omega, ⟨i, hintro⟩, fun j hj _ ⟨other, hopen⟩ => ?_⟩
      have := hopen.lt
      omega

/-! ### Readers and what they have read -/

/-- The types that are finished and the one that is open, in front of line `n`: they come from the
introductions that are kept so far, and the open one from the last of these. -/
def Accounts (lines : List String) (n : Nat) (finished : List TypeDefinition)
    (current : Option TypeDefinition) : Prop :=
  ∃ hs, List.Forall₂ (IsTypeOf lines n) finished hs ∧
    match current with
    | none => Enumerates hs (IsKept lines n)
    | some d => ∃ h, (∃ i, IsOpen lines h n i) ∧ IsTypeOf lines n d h ∧
        Enumerates (hs ++ [h]) (IsKept lines n)

namespace Accounts

variable {finished : List TypeDefinition} {current : Option TypeDefinition}

theorem exists_enumerates (ha : Accounts lines n finished current) :
    ∃ hs, Enumerates hs (IsKept lines n) ∧
      List.Forall₂ (IsTypeOf lines n) (finished ++ current.toList) hs := by
  obtain ⟨hs, htypes, hlast⟩ := ha
  cases current with
  | none => exact ⟨hs, hlast, by simpa using htypes⟩
  | some d =>
    obtain ⟨h, -, hd, hall⟩ := hlast
    exact ⟨hs ++ [h], hall, List.rel_append htypes (.cons hd .nil)⟩

theorem succ (ha : Accounts lines n finished current)
    (hintro : ∀ other, lineAt lines n ≠ .intro other) (hm : ∀ h m, ¬ TakesMember lines h n m)
    (hcloses : ¬ Closes lines n) : Accounts lines (n + 1) finished current := by
  obtain ⟨hs, htypes, hlast⟩ := ha
  refine ⟨hs, htypes.imp fun d h hd => hd.succ (hm h), ?_⟩
  cases current with
  | none => exact hlast.congr fun h => (isKept_succ_iff_of_not_intro hintro).symm
  | some d =>
    obtain ⟨h, ⟨i, hi⟩, hd, hall⟩ := hlast
    have hclosing : lineAt lines n = .other → isClosing (charsAt lines n) = false := fun hother => by
      rw [← Bool.not_eq_true]
      exact fun hclosing => hcloses ⟨⟨h, i, hi⟩, hother, hclosing⟩
    exact ⟨h, ⟨i, (isOpen_succ_iff_of_not_intro hintro).mpr ⟨hi, hclosing⟩⟩, hd.succ (hm h),
      hall.congr fun h => (isKept_succ_iff_of_not_intro hintro).symm⟩

theorem close (ha : Accounts lines n finished current)
    (hintro : ∀ other, lineAt lines n ≠ .intro other) (hm : ∀ h m, ¬ TakesMember lines h n m) :
    Accounts lines (n + 1) (finished ++ current.toList) none := by
  obtain ⟨hs, hall, htypes⟩ := ha.exists_enumerates
  exact ⟨hs, htypes.imp fun d h hd => hd.succ (hm h),
    hall.congr fun h => (isKept_succ_iff_of_not_intro hintro).symm⟩

end Accounts

/-- A member that is read goes to the type that is open, with the description that waits. -/
theorem IsTypeOf.addMember {description : Option String} (hd : IsTypeOf lines n d h)
    (hm : TakesMember lines h n m) (hdescription : IsAwaited lines n description) :
    IsTypeOf lines (n + 1) (addMember d m description) h := by
  obtain ⟨ks, hks, hfields⟩ := hd.fields
  obtain ⟨i, hi, hname, hkind⟩ := hd.intro
  rw [Sdl.addMember]
  split
  · next hhas =>
    have hfield : IsFieldOf lines h (m.field description) n :=
      ⟨⟨m, hm, m.field_none_eq⟩, hdescription⟩
    refine ⟨⟨i, hi, hname, hkind⟩, hd.description, ks ++ [n], ?_,
      List.rel_append hfields (.cons hfield .nil)⟩
    refine (hks.concat fun k hk => hk.1).congr fun k => ?_
    constructor
    · rintro (⟨hk, htakes⟩ | rfl)
      · exact ⟨by omega, htakes⟩
      · exact ⟨by omega, hhas, m, hm⟩
    · rintro ⟨hk, htakes⟩
      rcases Nat.lt_succ_iff_lt_or_eq.mp hk with hlt | heq
      · exact .inl ⟨hlt, htakes⟩
      · exact .inr heq
  · next hhas =>
    have hnone : ∀ k, (k < n + 1 ∧ d.kind.hasFields = true ∧ ∃ m, TakesMember lines h k m) ↔
        k < n ∧ d.kind.hasFields = true ∧ ∃ m, TakesMember lines h k m := fun k => by simp [hhas]
    have hsame : ∃ ks, Enumerates ks (fun k => k < n + 1 ∧ d.kind.hasFields = true ∧
        ∃ m, TakesMember lines h k m) ∧ List.Forall₂ (IsFieldOf lines h) d.fields ks :=
      ⟨ks, hks.congr fun k => (hnone k).symm, hfields⟩
    split
    · exact ⟨⟨i, hi, hname, hkind⟩, hd.description, hsame⟩
    · exact ⟨⟨i, hi, hname, hkind⟩, hd.description, hsame⟩

/-- A type that has just been introduced has no fields yet. -/
theorem isTypeOf_introduced {description : Option String} (hintro : lineAt lines n = .intro i)
    (hdescription : IsAwaited lines n description) :
    IsTypeOf lines (n + 1) (Reader.introduced i (charsAt lines n) description) n := by
  refine ⟨⟨i, hintro, rfl, rfl⟩, hdescription, [], ⟨.nil, fun k => ?_⟩, .nil⟩
  constructor
  · simp
  · rintro ⟨hk, -, m, hm⟩
    have := hm.lt
    omega

/-! ### Readers in front of a line -/

theorem not_takesMember_of_ne (hother : lineAt lines n ≠ .other) : ¬ TakesMember lines h n m :=
  fun hm => hother hm.isOther

/-- An introduction keeps the types that are finished, the open one unless its body has begun, and
the one it introduces. -/
theorem Accounts.settled {r : Reader} (ha : Accounts lines n r.definitions r.place.type?)
    (hp : r.place.IsAt lines n) (hintro : lineAt lines n = .intro i) :
    ∃ hs, List.Forall₂ (IsTypeOf lines (n + 1)) r.settled hs ∧
      Enumerates (hs ++ [n]) (IsKept lines (n + 1)) := by
  have hne : lineAt lines n ≠ .other := by simp [hintro]
  have htypes : ∀ {ds hs}, List.Forall₂ (IsTypeOf lines n) ds hs →
      List.Forall₂ (IsTypeOf lines (n + 1)) ds hs := fun hds =>
    hds.imp fun d h hd => hd.succ fun m => not_takesMember_of_ne hne
  have hall : (∀ h i, IsOpen lines h n i → ¬ HasBegun lines h n) →
      ∃ hs, List.Forall₂ (IsTypeOf lines (n + 1)) r.finish hs ∧
        Enumerates (hs ++ [n]) (IsKept lines (n + 1)) := fun hbegun => by
    obtain ⟨hs, hkept, hds⟩ := ha.exists_enumerates
    refine ⟨hs, htypes hds, (hkept.concat fun h hh => hh.lt).congr fun h => ?_⟩
    rw [isKept_succ_iff_of_intro hintro]
    exact or_congr_left (and_iff_left fun ⟨j, hopen⟩ => hbegun h j hopen).symm
  cases hplace : r.place with
  | outside =>
    rw [hplace] at hp
    rw [Reader.settled, hplace]
    exact hall fun h j hopen => absurd hopen (hp h j)
  | header d =>
    rw [hplace] at hp
    obtain ⟨h, j, hopen, hbegun⟩ := hp
    rw [Reader.settled, hplace]
    refine hall fun h' j' hopen' => ?_
    rwa [← hopen.unique hopen']
  | body d =>
    -- the open type is given up, and it is the last of those kept so far
    rw [hplace] at hp ha
    obtain ⟨h, j, hopen, hbegun⟩ := hp
    obtain ⟨hs, hds, h', ⟨j', hopen'⟩, -, hkept⟩ := ha
    obtain rfl := hopen.unique hopen'
    rw [Reader.settled, hplace]
    refine ⟨hs, htypes hds, (hkept.of_concat.concat fun m hm => hm.1.lt).congr fun m => ?_⟩
    rw [isKept_succ_iff_of_intro hintro]
    refine or_congr_left (and_congr_right fun _ => ?_)
    constructor
    · exact fun hne ⟨j, hm⟩ => absurd (hm.unique hopen) hne
    · rintro hnot rfl
      exact hnot ⟨j, hopen⟩ hbegun

theorem Accounts.addMember {ds : List TypeDefinition} {description : Option String}
    (ha : Accounts lines n ds (some d)) (hm : TakesMember lines h n m)
    (hdescription : IsAwaited lines n description) :
    Accounts lines (n + 1) ds (some (Sdl.addMember d m description)) := by
  obtain ⟨hs, hds, h', ⟨j, hopen⟩, hd, hkept⟩ := ha
  obtain ⟨i, hi⟩ := hm.isOpen
  obtain rfl := hi.unique hopen
  have hintro : ∀ other, lineAt lines n ≠ .intro other := fun other => by simp [hm.isOther]
  -- a type in front of the open one takes no members any more
  have hothers : ∀ g ∈ hs, ∀ m', ¬ TakesMember lines g n m' := fun g hg m' hm' => by
    obtain ⟨i', hi'⟩ := hm'.isOpen
    exact (hkept.lt_of_concat hg).ne (hi'.unique hi)
  refine ⟨hs, ?_, h, ⟨i, ?_⟩, hd.addMember hm hdescription,
    hkept.congr fun g => (isKept_succ_iff_of_not_intro hintro).symm⟩
  · have hflip : List.Forall₂ (flip (IsTypeOf lines n)) hs ds := List.Forall₂.flip hds
    exact (((List.forall₂_and_left _ _).mpr ⟨hothers, hflip⟩).imp fun g d hg => hg.2.succ hg.1).flip
  · exact (isOpen_succ_iff_of_not_intro hintro).mpr ⟨hi, fun _ => hm.notClosing⟩

/-- What a reader holds in front of a line is what the lines in front of it say. -/
structure Reader.IsAt (lines : List String) (n : Nat) (r : Reader) : Prop where
  place : r.place.IsAt lines n
  description : IsAwaited lines n r.description
  accounts : Accounts lines n r.definitions r.place.type?

namespace Reader.IsAt

variable {r : Reader}

/-- A line that is neither an introduction nor read by the reader's place. -/
theorem succ_of_ne (hr : r.IsAt lines n) {description : Option String}
    (hintro : ∀ other, lineAt lines n ≠ .intro other) (hother : lineAt lines n ≠ .other)
    (hdescription : IsAwaited lines (n + 1) description) :
    { r with description }.IsAt lines (n + 1) where
  place := hr.place.succ_of_ne hintro hother
  description := hdescription
  accounts := hr.accounts.succ hintro (fun _ _ => not_takesMember_of_ne hother)
    fun hc => hother hc.2.1

theorem startType (hr : r.IsAt lines n) (hintro : lineAt lines n = .intro i) :
    (r.startType i (charsAt lines n)).IsAt lines (n + 1) := by
  have hnew := isTypeOf_introduced hintro hr.description
  obtain ⟨hs, hds, hkept⟩ := hr.accounts.settled hr.place hintro
  have hplace := isAt_startType (r := r) hintro
  have hnone : IsAwaited lines (n + 1) none :=
    isAwaited_succ_of_consumes (.inl ⟨i, hintro⟩) (not_describes_of_ne (by simp [hintro]))
  rw [startType_eq] at hplace ⊢
  split at hplace
  · next hself =>
    rw [if_pos hself]
    exact ⟨hplace, hnone, hs ++ [n], List.rel_append hds (.cons hnew .nil), hkept⟩
  · next hself =>
    rw [if_neg hself]
    have hopen : IsOpen lines n (n + 1) i :=
      isOpen_succ_iff.mpr (.inl ⟨rfl, hintro, by simpa [Intro.kind] using hself⟩)
    refine ⟨hplace, hnone, ?_⟩
    have htype : (if opensBrace (charsAt lines n) = true
        then Place.body (introduced i (charsAt lines n) r.description)
        else .header (introduced i (charsAt lines n) r.description)).type? =
          some (introduced i (charsAt lines n) r.description) := by
      split <;> rfl
    dsimp only
    rw [htype]
    exact ⟨hs, hds, n, ⟨i, hopen⟩, hnew, hkept⟩

theorem readOther (hr : r.IsAt lines n) (hother : lineAt lines n = .other) :
    (r.readOther (charsAt lines n)).IsAt lines (n + 1) := by
  have hintro : ∀ other, lineAt lines n ≠ .intro other := by simp [hother]
  have hdescription : ∀ other, ¬ Describes (charsAt lines n) other :=
    not_describes_of_ne (by simp [hother])
  rcases readOther_of_isAt hr.place hother with
    ⟨p, hread, htype, hplace, hcloses, hm⟩ | ⟨hread, hcloses, hplace⟩ |
    ⟨h, d, m, hp, hm, hplace, hread⟩
  · -- nothing is consumed
    have hconsumes : ¬ Consumes lines n := by
      rintro (⟨i, hi⟩ | ⟨h, m, htakes⟩ | hc)
      · exact hintro i hi
      · exact hm h m htakes
      · exact hcloses hc
    have haccounts := hr.accounts.succ hintro hm hcloses
    rw [← htype] at haccounts
    rw [hread]
    exact ⟨hplace, hr.description.succ hdescription hconsumes, haccounts⟩
  · rw [hread]
    refine ⟨hplace, isAwaited_succ_of_consumes (.inr (.inr hcloses)) hdescription, ?_⟩
    refine hr.accounts.close hintro fun h m hm => ?_
    have hclosing := hcloses.2.2
    simp [hm.notClosing] at hclosing
  · have haccounts := hr.accounts
    rw [hp] at haccounts
    rw [hread]
    exact ⟨hplace _, isAwaited_succ_of_consumes (.inr (.inl ⟨h, m, hm⟩)) hdescription,
      haccounts.addMember hm hr.description⟩

end Reader.IsAt

/-- A reader holds what the lines it has read say. -/
theorem Reader.isAt_readTo (lines : List String) (n : Nat) : (readTo lines n).IsAt lines n := by
  induction n with
  | zero =>
    have hplace : Place.outside.IsAt lines 0 := fun h i hi => absurd hi.lt (Nat.not_lt_zero h)
    have hkept : Enumerates [] (IsKept lines 0) :=
      ⟨.nil, fun h => iff_of_false List.not_mem_nil fun hh => absurd hh.lt (Nat.not_lt_zero h)⟩
    exact ⟨hplace, isAwaited_zero, [], .nil, hkept⟩
  | succ n ih =>
    rw [readTo_succ]
    cases hline : lineAt lines n with
    | ignored =>
      rw [readLine_of_ignored hline]
      exact ih.succ_of_ne (by simp [hline]) (by simp [hline])
        (ih.description.succ (not_describes_of_ne (by simp [hline]))
          (not_consumes_of_ne (by simp [hline]) (by simp [hline])))
    | description text =>
      rw [readLine_of_description hline]
      exact ih.succ_of_ne (by simp [hline]) (by simp [hline])
        (isAwaited_succ_of_describes (lineAt_eq_description_iff.mp hline))
    | intro i =>
      rw [readLine_of_intro hline]
      exact ih.startType hline
    | other =>
      rw [readLine_of_other hline]
      exact ih.readOther hline

end SchemaExplorer.Sdl
