import Mathlib.Data.List.Sort
import SchemaExplorer.Proofs.Sdl.Ownership

/-! # What descriptions describe

A description waits for the next line that can take it. The types and fields of a text have the
descriptions that wait for the lines they are read from, and no others. -/

open scoped List

namespace SchemaExplorer.Sdl

/-! ### The descriptions of a text in their order -/

/-- The descriptions of the types, each with those of its fields behind it. -/
def descriptions (ds : List TypeDefinition) : List String :=
  ds.flatMap fun d => d.description.toList ++ d.fields.filterMap Field.description

def Line.description? : Line → Option String
  | .description text => some text
  | _ => none

/-- The texts of the lines that are descriptions. -/
def descriptionTexts (lines : List String) : List String :=
  lines.filterMap fun line => (lineOf line).description?

theorem description?_lineOf_eq_some_iff {line text : String} :
    (lineOf line).description? = some text ↔ Describes (Text.trimChars line.toList) text := by
  rw [← classify_eq_description_iff, lineOf]
  cases Line.classify (Text.trimChars line.toList) <;> simp [Line.description?]

/-- The descriptions are those of the types and fields that have one. -/
theorem descriptions_eq_filterMap (ds : List TypeDefinition) :
    descriptions ds =
      (ds.flatMap fun d => d.description :: d.fields.map Field.description).filterMap id := by
  rw [descriptions, List.filterMap_flatMap]
  congr 1
  funext d
  cases d.description <;> simp [List.filterMap_map]

/-! ### The lines that descriptions come from -/

/-- The description comes from line `k`: it stands there, and no line that ends a type finds it
waiting. -/
structure ComesFrom (lines : List String) (text : String) (k : Nat) : Prop where
  describes : Describes (charsAt lines k) text
  notPending : ∀ c, Closes lines c → ¬ Awaits lines k c text

variable {lines : List String} {h k m n : Nat} {text : String}

theorem not_consumes_of_describes (hk : Describes (charsAt lines k) text) : ¬ Consumes lines k := by
  have hline : lineAt lines k = .description text := lineAt_eq_description_iff.mpr hk
  exact not_consumes_of_ne (by simp [hline]) (by simp [hline])

/-- A description that waits comes behind all that is consumed before. -/
theorem Awaits.lt_of_consumes (hk : Awaits lines k n text) (hm : Consumes lines m) (hmn : m < n) :
    m < k := by
  rcases Nat.lt_trichotomy m k with hlt | rfl | hlt
  · exact hlt
  · exact absurd hm (not_consumes_of_describes hk.description)
  · exact absurd hm (hk.notConsumed m hlt hmn)

/-- A line takes its description for a type or a field. -/
def IsOwner (lines : List String) (n : Nat) : Prop :=
  Consumes lines n ∧ ¬ Closes lines n

theorem Awaits.comesFrom (hk : Awaits lines k n text) (hn : IsOwner lines n) :
    ComesFrom lines text k := by
  refine ⟨hk.description, fun c hc hkc => ?_⟩
  rcases Nat.lt_trichotomy c n with hlt | rfl | hlt
  · exact hk.notConsumed c hkc.lt hlt (.inr (.inr hc))
  · exact hn.2 hc
  · exact hkc.notConsumed n hk.lt hlt hn.1

/-- Of lines in their order, the descriptions that wait for them come from lines in their order. -/
theorem exists_comesFrom {os : List (Option String)} {ns : List Nat}
    (h : List.Forall₂ (fun o n => IsAwaited lines n o) os ns) (hns : ns.Pairwise (· < ·))
    (howners : ∀ n ∈ ns, IsOwner lines n) :
    ∃ ks, ks.Pairwise (· < ·) ∧ List.Forall₂ (ComesFrom lines) (os.filterMap id) ks ∧
      ∀ m, Consumes lines m → (∀ n ∈ ns, m < n) → ∀ k ∈ ks, m < k := by
  induction h with
  | nil => exact ⟨[], .nil, .nil, by simp⟩
  | @cons o n os ns ho _ ih =>
    obtain ⟨hlt, hns⟩ := List.pairwise_cons.mp hns
    obtain ⟨hn, howners⟩ := List.forall_mem_cons.mp howners
    obtain ⟨ks, hks, htexts, hbound⟩ := ih hns howners
    cases o with
    | none => exact ⟨ks, hks, htexts, fun m hm hmn => hbound m hm (List.forall_mem_cons.mp hmn).2⟩
    | some text =>
      obtain ⟨k, hk⟩ := (ho text).mp rfl
      have hbehind : ∀ k' ∈ ks, k < k' := fun k' hk' => hk.lt.trans (hbound n hn.1 hlt k' hk')
      refine ⟨k :: ks, .cons hbehind hks, .cons (hk.comesFrom hn) htexts, fun m hm hmn => ?_⟩
      obtain ⟨hmn, hmns⟩ := List.forall_mem_cons.mp hmn
      exact List.forall_mem_cons.mpr ⟨hk.lt_of_consumes hm hmn, hbound m hm hmns⟩

theorem TakesMember.lt_of_intro {i : Intro} {member : Member} (hm : TakesMember lines h n member)
    (hlt : h < k) (hk : lineAt lines k = .intro i) : n < k := by
  obtain ⟨_, hopen⟩ := hm.isOpen
  rcases Nat.lt_trichotomy n k with hnk | rfl | hkn
  · exact hnk
  · simp [hm.isOther] at hk
  · exact absurd hk (hopen.noIntro k hlt hkn i)

theorem TakesMember.isOwner {member : Member} (hm : TakesMember lines h n member) :
    IsOwner lines n := by
  refine ⟨.inr (.inl ⟨h, member, hm⟩), fun hc => ?_⟩
  have hclosing := hc.2.2
  simp [hm.notClosing] at hclosing

theorem isOwner_of_intro {i : Intro} (hn : lineAt lines n = .intro i) : IsOwner lines n :=
  ⟨.inl ⟨i, hn⟩, fun hc => by simp [hc.2.1] at hn⟩

/-- The lines that types and their fields are read from have the order of these. -/
theorem exists_owners {ds : List TypeDefinition} {hs : List Nat}
    (h : List.Forall₂ (IsTypeOf lines n) ds hs) (hhs : hs.Pairwise (· < ·))
    (hintros : ∀ h ∈ hs, ∃ i, lineAt lines h = .intro i) :
    ∃ ns, ns.Pairwise (· < ·) ∧ (∀ n ∈ ns, IsOwner lines n) ∧
      List.Forall₂ (fun o n => IsAwaited lines n o)
        (ds.flatMap fun d => d.description :: d.fields.map Field.description) ns ∧
      ∀ m, (∀ h ∈ hs, m < h) → ∀ n ∈ ns, m < n := by
  induction h with
  | nil => exact ⟨[], .nil, by simp, .nil, by simp⟩
  | @cons d h ds hs hd htypes ih =>
    obtain ⟨hlt, hhs⟩ := List.pairwise_cons.mp hhs
    obtain ⟨⟨i, hintro⟩, hintros⟩ := List.forall_mem_cons.mp hintros
    obtain ⟨ns, hns, howners, hawaited, hbound⟩ := ih hhs hintros
    obtain ⟨ks, hks, hfields⟩ := hd.fields
    have htakes : ∀ k ∈ ks, ∃ member, TakesMember lines h k member :=
      fun k hk => ((hks.2 k).mp hk).2.2
    have hfront : ∀ k ∈ ks, h < k := fun k hk => (htakes k hk).elim fun _ hm => hm.lt
    -- the fields are read before the next type is introduced
    have hnext : ∀ k ∈ ks, ∀ h' ∈ hs, k < h' := by
      intro k hk h' hh'
      obtain ⟨member, hm⟩ := htakes k hk
      obtain ⟨i', hintro'⟩ := hintros h' hh'
      exact hm.lt_of_intro (hlt h' hh') hintro'
    have hown : List.Forall₂ (fun o n => IsAwaited lines n o)
        (d.description :: d.fields.map Field.description) (h :: ks) :=
      .cons hd.description
        (List.forall₂_map_left_iff.mpr (hfields.imp fun f k hf => hf.description))
    refine ⟨h :: ks ++ ns, ?_, ?_, List.rel_append hown hawaited, fun m hm => ?_⟩
    · refine List.pairwise_append.mpr ⟨.cons hfront hks.1, hns, ?_⟩
      exact List.forall_mem_cons.mpr ⟨hbound h hlt, fun k hk => hbound k (hnext k hk)⟩
    · refine List.forall_mem_append.mpr ⟨?_, howners⟩
      exact List.forall_mem_cons.mpr
        ⟨isOwner_of_intro hintro, fun k hk => (htakes k hk).elim fun _ hm => hm.isOwner⟩
    · obtain ⟨hmh, hmhs⟩ := List.forall_mem_cons.mp hm
      refine List.forall_mem_append.mpr ⟨?_, hbound m hmhs⟩
      exact List.forall_mem_cons.mpr ⟨hmh, fun k hk => hmh.trans (hfront k hk)⟩

/-! ### The descriptions of a text -/

theorem exists_isTypeOf_parse (text : String) :
    ∃ hs, Enumerates hs (IsKept (Text.lines text) (Text.lines text).length) ∧
      List.Forall₂ (IsTypeOf (Text.lines text) (Text.lines text).length) (parse text) hs := by
  have hr := (Reader.isAt_readTo (Text.lines text) (Text.lines text).length).accounts
  rw [readTo, List.take_length] at hr
  exact hr.exists_enumerates

theorem exists_comesFrom_parse (text : String) :
    ∃ ks, ks.Pairwise (· < ·) ∧
      List.Forall₂ (ComesFrom (Text.lines text)) (descriptions (parse text)) ks := by
  obtain ⟨hs, hkept, htypes⟩ := exists_isTypeOf_parse text
  obtain ⟨ns, hns, howners, hawaited, -⟩ :=
    exists_owners htypes hkept.1 fun h hh => ((hkept.2 h).mp hh).intro
  obtain ⟨ks, hks, htexts, -⟩ := exists_comesFrom hawaited hns howners
  rw [← descriptions_eq_filterMap] at htexts
  exact ⟨ks, hks, htexts⟩

theorem descriptionTexts_eq (lines : List String) :
    descriptionTexts lines =
      (List.range lines.length).filterMap fun k => (lineAt lines k).description? := by
  have hlines : lines = (List.range lines.length).map fun k => lines.getD k "" := by
    apply List.ext_getElem
    · simp
    · intro k hk _
      simp [hk]
  rw [descriptionTexts]
  conv => lhs; rw [hlines]
  rw [List.filterMap_map]
  rfl

theorem lt_length_of_describes (hk : Describes (charsAt lines k) text) : k < lines.length := by
  by_contra hle
  rw [charsAt, List.getD_eq_default _ _ (Nat.le_of_not_lt hle)] at hk
  obtain ⟨inside, hempty, -⟩ := hk
  cases hempty

theorem filterMap_of_comesFrom {texts : List String} {ks : List Nat}
    (h : List.Forall₂ (ComesFrom lines) texts ks) :
    (ks.filterMap fun k => (lineAt lines k).description?) = texts ∧
      ∀ k ∈ ks, k < lines.length := by
  induction h with
  | nil => simp
  | cons hfrom _ ih =>
    have hline := lineAt_eq_description_iff.mpr hfrom.describes
    rw [List.filterMap_cons, hline, Line.description?, ih.1]
    exact ⟨rfl, List.forall_mem_cons.mpr ⟨lt_length_of_describes hfrom.describes, ih.2⟩⟩

/-- Texts that come from lines in their order are some of the texts of all of these. -/
theorem sublist_descriptionTexts {texts : List String} {ks : List Nat}
    (h : List.Forall₂ (ComesFrom lines) texts ks) (hks : ks.Pairwise (· < ·)) :
    texts <+ descriptionTexts lines := by
  obtain ⟨htexts, hlength⟩ := filterMap_of_comesFrom h
  have hrange : ks <+ List.range lines.length :=
    List.sublist_of_subperm_of_pairwise
      (List.subperm_of_subset hks.nodup fun k hk => List.mem_range.mpr (hlength k hk)) hks
      List.pairwise_lt_range
  rw [← htexts, descriptionTexts_eq]
  exact hrange.filterMap _

theorem descriptions_parse_sublist (text : String) :
    descriptions (parse text) <+ descriptionTexts (Text.lines text) := by
  obtain ⟨ks, hks, htexts⟩ := exists_comesFrom_parse text
  exact sublist_descriptionTexts htexts hks

/-- Every type and every field of a text has the description that waits for the line it is read
from, and none if none waits. So the descriptions that a text gives away are some of its
description lines, in their order, each at most once; and none is among them that waits when a type
ends. -/
theorem isTypeOf_parse (text : String) :
    (∃ hs, Enumerates hs (IsKept (Text.lines text) (Text.lines text).length) ∧
      List.Forall₂ (IsTypeOf (Text.lines text) (Text.lines text).length) (parse text) hs) ∧
    descriptions (parse text) <+ descriptionTexts (Text.lines text) ∧
    ∃ ks, ks.Pairwise (· < ·) ∧
      List.Forall₂ (ComesFrom (Text.lines text)) (descriptions (parse text)) ks :=
  ⟨exists_isTypeOf_parse text, descriptions_parse_sublist text, exists_comesFrom_parse text⟩

/-- A line that is no member lets the description wait; the brace drops it. -/
example : descriptions (parse
    "\"A\"\ntype A \x7b\n \"a\"\n @skip\n a: Int\n \"end\"\n\x7d\nenum E \x7b\n\x7d") =
      ["A", "a"] := by
  decide +kernel

end SchemaExplorer.Sdl
