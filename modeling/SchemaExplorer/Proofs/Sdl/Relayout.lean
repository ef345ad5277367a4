import Mathlib.Logic.Relation
import SchemaExplorer.Proofs.Sdl.Layout

/-! # Layout between lines

A text may be laid out anew without changing what it defines: lines that a reader passes over may
come and go, blanks may be put at the ends of lines and taken away, and lines may end in either way.
What is left of a text under all such edits are the lines that a reader takes something from,
without the blanks at their ends; the edits lead from one text to another exactly if these agree. -/

namespace SchemaExplorer.Sdl

open Text (isBlank)

/-! ### Edits -/

/-- A line that a reader passes over: a blank one, a comment, or one that begins or ends a
description over several lines. -/
inductive IsPassedOver : String → Prop
  | blank {line : String} (h : Text.trim line = "") : IsPassedOver line
  | comment {line : String} (rest : String) (h : Text.trim line = "#" ++ rest) : IsPassedOver line
  | quotes {line : String} (rest : String) (h : Text.trim line = "\"\"\"" ++ rest) :
      IsPassedOver line

/-- A line begins behind `front`. -/
def BeginsLine (front : String) : Prop :=
  front = "" ∨ ∃ before, front = before ++ "\n"

/-- A line ends in front of `back`. -/
def EndsLine (back : String) : Prop :=
  back = "" ∨ ∃ behind, back = "\n" ++ behind

/-- One edit of the layout of a text. -/
inductive Relayout : String → String → Prop
  | insertLine {front line : String} (back : String) (hfront : BeginsLine front)
      (hline : IsPassedOver line) (hnewline : '\n' ∉ line.toList) :
      Relayout (front ++ back) (front ++ line ++ "\n" ++ back)
  | indent {front : String} (blanks : Text.Blanks) (back : String) (hfront : BeginsLine front)
      (hnewline : '\n' ∉ blanks.text.toList) :
      Relayout (front ++ back) (front ++ blanks.text ++ back)
  | trail (front : String) (blanks : Text.Blanks) {back : String} (hback : EndsLine back)
      (hnewline : '\n' ∉ blanks.text.toList) :
      Relayout (front ++ back) (front ++ blanks.text ++ back)
  | returnLine (front back : String) : Relayout (front ++ "\n" ++ back) (front ++ "\r\n" ++ back)
  | endLine (text : String) : Relayout text (text ++ "\n")

/-! ### Lines that are kept -/

theorem classify_eq_ignored_iff {cs : List Char} :
    Line.classify cs = .ignored ↔ cs = [] ∨ ['#'] <+: cs ∨ ['"', '"', '"'] <+: cs := by
  rw [Line.classify]
  split
  · next h =>
    simp only [Bool.or_eq_true, List.isEmpty_iff, List.isPrefixOf_iff_prefix] at h
    simp only [true_iff]
    tauto
  · next h =>
    simp only [Bool.or_eq_true, List.isEmpty_iff, List.isPrefixOf_iff_prefix] at h
    constructor
    · intro hignored
      split at hignored
      · simp at hignored
      · split at hignored <;> simp at hignored
    · tauto

theorem prefix_toList_iff {front s : String} :
    front.toList <+: s.toList ↔ ∃ rest, s = front ++ rest := by
  constructor
  · rintro ⟨rest, h⟩
    exact ⟨String.ofList rest, by simp [← String.toList_inj, h]⟩
  · rintro ⟨rest, rfl⟩
    simp

theorem isPassedOver_iff {line : String} : IsPassedOver line ↔ lineOf line = .ignored := by
  have hnil : Text.trim line = "" ↔ (Text.trim line).toList = [] := by simp
  have hcomment := @prefix_toList_iff "#" (Text.trim line)
  have hquotes := @prefix_toList_iff "\"\"\"" (Text.trim line)
  rw [lineOf, ← Text.toList_trim, classify_eq_ignored_iff, ← hnil]
  constructor
  · rintro (hblank | ⟨rest, h⟩ | ⟨rest, h⟩)
    · exact .inl hblank
    · exact .inr (.inl (hcomment.mpr ⟨rest, h⟩))
    · exact .inr (.inr (hquotes.mpr ⟨rest, h⟩))
  · rintro (hblank | h | h)
    · exact .blank hblank
    · obtain ⟨rest, h⟩ := hcomment.mp h
      exact .comment rest h
    · obtain ⟨rest, h⟩ := hquotes.mp h
      exact .quotes rest h

/-- A reader does something with the line. -/
def isKept (line : String) : Bool :=
  lineOf line != .ignored

theorem isKept_eq_false_iff {line : String} : isKept line = false ↔ IsPassedOver line := by
  rw [isPassedOver_iff, isKept, bne_eq_false_iff_eq]

theorem isKept_trim (line : String) : isKept (Text.trim line) = isKept line := by
  rw [isKept, isKept, lineOf, lineOf, ← Text.toList_trim, Text.trim_trim, Text.toList_trim]

/-- The lines of a text that a reader does something with, without the blanks at their ends. -/
def keptLines (text : String) : List String :=
  ((Text.split '\n' text).map Text.trim).filter isKept

theorem keptLines_eq (text : String) :
    keptLines text =
      (((Text.splitChars '\n' text.toList).map Text.trimChars).map String.ofList).filter isKept := by
  rw [keptLines, Text.split, List.map_map, List.map_map]
  congr 2
  funext cs
  simp [Text.trim]

theorem keptLines_empty : keptLines "" = [] := by
  decide

theorem keptLines_append (front back : String) :
    keptLines (front ++ "\n" ++ back) = keptLines front ++ keptLines back := by
  rw [keptLines, Text.split_append rfl, List.map_append, List.filter_append, keptLines, keptLines]

theorem keptLines_endLine (text : String) : keptLines (text ++ "\n") = keptLines text := by
  simpa [keptLines_empty] using keptLines_append text ""

theorem keptLines_blanks_append (blanks : Text.Blanks) (text : String)
    (h : '\n' ∉ blanks.text.toList) : keptLines (blanks.text ++ text) = keptLines text := by
  rw [keptLines_eq, String.toList_append,
    Text.map_trimChars_splitChars_append_left _ blanks.isBlank_of_mem h, keptLines_eq]

theorem keptLines_append_blanks (text : String) (blanks : Text.Blanks)
    (h : '\n' ∉ blanks.text.toList) : keptLines (text ++ blanks.text) = keptLines text := by
  rw [keptLines_eq, String.toList_append,
    Text.map_trimChars_splitChars_append_right _ blanks.isBlank_of_mem h, keptLines_eq]

theorem keptLines_line {line : String} (h : '\n' ∉ line.toList) :
    keptLines line = [Text.trim line].filter isKept := by
  rw [keptLines, Text.split_eq_singleton h, List.map_singleton]

theorem keptLines_of_isPassedOver {line : String} (hline : IsPassedOver line)
    (h : '\n' ∉ line.toList) : keptLines line = [] := by
  rw [keptLines_line h, List.filter_singleton, isKept_trim, isKept_eq_false_iff.mpr hline]
  rfl

/-! ### Edits keep these lines -/

/-- Where a line begins, what stands behind has its kept lines to itself. -/
theorem BeginsLine.keptLines_append {front : String} (h : BeginsLine front) (back : String) :
    keptLines (front ++ back) = keptLines front ++ keptLines back := by
  obtain rfl | ⟨before, rfl⟩ := h
  · simp [keptLines_empty]
  · rw [Sdl.keptLines_append, keptLines_endLine]

theorem EndsLine.keptLines_append {back : String} (h : EndsLine back) (front : String) :
    keptLines (front ++ back) = keptLines front ++ keptLines back := by
  obtain rfl | ⟨behind, rfl⟩ := h
  · simp [keptLines_empty]
  · have hback : keptLines ("\n" ++ behind) = keptLines behind := by
      simpa [keptLines_empty] using Sdl.keptLines_append "" behind
    rw [← String.append_assoc, Sdl.keptLines_append, hback]

def returnBlank : Text.Blanks :=
  ⟨"\r", by decide⟩

theorem Relayout.keptLines_eq {text text' : String} (h : Relayout text text') :
    keptLines text' = keptLines text := by
  cases h with
  | insertLine back hfront hline hnewline =>
    rw [String.append_assoc, String.append_assoc, hfront.keptLines_append,
      ← String.append_assoc, Sdl.keptLines_append, keptLines_of_isPassedOver hline hnewline,
      List.nil_append, hfront.keptLines_append]
  | indent blanks back hfront hnewline =>
    rw [String.append_assoc, hfront.keptLines_append, keptLines_blanks_append blanks back hnewline,
      hfront.keptLines_append]
  | trail front blanks hback hnewline =>
    rw [hback.keptLines_append, keptLines_append_blanks front blanks hnewline,
      hback.keptLines_append]
  | returnLine front back =>
    have hsplit : front ++ "\r\n" ++ back = front ++ returnBlank.text ++ "\n" ++ back := by
      simp [← String.toList_inj, returnBlank]
    rw [hsplit, Sdl.keptLines_append, keptLines_append_blanks front returnBlank (by decide),
      Sdl.keptLines_append]
  | endLine text => exact keptLines_endLine text

theorem keptLines_eq_of_eqvGen {text text' : String} (h : Relation.EqvGen Relayout text text') :
    keptLines text' = keptLines text := by
  induction h with
  | rel _ _ h => exact h.keptLines_eq
  | refl => rfl
  | symm _ _ _ ih => exact ih.symm
  | trans _ _ _ _ _ ih ih' => exact ih'.trans ih

/-! ### Nothing but layout is lost -/

/-- The text of the given lines, a line feed behind each. -/
def textOfLines : List String → String
  | [] => ""
  | line :: lines => line ++ "\n" ++ textOfLines lines

theorem textOfLines_split (text : String) : textOfLines (Text.split '\n' text) = text ++ "\n" := by
  have hlist : ∀ pieces : List (List Char), pieces ≠ [] →
      (textOfLines (pieces.map String.ofList)).toList = ['\n'].intercalate pieces ++ ['\n'] := by
    intro pieces hne
    induction pieces with
    | nil => exact absurd rfl hne
    | cons piece pieces ih =>
      cases pieces with
      | nil => simp [textOfLines]
      | cons next rest =>
        rw [List.map_cons, textOfLines, String.toList_append, ih (List.cons_ne_nil next rest),
          List.intercalate_cons_cons]
        simp
  rw [← String.toList_inj, Text.split, hlist _ (Text.splitChars_ne_nil _ _),
    Text.intercalate_splitChars, String.toList_append]
  rfl

theorem BeginsLine.append_line (front line : String) : BeginsLine (front ++ line ++ "\n") :=
  .inr ⟨front ++ line, rfl⟩

/-- Edits take the blanks from the ends of a line. -/
theorem eqvGen_trim {front : String} (hfront : BeginsLine front) {line : String}
    (hline : '\n' ∉ line.toList) (back : String) :
    Relation.EqvGen Relayout (front ++ (line ++ "\n" ++ back))
      (front ++ (Text.trim line ++ "\n" ++ back)) := by
  obtain ⟨before, behind, hblanks⟩ := Text.exists_blanks_trim line
  have hends : '\n' ∉ before.text.toList ∧ '\n' ∉ behind.text.toList := by
    rw [hblanks] at hline
    simp only [String.toList_append, List.mem_append, not_or] at hline
    exact ⟨hline.1.1, hline.2⟩
  obtain ⟨hbefore, hbehind⟩ := hends
  have hindent : Relayout (front ++ (Text.trim line ++ "\n" ++ back))
      (front ++ before.text ++ (Text.trim line ++ "\n" ++ back)) :=
    .indent before _ hfront hbefore
  have htrail : Relayout (front ++ before.text ++ Text.trim line ++ ("\n" ++ back))
      (front ++ before.text ++ Text.trim line ++ behind.text ++ ("\n" ++ back)) :=
    .trail _ behind (.inr ⟨back, rfl⟩) hbehind
  have hboth : Relation.EqvGen Relayout (front ++ (Text.trim line ++ "\n" ++ back))
      (front ++ (before.text ++ Text.trim line ++ behind.text ++ "\n" ++ back)) := by
    simp only [String.append_assoc] at hindent htrail ⊢
    exact (Relation.EqvGen.rel _ _ hindent).trans _ _ _ (.rel _ _ htrail)
  rw [← hblanks] at hboth
  exact hboth.symm

/-- Edits lead from lines to the kept ones among them. -/
theorem eqvGen_textOfLines {front : String} (hfront : BeginsLine front) {lines : List String}
    (h : ∀ line ∈ lines, '\n' ∉ line.toList) :
    Relation.EqvGen Relayout (front ++ textOfLines lines)
      (front ++ textOfLines ((lines.map Text.trim).filter isKept)) := by
  induction lines generalizing front with
  | nil => exact .refl _
  | cons line lines ih =>
    have hline : '\n' ∉ line.toList := h line (by simp)
    have hlines : ∀ other ∈ lines, '\n' ∉ other.toList :=
      fun other hother => h other (List.mem_cons_of_mem _ hother)
    rw [List.map_cons, textOfLines]
    by_cases hkept : isKept (Text.trim line) = true
    · rw [List.filter_cons_of_pos hkept, textOfLines]
      have hrest := ih (BeginsLine.append_line front (Text.trim line)) hlines
      simp only [String.append_assoc] at hrest
      refine (eqvGen_trim hfront hline _).trans _ _ _ ?_
      simpa only [String.append_assoc] using hrest
    · have hpassed : IsPassedOver line := by
        rw [← isKept_eq_false_iff, ← isKept_trim]
        exact Bool.not_eq_true _ ▸ hkept
      have hinsert : Relayout (front ++ textOfLines lines)
          (front ++ line ++ "\n" ++ textOfLines lines) :=
        .insertLine _ hfront hpassed hline
      rw [List.filter_cons_of_neg hkept]
      simp only [String.append_assoc] at hinsert ⊢
      exact (Relation.EqvGen.rel _ _ hinsert).symm.trans _ _ _ (ih hfront hlines)

theorem eqvGen_keptLines (text : String) :
    Relation.EqvGen Relayout text (textOfLines (keptLines text)) := by
  have hlines : ∀ line ∈ Text.split '\n' text, '\n' ∉ line.toList := by
    intro line hline
    obtain ⟨cs, hcs, rfl⟩ := List.mem_map.mp hline
    simpa using Text.not_mem_of_mem_splitChars hcs
  have hkept := eqvGen_textOfLines (.inl rfl) hlines
  rw [textOfLines_split, String.empty_append, String.empty_append] at hkept
  exact (Relation.EqvGen.rel _ _ (.endLine text)).trans _ _ _ hkept

/-- Two texts differ by edits of the layout alone exactly if their kept lines agree. -/
theorem eqvGen_relayout_iff {text text' : String} :
    Relation.EqvGen Relayout text text' ↔ keptLines text = keptLines text' := by
  constructor
  · exact fun h => (keptLines_eq_of_eqvGen h).symm
  · intro h
    have hback := (eqvGen_keptLines text').symm
    rw [← h] at hback
    exact (eqvGen_keptLines text).trans _ _ _ hback

instance (text text' : String) : Decidable (Relation.EqvGen Relayout text text') :=
  decidable_of_iff _ eqvGen_relayout_iff.symm

/-! ### Readers need no more than these lines -/

namespace Reader

theorem readLine_trim (r : Reader) (line : String) : r.readLine (Text.trim line) = r.readLine line :=
  readLine_congr (by rw [← Text.toList_trim, Text.trim_trim, Text.toList_trim]) r

theorem readLines_cons (r : Reader) (line : String) (lines : List String) :
    r.readLines (line :: lines) = (r.readLine line).readLines lines := rfl

theorem readLines_filter_isKept (r : Reader) (lines : List String) :
    r.readLines ((lines.map Text.trim).filter isKept) = r.readLines lines := by
  induction lines generalizing r with
  | nil => rfl
  | cons line lines ih =>
    rw [List.map_cons, readLines_cons]
    by_cases hkept : isKept line = true
    · rw [List.filter_cons_of_pos (by rwa [isKept_trim]), readLines_cons, ih, readLine_trim]
    · have hpassed : lineOf line = .ignored :=
        isPassedOver_iff.mp (isKept_eq_false_iff.mp (Bool.not_eq_true _ ▸ hkept))
      rw [List.filter_cons_of_neg (by rwa [isKept_trim]), ih, readLine_of_ignored hpassed]

/-- In whatever state, a reader takes from a text what it takes from its kept lines. -/
theorem readLines_keptLines (r : Reader) (text : String) :
    r.readLines (keptLines text) = r.readLines (Text.lines text) := by
  rw [keptLines, readLines_filter_isKept, readLines_lines_eq_split]

theorem readLines_lines_of_eqvGen {text text' : String}
    (h : Relation.EqvGen Relayout text text') (r : Reader) :
    r.readLines (Text.lines text') = r.readLines (Text.lines text) := by
  rw [← readLines_keptLines, keptLines_eq_of_eqvGen h, readLines_keptLines]

end Reader

/-- Any number of edits of the layout, made or undone in any order and at any place, leave what a
text defines as it is. -/
theorem parse_eq_of_eqvGen {text text' : String} (h : Relation.EqvGen Relayout text text') :
    parse text' = parse text := by
  rw [parse, parse, Reader.readLines_lines_of_eqvGen h]

def tidyAtlas : String :=
  "\"All maps\"\ntype Atlas\n  \x7b\n  pages: Int\n\x7d"

def looseAtlas : String :=
  "\"All maps\"\n# and no charts\n\ntype Atlas\n\t\n\x7b\n\"\"\"\n\u3000pages: Int\u2003\r\n\x7d\r\n"

/-! The description and its type come apart, and so do the header and its brace; blanks that are no
spaces stand around the member, and the last line ends in two characters instead of none. -/
theorem parse_eq_of_eqvGen_looseAtlas :
    Relation.EqvGen Relayout tidyAtlas looseAtlas ∧ parse looseAtlas = parse tidyAtlas := by
  have h : Relation.EqvGen Relayout tidyAtlas looseAtlas := by decide +kernel
  exact ⟨h, parse_eq_of_eqvGen h⟩

end SchemaExplorer.Sdl
