import SchemaExplorer.Proofs.Text.Blank
import SchemaExplorer.Text.Split

/-! # Cutting what was joined

Cutting undoes joining when the separator occurs in none of the pieces. -/

namespace SchemaExplorer.Text

/-! ### Pieces -/

theorem splitChars_eq_singleton {sep : Char} {cs : List Char} (h : sep ∉ cs) :
    splitChars sep cs = [cs] := by
  induction cs with
  | nil => rfl
  | cons c cs ih =>
    simp only [List.mem_cons, not_or] at h
    obtain ⟨hc, hcs⟩ := h
    rw [splitChars, if_neg (Ne.symm hc), ih hcs]

theorem splitChars_append_cons {sep : Char} {front : List Char} (back : List Char)
    (h : sep ∉ front) : splitChars sep (front ++ sep :: back) = front :: splitChars sep back := by
  induction front with
  | nil => simp [splitChars]
  | cons c front ih =>
    simp only [List.mem_cons, not_or] at h
    obtain ⟨hc, hfront⟩ := h
    rw [List.cons_append, splitChars, if_neg (Ne.symm hc), ih hfront]

/-- Cutting what stands on both sides of a separator gives the pieces of both, one after the
other. -/
theorem splitChars_append (sep : Char) (front back : List Char) :
    splitChars sep (front ++ sep :: back) = splitChars sep front ++ splitChars sep back := by
  induction front with
  | nil => simp [splitChars]
  | cons c front ih =>
    rw [List.cons_append, splitChars, splitChars, ih]
    split
    · rfl
    · cases hp : splitChars sep front with
      | nil => exact absurd hp (splitChars_ne_nil sep front)
      | cons piece pieces => rfl

theorem splitCharsOnce?_eq_some_iff {sep : Char} {cs front back : List Char} :
    splitCharsOnce? sep cs = some (front, back) ↔ cs = front ++ sep :: back ∧ sep ∉ front := by
  constructor
  · intro h
    have hmem : sep ∈ cs := by
      by_contra hnot
      simp [splitCharsOnce?_eq_none_iff.mpr hnot] at h
    obtain ⟨front', back', rfl, hfront⟩ := List.eq_append_cons_of_mem hmem
    rw [splitCharsOnce?_append back' hfront] at h
    obtain ⟨rfl, rfl⟩ := Prod.mk.inj (Option.some.inj h)
    exact ⟨rfl, hfront⟩
  · rintro ⟨rfl, hfront⟩
    exact splitCharsOnce?_append back hfront

theorem splitOnce?_eq_some_iff {sep : Char} {s front back : String} :
    splitOnce? sep s = some (front, back) ↔
      s.toList = front.toList ++ sep :: back.toList ∧ sep ∉ front.toList := by
  rw [← splitCharsOnce?_eq_some_iff, splitOnce?]
  constructor
  · intro h
    obtain ⟨⟨cs, ds⟩, hsplit, hpair⟩ := Option.map_eq_some_iff.mp h
    obtain ⟨rfl, rfl⟩ := Prod.mk.inj hpair
    simpa using hsplit
  · intro h
    simp [h]

theorem splitOnce?_eq_none_iff {sep : Char} {s : String} :
    splitOnce? sep s = none ↔ sep ∉ s.toList := by
  rw [splitOnce?, Option.map_eq_none_iff, splitCharsOnce?_eq_none_iff]

theorem infix_intercalate {sep piece : List Char} {pieces : List (List Char)}
    (h : piece ∈ pieces) : piece <:+: sep.intercalate pieces := by
  induction pieces with
  | nil => simp at h
  | cons first rest ih =>
    cases rest with
    | nil =>
      obtain rfl := List.mem_singleton.mp h
      simp
    | cons next rest =>
      rw [List.intercalate_cons_cons]
      rcases List.mem_cons.mp h with rfl | h
      · exact ⟨[], sep ++ sep.intercalate (next :: rest), by simp⟩
      · exact (ih h).trans (List.suffix_append _ _).isInfix

theorem infix_of_mem_splitChars {sep : Char} {cs piece : List Char}
    (h : piece ∈ splitChars sep cs) : piece <:+: cs := by
  have hpiece : piece <:+: [sep].intercalate (splitChars sep cs) := infix_intercalate h
  rwa [intercalate_splitChars] at hpiece

theorem join_cons_cons (sep s t : String) (rest : List String) :
    join sep (s :: t :: rest) = s ++ sep ++ join sep (t :: rest) := rfl

theorem join_ne_empty {sep : String} {ss : List String} (hss : ss ≠ [])
    (h : ∀ s ∈ ss, s ≠ "") : join sep ss ≠ "" := by
  match ss with
  | [] => exact absurd rfl hss
  | [s] => exact h s (by simp)
  | s :: t :: rest =>
    rw [join_cons_cons]
    have hs := h s (by simp)
    simp [hs]

theorem exists_join_eq_append {sep s : String} {ss : List String} (h : s ∈ ss) :
    ∃ front back, join sep ss = front ++ s ++ back := by
  induction ss with
  | nil => simp at h
  | cons first rest ih =>
    cases rest with
    | nil =>
      obtain rfl := List.mem_singleton.mp h
      exact ⟨"", "", by simp [join]⟩
    | cons next rest =>
      rw [join_cons_cons]
      rcases List.mem_cons.mp h with rfl | h
      · exact ⟨"", sep ++ join sep (next :: rest), by simp [String.append_assoc]⟩
      · obtain ⟨front, back, hjoin⟩ := ih h
        exact ⟨first ++ sep ++ front, back, by rw [hjoin]; simp only [String.append_assoc]⟩

/-- What is joined has no more at its ends than the first and the last of its pieces. -/
theorem isStripped_join {p : Char → Bool} {sep : String} {ss : List String}
    (h : ∀ s ∈ ss, s ≠ "" ∧ isStripped p s.toList = true) :
    isStripped p (join sep ss).toList = true := by
  induction ss with
  | nil => rfl
  | cons s ss ih =>
    obtain ⟨hne, hs⟩ := h s (by simp)
    cases ss with
    | nil => exact hs
    | cons t rest =>
      have hrest := ih fun u hu => h u (List.mem_cons_of_mem _ hu)
      have hrestne : join sep (t :: rest) ≠ "" :=
        join_ne_empty (by simp) fun u hu => (h u (List.mem_cons_of_mem _ hu)).1
      simp only [isStripped, Bool.and_eq_true] at hs hrest
      rw [join_cons_cons, String.toList_append, isStripped_append (by simp [hne]) (by simpa),
        String.toList_append, List.head?_append_of_ne_nil _ (by simpa)]
      simp [hs.1, hrest.2]

theorem mem_toList_join_iff {sep : String} {ss : List String} {c : Char} (hc : c ∉ sep.toList) :
    c ∈ (join sep ss).toList ↔ ∃ s ∈ ss, c ∈ s.toList := by
  induction ss with
  | nil => simp [join]
  | cons s ss ih =>
    cases ss with
    | nil => simp [join]
    | cons t rest =>
      rw [join_cons_cons, List.exists_mem_cons_iff, ← ih]
      simp [hc]

theorem splitChars_join {sep : Char} {glue : String} {ss : List String} (hglue : glue.toList = [sep])
    (hss : ss ≠ []) (h : ∀ s ∈ ss, sep ∉ s.toList) :
    splitChars sep (join glue ss).toList = ss.map String.toList := by
  induction ss with
  | nil => exact absurd rfl hss
  | cons s ss ih =>
    have hs := h s (by simp)
    cases ss with
    | nil => simp [join, splitChars_eq_singleton hs]
    | cons next rest =>
      have hlist : (join glue (s :: next :: rest)).toList =
          s.toList ++ sep :: (join glue (next :: rest)).toList := by
        simp [join_cons_cons, hglue]
      rw [hlist, splitChars_append_cons _ hs,
        ih (by simp) fun t ht => h t (List.mem_cons_of_mem _ ht)]
      rfl

theorem split_eq_singleton {sep : Char} {s : String} (h : sep ∉ s.toList) : split sep s = [s] := by
  simp [split, splitChars_eq_singleton h]

theorem split_append {sep : Char} {glue : String} (hglue : glue.toList = [sep])
    (front back : String) : split sep (front ++ glue ++ back) = split sep front ++ split sep back := by
  have hlist : (front ++ glue ++ back).toList = front.toList ++ sep :: back.toList := by
    simp [hglue]
  rw [split, hlist, splitChars_append, List.map_append]
  rfl

theorem split_join {sep : Char} {glue : String} {ss : List String} (hglue : glue.toList = [sep])
    (hss : ss ≠ []) (h : ∀ s ∈ ss, sep ∉ s.toList) : split sep (join glue ss) = ss := by
  rw [split, splitChars_join hglue hss h, List.map_map]
  simp [Function.comp_def]

/-- What is put in front of a text goes to the first piece. -/
theorem exists_splitChars_append_left {sep : Char} {front : List Char} (h : sep ∉ front)
    (cs : List Char) :
    ∃ piece pieces, splitChars sep cs = piece :: pieces ∧
      splitChars sep (front ++ cs) = (front ++ piece) :: pieces := by
  obtain ⟨piece, pieces, hcs⟩ := List.exists_cons_of_ne_nil (splitChars_ne_nil sep cs)
  refine ⟨piece, pieces, hcs, ?_⟩
  induction front with
  | nil => exact hcs
  | cons c front ih =>
    simp only [List.mem_cons, not_or] at h
    obtain ⟨hc, hfront⟩ := h
    rw [List.cons_append, splitChars, if_neg (Ne.symm hc), ih hfront]
    rfl

/-- What is put behind a text goes to the last piece. -/
theorem exists_splitChars_append_right {sep : Char} {back : List Char} (h : sep ∉ back)
    (cs : List Char) :
    ∃ pieces piece, splitChars sep cs = pieces ++ [piece] ∧
      splitChars sep (cs ++ back) = pieces ++ [piece ++ back] := by
  induction cs with
  | nil => exact ⟨[], [], rfl, splitChars_eq_singleton h⟩
  | cons c cs ih =>
    obtain ⟨pieces, piece, hcs, hback⟩ := ih
    rw [List.cons_append, splitChars, splitChars, hcs, hback]
    by_cases hc : c = sep
    · exact ⟨[] :: pieces, piece, if_pos hc, if_pos hc⟩
    · rw [if_neg hc, if_neg hc]
      cases pieces with
      | nil => exact ⟨[], c :: piece, rfl, rfl⟩
      | cons first pieces => exact ⟨(c :: first) :: pieces, piece, rfl, rfl⟩

/-- Trimming drops from the first piece the blanks that stand in front of it. -/
theorem map_trimChars_splitChars_append_left {sep : Char} {front : List Char} (cs : List Char)
    (hfront : ∀ c ∈ front, isBlank c = true) (hsep : sep ∉ front) :
    (splitChars sep (front ++ cs)).map trimChars = (splitChars sep cs).map trimChars := by
  obtain ⟨piece, pieces, hcs, happend⟩ := exists_splitChars_append_left hsep cs
  have hpiece : trimChars (front ++ piece) = trimChars piece := stripChars_append_left piece hfront
  rw [hcs, happend, List.map_cons, List.map_cons, hpiece]

/-- Trimming drops from the last piece the blanks that stand behind it. -/
theorem map_trimChars_splitChars_append_right {sep : Char} {back : List Char} (cs : List Char)
    (hback : ∀ c ∈ back, isBlank c = true) (hsep : sep ∉ back) :
    (splitChars sep (cs ++ back)).map trimChars = (splitChars sep cs).map trimChars := by
  obtain ⟨pieces, piece, hcs, happend⟩ := exists_splitChars_append_right hsep cs
  have hpiece : trimChars (piece ++ back) = trimChars piece := stripChars_append_right piece hback
  rw [hcs, happend, List.map_append, List.map_append, List.map_singleton, List.map_singleton,
    hpiece]

/-- Pieces that are joined by a separator with blanks around it come back trimmed. -/
theorem map_trimChars_splitChars_join {sep : Char} {glue : String} {front back : List Char}
    {ss : List String} (hglue : glue.toList = front ++ sep :: back) (hsep : isBlank sep = false)
    (hfront : ∀ c ∈ front, isBlank c = true) (hback : ∀ c ∈ back, isBlank c = true)
    (hss : ss ≠ []) (h : ∀ s ∈ ss, trim s = s ∧ sep ∉ s.toList) :
    (splitChars sep (join glue ss).toList).map trimChars = ss.map String.toList := by
  have hnot : sep ∉ front := fun hmem => by simp [hfront sep hmem] at hsep
  have hnot' : sep ∉ back := fun hmem => by simp [hback sep hmem] at hsep
  induction ss with
  | nil => exact absurd rfl hss
  | cons s ss ih =>
    obtain ⟨hs, hsep'⟩ := h s (by simp)
    have htrim : trimChars s.toList = s.toList := by rw [← toList_trim, hs]
    cases ss with
    | nil => simp [join, splitChars_eq_singleton hsep', htrim]
    | cons t rest =>
      have hpiece : trimChars (s.toList ++ front) = s.toList :=
        (stripChars_append_right _ hfront).trans htrim
      have hlist : (join glue (s :: t :: rest)).toList =
          (s.toList ++ front) ++ sep :: (back ++ (join glue (t :: rest)).toList) := by
        simp [join_cons_cons, hglue]
      rw [hlist, splitChars_append_cons _ (by simp [hsep', hnot]), List.map_cons, hpiece,
        map_trimChars_splitChars_append_left _ hback hnot', ih (by simp) fun u hu => h u (List.mem_cons_of_mem _ hu)]
      rfl

/-- The pieces that are more than blanks, trimmed. -/
theorem filterMap_nonBlank? (pieces : List (List Char)) :
    pieces.filterMap (fun piece => nonBlank? (String.ofList piece)) =
      ((pieces.map trimChars).filter (!·.isEmpty)).map String.ofList := by
  induction pieces with
  | nil => rfl
  | cons piece pieces ih =>
    by_cases hblank : trimChars piece = [] <;>
      simpa [nonBlank?, trim, hblank] using ih

/-! ### Lines -/

/-- A text that stands on one line and can be told apart from the line end: no line feed is in it,
and it does not end with a carriage return; nor is it empty, as the last line of a text. -/
def isLine (s : String) : Bool :=
  !s.isEmpty && !s.toList.contains '\n' && s.toList.getLast? != some '\r'

theorem exists_piece_of_mem_linesOfPieces {pieces : List (List Char)} {cs : List Char}
    (h : cs ∈ linesOfPieces pieces) : ∃ piece ∈ pieces, cs <+: piece := by
  have hreturn : ∀ piece : List Char, dropReturn piece <+: piece := by
    intro piece
    rw [dropReturn]
    split
    · exact List.dropLast_prefix piece
    · exact List.prefix_rfl
  induction pieces with
  | nil => simp [linesOfPieces] at h
  | cons piece pieces ih =>
    cases pieces with
    | nil =>
      rw [linesOfPieces] at h
      split at h
      · simp at h
      · exact ⟨piece, by simp, (List.mem_singleton.mp h) ▸ List.prefix_rfl⟩
    | cons next rest =>
      rw [linesOfPieces] at h
      · rcases List.mem_cons.mp h with rfl | h
        · exact ⟨piece, by simp, hreturn piece⟩
        · obtain ⟨other, hother, hpart⟩ := ih h
          exact ⟨other, List.mem_cons_of_mem _ hother, hpart⟩
      · simp

/-- No line has a line feed in it. -/
theorem newline_not_mem_of_mem_lines {s line : String} (h : line ∈ lines s) :
    '\n' ∉ line.toList := by
  obtain ⟨cs, hcs, rfl⟩ := List.mem_map.mp h
  obtain ⟨piece, hpiece, hpart⟩ := exists_piece_of_mem_linesOfPieces hcs
  intro hmem
  rw [String.toList_ofList] at hmem
  exact not_mem_of_mem_splitChars hpiece (hpart.subset hmem)

theorem linesOfPieces_eq_self {pieces : List (List Char)} (h : ∀ cs ∈ pieces, cs ≠ [])
    (hr : ∀ cs ∈ pieces, cs.getLast? ≠ some '\r') : linesOfPieces pieces = pieces := by
  induction pieces with
  | nil => rfl
  | cons cs pieces ih =>
    have hcs := h cs (by simp)
    have hcr := hr cs (by simp)
    cases pieces with
    | nil => simp [linesOfPieces, hcs]
    | cons next rest =>
      rw [linesOfPieces, dropReturn, if_neg hcr,
        ih (fun ds hds => h ds (List.mem_cons_of_mem _ hds))
          fun ds hds => hr ds (List.mem_cons_of_mem _ hds)]
      simp

/-- Lines that are joined by line feeds are the lines of the text. -/
theorem lines_join {ls : List String} (h : ∀ l ∈ ls, isLine l = true) :
    lines (join "\n" ls) = ls := by
  simp only [isLine, Bool.and_eq_true, Bool.not_eq_true', bne_iff_ne, ne_eq] at h
  cases ls with
  | nil => rfl
  | cons l ls =>
    have hnewline : ∀ m ∈ l :: ls, '\n' ∉ m.toList := fun m hm => by simpa using (h m hm).1.2
    have hsplit : splitChars '\n' (join "\n" (l :: ls)).toList = (l :: ls).map String.toList :=
      splitChars_join rfl (List.cons_ne_nil l ls) hnewline
    have hne : ∀ cs ∈ (l :: ls).map String.toList, cs ≠ [] := by
      intro cs hcs
      obtain ⟨m, hm, rfl⟩ := List.mem_map.mp hcs
      simpa using (h m hm).1.1
    have hr : ∀ cs ∈ (l :: ls).map String.toList, cs.getLast? ≠ some '\r' := by
      intro cs hcs
      obtain ⟨m, hm, rfl⟩ := List.mem_map.mp hcs
      exact (h m hm).2
    rw [lines, hsplit, linesOfPieces_eq_self hne hr, List.map_map]
    simp [Function.comp_def]

end SchemaExplorer.Text
