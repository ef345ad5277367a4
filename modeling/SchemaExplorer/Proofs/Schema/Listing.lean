import Mathlib.Algebra.Ring.Nat
import SchemaExplorer.Proofs.Sdl.Description
import SchemaExplorer.Proofs.Sdl.Shown
import SchemaExplorer.Schema.Listing

/-! # What a listing shows

Nothing that is read of a schema text goes over the end of a line, and no possible type of a union
has a bar in it. So a listing has one line for each thing that it shows, and the members of a type
can be counted on its listing alone. -/

namespace SchemaExplorer

open scoped List
open Text (isBlank)
open Sdl

/-! ### Cutting at bars -/

namespace Text

/-- The pieces between the bars that have a space on each side, found from the left. -/
def splitAtBars : List Char → List (List Char)
  | [] => [[]]
  | ' ' :: '|' :: ' ' :: cs => [] :: splitAtBars cs
  | c :: cs => (splitAtBars cs).modifyHead (c :: ·)

theorem splitAtBars_eq_singleton {cs : List Char} (h : '|' ∉ cs) : splitAtBars cs = [cs] := by
  induction cs with
  | nil => rfl
  | cons c cs ih =>
    simp only [List.mem_cons, not_or] at h
    obtain ⟨-, hcs⟩ := h
    have hbar : ∀ rest, c = ' ' → cs = '|' :: ' ' :: rest → False := by
      rintro rest - rfl
      simp at hcs
    rw [splitAtBars.eq_3 c cs hbar, ih hcs]
    rfl

theorem splitAtBars_append {front : List Char} (cs : List Char) (h : '|' ∉ front) :
    splitAtBars (front ++ ' ' :: '|' :: ' ' :: cs) = front :: splitAtBars cs := by
  induction front with
  | nil => rw [List.nil_append, splitAtBars]
  | cons c front ih =>
    simp only [List.mem_cons, not_or] at h
    obtain ⟨-, hfront⟩ := h
    -- No bar comes right behind `c`: if `front` is empty, a space does.
    have hbar : ∀ rest, c = ' ' → front ++ ' ' :: '|' :: ' ' :: cs = '|' :: ' ' :: rest → False := by
      rintro rest - heq
      cases front with
      | nil => simp at heq
      | cons d front => simp [(List.cons.inj heq).1] at hfront
    rw [List.cons_append, splitAtBars.eq_3 c _ hbar, ih hfront]
    rfl

theorem splitAtBars_join {ss : List String} (hss : ss ≠ []) (h : ∀ s ∈ ss, '|' ∉ s.toList) :
    splitAtBars (join " | " ss).toList = ss.map String.toList := by
  induction ss with
  | nil => exact absurd rfl hss
  | cons s ss ih =>
    have hs := h s List.mem_cons_self
    cases ss with
    | nil => simpa [join] using splitAtBars_eq_singleton hs
    | cons t rest =>
      have hlist : (join " | " (s :: t :: rest)).toList =
          s.toList ++ ' ' :: '|' :: ' ' :: (join " | " (t :: rest)).toList := by
        simp [join_cons_cons]
      rw [hlist, splitAtBars_append _ hs,
        ih (List.cons_ne_nil t rest) fun u hu => h u (List.mem_cons_of_mem _ hu)]
      rfl

end Text

/-! ### Nothing goes over the end of a line -/

namespace Sdl

theorem infix_of_mem_possibleTypes {cs : List Char} {t : String}
    (h : t ∈ Reader.possibleTypes cs) : t.toList <:+: cs := by
  unfold Reader.possibleTypes at h
  split at h
  · simp at h
  · next front members hsplit =>
    obtain ⟨piece, hpiece, hread⟩ := List.mem_filterMap.mp h
    obtain ⟨rfl, -⟩ := Text.nonBlank?_eq_some_iff.mp hread
    have htrim : (Text.trim (String.ofList piece)).toList <:+: piece := by
      rw [Text.toList_trim, String.toList_ofList]
      exact Text.isInfix_stripChars isBlank piece
    have hmembers : members <:+: cs := by
      rw [(Text.splitCharsOnce?_eq_some_iff.mp hsplit).1]
      exact (List.suffix_cons '=' members).isInfix.trans (List.suffix_append _ _).isInfix
    exact (htrim.trans (Text.infix_of_mem_splitChars hpiece)).trans hmembers

theorem possibleTypes_addMember (d : TypeDefinition) (m : Member) (description : Option String) :
    (addMember d m description).possibleTypes = d.possibleTypes := by
  rw [addMember]
  split
  · rfl
  · split <;> rfl

theorem newline_not_mem_possibleTypes {text : String} {d : TypeDefinition} (hd : d ∈ parse text) :
    ∀ t ∈ d.possibleTypes, '\n' ∉ t.toList := by
  have hlines : d ∈ (Reader.start.readLines (Text.lines text)).finish := hd
  refine forall_mem_finish_readLines (P := fun d => ∀ t ∈ d.possibleTypes, '\n' ∉ t.toList)
    ?_ ?_ d hlines
  · intro line hline i description _ t ht hmem
    simp only [Reader.introduced] at ht
    split at ht
    · exact Text.newline_not_mem_of_mem_lines hline
        ((Text.isInfix_stripChars isBlank _).subset ((infix_of_mem_possibleTypes ht).subset hmem))
    · simp at ht
  · intro _ _ d m description h _ _ t ht
    rw [possibleTypes_addMember] at ht
    exact h t ht

theorem infix_of_describes {cs : List Char} {text : String} (h : Describes cs text) :
    text.toList <:+: cs := by
  obtain ⟨inside, rfl, -, rfl⟩ := h
  rw [Text.toList_trim]
  exact (Text.isInfix_stripChars isBlank _).trans ⟨['"'], ['"'], by simp⟩

theorem newline_not_mem_of_mem_descriptions {text t : String}
    (h : t ∈ descriptions (parse text)) : '\n' ∉ t.toList := by
  obtain ⟨line, hline, hread⟩ := List.mem_filterMap.mp ((descriptions_parse_sublist text).subset h)
  have hpart : t.toList <:+: line.toList :=
    (infix_of_describes (description?_lineOf_eq_some_iff.mp hread)).trans
      (Text.isInfix_stripChars isBlank _)
  exact fun hmem => Text.newline_not_mem_of_mem_lines hline (hpart.subset hmem)

end Sdl

namespace TypeDefinition

/-- Each thing that is shown of the type stands on one line, and the possible types can be told
apart. -/
structure IsListable (d : TypeDefinition) : Prop where
  name : '\n' ∉ d.name.toList
  description : ∀ text ∈ d.description, '\n' ∉ text.toList
  fields : ∀ f ∈ d.fields, isName f.name.toList = true ∧ '\n' ∉ f.listing.toList
  inputFields : ∀ a ∈ d.inputFields, isName a.name.toList = true ∧ '\n' ∉ a.line.toList
  possibleTypes : ∀ t ∈ d.possibleTypes, '\n' ∉ t.toList ∧ '|' ∉ t.toList
  enumValues_eq : d.enumValues = []

end TypeDefinition

theorem Sdl.isListable_of_mem_parse {text : String} {d : TypeDefinition} (hd : d ∈ parse text) :
    d.IsListable := by
  have hwell := isWellFormed_of_mem_parse hd
  have hlegible := isLegible_of_mem_parse hd
  have hdescriptions : ∀ t ∈ d.description.toList ++ d.fields.filterMap Field.description,
      '\n' ∉ t.toList :=
    fun t ht => newline_not_mem_of_mem_descriptions (List.mem_flatMap.mpr ⟨d, hd, ht⟩)
  refine ⟨not_mem_of_isName hwell.isName (by decide), ?_, ?_, ?_, ?_, hwell.enumValues_eq⟩
  · intro t ht
    exact hdescriptions t (by simpa using .inl ht)
  · intro f hf
    have hline := (hlegible.fields f hf).isTrimmedLine_line.2.1
    refine ⟨(hlegible.fields f hf).isNamed.1, ?_⟩
    cases hnote : f.description with
    | none => simpa [Field.listing, hnote] using hline
    | some note =>
      have hdescription : '\n' ∉ note.toList :=
        hdescriptions note (List.mem_append_right _ (List.mem_filterMap.mpr ⟨f, hf, hnote⟩))
      simp [Field.listing, hnote, hline, hdescription]
  · intro a ha
    exact ⟨(hlegible.inputFields a ha).isNamed.1, (hlegible.inputFields a ha).isTrimmedLine_line.2.1⟩
  · intro t ht
    exact ⟨newline_not_mem_possibleTypes hd t ht, (hwell.possibleTypes t ht).2.2⟩

/-! ### Counting members on a listing -/

/-- The number of members that a line of a listing shows, if it is not the first: none on the line
of the description, a union's possible types on theirs, and one on any other. -/
def membersOnLine (line : String) : Nat :=
  match line.toList with
  | ' ' :: ' ' :: '"' :: _ => 0
  | ' ' :: ' ' :: '=' :: ' ' :: members => (Text.splitAtBars members).length
  | _ => 1

/-- The number of members that a listing shows. -/
def membersShown (listing : String) : Nat :=
  ((Text.split '\n' listing).tail.map membersOnLine).sum

/-- What the listing of a type consists of. -/
structure TypeDefinition.IsShownBy (d : TypeDefinition) (listing : String) : Prop where
  lines_eq : Text.split '\n' listing =
    (d.name ++ " (" ++ d.kind.name ++ ")") ::
      (d.description.toList.map (fun text => "  \"" ++ text ++ "\"") ++
        d.fields.map (fun f => "  " ++ f.listing) ++
        d.inputFields.map (fun a => "  " ++ a.line) ++
        if d.possibleTypes = [] then [] else ["  = " ++ Text.join " | " d.possibleTypes])
  length_eq : (Text.split '\n' listing).length =
    1 + (if d.description.isSome then 1 else 0) + d.fields.length + d.inputFields.length +
      if d.possibleTypes = [] then 0 else 1
  membersShown_eq : membersShown listing =
    d.fields.length + d.inputFields.length + d.possibleTypes.length

theorem membersOnLine_of_isNameStart {line : String}
    (h : line.toList.head?.any isNameStart = true) : membersOnLine ("  " ++ line) = 1 := by
  cases hline : line.toList with
  | nil => simp [hline] at h
  | cons c cs =>
    have hne : ∀ d, isNameStart d = false → c ≠ d := by
      rintro d hd rfl
      simp [hline, hd] at h
    have hquote : c ≠ '"' := hne '"' (by decide)
    have hequals : c ≠ '=' := hne '=' (by decide)
    have hlist : ("  " ++ line).toList = ' ' :: ' ' :: c :: cs := by simp [hline]
    rw [membersOnLine, hlist]
    split
    · next heq => simp [hquote] at heq
    · next heq => simp [hequals] at heq
    · rfl

theorem membersOnLine_description (text : String) :
    membersOnLine ("  \"" ++ text ++ "\"") = 0 := by
  have hlist : ("  \"" ++ text ++ "\"").toList = ' ' :: ' ' :: '"' :: (text.toList ++ ['"']) := by
    simp
  rw [membersOnLine, hlist]
  rfl

theorem membersOnLine_possibleTypes {ts : List String} (hts : ts ≠ [])
    (h : ∀ t ∈ ts, '|' ∉ t.toList) :
    membersOnLine ("  = " ++ Text.join " | " ts) = ts.length := by
  have hlist : ("  = " ++ Text.join " | " ts).toList =
      ' ' :: ' ' :: '=' :: ' ' :: (Text.join " | " ts).toList := by simp
  rw [membersOnLine, hlist]
  simp [Text.splitAtBars_join hts h]

theorem Field.any_head?_listing {f : Field} (h : isName f.name.toList = true) :
    f.listing.toList.head?.any isNameStart = true := by
  have hlist : f.listing.toList = f.name.toList ++ (f.argumentTail ++ ':' :: ' ' ::
      f.signature.text.toList ++ (f.description.elim "" ("  # " ++ ·)).toList) := by
    cases hnote : f.description <;> simp [listing, hnote, toList_line]
  rw [hlist]
  exact any_head?_append_of_isName h _

theorem Argument.any_head?_line {a : Argument} (h : isName a.name.toList = true) :
    a.line.toList.head?.any isNameStart = true := by
  rw [toList_line]
  exact any_head?_append_of_isName h _

namespace TypeDefinition

variable {d : TypeDefinition}

theorem map_listingBody (d : TypeDefinition) :
    d.listingBody.map (fun line => "  " ++ line) =
      d.description.toList.map (fun text => "  \"" ++ text ++ "\"") ++
        d.fields.map (fun f => "  " ++ f.listing) ++
        d.inputFields.map (fun a => "  " ++ a.line) ++
        if d.possibleTypes = [] then [] else ["  = " ++ Text.join " | " d.possibleTypes] := by
  have hquote : ∀ text : String, "  " ++ ("\"" ++ text ++ "\"") = "  \"" ++ text ++ "\"" := by
    simp [← String.toList_inj]
  have hequals : ∀ text : String, "  " ++ ("= " ++ text) = "  = " ++ text := by
    simp [← String.toList_inj]
  cases hdescription : d.description <;> by_cases hts : d.possibleTypes = [] <;>
    simp [listingBody, hdescription, hts, hquote, hequals, Function.comp_def]

theorem IsListable.newline_not_mem (h : d.IsListable) :
    ∀ line ∈ (d.name ++ " (" ++ d.kind.name ++ ")") :: d.listingBody.map (fun line => "  " ++ line),
      '\n' ∉ line.toList := by
  have hkind : '\n' ∉ d.kind.name.toList := by cases d.kind <;> decide
  simp only [map_listingBody, List.forall_mem_cons, List.forall_mem_append, List.forall_mem_map]
  refine ⟨by simp [h.name, hkind], ⟨⟨?_, ?_⟩, ?_⟩, ?_⟩
  · intro text htext
    simp [h.description text (by simpa using htext)]
  · intro f hf
    simp [(h.fields f hf).2]
  · intro a ha
    simp [(h.inputFields a ha).2]
  · split
    · simp
    · have hjoin : '\n' ∉ (Text.join " | " d.possibleTypes).toList := by
        rw [Text.mem_toList_join_iff (by decide)]
        rintro ⟨t, ht, hmem⟩
        exact (h.possibleTypes t ht).1 hmem
      simp [hjoin]

theorem IsListable.isShownBy_listing (h : d.IsListable) : d.IsShownBy d.listing := by
  have hsplit : Text.split '\n' d.listing =
      (d.name ++ " (" ++ d.kind.name ++ ")") :: d.listingBody.map (fun line => "  " ++ line) :=
    Text.split_join rfl (List.cons_ne_nil _ _) h.newline_not_mem
  have hfields : d.fields.map (fun f => membersOnLine ("  " ++ f.listing)) =
      d.fields.map fun _ => 1 :=
    List.map_congr_left fun f hf =>
      membersOnLine_of_isNameStart (Field.any_head?_listing (h.fields f hf).1)
  have hinputFields : d.inputFields.map (fun a => membersOnLine ("  " ++ a.line)) =
      d.inputFields.map fun _ => 1 :=
    List.map_congr_left fun a ha =>
      membersOnLine_of_isNameStart (Argument.any_head?_line (h.inputFields a ha).1)
  rw [map_listingBody] at hsplit
  refine ⟨hsplit, ?_, ?_⟩
  · rw [hsplit]
    cases d.description <;> by_cases hts : d.possibleTypes = [] <;> simp [hts] <;> omega
  · rw [membersShown, hsplit, List.tail_cons]
    simp only [List.map_append, List.sum_append, List.map_map, Function.comp_def,
      membersOnLine_description, hfields, hinputFields]
    by_cases hts : d.possibleTypes = []
    · simp [hts]
    · have hunion := membersOnLine_possibleTypes hts fun t ht => (h.possibleTypes t ht).2
      simp [hts, hunion]

theorem IsListable.memberCount_eq (h : d.IsListable) : d.memberCount = membersShown d.listing := by
  rw [h.isShownBy_listing.membersShown_eq, memberCount, h.enumValues_eq, List.length_nil,
    Nat.add_zero]

theorem newline_not_mem_toDigits (n : Nat) : '\n' ∉ Nat.toDigits 10 n := fun h =>
  absurd (Nat.isDigit_of_mem_toDigits (by decide) (by decide) h) (by decide)

theorem IsListable.newline_not_mem_summary (h : d.IsListable) : '\n' ∉ d.summary.toList := by
  have hkind : '\n' ∉ d.kind.name.toList := by cases d.kind <;> decide
  simp [summary, h.name, hkind, newline_not_mem_toDigits]

end TypeDefinition

end SchemaExplorer
