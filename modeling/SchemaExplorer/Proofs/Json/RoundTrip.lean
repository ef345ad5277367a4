import SchemaExplorer.Proofs.Json.Number
import SchemaExplorer.Proofs.Json.Text

/-! # What is written is read

Whatever the layout, as long as it adds nothing but blanks, the text of a value is read as that
value. The numbers of the value have to be numbers. -/

namespace SchemaExplorer.Json

/-! ### Values and layouts -/

mutual

/-- All numbers in the value are read as they stand. -/
def IsLegible : Json → Prop
  | number text => numberAt? text.toList = some (text, [])
  | array items => AreLegible items
  | object entries => HasLegibleValues entries
  | _ => True

def AreLegible : List Json → Prop
  | [] => True
  | item :: items => item.IsLegible ∧ AreLegible items

def HasLegibleValues : List (Option String × Json) → Prop
  | [] => True
  | (_, value) :: entries => value.IsLegible ∧ HasLegibleValues entries

end

/-- The layout adds nothing but blanks. -/
structure Layout.IsBlank (layout : Layout) : Prop where
  lineBreak : ∀ depth, ∀ c ∈ layout.lineBreak depth, isSpace c = true
  colon : ∃ blanks, layout.colon = ':' :: blanks ∧ ∀ c ∈ blanks, isSpace c = true

theorem Layout.isBlank_compact : compact.IsBlank :=
  ⟨fun _ _ hc => absurd hc List.not_mem_nil, [], rfl, by simp⟩

theorem Layout.isBlank_pretty : pretty.IsBlank := by
  refine ⟨fun depth c hc => ?_, [' '], rfl, List.forall_mem_singleton.mpr rfl⟩
  rcases List.mem_cons.mp hc with rfl | hc
  · rfl
  · rw [List.eq_of_mem_replicate hc]
    rfl

/-! ### Blanks -/

theorem skipSpace_append {blanks : List Char} (h : ∀ c ∈ blanks, isSpace c = true)
    (cs : List Char) : skipSpace (blanks ++ cs) = skipSpace cs :=
  List.dropWhile_append_of_pos h

theorem skipSpace_cons {c : Char} (h : isSpace c = false) (cs : List Char) :
    skipSpace (c :: cs) = c :: cs := by
  simp [skipSpace, h]

theorem isSpace_of_numberStart {c : Char} (h : c = '-' ∨ c.isDigit = true) : isSpace c = false := by
  rcases h with rfl | h
  · rfl
  · by_contra hspace
    simp only [isSpace, Bool.not_eq_false, Bool.or_eq_true, beq_iff_eq] at hspace
    rcases hspace with ((rfl | rfl) | rfl) | rfl <;> simp at h

theorem isNumberChar_of_isSpace {c : Char} (h : isSpace c = true) : isNumberChar c = false := by
  simp only [isSpace, Bool.or_eq_true, beq_iff_eq] at h
  rcases h with ((rfl | rfl) | rfl) | rfl <;> decide

/-- Nothing that follows a value in an array or an object continues a number. -/
theorem all_head?_closing {closing : List Char} (h : ∀ c ∈ closing, isSpace c = true) {c : Char}
    (hc : isNumberChar c = false) (tail : List Char) :
    (closing ++ c :: tail).head?.all (!isNumberChar ·) = true := by
  apply Text.all_head?_append
  · exact Text.all_head?_of_forall fun d hd => by rw [isNumberChar_of_isSpace (h d hd)]; rfl
  · simp [hc]

theorem valueAt?_append {blanks : List Char} (h : ∀ c ∈ blanks, isSpace c = true) (fuel : Nat)
    (cs : List Char) : valueAt? fuel (blanks ++ cs) = valueAt? fuel cs := by
  cases fuel with
  | zero => rfl
  | succ fuel => simp only [valueAt?, skipSpace_append h]

/-! ### One token after the other -/

theorem valueAt?_number (fuel : Nat) {c : Char} (h : c = '-' ∨ c.isDigit = true) (cs : List Char) :
    valueAt? (fuel + 1) (c :: cs) =
      (numberAt? (c :: cs)).map fun (text, rest) => (number text, rest) := by
  have hne : c ≠ 'n' ∧ c ≠ 't' ∧ c ≠ 'f' ∧ c ≠ '"' ∧ c ≠ '[' ∧ c ≠ '\x7b' := by
    rcases h with rfl | h
    · decide
    · refine ⟨?_, ?_, ?_, ?_, ?_, ?_⟩ <;> rintro rfl <;> simp at h
  simp [valueAt?, skipSpace_cons (isSpace_of_numberStart h), hne]

theorem valueAt?_string (fuel : Nat) (cs : List Char) :
    valueAt? (fuel + 1) ('"' :: cs) = (stringAt? cs).map fun (s, rest) => (string s, rest) := rfl

theorem valueAt?_array (fuel : Nat) {cs : List Char} (h : (skipSpace cs).head? ≠ some ']') :
    valueAt? (fuel + 1) ('[' :: cs) =
      (itemsAt? fuel cs).map fun (items, rest) => (array items, rest) := by
  have hopen : skipSpace ('[' :: cs) = '[' :: cs := rfl
  cases hcs : skipSpace cs with
  | nil => simp [valueAt?, hopen, hcs]
  | cons c rest =>
    have hc : c ≠ ']' := by simpa [hcs] using h
    simp [valueAt?, hopen, hcs, hc]

theorem valueAt?_object (fuel : Nat) {cs : List Char} (h : (skipSpace cs).head? ≠ some '\x7d') :
    valueAt? (fuel + 1) ('\x7b' :: cs) =
      (entriesAt? fuel cs).map fun (entries, rest) => (object entries, rest) := by
  have hopen : skipSpace ('\x7b' :: cs) = '\x7b' :: cs := rfl
  cases hcs : skipSpace cs with
  | nil => simp [valueAt?, hopen, hcs]
  | cons c rest =>
    have hc : c ≠ '\x7d' := by simpa [hcs] using h
    simp [valueAt?, hopen, hcs, hc]

/-- A value begins with a character that neither is blank nor ends an array. -/
theorem exists_write_eq_cons (layout : Layout) (depth : Nat) {j : Json} (h : j.IsLegible) :
    ∃ c cs, write layout depth j = c :: cs ∧ isSpace c = false ∧ c ≠ ']' := by
  cases j with
  | null => exact ⟨_, _, rfl, rfl, by decide⟩
  | bool b => cases b <;> exact ⟨_, _, rfl, rfl, by decide⟩
  | number text =>
    rw [IsLegible] at h
    cases htext : text.toList with
    | nil => simp [htext, numberAt?_nil] at h
    | cons c cs =>
      rw [htext] at h
      have hc := eq_or_isDigit_of_numberAt? h
      refine ⟨c, cs, htext, isSpace_of_numberStart hc, ?_⟩
      rintro rfl
      simp at hc
  | string s =>
    obtain ⟨body, hbody, -⟩ := exists_stringAt?_writeString s
    exact ⟨_, _, hbody, rfl, by decide⟩
  | array items => exact ⟨_, _, rfl, rfl, by decide⟩
  | object entries => exact ⟨_, _, rfl, rfl, by decide⟩

/-! ### What is written, piece by piece -/

section

variable (layout : Layout) (depth : Nat)

theorem write_array_append {items : List Json} (h : items ≠ []) (tail : List Char) :
    write layout depth (array items) ++ tail =
      '[' :: (writeItems layout (depth + 1) items ++ (layout.lineBreak depth ++ ']' :: tail)) := by
  simp [write, h]

theorem write_object_append {entries : List (Option String × Json)} (h : entries ≠ [])
    (tail : List Char) :
    write layout depth (object entries) ++ tail =
      '\x7b' :: (writeEntries layout (depth + 1) entries ++
        (layout.lineBreak depth ++ '\x7d' :: tail)) := by
  simp [write, h]

/-- What stands behind an item or an entry, up to the next one. -/
def comma {α : Type} (rest : List α) : List Char :=
  if rest.isEmpty then [] else [',']

theorem writeItems_cons_append (item : Json) (items : List Json) (tail : List Char) :
    writeItems layout depth (item :: items) ++ tail =
      layout.lineBreak depth ++ (write layout depth item ++
        (comma items ++ (writeItems layout depth items ++ tail))) := by
  simp [writeItems, comma]

theorem writeEntries_cons_append (key : Option String) (value : Json)
    (entries : List (Option String × Json)) (tail : List Char) :
    writeEntries layout depth ((key, value) :: entries) ++ tail =
      layout.lineBreak depth ++ (writeString key ++ (layout.colon ++ (write layout depth value ++
        (comma entries ++ (writeEntries layout depth entries ++ tail))))) := by
  simp [writeEntries, comma]

variable {layout depth}

theorem head?_skipSpace_writeItems (hlayout : layout.IsBlank) {item : Json} (hitem : item.IsLegible)
    (items : List Json) (tail : List Char) :
    (skipSpace (writeItems layout depth (item :: items) ++ tail)).head? ≠ some ']' := by
  obtain ⟨c, cs, hwrite, hc, hbracket⟩ := exists_write_eq_cons layout depth hitem
  rw [writeItems_cons_append, skipSpace_append (hlayout.lineBreak depth), hwrite, List.cons_append,
    skipSpace_cons hc]
  simpa using hbracket

theorem skipSpace_writeEntries (hlayout : layout.IsBlank) (key : Option String) (value : Json)
    (entries : List (Option String × Json)) (tail : List Char) :
    skipSpace (writeEntries layout depth ((key, value) :: entries) ++ tail) =
      writeString key ++ (layout.colon ++ (write layout depth value ++
        (comma entries ++ (writeEntries layout depth entries ++ tail)))) := by
  obtain ⟨body, hkey, -⟩ := exists_stringAt?_writeString key
  rw [writeEntries_cons_append, skipSpace_append (hlayout.lineBreak depth), hkey, List.cons_append,
    skipSpace_cons rfl]

end

/-! ### Values in values -/

/-- With so much fuel, what is written is read. The texts of items and entries leave out what
closes the array or the object. -/
structure ReadsBack (layout : Layout) (fuel : Nat) : Prop where
  value : ∀ depth j tail, j.IsLegible → tail.head?.all (!isNumberChar ·) = true →
    2 * (write layout depth j).length ≤ fuel →
    valueAt? fuel (write layout depth j ++ tail) = some (j, tail)
  items : ∀ depth items closing tail, AreLegible items → items ≠ [] →
    (∀ c ∈ closing, isSpace c = true) → 2 * (writeItems layout depth items).length < fuel →
    itemsAt? fuel (writeItems layout depth items ++ (closing ++ ']' :: tail)) = some (items, tail)
  entries : ∀ depth entries closing tail, HasLegibleValues entries → entries ≠ [] →
    (∀ c ∈ closing, isSpace c = true) → 2 * (writeEntries layout depth entries).length < fuel →
    entriesAt? fuel (writeEntries layout depth entries ++ (closing ++ '\x7d' :: tail)) =
      some (entries, tail)

namespace ReadsBack

variable {layout : Layout} {fuel : Nat}

theorem valueAt?_succ (h : ReadsBack layout fuel) (hlayout : layout.IsBlank) (depth : Nat) (j : Json)
    (tail : List Char) (hj : j.IsLegible) (htail : tail.head?.all (!isNumberChar ·) = true)
    (hfuel : 2 * (write layout depth j).length ≤ fuel + 1) :
    valueAt? (fuel + 1) (write layout depth j ++ tail) = some (j, tail) := by
  cases j with
  | null => rfl
  | bool b => cases b <;> rfl
  | number text =>
    rw [IsLegible] at hj
    have hread := numberAt?_append hj htail
    rw [write]
    cases htext : text.toList with
    | nil => simp [htext, numberAt?_nil] at hj
    | cons c cs =>
      rw [htext] at hj hread
      rw [List.cons_append, valueAt?_number fuel (eq_or_isDigit_of_numberAt? hj),
        ← List.cons_append, hread]
      rfl
  | string s =>
    obtain ⟨body, hbody, hread⟩ := exists_stringAt?_writeString s
    rw [write, hbody, List.cons_append, valueAt?_string, hread]
    rfl
  | array items =>
    cases items with
    | nil => rfl
    | cons item items =>
      have hne : item :: items ≠ [] := List.cons_ne_nil item items
      rw [IsLegible] at hj
      have hlength := congrArg List.length (write_array_append layout depth hne [])
      simp only [List.append_nil, List.length_cons, List.length_append] at hlength
      rw [write_array_append layout depth hne,
        valueAt?_array fuel (head?_skipSpace_writeItems hlayout hj.1 items _),
        h.items (depth + 1) (item :: items) _ tail hj hne (hlayout.lineBreak depth) (by omega)]
      rfl
  | object entries =>
    cases entries with
    | nil => rfl
    | cons entry entries =>
      obtain ⟨key, value⟩ := entry
      have hne : (key, value) :: entries ≠ [] := List.cons_ne_nil (key, value) entries
      rw [IsLegible] at hj
      obtain ⟨body, hkey, -⟩ := exists_stringAt?_writeString key
      have hlength := congrArg List.length (write_object_append layout depth hne [])
      simp only [List.append_nil, List.length_cons, List.length_append] at hlength
      rw [write_object_append layout depth hne,
        valueAt?_object fuel (by rw [skipSpace_writeEntries hlayout, hkey]; simp),
        h.entries (depth + 1) _ _ tail hj hne (hlayout.lineBreak depth) (by omega)]
      rfl

theorem itemsAt?_succ (h : ReadsBack layout fuel) (hlayout : layout.IsBlank) (depth : Nat)
    (items : List Json) (closing tail : List Char) (hitems : AreLegible items) (hne : items ≠ [])
    (hclosing : ∀ c ∈ closing, isSpace c = true)
    (hfuel : 2 * (writeItems layout depth items).length < fuel + 1) :
    itemsAt? (fuel + 1) (writeItems layout depth items ++ (closing ++ ']' :: tail)) =
      some (items, tail) := by
  cases items with
  | nil => exact absurd rfl hne
  | cons item items =>
    rw [AreLegible] at hitems
    have hlength := congrArg List.length (writeItems_cons_append layout depth item items [])
    simp only [List.append_nil, List.length_append] at hlength
    rw [writeItems_cons_append, itemsAt?, valueAt?_append (hlayout.lineBreak depth)]
    cases items with
    | nil =>
      have hitem := h.value depth item (closing ++ ']' :: tail) hitems.1
        (all_head?_closing hclosing (by decide) tail) (by omega)
      have hend : skipSpace (closing ++ ']' :: tail) = ']' :: tail := by
        rw [skipSpace_append hclosing, skipSpace_cons rfl]
      simp [comma, writeItems, hitem, hend]
    | cons next rest =>
      have hcomma : (comma (next :: rest)).length = 1 := rfl
      have hitem := h.value depth item
        (',' :: (writeItems layout depth (next :: rest) ++ (closing ++ ']' :: tail))) hitems.1 rfl
        (by omega)
      have hrest := h.items depth (next :: rest) closing tail hitems.2 (List.cons_ne_nil next rest)
        hclosing (by omega)
      simp [comma, hitem, skipSpace_cons, isSpace, hrest]

theorem entriesAt?_succ (h : ReadsBack layout fuel) (hlayout : layout.IsBlank) (depth : Nat)
    (entries : List (Option String × Json)) (closing tail : List Char)
    (hentries : HasLegibleValues entries) (hne : entries ≠ [])
    (hclosing : ∀ c ∈ closing, isSpace c = true)
    (hfuel : 2 * (writeEntries layout depth entries).length < fuel + 1) :
    entriesAt? (fuel + 1) (writeEntries layout depth entries ++ (closing ++ '\x7d' :: tail)) =
      some (entries, tail) := by
  cases entries with
  | nil => exact absurd rfl hne
  | cons entry entries =>
    obtain ⟨key, value⟩ := entry
    rw [HasLegibleValues] at hentries
    obtain ⟨body, hkey, hread⟩ := exists_stringAt?_writeString key
    obtain ⟨blanks, hcolon, hblanks⟩ := hlayout.colon
    have hlength := congrArg List.length (writeEntries_cons_append layout depth key value entries [])
    simp only [List.append_nil, List.length_append] at hlength
    rw [entriesAt?, skipSpace_writeEntries hlayout, hkey, hcolon]
    cases entries with
    | nil =>
      have hvalue := h.value depth value (closing ++ '\x7d' :: tail) hentries.1
        (all_head?_closing hclosing (by decide) tail) (by omega)
      have hend : skipSpace (closing ++ '\x7d' :: tail) = '\x7d' :: tail := by
        rw [skipSpace_append hclosing, skipSpace_cons rfl]
      simp [comma, writeEntries, hread, skipSpace_cons, isSpace, valueAt?_append hblanks, hvalue,
        hend]
    | cons next rest =>
      have hcomma : (comma (next :: rest)).length = 1 := rfl
      have hvalue := h.value depth value
        (',' :: (writeEntries layout depth (next :: rest) ++ (closing ++ '\x7d' :: tail)))
        hentries.1 rfl (by omega)
      have hrest := h.entries depth (next :: rest) closing tail hentries.2
        (List.cons_ne_nil next rest) hclosing (by omega)
      simp [comma, hread, skipSpace_cons, isSpace, valueAt?_append hblanks, hvalue, hrest]

end ReadsBack

theorem readsBack {layout : Layout} (hlayout : layout.IsBlank) (fuel : Nat) :
    ReadsBack layout fuel := by
  induction fuel with
  | zero =>
    refine ⟨fun depth j tail hj _ hfuel => ?_, fun _ _ _ _ _ _ _ h => absurd h (Nat.not_lt_zero _),
      fun _ _ _ _ _ _ _ h => absurd h (Nat.not_lt_zero _)⟩
    obtain ⟨c, cs, hwrite, -⟩ := exists_write_eq_cons layout depth hj
    simp [hwrite] at hfuel
  | succ fuel ih =>
    exact ⟨ih.valueAt?_succ hlayout, ih.itemsAt?_succ hlayout, ih.entriesAt?_succ hlayout⟩

/-! ### Texts -/

theorem parse?_write {layout : Layout} (hlayout : layout.IsBlank) {j : Json} (hj : j.IsLegible) :
    parse? (String.ofList (write layout 0 j)) = some j := by
  have hread := (readsBack hlayout (2 * (write layout 0 j).length + 2)).value 0 j [] hj rfl
    (by omega)
  rw [List.append_nil] at hread
  simp [parse?, hread, skipSpace]

theorem parse?_compact {j : Json} (hj : j.IsLegible) : parse? j.compact = some j :=
  parse?_write Layout.isBlank_compact hj

theorem parse?_pretty {j : Json} (hj : j.IsLegible) : parse? j.pretty = some j :=
  parse?_write Layout.isBlank_pretty hj

end SchemaExplorer.Json
