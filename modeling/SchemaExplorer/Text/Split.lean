/-!
Cutting a text at a separator, and joining pieces again. Cutting works on lists of characters;
the operations on `String` go through that view.
-/

namespace SchemaExplorer.Text

/-! ### Lists of characters -/

/-- The pieces between the occurrences of `sep`; one piece more than there are separators. -/
def splitChars (sep : Char) : List Char → List (List Char)
  | [] => [[]]
  | c :: cs =>
    if c = sep then [] :: splitChars sep cs
    else
      match splitChars sep cs with
      | [] => [[c]]
      | piece :: pieces => (c :: piece) :: pieces

/-- What stands before and after the first `sep`, if there is one. -/
def splitCharsOnce? (sep : Char) (cs : List Char) : Option (List Char × List Char) :=
  match cs.dropWhile (· != sep) with
  | [] => none
  | _ :: rest => some (cs.takeWhile (· != sep), rest)

/-- Drops one carriage return from the end. -/
def dropReturn (cs : List Char) : List Char :=
  if cs.getLast? = some '\r' then cs.dropLast else cs

/-- The lines among the pieces between line feeds: each that a line feed follows, without the
carriage return that may stand before it, and the last piece if it is not empty. -/
def linesOfPieces : List (List Char) → List (List Char)
  | [] => []
  | [last] => if last.isEmpty then [] else [last]
  | piece :: pieces => dropReturn piece :: linesOfPieces pieces

theorem splitChars_ne_nil (sep : Char) (cs : List Char) : splitChars sep cs ≠ [] := by
  cases cs with
  | nil => simp [splitChars]
  | cons c cs =>
    simp only [splitChars]
    split
    · simp
    · split <;> simp

/-- Nothing but the separators is lost. -/
theorem intercalate_splitChars (sep : Char) (cs : List Char) :
    [sep].intercalate (splitChars sep cs) = cs := by
  induction cs with
  | nil => rfl
  | cons c cs ih =>
    simp only [splitChars]
    split
    · next h =>
      cases hp : splitChars sep cs with
      | nil => exact absurd hp (splitChars_ne_nil sep cs)
      | cons piece pieces => rw [hp] at ih; simp [List.intercalate_cons_cons, ih, h]
    · cases hp : splitChars sep cs with
      | nil => exact absurd hp (splitChars_ne_nil sep cs)
      | cons piece pieces =>
        rw [hp] at ih
        cases pieces with
        | nil => simp_all
        | cons next rest => simp_all [List.intercalate_cons_cons]

theorem not_mem_of_mem_splitChars {sep : Char} {cs piece : List Char}
    (h : piece ∈ splitChars sep cs) : sep ∉ piece := by
  induction cs generalizing piece with
  | nil => simp_all [splitChars]
  | cons c cs ih =>
    simp only [splitChars] at h
    split at h
    · rcases List.mem_cons.1 h with rfl | h
      · simp
      · exact ih h
    · next hc =>
      cases hp : splitChars sep cs with
      | nil => exact absurd hp (splitChars_ne_nil sep cs)
      | cons first rest =>
        rw [hp] at h ih
        rcases List.mem_cons.1 h with rfl | h
        · have hfirst := ih List.mem_cons_self
          simpa [hfirst] using fun e => hc e.symm
        · exact ih (List.mem_cons_of_mem _ h)

theorem splitCharsOnce?_append {sep : Char} {front : List Char} (back : List Char)
    (h : sep ∉ front) : splitCharsOnce? sep (front ++ sep :: back) = some (front, back) := by
  have hp : ∀ c ∈ front, (c != sep) = true := fun c hc => by
    simpa using fun e : c = sep => h (e ▸ hc)
  simp [splitCharsOnce?, List.dropWhile_append_of_pos hp, List.takeWhile_append_of_pos hp]

theorem splitCharsOnce?_eq_none_iff {sep : Char} {cs : List Char} :
    splitCharsOnce? sep cs = none ↔ sep ∉ cs := by
  constructor
  · intro h hmem
    obtain ⟨front, back, rfl, hfront⟩ := List.eq_append_cons_of_mem hmem
    simp [splitCharsOnce?_append back hfront] at h
  · intro h
    have hp : ∀ c ∈ cs, (c != sep) = true := fun c hc => by
      simpa using fun e : c = sep => h (e ▸ hc)
    have hnil : cs.dropWhile (· != sep) = [] := by
      simpa using @List.dropWhile_append_of_pos _ _ cs [] hp
    simp [splitCharsOnce?, hnil]

/-! ### Strings -/

/-- The pieces between the occurrences of `sep`. -/
def split (sep : Char) (s : String) : List String :=
  (splitChars sep s.toList).map String.ofList

/-- What stands before and after the first `sep`, if there is one. -/
def splitOnce? (sep : Char) (s : String) : Option (String × String) :=
  (splitCharsOnce? sep s.toList).map fun (front, back) => (String.ofList front, String.ofList back)

/-- The lines of a text. A line ends with a line feed, which may have one carriage return before
it; the last line needs no end. -/
def lines (s : String) : List String :=
  (linesOfPieces (splitChars '\n' s.toList)).map String.ofList

/-- The texts one after the other, with `sep` between neighbours. -/
def join (sep : String) : List String → String
  | [] => ""
  | [s] => s
  | s :: rest => s ++ sep ++ join sep rest

end SchemaExplorer.Text
