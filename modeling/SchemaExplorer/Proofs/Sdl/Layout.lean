import SchemaExplorer.Proofs.Sdl.Reader
import SchemaExplorer.Proofs.Text.Split

/-! # Lines as a reader sees them

Of a line a reader sees what is left without the blanks at its ends, and from a blank line it takes
nothing. So it does not matter to it how a line ends, nor whether the last line of a text ends at
all: a text may be cut at its line feeds alone. -/

namespace SchemaExplorer.Sdl

open Text (isBlank)

namespace Reader

/-! ### One line -/

theorem readLine_congr {line other : String}
    (h : Text.trimChars line.toList = Text.trimChars other.toList) (r : Reader) :
    r.readLine line = r.readLine other := by
  unfold readLine
  rw [h]

theorem readLine_empty (r : Reader) : r.readLine "" = r :=
  readLine_of_ignored (by decide)

/-- The carriage return that may stand at the end of a line is a blank. -/
theorem readLine_dropReturn (r : Reader) (cs : List Char) :
    r.readLine (String.ofList (Text.dropReturn cs)) = r.readLine (String.ofList cs) := by
  apply readLine_congr
  rw [String.toList_ofList, String.toList_ofList, Text.dropReturn]
  split
  · next hreturn =>
    have hcs : cs = cs.dropLast ++ ['\r'] := by
      obtain ⟨front, rfl⟩ := List.getLast?_eq_some_iff.mp hreturn
      simp
    have hblank : ∀ c ∈ ['\r'], isBlank c = true := List.forall_mem_singleton.mpr rfl
    conv => rhs; rw [hcs]
    exact (Text.stripChars_append_right _ hblank).symm
  · rfl

/-! ### The lines of a text -/

theorem readLines_linesOfPieces (r : Reader) (pieces : List (List Char)) :
    r.readLines ((Text.linesOfPieces pieces).map String.ofList) =
      r.readLines (pieces.map String.ofList) := by
  induction pieces generalizing r with
  | nil => rfl
  | cons piece pieces ih =>
    cases pieces with
    | nil =>
      rw [Text.linesOfPieces]
      split
      · next hempty =>
        rw [List.isEmpty_iff.mp hempty]
        exact (readLine_empty r).symm
      · rfl
    | cons next rest =>
      have hread := ih (r.readLine (String.ofList (Text.dropReturn piece)))
      rw [readLine_dropReturn] at hread
      calc r.readLines ((Text.linesOfPieces (piece :: next :: rest)).map String.ofList)
          = (r.readLine (String.ofList (Text.dropReturn piece))).readLines
              ((Text.linesOfPieces (next :: rest)).map String.ofList) := rfl
        _ = (r.readLine (String.ofList piece)).readLines ((next :: rest).map String.ofList) := by
              rw [readLine_dropReturn, hread]
        _ = r.readLines ((piece :: next :: rest).map String.ofList) := rfl

/-- A reader may be given what stands between line feeds instead of the lines. -/
theorem readLines_lines_eq_split (r : Reader) (text : String) :
    r.readLines (Text.lines text) = r.readLines (Text.split '\n' text) :=
  readLines_linesOfPieces r _

/-- A text that stands before another, with a line feed between them, is read before the other.
It may end with a line end of its own, with half of one, or with none. -/
theorem readLines_lines_append (r : Reader) (front back : String) :
    r.readLines (Text.lines (front ++ "\n" ++ back)) =
      (r.readLines (Text.lines front)).readLines (Text.lines back) := by
  rw [readLines_lines_eq_split, readLines_lines_eq_split, readLines_lines_eq_split,
    Text.split_append rfl, readLines_append]

end Reader

end SchemaExplorer.Sdl
