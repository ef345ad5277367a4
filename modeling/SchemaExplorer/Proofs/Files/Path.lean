import SchemaExplorer.Files.Tree
import SchemaExplorer.Proofs.Text.ByteOrder
import SchemaExplorer.Proofs.Text.Split

/-! # Paths below a directory

The path of an entry has the parts of its directory's path and the name of the entry. Whether the
directory's path ends with a `/` makes no difference. -/

namespace SchemaExplorer

namespace Path

/-- A name that an entry of a directory can have. A single dot stands for the directory itself, and
two for the one above. -/
structure IsEntryName (name : String) : Prop where
  ne_empty : name ≠ ""
  ne_dot : name ≠ "."
  ne_dots : name ≠ ".."
  slash_not_mem : '/' ∉ name.toList

instance (name : String) : Decidable (IsEntryName name) :=
  decidable_of_iff (name ≠ "" ∧ name ≠ "." ∧ name ≠ ".." ∧ '/' ∉ name.toList)
    ⟨fun ⟨h₁, h₂, h₃, h₄⟩ => ⟨h₁, h₂, h₃, h₄⟩, fun ⟨h₁, h₂, h₃, h₄⟩ => ⟨h₁, h₂, h₃, h₄⟩⟩

variable {name : String}

theorem exists_parts_child (directory : String) (h : IsEntryName name) :
    ∃ front, parts (child directory name) = front ++ [name] ∧
      (parts directory = front ∨ parts directory = front ++ [""]) := by
  have hname : Text.splitChars '/' name.toList = [name.toList] :=
    Text.splitChars_eq_singleton h.slash_not_mem
  rw [child]
  split
  · next hslash =>
    obtain ⟨front, hfront⟩ := List.getLast?_eq_some_iff.mp hslash
    refine ⟨(Text.splitChars '/' front).map String.ofList, ?_, Or.inr ?_⟩
    · simp [parts, Text.split, hfront, Text.splitChars_append, hname]
    · simp [parts, Text.split, hfront, Text.splitChars_append, Text.splitChars]
  · refine ⟨parts directory, ?_, Or.inl rfl⟩
    simp [parts, Text.split, Text.splitChars_append, hname]

theorem fileName?_child (directory : String) (h : IsEntryName name) :
    fileName? (child directory name) = some name := by
  obtain ⟨front, hparts, -⟩ := exists_parts_child directory h
  simp [fileName?, hparts, List.filter_append, h.ne_empty, h.ne_dot, h.ne_dots]

theorem extension?_child (directory : String) (h : IsEntryName name) :
    extension? (child directory name) = nameExtension? name := by
  rw [extension?, fileName?_child directory h, Option.bind_some]

/-- The extension is what follows the last dot, and something is in front of that dot. -/
theorem nameExtension?_eq_some_iff {extension : String} :
    nameExtension? name = some extension ↔
      ∃ stem, stem ≠ "" ∧ name = stem ++ "." ++ extension ∧ '.' ∉ extension.toList := by
  have hlist : ∀ stem : String, name = stem ++ "." ++ extension ↔
      name.toList.reverse = extension.toList.reverse ++ '.' :: stem.toList.reverse := fun stem => by
    rw [← String.toList_inj, ← List.reverse_inj]
    simp
  simp only [hlist]
  constructor
  · intro h
    have hsplit := List.takeWhile_append_dropWhile (p := (· != '.')) (l := name.toList.reverse)
    unfold nameExtension? at h
    split at h
    · next c cs hdrop =>
      obtain rfl := Option.some.inj h
      refine ⟨String.ofList (c :: cs).reverse, by simp, ?_, ?_⟩
      · rw [String.toList_ofList, String.toList_ofList, List.reverse_reverse, List.reverse_reverse,
          ← hdrop, hsplit]
      · intro hmem
        rw [String.toList_ofList, List.mem_reverse] at hmem
        simpa using List.mem_takeWhile_imp hmem
    · simp at h
  · rintro ⟨stem, hstem, hname, hdot⟩
    have hfront : ∀ c ∈ extension.toList.reverse, (c != '.') = true := fun c hc => by
      have hne : c ≠ '.' := fun e => hdot (e ▸ List.mem_reverse.mp hc)
      simpa using hne
    have hdrop : name.toList.reverse.dropWhile (· != '.') = '.' :: stem.toList.reverse := by
      rw [hname, List.dropWhile_append_of_pos hfront]
      simp
    have htake : name.toList.reverse.takeWhile (· != '.') = extension.toList.reverse := by
      rw [hname, List.takeWhile_append_of_pos hfront]
      simp
    cases hstem' : stem.toList.reverse with
    | nil => simp_all
    | cons c cs =>
      rw [nameExtension?, hdrop, hstem', htake]
      simp

end Path

namespace FileTree

open Path (IsEntryName child)

variable {name : String} {names : List String}

theorem names_child (directory : String) (h : IsEntryName name) :
    FileTree.names (child directory name) = FileTree.names directory ++ [name] := by
  obtain ⟨front, hparts, hdirectory⟩ := Path.exists_parts_child directory h
  have hlast : [name].filter (fun part => part != "" && part != ".") = [name] := by
    simp [h.ne_empty, h.ne_dot]
  rcases hdirectory with hdirectory | hdirectory <;>
    simp [FileTree.names, hparts, hdirectory, List.filter_append, hlast]

/-- The path of what the names lead to from a directory. -/
def descend (path : String) (names : List String) : String :=
  names.foldl child path

theorem names_descend (path : String) (h : ∀ name ∈ names, IsEntryName name) :
    FileTree.names (descend path names) = FileTree.names path ++ names := by
  induction names generalizing path with
  | nil => simp [descend]
  | cons name names ih =>
    obtain ⟨hname, hnames⟩ := List.forall_mem_cons.mp h
    calc FileTree.names (descend path (name :: names))
        = FileTree.names (child path name) ++ names := ih (child path name) hnames
      _ = FileTree.names path ++ name :: names := by rw [names_child path hname]; simp

/-- One path comes before another when its parts do, by their bytes. -/
def Precedes (a b : String) : Prop :=
  (FileTree.names a).map Text.bytes < (FileTree.names b).map Text.bytes

theorem Precedes.asymm {a b : String} (h : Precedes a b) : ¬ Precedes b a :=
  List.lt_asymm h

/-- A directory comes before what is below it. -/
theorem precedes_descend (path : String) (h : ∀ n ∈ name :: names, IsEntryName n) :
    Precedes path (descend path (name :: names)) := by
  rw [Precedes, names_descend path h, List.map_append]
  conv_lhs => rw [← List.append_nil ((FileTree.names path).map Text.bytes)]
  exact List.append_left_lt (List.nil_lt_cons _ _)

/-- What is below one entry comes before what is below another one with a greater name. -/
theorem descend_precedes_descend (path : String) {name' : String} {names' : List String}
    (h : ∀ n ∈ name :: names, IsEntryName n) (h' : ∀ n ∈ name' :: names', IsEntryName n)
    (hlt : name < name') :
    Precedes (descend path (name :: names)) (descend path (name' :: names')) := by
  rw [Precedes, names_descend path h, names_descend path h', List.map_append, List.map_append]
  exact List.append_left_lt (List.cons_lt_cons_iff.mpr (Or.inl (Text.bytes_lt_bytes hlt)))

end FileTree

end SchemaExplorer
