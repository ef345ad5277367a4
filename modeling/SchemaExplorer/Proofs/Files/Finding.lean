import Mathlib.Data.List.Sort
import SchemaExplorer.Files.SchemaSource
import SchemaExplorer.Proofs.Files.Walk

/-! # Which files make up a schema

A path to a file counts as it stands, and one to a directory stands for the files below it that have
one of the extensions, in the order of the parts of their paths. The first path that leads nowhere
ends the search, and so does the first directory on a walk that has too long a path. -/

namespace SchemaExplorer

/-! ### File systems -/

/-- What the paths lead to are trees that a file system can have. -/
def FileSystem.IsProper (files : FileSystem) : Prop :=
  ∀ path tree, files path = .ok tree → tree.IsProper

namespace FileTree

theorem isProper_follow {above : List FileTree} {here target : FileTree} {parts : List String}
    (habove : ∀ tree ∈ above, tree.IsProper) (hhere : here.IsProper)
    (h : follow above here parts = .ok target) : target.IsProper := by
  induction parts generalizing above here with
  | nil =>
    obtain rfl : here = target := by simpa [follow] using h
    exact hhere
  | cons part parts ih =>
    cases hhere with
    | file content => simp [follow] at h
    | @directory es nodup hnames hbelow =>
      have hdirectory : (directory es).IsProper := .directory nodup hnames hbelow
      simp only [follow] at h
      split at h
      · exact ih habove hdirectory h
      · split at h
        · cases above with
          | nil => simp at h
          | cons parent above =>
            obtain ⟨hparent, hrest⟩ := List.forall_mem_cons.mp habove
            exact ih hrest hparent h
        · split at h
          · simp at h
          · split at h
            · next below hlookup =>
              obtain ⟨front, back, rfl, -⟩ := List.lookup_eq_some_iff.mp hlookup
              exact ih (List.forall_mem_cons.mpr ⟨hdirectory, habove⟩)
                (hbelow (part, below) (by simp)) h
            · simp at h

/-- Following paths in one tree makes a file system. -/
theorem isProper_resolve {root : FileTree} (h : root.IsProper) :
    FileSystem.IsProper root.resolve := by
  intro path tree hpath
  rw [resolve] at hpath
  repeat' split at hpath
  all_goals first | exact isProper_follow (by simp) h hpath | simp at hpath

/-! ### Directories that cannot be opened -/

/-- The names lead to a directory whose path is too long to be opened. -/
def BlockedAt (tree : FileTree) (path : String) (names : List String) : Prop :=
  ∃ es, tree.LeadsTo names (directory es) ∧ isPathTooLong (descend path names) = true

/-- No directory that cannot be opened comes before this one. -/
structure FirstBlockedAt (tree : FileTree) (path : String) (names : List String) : Prop where
  blocked : tree.BlockedAt path names
  first : ∀ other, tree.BlockedAt path other →
    descend path other = descend path names ∨ Precedes (descend path names) (descend path other)

variable {tree : FileTree} {path : String} {names names' : List String}

theorem FirstBlockedAt.path_unique (h : tree.FirstBlockedAt path names)
    (h' : tree.FirstBlockedAt path names') : descend path names = descend path names' := by
  rcases h.first names' h'.blocked with heq | hlt
  · exact heq.symm
  · rcases h'.first names h.blocked with heq | hgt
    · exact heq
    · exact absurd hgt hlt.asymm

theorem isBlocked_eq_true_iff {target : FileTree} :
    (⟨path, target.content?⟩ : Visit).isBlocked = true ↔
      (∃ es, target = directory es) ∧ isPathTooLong path = true := by
  rw [Visit.isBlocked, Bool.and_eq_true, Option.isNone_iff_eq_none, content?_eq_none_iff]

theorem exists_mem_visits_isBlocked_iff (h : tree.IsProper) {v : Visit} :
    v ∈ visits path tree ∧ v.isBlocked = true ↔
      ∃ names, v = ⟨descend path names, none⟩ ∧ tree.BlockedAt path names := by
  rw [mem_visits_iff h]
  constructor
  · rintro ⟨⟨names, target, hnames, rfl⟩, hblocked⟩
    obtain ⟨⟨es, rfl⟩, hlong⟩ := isBlocked_eq_true_iff.mp hblocked
    exact ⟨names, rfl, es, hnames, hlong⟩
  · rintro ⟨names, rfl, es, hnames, hlong⟩
    have hblocked : (⟨descend path names, (directory es).content?⟩ : Visit).isBlocked = true :=
      isBlocked_eq_true_iff.mpr ⟨⟨es, rfl⟩, hlong⟩
    exact ⟨⟨names, directory es, hnames, rfl⟩, hblocked⟩

theorem find?_isBlocked_eq_none_iff (h : tree.IsProper) :
    (visits path tree).find? Visit.isBlocked = none ↔ ∀ names, ¬ tree.BlockedAt path names := by
  rw [List.find?_eq_none]
  constructor
  · intro hnone names hblocked
    obtain ⟨hmem, hv⟩ := (exists_mem_visits_isBlocked_iff h).mpr ⟨names, rfl, hblocked⟩
    exact hnone _ hmem hv
  · intro hopen v hmem hv
    obtain ⟨names, -, hblocked⟩ := (exists_mem_visits_isBlocked_iff h).mp ⟨hmem, hv⟩
    exact hopen names hblocked

/-- Places come in their order, so that the first one found is before all others. -/
theorem exists_firstBlockedAt_of_find? (h : tree.IsProper) {v : Visit}
    (hv : (visits path tree).find? Visit.isBlocked = some v) :
    ∃ names, v = ⟨descend path names, none⟩ ∧ tree.FirstBlockedAt path names := by
  obtain ⟨hblocked, front, back, hvisits, hfront⟩ := List.find?_eq_some_iff_append.mp hv
  have hmem : v ∈ visits path tree := by simp [hvisits]
  obtain ⟨names, rfl, hnames⟩ := (exists_mem_visits_isBlocked_iff h).mp ⟨hmem, hblocked⟩
  refine ⟨names, rfl, hnames, fun other hother => ?_⟩
  have hpairwise := pairwise_visits h path
  obtain ⟨hother, hotherBlocked⟩ :=
    (exists_mem_visits_isBlocked_iff h).mpr ⟨other, rfl, hother⟩
  rw [hvisits] at hother hpairwise
  rcases List.mem_append.mp hother with hother | hother
  · exact absurd hotherBlocked (by simpa using hfront _ hother)
  · rcases List.mem_cons.mp hother with heq | hother
    · exact .inl (congrArg Visit.path heq)
    · exact .inr (List.rel_of_pairwise_cons (List.pairwise_append.mp hpairwise).2.1 hother)

end FileTree

namespace SchemaSource

open FileTree (descend Precedes visits)
open Path (IsEntryName child)

variable {s : SchemaSource} {files : FileSystem} {path : String} {tree : FileTree}

/-! ### Extensions -/

/-- One of the extensions ends the name, behind a dot that something stands in front of. The
extension may be given with dots of its own in front. -/
def Admits (s : SchemaSource) (name : String) : Prop :=
  ∃ stem dots extension, name = stem ++ "." ++ extension ∧ stem ≠ "" ∧ '.' ∉ extension.toList ∧
    (∀ c ∈ dots.toList, c = '.') ∧ dots ++ extension ∈ s.extensions

theorem mem_plainExtensions_iff {extension : String} (h : '.' ∉ extension.toList) :
    extension ∈ s.plainExtensions ↔
      ∃ dots : String, (∀ c ∈ dots.toList, c = '.') ∧ dots ++ extension ∈ s.extensions := by
  rw [plainExtensions, List.mem_map]
  constructor
  · rintro ⟨given, hgiven, rfl⟩
    refine ⟨String.ofList (given.toList.takeWhile (· == '.')), fun c hc => ?_, ?_⟩
    · rw [String.toList_ofList] at hc
      simpa using List.mem_takeWhile_imp hc
    · rw [← String.ofList_append, List.takeWhile_append_dropWhile, String.ofList_toList]
      exact hgiven
  · rintro ⟨dots, hdots, hgiven⟩
    refine ⟨dots ++ extension, hgiven, ?_⟩
    have hdrop : extension.toList.dropWhile (· == '.') = extension.toList := by
      cases hextension : extension.toList with
      | nil => rfl
      | cons c cs =>
        have hc : c ≠ '.' := fun e => h (by simp [hextension, e])
        simp [hc]
    rw [String.toList_append, List.dropWhile_append_of_pos (by simpa using hdots), hdrop,
      String.ofList_toList]

theorem accepts_child_iff (directory : String) {name : String} (h : IsEntryName name) :
    s.accepts (child directory name) = true ↔ s.Admits name := by
  have haccepts : s.accepts (child directory name) = true ↔
      ∃ extension, Path.nameExtension? name = some extension ∧ extension ∈ s.plainExtensions := by
    rw [accepts, Path.extension?_child directory h]
    cases Path.nameExtension? name <;> simp
  rw [haccepts]
  constructor
  · rintro ⟨extension, hname, hmem⟩
    obtain ⟨stem, hstem, rfl, hdot⟩ := Path.nameExtension?_eq_some_iff.mp hname
    obtain ⟨dots, hdots, hgiven⟩ := (mem_plainExtensions_iff hdot).mp hmem
    exact ⟨stem, dots, extension, rfl, hstem, hdot, hdots, hgiven⟩
  · rintro ⟨stem, dots, extension, rfl, hstem, hdot, hdots, hgiven⟩
    exact ⟨extension, Path.nameExtension?_eq_some_iff.mpr ⟨stem, hstem, rfl, hdot⟩,
      (mem_plainExtensions_iff hdot).mpr ⟨dots, hdots, hgiven⟩⟩

/-! ### Files below a directory -/

/-- The files below a directory that count, each once and in order. -/
structure ListsBelow (s : SchemaSource) (path : String) (tree : FileTree)
    (found : List SchemaFile) : Prop where
  sorted : found.Pairwise fun f g => Precedes f.path g.path
  mem_iff : ∀ f, f ∈ found ↔ ∃ names name, tree.LeadsTo (names ++ [name]) (.file f.content) ∧
    f.path = descend path (names ++ [name]) ∧ s.Admits name

theorem ListsBelow.unique {found found' : List SchemaFile} (h : s.ListsBelow path tree found)
    (h' : s.ListsBelow path tree found') : found = found' := by
  have : Std.Irrefl fun f g : SchemaFile => Precedes f.path g.path :=
    ⟨fun _ hlt => hlt.asymm hlt⟩
  have : Std.Antisymm fun f g : SchemaFile => Precedes f.path g.path :=
    ⟨fun _ _ hlt hgt => absurd hgt hlt.asymm⟩
  exact h.sorted.eq_of_mem_iff h'.sorted fun f => (h.mem_iff f).trans (h'.mem_iff f).symm

theorem pick?_eq_some_iff {v : FileTree.Visit} {f : SchemaFile} :
    s.pick? v = some f ↔ s.accepts v.path = true ∧ v = ⟨f.path, some f.content⟩ := by
  obtain ⟨place, content?⟩ := v
  obtain ⟨path, content⟩ := f
  rw [pick?]
  split
  · next haccepts => cases content? <;> simp [haccepts, eq_comm]
  · next haccepts => simp [haccepts]

theorem listsBelow_filterMap {es : List (String × FileTree)}
    (h : (FileTree.directory es).IsProper) :
    s.ListsBelow path (.directory es) ((visits path (.directory es)).filterMap s.pick?) where
  sorted := by
    rw [List.pairwise_filterMap]
    refine (FileTree.pairwise_visits h path).imp fun {v w} hlt f hf g hg => ?_
    obtain ⟨-, rfl⟩ := pick?_eq_some_iff.mp hf
    obtain ⟨-, rfl⟩ := pick?_eq_some_iff.mp hg
    exact hlt
  mem_iff f := by
    rw [List.mem_filterMap]
    simp only [FileTree.mem_visits_iff h, pick?_eq_some_iff]
    constructor
    · rintro ⟨v, ⟨names, target, hnames, rfl⟩, haccepts, hv⟩
      obtain ⟨hpath, hcontent⟩ := FileTree.Visit.mk.inj hv
      rw [FileTree.content?_eq_some_iff] at hcontent
      subst hcontent
      rcases List.eq_nil_or_concat names with rfl | ⟨front, name, rfl⟩
      · nomatch hnames
      · rw [List.concat_eq_append] at hnames hpath haccepts
        have hname : IsEntryName name := FileTree.isEntryName_of_leadsTo h hnames name (by simp)
        refine ⟨front, name, hnames, hpath.symm, (accepts_child_iff (descend path front) hname).mp ?_⟩
        simpa [descend] using haccepts
    · rintro ⟨front, name, hnames, hpath, hadmits⟩
      have hname : IsEntryName name := FileTree.isEntryName_of_leadsTo h hnames name (by simp)
      refine ⟨_, ⟨_, _, hnames, rfl⟩, ?_, by rw [hpath]; rfl⟩
      simpa [descend] using (accepts_child_iff (descend path front) hname).mpr hadmits

/-! ### What is at or below one path -/

/-- What a path gives to the schema, or why it ends the search. -/
inductive Scans (s : SchemaSource) (files : FileSystem) (path : String) :
    Except SchemaSourceError (List SchemaFile) → Prop
  | missing {cause : FileError} (h : files path = .error cause) :
      Scans s files path (.error (.scan path path cause))
  | file {content : ByteArray} (h : files path = .ok (.file content)) :
      Scans s files path (.ok [⟨path, content⟩])
  | blocked {es : List (String × FileTree)} {names : List String}
      (h : files path = .ok (.directory es))
      (hblocked : (FileTree.directory es).FirstBlockedAt path names) :
      Scans s files path (.error (.scan path (descend path names) .nameTooLong))
  | directory {es : List (String × FileTree)} {found : List SchemaFile}
      (h : files path = .ok (.directory es))
      (hopen : ∀ names, ¬ (FileTree.directory es).BlockedAt path names)
      (hfound : s.ListsBelow path (.directory es) found) : Scans s files path (.ok found)

theorem Scans.unique {result result' : Except SchemaSourceError (List SchemaFile)}
    (h : s.Scans files path result) (h' : s.Scans files path result') : result = result' := by
  cases h with
  | missing h => cases h' <;> simp_all
  | file h => cases h' <;> simp_all
  | blocked h hblocked =>
    cases h' with
    | missing h' => simp [h] at h'
    | file h' => simp [h] at h'
    | blocked h' hblocked' =>
      obtain rfl := FileTree.directory.inj (Except.ok.inj (h.symm.trans h'))
      rw [hblocked.path_unique hblocked']
    | directory h' hopen hfound =>
      obtain rfl := FileTree.directory.inj (Except.ok.inj (h.symm.trans h'))
      exact absurd hblocked.blocked (hopen _)
  | directory h hopen hfound =>
    cases h' with
    | missing h' => simp [h] at h'
    | file h' => simp [h] at h'
    | blocked h' hblocked =>
      obtain rfl := FileTree.directory.inj (Except.ok.inj (h.symm.trans h'))
      exact absurd hblocked.blocked (hopen _)
    | directory h' hopen' hfound' =>
      obtain rfl := FileTree.directory.inj (Except.ok.inj (h.symm.trans h'))
      rw [hfound.unique hfound']

theorem scans_filesAt (hfiles : files.IsProper) (path : String) :
    s.Scans files path (s.filesAt files path).value := by
  rw [filesAt]
  split
  · next h => exact .missing h
  · next h => exact .file h
  · next es h =>
    have hproper := hfiles path _ h
    rw [filesOfWalk]
    split
    · next hnone =>
      exact .directory h ((FileTree.find?_isBlocked_eq_none_iff hproper).mp hnone)
        (listsBelow_filterMap hproper)
    · next blocked hsome =>
      obtain ⟨names, rfl, hfirst⟩ := FileTree.exists_firstBlockedAt_of_find? hproper hsome
      exact .blocked h hfirst

theorem filesAt_eq_iff_scans (hfiles : files.IsProper)
    {result : Except SchemaSourceError (List SchemaFile)} :
    (s.filesAt files path).value = result ↔ s.Scans files path result := by
  constructor
  · rintro rfl
    exact scans_filesAt hfiles path
  · exact (scans_filesAt hfiles path).unique

/-! ### What all paths come to -/

theorem value_filesAtAll_cons (paths : List String) :
    (s.filesAtAll files (path :: paths)).value =
      (s.filesAt files path).value.bind fun found =>
        (s.filesAtAll files paths).value.map fun more => found ++ more := by
  rw [filesAtAll, Logged.value_bind]
  cases (s.filesAt files path).value with
  | error e => rfl
  | ok found =>
    simp only [Logged.value_bind]
    cases (s.filesAtAll files paths).value <;> rfl

theorem filesAtAll_eq_ok_iff (hfiles : files.IsProper) {paths : List String}
    {found : List SchemaFile} :
    (s.filesAtAll files paths).value = .ok found ↔
      ∃ founds, List.Forall₂ (fun path found => s.Scans files path (.ok found)) paths founds ∧
        found = founds.flatten := by
  induction paths generalizing found with
  | nil =>
    have hnil : (s.filesAtAll files []).value = .ok [] := rfl
    simp [hnil, eq_comm]
  | cons path paths ih =>
    rw [value_filesAtAll_cons]
    simp only [List.forall₂_cons_left_iff, ← filesAt_eq_iff_scans hfiles]
    cases hpath : (s.filesAt files path).value with
    | error e => simp [Except.bind]
    | ok first =>
      cases hpaths : (s.filesAtAll files paths).value with
      | error e =>
        have hnot : ∀ founds : List (List SchemaFile), ¬ List.Forall₂
            (fun path found => (s.filesAt files path).value = .ok found) paths founds := by
          intro founds hfounds
          simp only [filesAt_eq_iff_scans hfiles] at hfounds
          simp [ih.mpr ⟨founds, hfounds, rfl⟩] at hpaths
        simp [Except.bind, Except.map, hnot]
      | ok rest =>
        simp only [← filesAt_eq_iff_scans hfiles, hpaths] at ih
        simp only [Except.bind, Except.map, Except.ok.injEq]
        constructor
        · rintro rfl
          obtain ⟨founds, hfounds, hrest⟩ := ih.mp rfl
          exact ⟨first :: founds, ⟨first, founds, rfl, hfounds, rfl⟩, by simp [hrest]⟩
        · rintro ⟨-, ⟨first', founds, rfl, hfounds, rfl⟩, rfl⟩
          simpa using Except.ok.inj (ih.mpr ⟨founds, hfounds, rfl⟩)

/-- The first element for which `Q` holds, `P` being true of all before it, is the head or comes
behind it. -/
theorem exists_first_cons_iff {α : Type} {P Q : α → Prop} {x : α} {xs : List α} :
    (∃ front y back, x :: xs = front ++ y :: back ∧ (∀ z ∈ front, P z) ∧ Q y) ↔
      Q x ∨ P x ∧ ∃ front y back, xs = front ++ y :: back ∧ (∀ z ∈ front, P z) ∧ Q y := by
  constructor
  · rintro ⟨front, y, back, hsplit, hfront, hy⟩
    cases front with
    | nil =>
      obtain ⟨rfl, -⟩ := List.cons.inj hsplit
      exact .inl hy
    | cons z front =>
      obtain ⟨rfl, rfl⟩ := List.cons.inj hsplit
      obtain ⟨hz, hfront⟩ := List.forall_mem_cons.mp hfront
      exact .inr ⟨hz, front, y, back, rfl, hfront, hy⟩
  · rintro (hx | ⟨hx, front, y, back, rfl, hfront, hy⟩)
    · exact ⟨[], x, xs, rfl, by simp, hx⟩
    · exact ⟨x :: front, y, back, rfl, List.forall_mem_cons.mpr ⟨hx, hfront⟩, hy⟩

theorem filesAtAll_eq_error_iff (hfiles : files.IsProper) {paths : List String}
    {e : SchemaSourceError} :
    (s.filesAtAll files paths).value = .error e ↔
      ∃ front path back, paths = front ++ path :: back ∧
        (∀ earlier ∈ front, ∃ found, s.Scans files earlier (.ok found)) ∧
        s.Scans files path (.error e) := by
  simp only [← filesAt_eq_iff_scans hfiles]
  induction paths with
  | nil =>
    have hnil : (s.filesAtAll files []).value = .ok [] := rfl
    simp [hnil]
  | cons first paths ih =>
    rw [value_filesAtAll_cons, exists_first_cons_iff, ← ih]
    cases (s.filesAt files first).value with
    | error e' => simp [Except.bind]
    | ok found =>
      have hrest : (s.filesAtAll files paths).value.map (found ++ ·) = .error e ↔
          (s.filesAtAll files paths).value = .error e := by
        cases (s.filesAtAll files paths).value <;> simp [Except.map]
      simpa [Except.bind] using hrest

/-- What the files of a schema are, or why there are none. -/
inductive Finds (s : SchemaSource) (files : FileSystem) :
    Except SchemaSourceError (List SchemaFile) → Prop
  /-- The first path that cannot be scanned ends the search. -/
  | stops {front back : List String} {path : String} {e : SchemaSourceError}
      (hpaths : s.paths = front ++ path :: back)
      (hfront : ∀ earlier ∈ front, ∃ found, s.Scans files earlier (.ok found))
      (h : s.Scans files path (.error e)) : Finds s files (.error e)
  | nothing {founds : List (List SchemaFile)}
      (h : List.Forall₂ (fun path found => s.Scans files path (.ok found)) s.paths founds)
      (hnone : founds.flatten = []) : Finds s files (.error (.noFiles s.extensions))
  /-- What the paths give stands in the order of the paths. -/
  | found {founds : List (List SchemaFile)}
      (h : List.Forall₂ (fun path found => s.Scans files path (.ok found)) s.paths founds)
      (hsome : founds.flatten ≠ []) : Finds s files (.ok founds.flatten)

theorem value_find (s : SchemaSource) (files : FileSystem) :
    (s.find files).value = (s.filesAtAll files s.paths).value.bind fun found =>
      if found.isEmpty then .error (.noFiles s.extensions) else .ok found := by
  rw [find, Logged.value_bind]
  cases (s.filesAtAll files s.paths).value with
  | error e => rfl
  | ok found => cases found <;> rfl

theorem finds_find (hfiles : files.IsProper) : s.Finds files (s.find files).value := by
  rw [value_find]
  cases hall : (s.filesAtAll files s.paths).value with
  | error e =>
    obtain ⟨front, path, back, hpaths, hfront, hpath⟩ := (filesAtAll_eq_error_iff hfiles).mp hall
    exact .stops hpaths hfront hpath
  | ok found =>
    obtain ⟨founds, hfounds, rfl⟩ := (filesAtAll_eq_ok_iff hfiles).mp hall
    simp only [Except.bind]
    split
    · next hempty => exact .nothing hfounds (List.isEmpty_iff.mp hempty)
    · next hempty => exact .found hfounds (by simpa using hempty)

theorem Finds.find_eq (hfiles : files.IsProper)
    {result : Except SchemaSourceError (List SchemaFile)} (h : s.Finds files result) :
    (s.find files).value = result := by
  rw [value_find]
  cases h with
  | stops hpaths hfront h =>
    rw [(filesAtAll_eq_error_iff hfiles).mpr ⟨_, _, _, hpaths, hfront, h⟩]
    rfl
  | nothing h hnone =>
    rw [(filesAtAll_eq_ok_iff hfiles).mpr ⟨_, h, rfl⟩, hnone]
    rfl
  | found h hsome =>
    rw [(filesAtAll_eq_ok_iff hfiles).mpr ⟨_, h, rfl⟩]
    exact if_neg (by simpa using hsome)

/-- The files of a schema are those that its paths give, one path after the other: a file that is
named itself, and of a directory the files below it that have one of the extensions, each once and
in order. The first path that leads nowhere ends the search, or the first directory of a walk that
cannot be opened; and if no path does, there is a failure just when no file is found. -/
theorem find_eq_iff_finds (hfiles : files.IsProper)
    {result : Except SchemaSourceError (List SchemaFile)} :
    (s.find files).value = result ↔ s.Finds files result := by
  constructor
  · rintro rfl
    exact finds_find hfiles
  · exact fun h => h.find_eq hfiles

/-! Names that are hidden, end with a dot, or have another extension, and a directory beside a file
whose name goes on from its own. -/

def mixedDirectory : FileTree :=
  .directory [("b.graphql", .file .empty), ("a.graphql", .file .empty),
    ("a", .directory [("x.graphqls", .file .empty)]), (".graphql", .file .empty),
    ("q.graphql.", .file .empty), ("notes.md", .file .empty), ("empty.graphql", .directory [])]

def mixedTree : FileTree :=
  .directory [("d", mixedDirectory), ("display.txt", .file .empty)]

def mixedSource : SchemaSource :=
  { extensions := ["graphql", "..graphqls"], paths := ["display.txt", "d/"] }

theorem isProper_mixedTree : mixedTree.IsProper := by
  have hfile : ∀ content, (FileTree.file content).IsProper := .file
  have hempty : (FileTree.directory []).IsProper := .directory (by simp) (by simp) (by simp)
  have hinner : (FileTree.directory [("x.graphqls", .file .empty)]).IsProper :=
    .directory (by decide) (by decide) (by simp [hfile])
  have hdirectory : mixedDirectory.IsProper :=
    .directory (by decide) (by decide) (by simp [hfile, hempty, hinner])
  exact .directory (by decide) (by decide) (by simp [hfile, hdirectory])

theorem visits_mixedDirectory :
    visits "d/" mixedDirectory =
      [⟨"d/", none⟩, ⟨"d/.graphql", some .empty⟩, ⟨"d/a", none⟩,
        ⟨"d/a/x.graphqls", some .empty⟩, ⟨"d/a.graphql", some .empty⟩,
        ⟨"d/b.graphql", some .empty⟩, ⟨"d/empty.graphql", none⟩, ⟨"d/notes.md", some .empty⟩,
        ⟨"d/q.graphql.", some .empty⟩] := by
  have hd : ∀ name, child "d/" name = "d/" ++ name := fun _ => rfl
  have ha : child "d/a" "x.graphqls" = "d/a/x.graphqls" := rfl
  simp [mixedDirectory, visits, FileTree.entryVisits, hd, ha, List.mergeSort,
    List.MergeSort.Internal.splitInTwo]

theorem find_mixedTree :
    (mixedSource.find mixedTree.resolve).value =
      .ok [⟨"display.txt", .empty⟩, ⟨"d/a/x.graphqls", .empty⟩, ⟨"d/a.graphql", .empty⟩,
        ⟨"d/b.graphql", .empty⟩] := by
  have hfile : (mixedSource.filesAt mixedTree.resolve "display.txt").value =
      .ok [⟨"display.txt", .empty⟩] := rfl
  have hdirectory : (mixedSource.filesAt mixedTree.resolve "d/").value =
      .ok [⟨"d/a/x.graphqls", .empty⟩, ⟨"d/a.graphql", .empty⟩, ⟨"d/b.graphql", .empty⟩] := by
    have hpath : mixedTree.resolve "d/" = .ok mixedDirectory := rfl
    rw [filesAt, hpath]
    change (mixedSource.filesOfWalk "d/" (visits "d/" mixedDirectory)).value = _
    rw [visits_mixedDirectory]
    rfl
  have hpaths : mixedSource.paths = ["display.txt", "d/"] := rfl
  rw [value_find, hpaths, value_filesAtAll_cons, value_filesAtAll_cons, hfile, hdirectory]
  rfl

theorem find_eq_iff_finds_mixedTree :
    FileSystem.IsProper mixedTree.resolve ∧
    mixedSource.Finds mixedTree.resolve
      (.ok [⟨"display.txt", .empty⟩, ⟨"d/a/x.graphqls", .empty⟩, ⟨"d/a.graphql", .empty⟩,
        ⟨"d/b.graphql", .empty⟩]) := by
  have hproper := FileTree.isProper_resolve isProper_mixedTree
  exact ⟨hproper, (find_eq_iff_finds hproper).mp find_mixedTree⟩

/-! A path may be short enough to be opened when the path of what is below it is not, since the
number of `/` between two parts of a path makes no difference to where it leads. -/

def slashed (count : Nat) : String :=
  "d" ++ String.ofList (List.replicate count '/')

def deepDirectory : FileTree :=
  .directory [("a.graphql", .file .empty), ("bbbbbbbbbbbb", .directory [])]

def deepTree : FileTree :=
  .directory [("d", deepDirectory)]

theorem isProper_deepTree : deepTree.IsProper := by
  have hfile : ∀ content, (FileTree.file content).IsProper := .file
  have hempty : (FileTree.directory []).IsProper := .directory (by simp) (by simp) (by simp)
  have hdirectory : deepDirectory.IsProper :=
    .directory (by decide) (by decide) (by simp [hfile, hempty])
  exact .directory (by decide) (by decide) (by simp [hdirectory])

theorem utf8ByteSize_slashed (count : Nat) : (slashed count).utf8ByteSize = count + 1 := by
  have hslashes : (String.ofList (List.replicate count '/')).utf8ByteSize = count := by
    induction count with
    | zero => rfl
    | succ count ih =>
      have hslash : '/'.utf8Size = 1 := rfl
      rw [List.replicate_succ, String.ofList_cons, String.utf8ByteSize_append,
        String.utf8ByteSize_singleton, ih, hslash, Nat.add_comm]
  have hd : "d".utf8ByteSize = 1 := rfl
  rw [slashed, String.utf8ByteSize_append, hslashes, hd, Nat.add_comm]

theorem toList_slashed (count : Nat) : (slashed count).toList = 'd' :: List.replicate count '/' := by
  simp [slashed]

theorem parts_slashed (count : Nat) :
    Path.parts (slashed (count + 1)) = "d" :: List.replicate (count + 1) "" := by
  have hslashes : ∀ count, Text.splitChars '/' (List.replicate count '/') =
      List.replicate (count + 1) [] := by
    intro count
    induction count with
    | zero => rfl
    | succ count ih => rw [List.replicate_succ, Text.splitChars, if_pos rfl, ih]; rfl
  have hd := Text.splitChars_append_cons (List.replicate count '/') (show '/' ∉ ['d'] by decide)
  rw [List.singleton_append, hslashes] at hd
  rw [Path.parts, Text.split, toList_slashed, List.replicate_succ, hd]
  simp

theorem follow_replicate_empty (above : List FileTree) (es : List (String × FileTree))
    (count : Nat) :
    FileTree.follow above (.directory es) (List.replicate count "") = .ok (.directory es) := by
  induction count with
  | zero => rfl
  | succ count ih => simpa [List.replicate_succ, FileTree.follow] using ih

theorem resolve_slashed {count : Nat} (h : count + 2 < 4096) :
    deepTree.resolve (slashed (count + 1)) = .ok deepDirectory := by
  have hnul : (slashed (count + 1)).toList.contains '\x00' = false := by
    simp [toList_slashed]
  have hshort : FileTree.isPathTooLong (slashed (count + 1)) = false := by
    simp [FileTree.isPathTooLong, utf8ByteSize_slashed, FileTree.pathLimit]
    omega
  have hne : slashed (count + 1) ≠ "" := by
    simp [slashed]
  have hd : FileTree.follow [] deepTree ("d" :: List.replicate (count + 1) "") =
      FileTree.follow [deepTree] deepDirectory (List.replicate (count + 1) "") := rfl
  rw [FileTree.resolve, hnul, hshort]
  simp only [hne, toList_slashed, parts_slashed, hd]
  simp [deepDirectory, follow_replicate_empty]

theorem child_slashed (count : Nat) (name : String) :
    child (slashed (count + 1)) name = slashed (count + 1) ++ name := by
  have hlast : (slashed (count + 1)).toList.getLast? = some '/' := by
    simp [toList_slashed, List.getLast?_cons, List.getLast?_replicate]
  rw [child, if_pos hlast]

/-- A schema whose paths all lead somewhere may still not be found, and not for want of files. -/
theorem not_forall_eq_noFiles :
    ¬ ∀ (s : SchemaSource) (root : FileTree) (e : SchemaSourceError), root.IsProper →
      (∀ path ∈ s.paths, ∃ tree, root.resolve path = .ok tree) →
      (s.find root.resolve).value = .error e → e = .noFiles s.extensions := by
  intro hall
  -- The number of `/` is kept as a variable, so that no step writes the path out.
  obtain ⟨count, hcount⟩ : ∃ count, count = 4082 := ⟨4082, rfl⟩
  let s : SchemaSource := { extensions := ["graphql"], paths := [slashed (count + 1)] }
  have hpath : deepTree.resolve (slashed (count + 1)) = .ok deepDirectory :=
    resolve_slashed (by omega)
  have hlong : FileTree.isPathTooLong (child (slashed (count + 1)) "bbbbbbbbbbbb") = true := by
    have hname : "bbbbbbbbbbbb".utf8ByteSize = 12 := rfl
    simp [FileTree.isPathTooLong, child_slashed, String.utf8ByteSize_append, hname,
      utf8ByteSize_slashed, FileTree.pathLimit, hcount]
  have hshort : FileTree.isPathTooLong (slashed (count + 1)) = false := by
    simp [FileTree.isPathTooLong, utf8ByteSize_slashed, FileTree.pathLimit, hcount]
  have hblocked : deepDirectory.FirstBlockedAt (slashed (count + 1)) ["bbbbbbbbbbbb"] := by
    refine ⟨⟨[], FileTree.leadsTo_directory_iff.mpr (.inr ?_), hlong⟩, ?_⟩
    · exact ⟨("bbbbbbbbbbbb", .directory []), by simp, [], rfl, .here _⟩
    · rintro other ⟨es, hother, hotherLong⟩
      rcases FileTree.leadsTo_directory_iff.mp hother with ⟨rfl, -⟩ | ⟨e, he, rest, rfl, hrest⟩
      · rw [show descend (slashed (count + 1)) [] = slashed (count + 1) from rfl, hshort]
          at hotherLong
        simp at hotherLong
      · simp only [List.mem_cons, List.not_mem_nil, or_false] at he
        rcases he with rfl | rfl
        · simp [FileTree.leadsTo_file_iff] at hrest
        · left
          simp [FileTree.leadsTo_directory_iff] at hrest
          simp [hrest]
  have hfind := Finds.find_eq (s := s) (FileTree.isProper_resolve isProper_deepTree)
    (.stops (show s.paths = [] ++ slashed (count + 1) :: [] from rfl) (by simp)
      (.blocked hpath hblocked))
  have := hall s deepTree _ isProper_deepTree (by simpa [s] using ⟨_, hpath⟩) hfind
  simp at this

end SchemaSource

end SchemaExplorer
