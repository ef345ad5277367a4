import SchemaExplorer.Proofs.Files.Path

/-! # What a walk comes to

A walk comes to all that is at or below its path, each once, in the order of the parts of the paths
by their bytes: that the entries of each directory are sorted by their names is enough. -/

namespace SchemaExplorer

namespace FileTree

open Path (IsEntryName child)

/-! ### Trees -/

/-- A tree that a file system can have: the entries of a directory have different names, all of
which can be names of entries. -/
inductive IsProper : FileTree → Prop
  | file (content : ByteArray) : IsProper (file content)
  | directory {es : List (String × FileTree)} (nodup : (es.map Prod.fst).Nodup)
      (isEntryName : ∀ e ∈ es, IsEntryName e.1) (below : ∀ e ∈ es, IsProper e.2) :
      IsProper (directory es)

/-- The names lead down from the first tree to the second, from one directory to the next. -/
inductive LeadsTo : FileTree → List String → FileTree → Prop
  | here (tree : FileTree) : LeadsTo tree [] tree
  | entry {es : List (String × FileTree)} {e : String × FileTree} {names : List String}
      {target : FileTree} (he : e ∈ es) (h : LeadsTo e.2 names target) :
      LeadsTo (directory es) (e.1 :: names) target

variable {tree target : FileTree} {names : List String} {path : String}

theorem leadsTo_file_iff {content : ByteArray} :
    (file content).LeadsTo names target ↔ names = [] ∧ target = file content := by
  constructor
  · rintro ⟨⟩
    exact ⟨rfl, rfl⟩
  · rintro ⟨rfl, rfl⟩
    exact .here _

theorem leadsTo_directory_iff {es : List (String × FileTree)} :
    (directory es).LeadsTo names target ↔
      (names = [] ∧ target = directory es) ∨
      ∃ e ∈ es, ∃ rest, names = e.1 :: rest ∧ e.2.LeadsTo rest target := by
  constructor
  · rintro (_ | ⟨he, h⟩)
    · exact .inl ⟨rfl, rfl⟩
    · exact .inr ⟨_, he, _, rfl, h⟩
  · rintro (⟨rfl, rfl⟩ | ⟨e, he, rest, rfl, h⟩)
    · exact .here _
    · exact .entry he h

theorem isEntryName_of_leadsTo (h : tree.IsProper) (hnames : tree.LeadsTo names target) :
    ∀ name ∈ names, IsEntryName name := by
  induction hnames with
  | here => simp
  | entry he _ ih =>
    cases h with
    | directory _ hentries hbelow =>
      exact List.forall_mem_cons.mpr ⟨hentries _ he, ih (hbelow _ he)⟩

/-! ### Places -/

def content? : FileTree → Option ByteArray
  | file content => some content
  | directory _ => none

theorem content?_eq_some_iff {content : ByteArray} :
    tree.content? = some content ↔ tree = file content := by
  cases tree <;> simp [content?]

theorem content?_eq_none_iff : tree.content? = none ↔ ∃ es, tree = directory es := by
  cases tree <;> simp [content?]

theorem entryVisits_eq_map (path : String) (es : List (String × FileTree)) :
    entryVisits path es = es.map fun e => (e.1, visits (child path e.1) e.2) := by
  induction es with
  | nil => rfl
  | cons e es ih => rw [entryVisits, ih, List.map_cons]

theorem mem_visits_directory_iff {es : List (String × FileTree)} {v : Visit} :
    v ∈ visits path (directory es) ↔
      v = ⟨path, none⟩ ∨ ∃ e ∈ es, v ∈ visits (child path e.1) e.2 := by
  simp [visits, entryVisits_eq_map, List.mem_flatMap]

/-- A walk comes to what the names of entries lead to, and to nothing else. -/
theorem mem_visits_iff (h : tree.IsProper) {v : Visit} :
    v ∈ visits path tree ↔
      ∃ names target, tree.LeadsTo names target ∧ v = ⟨descend path names, target.content?⟩ := by
  induction h generalizing path with
  | file content => simp [visits, leadsTo_file_iff, descend, content?]
  | @directory es _ _ _ ih =>
    have hbelow : (∃ e ∈ es, v ∈ visits (child path e.1) e.2) ↔
        ∃ e ∈ es, ∃ rest target, e.2.LeadsTo rest target ∧
          v = ⟨descend (child path e.1) rest, target.content?⟩ :=
      exists_congr fun e => and_congr_right fun he => ih e he
    rw [mem_visits_directory_iff, hbelow]
    constructor
    · rintro (rfl | ⟨e, he, rest, target, hrest, rfl⟩)
      · exact ⟨[], directory es, .here _, rfl⟩
      · exact ⟨e.1 :: rest, target, .entry he hrest, rfl⟩
    · rintro ⟨names, target, hnames, rfl⟩
      rcases leadsTo_directory_iff.mp hnames with ⟨rfl, rfl⟩ | ⟨e, he, rest, rfl, hrest⟩
      · exact .inl rfl
      · exact .inr ⟨e, he, rest, target, hrest, rfl⟩

/-! ### Order -/

/-- After sorting, the names of entries increase from each to the next. -/
theorem pairwise_mergeSort_entryVisits {es : List (String × FileTree)}
    (h : (es.map Prod.fst).Nodup) :
    ((entryVisits path es).mergeSort fun a b => decide (a.1 ≤ b.1)).Pairwise
      fun a b => a.1 < b.1 := by
  let sorted := (entryVisits path es).mergeSort fun a b => decide (a.1 ≤ b.1)
  have hsorted : sorted.Pairwise fun a b => a.1 ≤ b.1 := by
    have hpairwise : sorted.Pairwise fun a b => decide (a.1 ≤ b.1) = true :=
      List.pairwise_mergeSort
        (fun a b c hab hbc => by
          simpa using le_trans (of_decide_eq_true hab) (of_decide_eq_true hbc))
        (fun a b => by simpa using le_total a.1 b.1) (entryVisits path es)
    simpa using hpairwise
  have hnodup : (sorted.map Prod.fst).Nodup := by
    have hnames : (entryVisits path es).map Prod.fst = es.map Prod.fst := by
      simp [entryVisits_eq_map]
    rw [((List.mergeSort_perm _ _).map Prod.fst).nodup_iff, hnames]
    exact h
  exact (hsorted.and (List.pairwise_map.mp hnodup)).imp fun hab => lt_of_le_of_ne hab.1 hab.2

/-- A walk goes from each place to one that comes after it. -/
theorem pairwise_visits (h : tree.IsProper) (path : String) :
    (visits path tree).Pairwise fun v w => Precedes v.path w.path := by
  induction h generalizing path with
  | file content => simp [visits]
  | @directory es hnodup hentries hbelow ih =>
    have hplace : ∀ e ∈ es, ∀ v ∈ visits (child path e.1) e.2,
        ∃ rest, (∀ n ∈ e.1 :: rest, IsEntryName n) ∧ v.path = descend path (e.1 :: rest) := by
      intro e he v hv
      obtain ⟨rest, target, hrest, rfl⟩ := (mem_visits_iff (hbelow e he)).mp hv
      exact ⟨rest, List.forall_mem_cons.mpr
        ⟨hentries e he, isEntryName_of_leadsTo (hbelow e he) hrest⟩, rfl⟩
    have hmem : ∀ a, a ∈ (entryVisits path es).mergeSort (fun a b => decide (a.1 ≤ b.1)) →
        ∃ e ∈ es, a = (e.1, visits (child path e.1) e.2) := by
      intro a ha
      rw [List.mem_mergeSort, entryVisits_eq_map, List.mem_map] at ha
      obtain ⟨e, he, rfl⟩ := ha
      exact ⟨e, he, rfl⟩
    rw [visits, List.pairwise_cons, List.pairwise_flatMap]
    refine ⟨fun v hv => ?_, fun a ha => ?_, ?_⟩
    · obtain ⟨a, ha, hv⟩ := List.mem_flatMap.mp hv
      obtain ⟨e, he, rfl⟩ := hmem a ha
      obtain ⟨rest, hrest, hpath⟩ := hplace e he v hv
      rw [hpath]
      exact precedes_descend path hrest
    · obtain ⟨e, he, rfl⟩ := hmem a ha
      exact ih e he (child path e.1)
    · refine (pairwise_mergeSort_entryVisits hnodup).imp_of_mem fun {a b} ha hb hlt v hv w hw => ?_
      obtain ⟨e, he, rfl⟩ := hmem a ha
      obtain ⟨e', he', rfl⟩ := hmem b hb
      obtain ⟨rest, hrest, hpath⟩ := hplace e he v hv
      obtain ⟨rest', hrest', hpath'⟩ := hplace e' he' w hw
      rw [hpath, hpath']
      exact descend_precedes_descend path hrest hrest' hlt

end FileTree

end SchemaExplorer
