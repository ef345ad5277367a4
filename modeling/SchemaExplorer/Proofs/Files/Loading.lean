import SchemaExplorer.CommandLine.Run
import SchemaExplorer.Proofs.Sdl.Layout

/-! # Schemas of several files

The files of a schema are read as one text. When each of them but the last leaves nothing open, the
schema defines what its files define, one after the other: nothing of a file reaches into the
next. -/

namespace SchemaExplorer

namespace Sdl

/-! ### Readers that have read something before -/

namespace Reader

/-- The reader, with types before its own that were finished earlier. -/
def after (r : Reader) (earlier : List TypeDefinition) : Reader :=
  { r with definitions := earlier ++ r.definitions }

theorem finish_after (r : Reader) (earlier : List TypeDefinition) :
    (r.after earlier).finish = earlier ++ r.finish := by
  simp [after, finish]

theorem settled_after (r : Reader) (earlier : List TypeDefinition) :
    (r.after earlier).settled = earlier ++ r.settled := by
  cases hp : r.place <;> simp [settled, after, finish, hp]

theorem closeType_after (r : Reader) (earlier : List TypeDefinition) :
    (r.after earlier).closeType = r.closeType.after earlier := by
  rw [closeType, finish_after]
  rfl

theorem startType_after (r : Reader) (earlier : List TypeDefinition) (i : Intro)
    (cs : List Char) : (r.after earlier).startType i cs = (r.startType i cs).after earlier := by
  rw [startType_eq, startType_eq, settled_after]
  split <;> simp [after]

theorem readOther_after (r : Reader) (earlier : List TypeDefinition) (cs : List Char) :
    (r.after earlier).readOther cs = (r.readOther cs).after earlier := by
  cases hp : r.place with
  | outside => rw [readOther_outside hp, readOther_outside (r := r.after earlier) hp]
  | header d =>
    rw [readOther_header hp, readOther_header (r := r.after earlier) hp, closeType_after]
    repeat' split
    all_goals rfl
  | body d =>
    rw [readOther_body hp, readOther_body (r := r.after earlier) hp, closeType_after]
    split
    · rfl
    · cases hm : member? cs <;> simp [readMember, hm, after]

/-- What a line does has nothing to do with the types that are finished. -/
theorem readLine_after (r : Reader) (earlier : List TypeDefinition) (line : String) :
    (r.after earlier).readLine line = (r.readLine line).after earlier := by
  cases h : lineOf line with
  | ignored => rw [readLine_of_ignored h, readLine_of_ignored h]
  | description text => rw [readLine_of_description h, readLine_of_description h]; rfl
  | intro i => rw [readLine_of_intro h, readLine_of_intro h, startType_after]
  | other => rw [readLine_of_other h, readLine_of_other h, readOther_after]

theorem readLines_after (r : Reader) (earlier : List TypeDefinition) (lines : List String) :
    (r.after earlier).readLines lines = (r.readLines lines).after earlier := by
  induction lines generalizing r with
  | nil => rfl
  | cons line lines ih =>
    calc (r.after earlier).readLines (line :: lines)
        = ((r.readLine line).after earlier).readLines lines := by rw [← readLine_after]; rfl
      _ = (r.readLines (line :: lines)).after earlier := ih _

/-- A reader with nothing open is a new one, but for the types it has finished. -/
theorem eq_after_start {r : Reader} (hplace : r.place.type? = none)
    (hdescription : r.description = none) : r = start.after r.definitions := by
  obtain ⟨definitions, place, description⟩ := r
  have houtside : place = .outside := by
    cases place <;> simp_all [Place.type?]
  simp_all [after, start]

end Reader

/-! ### Texts that leave nothing open -/

/-- Behind the text no type is open, and no description waits. -/
def IsClosed (text : String) : Prop :=
  let r := Reader.start.readLines (Text.lines text)
  r.place.type? = none ∧ r.description = none

instance (text : String) : Decidable (IsClosed text) :=
  inferInstanceAs (Decidable (_ ∧ _))

/-- The texts one after the other, with a line feed behind each. -/
def concat : List String → String
  | [] => ""
  | text :: texts => text ++ "\n" ++ concat texts

theorem parse_append {front : String} (h : IsClosed front) (back : String) :
    parse (front ++ "\n" ++ back) = parse front ++ parse back := by
  obtain ⟨hplace, hdescription⟩ := h
  let r := Reader.start.readLines (Text.lines front)
  have hstart : r = Reader.start.after r.definitions := Reader.eq_after_start hplace hdescription
  have hfinish : parse front = r.definitions := by
    change r.finish = _
    rw [Reader.finish, hplace]
    simp
  calc parse (front ++ "\n" ++ back)
      = (r.readLines (Text.lines back)).finish := by rw [parse, Reader.readLines_lines_append]
    _ = r.definitions ++ parse back := by
          rw [hstart, Reader.readLines_after, Reader.finish_after, ← hstart]
          rfl
    _ = parse front ++ parse back := by rw [hfinish]

theorem parse_concat {texts : List String} (h : ∀ text ∈ texts.dropLast, IsClosed text) :
    parse (concat texts) = texts.flatMap parse := by
  induction texts with
  | nil => rfl
  | cons text texts ih =>
    cases texts with
    | nil =>
      have hread := Reader.readLines_lines_append Reader.start text ""
      have hempty : Text.lines "" = [] := rfl
      simpa [concat, parse, hempty, Reader.readLines] using congrArg Reader.finish hread
    | cons next rest =>
      rw [List.dropLast_cons_cons] at h
      have hfront : IsClosed text := h text List.mem_cons_self
      rw [concat, parse_append hfront, ih fun t ht => h t (List.mem_cons_of_mem _ ht)]
      rfl

end Sdl

/-! ### Files -/

theorem SchemaSource.joinTexts_eq_concat {found : List SchemaFile} {texts : List String}
    (h : found.map SchemaFile.text = texts.map .ok) :
    SchemaSource.joinTexts found = .ok (Sdl.concat texts) := by
  induction found generalizing texts with
  | nil =>
    obtain rfl : texts = [] := by simpa using h.symm
    rfl
  | cons file found ih =>
    cases texts with
    | nil => simp at h
    | cons text texts =>
      obtain ⟨hfile, hrest⟩ := List.cons.inj h
      rw [SchemaSource.joinTexts, hfile, ih hrest]
      rfl

/-- The file that a text is written to has that text. -/
theorem SchemaFile.text_toUTF8 {path : String} (h : FileTree.isPathTooLong path = false)
    (text : String) : SchemaFile.text ⟨path, text.toUTF8⟩ = .ok text := by
  have hread : String.fromUTF8? text.toUTF8 = some text := dif_pos text.isValidUTF8
  simp only [SchemaFile.text, h, FileSystem.text?, hread]
  rfl

theorem load_of_text {files : FileSystem} {s : SchemaSource} {found : List SchemaFile}
    {texts : List String} (hfound : (s.find files).value = .ok found)
    (htexts : found.map SchemaFile.text = texts.map .ok) :
    (s.load files).value = .ok ⟨found.length, Sdl.concat texts⟩ ∧
    (CommandLine.loadCatalog files s).value = .loaded (Catalog.ofSdl (Sdl.concat texts)) := by
  have hload : (s.load files).value = .ok ⟨found.length, Sdl.concat texts⟩ := by
    simp [SchemaSource.load, hfound, SchemaSource.joinTexts_eq_concat htexts, Except.map]
  refine ⟨hload, ?_⟩
  simp [CommandLine.loadCatalog, hload, Catalog.ofSdlLogged, Sdl.parseLogged, Catalog.ofSdl]

/-- Of files that leave nothing open, the last one aside, the schema is what each file defines, in
the order of the files; and the catalog that is loaded is the catalog of these types. -/
theorem loadCatalog_of_isClosed {texts : List String}
    (h : ∀ text ∈ texts.dropLast, Sdl.IsClosed text) :
    Sdl.parse (Sdl.concat texts) = texts.flatMap Sdl.parse ∧
    ∀ (files : FileSystem) (s : SchemaSource) (found : List SchemaFile),
      (s.find files).value = .ok found → found.map SchemaFile.text = texts.map .ok →
        (s.load files).value = .ok ⟨found.length, Sdl.concat texts⟩ ∧
        (CommandLine.loadCatalog files s).value =
          .loaded (Catalog.ofDefinitions (texts.flatMap Sdl.parse)) := by
  have hparse : Sdl.parse (Sdl.concat texts) = texts.flatMap Sdl.parse := Sdl.parse_concat h
  refine ⟨hparse, fun files s found hfound htexts => ?_⟩
  rw [← hparse]
  exact load_of_text hfound htexts

/-! Three files: the first has line ends of two characters and no last one, the second ends with
more than one. -/

def unevenTexts : List String :=
  ["type Query \x7b\r\n  a: Int\r\n\x7d\r", "\"A date\"\nscalar Date\n\n",
    "\"Both\"\nunion AB = A | B"]

def unevenFiles : List SchemaFile :=
  (["a.graphql", "b.graphql", "c.graphql"].zip unevenTexts).map fun (path, text) =>
    ⟨path, text.toUTF8⟩

def unevenSource : SchemaSource :=
  { extensions := ["graphql"], paths := unevenFiles.map SchemaFile.path }

def unevenFileSystem : FileSystem := fun path =>
  match unevenFiles.find? (·.path = path) with
  | some file => .ok (.file file.content)
  | none => .error .notFound

theorem text_unevenFiles : unevenFiles.map SchemaFile.text = unevenTexts.map .ok := by
  have htexts : ∀ a b c : String, [SchemaFile.text ⟨"a.graphql", a.toUTF8⟩,
      SchemaFile.text ⟨"b.graphql", b.toUTF8⟩, SchemaFile.text ⟨"c.graphql", c.toUTF8⟩] =
        [.ok a, .ok b, .ok c] := by
    intro a b c
    rw [SchemaFile.text_toUTF8 (by decide), SchemaFile.text_toUTF8 (by decide),
      SchemaFile.text_toUTF8 (by decide)]
  exact htexts _ _ _

theorem loadCatalog_unevenFiles :
    (∀ text ∈ unevenTexts.dropLast, Sdl.IsClosed text) ∧
    (unevenSource.find unevenFileSystem).value = .ok unevenFiles ∧
    unevenFiles.map SchemaFile.text = unevenTexts.map .ok ∧
    Sdl.parse (Sdl.concat unevenTexts) = unevenTexts.flatMap Sdl.parse ∧
    (CommandLine.loadCatalog unevenFileSystem unevenSource).value =
      .loaded (Catalog.ofDefinitions (unevenTexts.flatMap Sdl.parse)) := by
  have hclosed : ∀ text ∈ unevenTexts.dropLast, Sdl.IsClosed text := by decide +kernel
  have hfound : (unevenSource.find unevenFileSystem).value = .ok unevenFiles := rfl
  obtain ⟨hparse, hload⟩ := loadCatalog_of_isClosed hclosed
  exact ⟨hclosed, hfound, text_unevenFiles, hparse,
    (hload unevenFileSystem unevenSource unevenFiles hfound text_unevenFiles).2⟩

end SchemaExplorer
