import SchemaExplorer.CommandLine.Program

/-! # What does not warn

Reading a configuration and loading a schema leave records of what they do and see, but no warning.
So the warnings of a run are those of its command alone. -/

namespace SchemaExplorer

theorem Log.messages_append (level : Level) (front back : List Record) :
    messages level (front ++ back) = messages level front ++ messages level back := by
  simp [messages]

universe u

namespace Logged

variable {α β : Type u}

/-- No record is a warning. -/
def IsQuiet (x : Logged α) : Prop :=
  ∀ r ∈ x.records, r.level ≠ .warn

theorem isQuiet_pure (a : α) : (pure a : Logged α).IsQuiet := by
  simp [IsQuiet]

theorem isQuiet_note {level : Log.Level} (h : level ≠ .warn) (message : String) :
    (note level message).IsQuiet := by
  simpa [IsQuiet, note] using h

theorem isQuiet_notes {records : List Log.Record} (h : ∀ r ∈ records, r.level ≠ .warn) :
    (notes records).IsQuiet :=
  h

theorem IsQuiet.bind {x : Logged α} {f : α → Logged β} (hx : x.IsQuiet)
    (hf : (f x.value).IsQuiet) : (x >>= f).IsQuiet := by
  intro r hr
  rcases List.mem_append.mp hr with hr | hr
  · exact hx r hr
  · exact hf r hr

theorem IsQuiet.messages_warn {x : Logged α} (h : x.IsQuiet) :
    Log.messages .warn x.records = [] := by
  rw [Log.messages, List.map_eq_nil_iff, List.filter_eq_nil_iff]
  exact fun r hr => by simpa using h r hr

end Logged

open Logged

/-! ### Configurations -/

theorem Query.Config.isQuiet_load (files : FileSystem) (configPath? : Option String) :
    (load files configPath?).IsQuiet := by
  cases configPath? with
  | none => exact (isQuiet_note (by simp) _).bind (isQuiet_pure _)
  | some path =>
    refine (isQuiet_note (by simp) _).bind ?_
    split
    · exact isQuiet_pure _
    · split
      · exact isQuiet_pure _
      · exact (isQuiet_note (by simp) _).bind (isQuiet_pure _)

/-! ### Schemas -/

namespace SchemaSource

variable (s : SchemaSource) (files : FileSystem)

theorem level_visitRemark (visit : FileTree.Visit) : (s.visitRemark visit).level = .trace := by
  simp only [visitRemark]
  split
  · rfl
  · split <;> rfl

theorem isQuiet_visitRemarks (visits : List FileTree.Visit) :
    (notes (visits.map s.visitRemark)).IsQuiet := by
  refine isQuiet_notes fun r hr => ?_
  obtain ⟨visit, -, rfl⟩ := List.mem_map.mp hr
  simp [level_visitRemark]

theorem isQuiet_filesAt (path : String) : (s.filesAt files path).IsQuiet := by
  rw [filesAt]
  split
  · exact isQuiet_pure _
  · exact (isQuiet_note (by simp) _).bind (isQuiet_pure _)
  · rw [filesOfWalk]
    split
    · exact (s.isQuiet_visitRemarks _).bind (isQuiet_pure _)
    · exact (s.isQuiet_visitRemarks _).bind (isQuiet_pure _)

theorem isQuiet_filesAtAll (paths : List String) : (s.filesAtAll files paths).IsQuiet := by
  induction paths with
  | nil => exact isQuiet_pure _
  | cons path paths ih =>
    refine (s.isQuiet_filesAt files path).bind ?_
    split
    · exact isQuiet_pure _
    · refine ih.bind ?_
      split
      · exact isQuiet_pure _
      · exact isQuiet_pure _

theorem isQuiet_find : (s.find files).IsQuiet := by
  refine (s.isQuiet_filesAtAll files s.paths).bind ?_
  split
  · exact isQuiet_pure _
  · exact isQuiet_pure _
  · exact (isQuiet_note (by simp) _).bind (isQuiet_pure _)

theorem isQuiet_load : (s.load files).IsQuiet := by
  refine (s.isQuiet_find files).bind ?_
  split
  · exact isQuiet_pure _
  · exact isQuiet_pure _

end SchemaSource

/-! ### Texts -/

namespace Sdl.Reader

theorem level_of_mem_remarks {r : Reader} {line : String} {remark : Log.Record}
    (h : remark ∈ r.remarks line) : remark.level = .trace := by
  simp only [remarks] at h
  split at h
  · rw [List.mem_singleton.mp h]
  · rw [List.mem_singleton.mp h, skipRemark]
  · split at h
    · simp at h
    · rw [List.mem_singleton.mp h, skipRemark]
  · split at h
    · simp at h
    · rw [memberRemarks] at h
      split at h
      · rw [List.mem_singleton.mp h]
      · split at h
        · simp at h
        · rw [List.mem_singleton.mp h]
  · simp at h

theorem level_of_mem_linesRemarks {r : Reader} {lines : List String} {remark : Log.Record}
    (h : remark ∈ r.linesRemarks lines) : remark.level = .trace := by
  induction lines generalizing r with
  | nil =>
    rw [linesRemarks, finishRemarks] at h
    split at h
    · rw [List.mem_singleton.mp h]
    · simp at h
  | cons line lines ih =>
    rcases List.mem_append.mp h with h | h
    · exact level_of_mem_remarks h
    · exact ih h

end Sdl.Reader

theorem Sdl.isQuiet_parseLogged (text : String) : (parseLogged text).IsQuiet := by
  have hremarks : (notes (Reader.start.linesRemarks (Text.lines text))).IsQuiet :=
    isQuiet_notes fun r hr => by simp [Reader.level_of_mem_linesRemarks hr]
  exact hremarks.bind ((isQuiet_note (by simp) _).bind (isQuiet_pure _))

theorem Catalog.isQuiet_ofSdlLogged (text : String) : (ofSdlLogged text).IsQuiet := by
  refine (Sdl.isQuiet_parseLogged text).bind (IsQuiet.bind (isQuiet_notes fun r hr => ?_)
    (isQuiet_pure _))
  obtain ⟨name, -, rfl⟩ := List.mem_map.mp hr
  simp

theorem CommandLine.isQuiet_loadCatalog (files : FileSystem) (schema : SchemaSource) :
    (loadCatalog files schema).IsQuiet := by
  refine (isQuiet_note (by simp) _).bind ((schema.isQuiet_load files).bind ?_)
  split
  · exact isQuiet_pure _
  · exact (isQuiet_note (by simp) _).bind ((Catalog.isQuiet_ofSdlLogged _).bind (isQuiet_pure _))

end SchemaExplorer
