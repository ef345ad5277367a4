import SchemaExplorer.Proofs.Schema.TypeReference
import SchemaExplorer.Proofs.Sdl.Invariant

/-! # Signatures and what they are taken from

A signature is taken from the reference it writes when neither wrappers nor blanks at the ends of
its name are mistaken for something else. A reference that is nested deeper than a signature can
say has the signature of its outermost wrapping. -/

namespace SchemaExplorer

namespace Signature

/-- A signature is read back just when no wrapper is at an end of its name, and no blank at an end
which nothing is written at. The signatures of all fields that are read from a text are. -/
theorem parse_text_eq_self_iff :
    (∀ s : Signature, parse s.text = s ↔ s.IsReadable) ∧
    ∀ (text : String), ∀ d ∈ Sdl.parse text, ∀ f ∈ d.fields,
      parse f.signature.text = f.signature := by
  refine ⟨fun s => ?_, fun text d hd f hf => ?_⟩
  · rw [parse_text_eq_iff, bareTypeName_text_eq_iff]
  · exact parse_text ((Sdl.isWellFormed_of_mem_parse hd).fields f hf).2.1

/-! Names between blanks and in front of them, and a field whose reference is out of balance. -/

def unevenText : String :=
  "type Query \x7b\n  a: [[x!b]]!!]\n\x7d"

def unevenField : Field :=
  { name := "a", typeName := "x!b", isList := true, isNonNull := false, args := []
    description := none }

theorem parse_text_eq_self_iff_blanks :
    parse (text ⟨" a ", true, false⟩) = ⟨" a ", true, false⟩ ∧
    parse (text ⟨" a ", false, true⟩) ≠ ⟨" a ", false, true⟩ ∧
    parse (text ⟨"a ", false, true⟩) = ⟨"a ", false, true⟩ ∧
    parse (text ⟨"a ", false, false⟩) ≠ ⟨"a ", false, false⟩ ∧
    { TypeDefinition.declare "Query" .query none with fields := [unevenField] } ∈
      Sdl.parse unevenText ∧
    parse unevenField.signature.text = unevenField.signature := by
  obtain ⟨hiff, hfields⟩ := parse_text_eq_self_iff
  have hd : { TypeDefinition.declare "Query" .query none with fields := [unevenField] } ∈
      Sdl.parse unevenText := by decide +kernel
  refine ⟨(hiff _).mpr ⟨by decide, by decide, by decide⟩, fun h => ?_,
    (hiff _).mpr ⟨by decide, by decide, by decide⟩, fun h => ?_, hd,
    hfields unevenText _ hd unevenField (by simp)⟩
  · exact absurd ((hiff _).mp h).front (by decide)
  · exact absurd ((hiff _).mp h).back (by decide)

end Signature

namespace TypeReference

theorem isNonNull_iff (t : TypeReference) : t.isNonNull = true ↔ ∃ type, t = nonNull type := by
  cases t <;> simp [isNonNull]

/-- Below a `!` that is not said twice, a list is what its reference says. -/
theorem isList_iff {t : TypeReference} (h : t.isProper = true) :
    t.isList = true ↔ ∃ element, t.nullable = list element := by
  rw [← t.isList_nullable]
  cases hn : t.nullable with
  | named name hname => simp [isList]
  | list element => simp [isList]
  | nonNull type => simpa [hn, isNonNull] using isNonNull_nullable h

/-- Of a reference with blanks around it, a signature has the name at the core and the outermost
wrapping: a `!`, and whether it is a list that stands in front of that. So references that agree in
these have one signature, however they differ inside; and it is read back. -/
theorem parse_nested {t : TypeReference} (h : t.isProper = true) (front back : Text.Blanks) :
    let s := Signature.parse (front.text ++ t.text ++ back.text)
    s.typeName = t.core ∧
    (s.isNonNull = true ↔ ∃ type, t = nonNull type) ∧
    (s.isList = true ↔ ∃ element, t.nullable = list element) ∧
    Signature.parse s.text = s ∧
    ∀ (u : TypeReference) (front' back' : Text.Blanks), u.isProper = true → u.core = t.core →
      u.isNonNull = t.isNonNull → u.isList = t.isList →
        Signature.parse (front'.text ++ u.text ++ back'.text) = s := by
  intro s
  have hs : s = t.signature := by rw [← t.parse_text h, ← parse_blanks_append front back]
  refine ⟨?_, ?_, ?_, ?_, fun u front' back' hu hcore hnonNull hlist => ?_⟩
  · rw [hs, signature]
  · rw [hs, signature, isNonNull_iff]
  · rw [hs, signature, isList_iff h]
  · rw [hs]
    exact Signature.parse_text (Sdl.isCore_of_isName t.isName_core)
  · rw [hs, parse_blanks_append, u.parse_text hu, signature, signature, hcore, hnonNull, hlist]

/-! Two references that differ inside: in the first the elements of the inner lists are never null. -/

def country : TypeReference := .named "Country" (by decide)

def strictReference : TypeReference := .nonNull (.list (.nonNull (.list (.nonNull country))))

def laxReference : TypeReference := .nonNull (.list country)

theorem parse_nested_strictReference :
    strictReference.isProper = true ∧ laxReference.isProper = true ∧
    strictReference.text = "[[Country!]!]!" ∧
    Signature.parse "\t[[Country!]!]!\u2003" = ⟨"Country", true, true⟩ ∧
    Signature.parse "[Country]! " = Signature.parse "\t[[Country!]!]!\u2003" := by
  obtain ⟨hname, hnonNull, hlist, -, hsame⟩ :=
    parse_nested (t := strictReference) (by decide) ⟨"\t", by decide⟩ ⟨"\u2003", by decide⟩
  refine ⟨by decide, by decide, by decide, ?_, ?_⟩
  · have hflags := And.intro (hlist.mpr ⟨_, rfl⟩) (hnonNull.mpr ⟨_, rfl⟩)
    exact congr (congr (congrArg Signature.mk hname) hflags.1) hflags.2
  · exact hsame laxReference ⟨"", rfl⟩ ⟨" ", by decide⟩ (by decide) rfl rfl rfl

end TypeReference

end SchemaExplorer
