import Mathlib.Tactic.MkIffOfInductiveProp
import SchemaExplorer.Proofs.Sdl.Member
import SchemaExplorer.Proofs.Sdl.Reader

/-! # Schema texts in canonical form

How types are written as a schema text, one member a line, and what each of these lines is to a
reader. -/

namespace SchemaExplorer

open Text (isBlank)
open Sdl

/-! ### Writing types -/

/-- The keyword that introduces types of this kind. -/
def TypeKind.keyword : TypeKind → String
  | enum => "enum"
  | inputObject => "input"
  | interface => "interface"
  | scalar => "scalar"
  | union => "union"
  | _ => "type"

/-- The line of a description, if there is one. -/
def descriptionLines (description : Option String) : List String :=
  description.toList.map fun text => "\"" ++ text ++ "\""

def Field.lines (f : Field) : List String :=
  descriptionLines f.description ++ [f.line]

namespace TypeDefinition

/-- What the line that introduces the type has behind the name. -/
def headerTail (d : TypeDefinition) : String :=
  match d.kind with
  | .scalar => ""
  | .union => if d.possibleTypes.isEmpty then "" else " = " ++ Text.join " | " d.possibleTypes
  | _ => " \x7b"

def header (d : TypeDefinition) : String :=
  d.kind.keyword ++ " " ++ d.name ++ d.headerTail

def bodyLines (d : TypeDefinition) : List String :=
  d.fields.flatMap Field.lines ++ d.inputFields.map Argument.line ++ d.enumValues

def lines (d : TypeDefinition) : List String :=
  descriptionLines d.description ++ d.header ::
    if d.kind.isSelfTerminating then [] else d.bodyLines ++ ["\x7d"]

end TypeDefinition

/-- The text that defines the types, in their order. -/
def Sdl.document (ds : List TypeDefinition) : String :=
  Text.join "\n" (ds.flatMap TypeDefinition.lines)

/-! ### What can be written -/

/-- A description that a pair of quotes on one line can hold. -/
def IsDescription (text : String) : Prop :=
  Text.trim text = text ∧ '"' ∉ text.toList ∧ '\n' ∉ text.toList

/-- An argument of a field: its default value ends neither the argument nor the line, and does not
introduce a type. -/
@[mk_iff]
structure Argument.IsCanonical (a : Argument) : Prop where
  isNamed : a.IsNamed
  isDefault : ∀ v ∈ a.defaultValue, IsDefault (fun c => c == ',' || c == ')') v
  intro?_eq : ∀ v ∈ a.defaultValue, intro? v.toList = none
  newline : ∀ v ∈ a.defaultValue, '\n' ∉ v.toList

/-- Braces in the default values must not end the body that the field stands in. -/
@[mk_iff]
structure Field.IsCanonical (f : Field) : Prop where
  isName : isName f.name.toList = true
  isCore : isCore f.typeName.toList = true
  isDescription : ∀ t ∈ f.description, IsDescription t
  args : ∀ a ∈ f.args, a.IsCanonical
  braces : (∃ a ∈ f.args, ∃ v ∈ a.defaultValue, '}' ∈ v.toList) →
    ∃ a ∈ f.args, ∃ v ∈ a.defaultValue, '{' ∈ v.toList

/-- A field of an input object: its default value goes on to the end of the line. -/
@[mk_iff]
structure Argument.IsCanonicalField (a : Argument) : Prop where
  isNamed : a.IsNamed
  isDefault : ∀ v ∈ a.defaultValue, IsDefault (· == '\n') v
  intro?_eq : ∀ v ∈ a.defaultValue, intro? v.toList = none
  braces : ∀ v ∈ a.defaultValue, '}' ∈ v.toList → '{' ∈ v.toList

/-- A type that can be read again: its kind is the one that its name and its keyword announce, and
it has only the members that suit its kind. -/
@[mk_iff]
structure TypeDefinition.IsCanonical (d : TypeDefinition) : Prop where
  isName : isName d.name.toList = true
  classify_eq : TypeKind.classify d.kind.keyword d.name = d.kind
  isDescription : ∀ t ∈ d.description, IsDescription t
  fields : ∀ f ∈ d.fields, f.IsCanonical
  inputFields : ∀ a ∈ d.inputFields, a.IsCanonicalField
  possibleTypes : ∀ t ∈ d.possibleTypes, Sdl.isName t.toList = true
  enumValues : ∀ v ∈ d.enumValues, Sdl.isName v.toList = true
  hasFields : d.fields ≠ [] → d.kind.hasFields = true
  isInputObject : d.inputFields ≠ [] → d.kind = .inputObject
  isUnion : d.possibleTypes ≠ [] → d.kind = .union
  isEnum : d.enumValues ≠ [] → d.kind = .enum
  ofType_eq : d.ofType = none

instance (text : String) : Decidable (IsDescription text) :=
  inferInstanceAs (Decidable (_ ∧ _))

instance (a : Argument) : Decidable a.IsCanonical :=
  decidable_of_iff _ (Argument.isCanonical_iff a).symm

instance (f : Field) : Decidable f.IsCanonical :=
  decidable_of_iff _ (Field.isCanonical_iff f).symm

instance (a : Argument) : Decidable a.IsCanonicalField :=
  decidable_of_iff _ (Argument.isCanonicalField_iff a).symm

instance (d : TypeDefinition) : Decidable d.IsCanonical :=
  decidable_of_iff _ (TypeDefinition.isCanonical_iff d).symm

/-! ### Lines that stand as they are -/

/-- A line that a text can hold, without blanks at its ends. -/
def IsTrimmedLine (line : String) : Prop :=
  line ≠ "" ∧ '\n' ∉ line.toList ∧ Text.isStripped isBlank line.toList = true

namespace IsTrimmedLine

variable {line : String}

theorem trimChars_eq (h : IsTrimmedLine line) : Text.trimChars line.toList = line.toList :=
  Text.stripChars_eq_self_iff.mpr h.2.2

theorem isLine (h : IsTrimmedLine line) : Text.isLine line = true := by
  obtain ⟨hne, hnewline, hstripped⟩ := h
  have hreturn : line.toList.getLast? ≠ some '\r' := by
    intro hlast
    simp [Text.isStripped, hlast] at hstripped
    exact absurd hstripped.2 (by decide)
  simp [Text.isLine, hne, hnewline, hreturn]

theorem lineOf_eq (h : IsTrimmedLine line) (hstart : line.toList.head?.any isNameStart = true) :
    lineOf line = (intro? line.toList).elim .other .intro := by
  rw [lineOf, h.trimChars_eq, classify_of_isNameStart hstart]

end IsTrimmedLine

/-! ### Lines of descriptions -/

theorem toList_descriptionLine (text : String) :
    ("\"" ++ text ++ "\"").toList = '"' :: (text.toList ++ ['"']) := by
  simp

theorem isTrimmedLine_description {text : String} (h : IsDescription text) :
    IsTrimmedLine ("\"" ++ text ++ "\"") := by
  refine ⟨by simp, ?_, ?_⟩
  · rw [toList_descriptionLine]
    simp [h.2.2]
  · rw [toList_descriptionLine, ← List.cons_append, Text.isStripped_append (by simp) (by simp)]
    rfl

theorem lineOf_description {text : String} (h : IsDescription text) :
    lineOf ("\"" ++ text ++ "\"") = .description text := by
  obtain ⟨htrim, hquote, -⟩ := id h
  rw [lineOf, (isTrimmedLine_description h).trimChars_eq, classify_eq_description_iff]
  exact ⟨text, toList_descriptionLine text, hquote, htrim.symm⟩

/-! ### Lines that introduce a type -/

theorem TypeKind.keyword_mem (kind : TypeKind) : kind.keyword ∈ keywords := by
  cases kind <;> decide

namespace TypeDefinition

variable {d : TypeDefinition}

theorem toList_header (d : TypeDefinition) :
    d.header.toList = d.kind.keyword.toList ++ ' ' :: (d.name.toList ++ d.headerTail.toList) := by
  simp [header]

theorem headerTail_of_not_isSelfTerminating (h : d.kind.isSelfTerminating = false) :
    d.headerTail = " \x7b" := by
  cases hk : d.kind <;> simp_all [headerTail, TypeKind.isSelfTerminating]

theorem headerTail_cases (d : TypeDefinition) :
    d.headerTail = "" ∨ d.headerTail = " \x7b" ∨
      d.kind = .union ∧ d.possibleTypes ≠ [] ∧
        d.headerTail = " = " ++ Text.join " | " d.possibleTypes := by
  cases hk : d.kind <;> by_cases hne : d.possibleTypes = [] <;> simp [headerTail, hk, hne]

theorem all_head?_headerTail (d : TypeDefinition) :
    d.headerTail.toList.head?.all (!isNameChar ·) = true := by
  rcases headerTail_cases d with h | h | ⟨-, -, h⟩
  · simp [h]
  · rw [h]
    decide
  · rw [h]
    simp
    decide

/-- The header is read as the introduction that it is. -/
theorem intro?_header (h : isName d.name.toList = true) :
    intro? d.header.toList = some { keyword := d.kind.keyword, name := d.name } := by
  have hkeyword := keywordAt?_append d.kind.keyword_mem
    (' ' :: (d.name.toList ++ d.headerTail.toList))
  have hblank : skipBlanks (' ' :: (d.name.toList ++ d.headerTail.toList)) =
      d.name.toList ++ d.headerTail.toList := by
    rw [skipBlanks_cons_of_isBlank (c := ' ') _ (by decide)]
    apply skipBlanks_eq_self
    rw [List.head?_append_of_ne_nil _ (isName_ne_nil h)]
    exact Text.all_head?_of_forall fun c hc => by simp [isBlank_of_mem_name h hc]
  have hname := nameAt?_append h (all_head?_headerTail d)
  rw [toList_header]
  apply firstMatch?_of_some (by simp)
  rw [introAt?_eq_some_iff]
  exact ⟨_, _, _, hkeyword, rfl, hblank ▸ hname, by simp⟩

theorem newline_not_mem_headerTail (h : d.IsCanonical) : '\n' ∉ d.headerTail.toList := by
  rcases headerTail_cases d with htail | htail | ⟨-, -, htail⟩
  · simp [htail]
  · simp [htail]
  · have hjoin : '\n' ∉ (Text.join " | " d.possibleTypes).toList := by
      rw [Text.mem_toList_join_iff (by decide)]
      rintro ⟨t, ht, hmem⟩
      exact not_mem_of_isName (h.possibleTypes t ht) (by decide) hmem
    simp [htail, hjoin]

theorem all_getLast?_headerTail (h : d.IsCanonical) :
    d.headerTail.toList.getLast?.all (!isBlank ·) = true := by
  rcases headerTail_cases d with htail | htail | ⟨-, hne, htail⟩
  · simp [htail]
  · rw [htail]
    decide
  · have hpieces : ∀ t ∈ d.possibleTypes, t ≠ "" ∧ Text.isStripped isBlank t.toList = true := by
      intro t ht
      have hname := h.possibleTypes t ht
      exact ⟨by simpa using isName_ne_nil hname, isStripped_of_isName hname⟩
    have hjoin : Text.join " | " d.possibleTypes ≠ "" :=
      Text.join_ne_empty hne fun t ht => (hpieces t ht).1
    have hstripped : Text.isStripped isBlank (Text.join " | " d.possibleTypes).toList = true :=
      Text.isStripped_join hpieces
    simp only [Text.isStripped, Bool.and_eq_true] at hstripped
    rw [htail, String.toList_append, List.getLast?_append_of_ne_nil _ (by simpa using hjoin)]
    exact hstripped.2

theorem isTrimmedLine_header (h : d.IsCanonical) : IsTrimmedLine d.header := by
  have hkeyword := isName_of_mem_keywords _ d.kind.keyword_mem
  have hname := h.isName
  refine ⟨by simp [header], ?_, ?_⟩
  · rw [toList_header]
    simp [not_mem_of_isName hkeyword (c := '\n') (by decide),
      not_mem_of_isName hname (c := '\n') (by decide), newline_not_mem_headerTail h]
  · have hfront : Text.isStripped isBlank
        (d.kind.keyword.toList ++ ' ' :: d.name.toList) = true := by
      have hends := isStripped_of_isName hkeyword
      have hnameEnds := isStripped_of_isName hname
      simp only [Text.isStripped, Bool.and_eq_true] at hends hnameEnds
      rw [List.append_cons, Text.isStripped_append (by simp) (isName_ne_nil hname),
        List.head?_append_of_ne_nil _ (isName_ne_nil hkeyword), hends.1, hnameEnds.2]
      rfl
    have hlist : d.header.toList =
        (d.kind.keyword.toList ++ ' ' :: d.name.toList) ++ d.headerTail.toList := by
      simp [header]
    by_cases htail : d.headerTail = ""
    · rw [hlist, htail]
      simpa using hfront
    · simp only [Text.isStripped, Bool.and_eq_true] at hfront
      rw [hlist, Text.isStripped_append (by simp) (by simpa using htail)]
      simp only [Bool.and_eq_true]
      exact ⟨hfront.1, all_getLast?_headerTail h⟩

theorem lineOf_header (h : d.IsCanonical) :
    lineOf d.header = .intro { keyword := d.kind.keyword, name := d.name } := by
  have hstart : d.header.toList.head?.any isNameStart = true := by
    rw [toList_header]
    exact any_head?_append_of_isName (isName_of_mem_keywords _ d.kind.keyword_mem) _
  rw [(isTrimmedLine_header h).lineOf_eq hstart, intro?_header h.isName]
  rfl

theorem opensBrace_header (h : d.kind.isSelfTerminating = false) :
    opensBrace d.header.toList = true := by
  simp [opensBrace, toList_header, headerTail_of_not_isSelfTerminating h]

/-- The union has the member types that its header names. -/
theorem possibleTypes_header (h : d.IsCanonical) (hkind : d.kind = .union) :
    Reader.possibleTypes d.header.toList = d.possibleTypes := by
  have hequals : '=' ∉ d.kind.keyword.toList ++ ' ' :: d.name.toList := by
    simp [not_mem_of_isName (isName_of_mem_keywords _ d.kind.keyword_mem) (c := '=') (by decide),
      not_mem_of_isName h.isName (c := '=') (by decide)]
  by_cases hne : d.possibleTypes = []
  · have hlist : d.header.toList = d.kind.keyword.toList ++ ' ' :: d.name.toList := by
      simp [header, headerTail, hkind, hne]
    rw [Reader.possibleTypes, hlist, Text.splitCharsOnce?_eq_none_iff.mpr hequals, hne]
  · have hlist : d.header.toList = (d.kind.keyword.toList ++ ' ' :: d.name.toList ++ [' ']) ++
        '=' :: ' ' :: (Text.join " | " d.possibleTypes).toList := by
      simp [header, headerTail, hkind, hne]
    have hpieces : ∀ t ∈ d.possibleTypes, Text.trim t = t ∧ '|' ∉ t.toList := by
      intro t ht
      have hname := h.possibleTypes t ht
      exact ⟨Text.trim_eq_self_iff.mpr (isStripped_of_isName hname),
        not_mem_of_isName hname (by decide)⟩
    have hsplit := Text.map_trimChars_splitChars_join
      (show " | ".toList = [' '] ++ '|' :: [' '] from rfl) (by decide)
      (List.all_eq_true.mp rfl) (List.all_eq_true.mp rfl) hne hpieces
    have hfilter : (d.possibleTypes.map String.toList).filter (!·.isEmpty) =
        d.possibleTypes.map String.toList := by
      rw [List.filter_eq_self]
      intro cs hcs
      obtain ⟨t, ht, rfl⟩ := List.mem_map.mp hcs
      simpa using isName_ne_nil (h.possibleTypes t ht)
    have hblank : ∀ c ∈ [' '], Text.isBlank c = true := List.forall_mem_singleton.mpr rfl
    have hskip := Text.map_trimChars_splitChars_append_left
      (Text.join " | " d.possibleTypes).toList hblank (show '|' ∉ [' '] by decide)
    rw [Reader.possibleTypes, hlist, Text.splitCharsOnce?_append _ (by simpa using hequals)]
    simp only [Text.filterMap_nonBlank?]
    rw [← List.singleton_append, hskip, hsplit, hfilter]
    simp

end TypeDefinition

/-! ### Lines of members -/

/-- A line of a body that is read as the member `m` and nothing else. -/
structure IsMemberLine (line : String) (m : Member) : Prop where
  isTrimmedLine : IsTrimmedLine line
  lineOf_eq : lineOf line = .other
  isClosing_eq : isClosing line.toList = false
  member?_eq : member? line.toList = some m

theorem lineOf_eq_other {line : String} (h : IsTrimmedLine line)
    (hstart : line.toList.head?.any isNameStart = true) (hintro : ¬ Introduces line.toList) :
    lineOf line = .other := by
  rw [h.lineOf_eq hstart, intro?_eq_none_iff.mpr hintro]
  rfl

theorem isClosing_eq_false_iff {cs : List Char} :
    isClosing cs = false ↔ ('}' ∈ cs → '{' ∈ cs) := by
  by_cases hclose : '}' ∈ cs <;> simp [isClosing, hclose]

/-- Trimming takes no braces away. -/
theorem isClosing_trimChars (cs : List Char) : isClosing (Text.trimChars cs) = isClosing cs := by
  have hmem : ∀ c, isBlank c = false → (c ∈ Text.trimChars cs ↔ c ∈ cs) :=
    fun c hc => Text.mem_stripChars_iff hc
  simp [isClosing, hmem '}' (by decide), hmem '{' (by decide)]

/-- A field whose line is read as the field, if it is not taken for the end of a body: a default
value introduces no type and stands on one line. -/
structure Field.IsLegible (f : Field) : Prop where
  isNamed : f.IsNamed
  not_introduces : ∀ a ∈ f.args, ∀ v ∈ a.defaultValue, ¬ Introduces v.toList
  newline : ∀ a ∈ f.args, ∀ v ∈ a.defaultValue, '\n' ∉ v.toList

namespace Field.IsLegible

variable {f : Field}

theorem isTrimmedLine_line (h : f.IsLegible) : IsTrimmedLine f.line := by
  refine ⟨?_, ?_, isStripped_line h.isNamed⟩
  · have hname := isName_ne_nil h.isNamed.1
    rw [ne_eq, ← String.toList_eq_nil_iff, toList_line]
    simp [hname]
  · rw [mem_line_iff h.isNamed (by decide) (by decide)]
    rintro ⟨a, ha, v, hv, hmem⟩
    exact h.newline a ha v hv hmem

theorem lineOf_line (h : f.IsLegible) : lineOf f.line = .other := by
  apply lineOf_eq_other h.isTrimmedLine_line
  · rw [toList_line]
    exact any_head?_append_of_isName h.isNamed.1 _
  · exact not_introduces_line h.isNamed h.not_introduces

theorem member?_line (h : f.IsLegible) : member? f.line.toList = some f.member :=
  firstMatch?_of_some (by simpa using h.isTrimmedLine_line.1) (memberAt?_line h.isNamed)

end Field.IsLegible

/-- The same of a field of an input object. -/
structure Argument.IsLegible (a : Argument) : Prop where
  isNamed : a.IsNamed
  isDefault : ∀ v ∈ a.defaultValue, IsDefault (· == '\n') v
  not_introduces : ∀ v ∈ a.defaultValue, ¬ Introduces v.toList

namespace Argument.IsLegible

variable {a : Argument}

theorem isTrimmedLine_line (h : a.IsLegible) : IsTrimmedLine a.line := by
  refine ⟨?_, ?_, isStripped_line h.isNamed h.isDefault⟩
  · have hname := isName_ne_nil h.isNamed.1
    rw [ne_eq, ← String.toList_eq_nil_iff, toList_line]
    simp [hname]
  · rw [mem_line_iff h.isNamed (by decide) (by decide)]
    rintro ⟨v, hv, hmem⟩
    simpa using (h.isDefault v hv).2.2 '\n' hmem

theorem lineOf_line (h : a.IsLegible) : lineOf a.line = .other := by
  apply lineOf_eq_other h.isTrimmedLine_line
  · rw [toList_line]
    exact any_head?_append_of_isName h.isNamed.1 _
  · exact not_introduces_line h.isNamed h.not_introduces

theorem member?_line (h : a.IsLegible) : member? a.line.toList = some a.member :=
  firstMatch?_of_some (by simpa using h.isTrimmedLine_line.1) (memberAt?_line h.isNamed h.isDefault)

end Argument.IsLegible

theorem Field.IsCanonical.isNamed {f : Field} (h : f.IsCanonical) : f.IsNamed :=
  ⟨h.isName, h.isCore, fun a ha => ⟨(h.args a ha).isNamed, (h.args a ha).isDefault⟩⟩

theorem Field.IsCanonical.isLegible {f : Field} (h : f.IsCanonical) : f.IsLegible :=
  ⟨h.isNamed, fun a ha v hv => intro?_eq_none_iff.mp ((h.args a ha).intro?_eq v hv),
    fun a ha => (h.args a ha).newline⟩

theorem Argument.IsCanonicalField.isLegible {a : Argument} (h : a.IsCanonicalField) : a.IsLegible :=
  ⟨h.isNamed, h.isDefault, fun v hv => intro?_eq_none_iff.mp (h.intro?_eq v hv)⟩

theorem Field.isMemberLine_line {f : Field} (h : f.IsCanonical) :
    IsMemberLine f.line f.member := by
  have hlegible := h.isLegible
  refine ⟨hlegible.isTrimmedLine_line, hlegible.lineOf_line, ?_, hlegible.member?_line⟩
  rw [isClosing_eq_false_iff, mem_line_iff h.isNamed (by decide) (by decide),
    mem_line_iff h.isNamed (by decide) (by decide)]
  exact h.braces

theorem Argument.isMemberLine_line {a : Argument} (h : a.IsCanonicalField) :
    IsMemberLine a.line a.member := by
  have hlegible := h.isLegible
  refine ⟨hlegible.isTrimmedLine_line, hlegible.lineOf_line, ?_, hlegible.member?_line⟩
  rw [isClosing_eq_false_iff, mem_line_iff h.isNamed (by decide) (by decide),
    mem_line_iff h.isNamed (by decide) (by decide)]
  rintro ⟨v, hv, hmem⟩
  exact ⟨v, hv, h.braces v hv hmem⟩

/-! ### Lines of enum values -/

theorem isTrimmedLine_of_isName {value : String} (h : isName value.toList = true) :
    IsTrimmedLine value :=
  ⟨by simpa using isName_ne_nil h, not_mem_of_isName h (by decide), isStripped_of_isName h⟩

theorem lineOf_of_isName {value : String} (h : isName value.toList = true) :
    lineOf value = .other := by
  have hintro : intro? value.toList = none :=
    intro?_eq_none_iff.mpr (not_introduces_of_no_blank fun _ hc => isBlank_of_mem_name h hc)
  have hstart := any_head?_append_of_isName h []
  rw [List.append_nil] at hstart
  rw [(isTrimmedLine_of_isName h).lineOf_eq hstart, hintro]
  rfl

/-- A name alone is no member: it has no colon behind it. -/
theorem member?_eq_none_of_isName {name : List Char} (h : isName name = true) :
    member? name = none := by
  by_contra hsome
  obtain ⟨m, hm⟩ := Option.ne_none_iff_exists'.mp hsome
  obtain ⟨back, hback, hat⟩ := exists_suffix_of_firstMatch? hm
  cases back with
  | nil => simp [memberAt?, nameAt?] at hat
  | cons c cs =>
    have hcs : cs.dropWhile isNameChar = [] := by
      rw [List.dropWhile_eq_nil_iff]
      exact fun d hd => isNameChar_of_mem h (hback.subset (List.mem_cons_of_mem c hd))
    by_cases hc : isNameStart c = true
    · simp [memberAt?, nameAt?, hc, hcs, argumentsAt?, after?, skipBlanks] at hat
    · simp [memberAt?, nameAt?, hc] at hat

/-! ### All lines of a type -/

theorem isLine_of_mem_descriptionLines {description : Option String}
    (h : ∀ t ∈ description, IsDescription t) :
    ∀ line ∈ descriptionLines description, Text.isLine line = true := by
  intro line hline
  obtain ⟨t, ht, rfl⟩ := List.mem_map.mp hline
  exact (isTrimmedLine_description (h t (by simpa using ht))).isLine

theorem TypeDefinition.IsCanonical.isLine_of_mem {d : TypeDefinition} (h : d.IsCanonical) :
    ∀ line ∈ d.lines, Text.isLine line = true := by
  have hbody : ∀ line ∈ d.bodyLines, Text.isLine line = true := by
    intro line hline
    simp only [TypeDefinition.bodyLines, List.mem_append, List.mem_flatMap, List.mem_map] at hline
    rcases hline with (⟨f, hf, hline⟩ | ⟨a, ha, rfl⟩) | hvalue
    · simp only [Field.lines, List.mem_append, List.mem_singleton] at hline
      rcases hline with hline | rfl
      · exact isLine_of_mem_descriptionLines (h.fields f hf).isDescription line hline
      · exact (Field.isMemberLine_line (h.fields f hf)).isTrimmedLine.isLine
    · exact (Argument.isMemberLine_line (h.inputFields a ha)).isTrimmedLine.isLine
    · exact (isTrimmedLine_of_isName (h.enumValues line hvalue)).isLine
  intro line hline
  simp only [TypeDefinition.lines, List.mem_append, List.mem_cons] at hline
  rcases hline with hline | rfl | hline
  · exact isLine_of_mem_descriptionLines h.isDescription line hline
  · exact (TypeDefinition.isTrimmedLine_header h).isLine
  · split at hline
    · simp at hline
    · simp only [List.mem_append, List.mem_singleton] at hline
      rcases hline with hline | rfl
      · exact hbody line hline
      · decide

end SchemaExplorer
