import SchemaExplorer.Proofs.Sdl.Intro
import SchemaExplorer.Sdl.Reader

/-! # The lines of members

The line that shows a field or an argument is read as that field or argument. Nothing is asked of
a default value but that it is trimmed and does not hold the characters that end it. -/

namespace SchemaExplorer

open Text (isBlank)
open Sdl

/-! ### Default values -/

/-- The default value of a member as its line shows it. -/
def defaultTail (value : Option String) : List Char :=
  match value with
  | none => []
  | some value => ' ' :: '=' :: ' ' :: value.toList

/-- A default value that is kept as it stands: it is trimmed and not empty, and `stop` holds for
none of its characters. -/
def IsDefault (stop : Char → Bool) (value : String) : Prop :=
  Text.trim value = value ∧ value ≠ "" ∧ ∀ c ∈ value.toList, stop c = false

instance (stop : Char → Bool) (value : String) : Decidable (IsDefault stop value) :=
  decidable_of_iff (Text.trim value = value ∧ value ≠ "" ∧ value.toList.all (!stop ·) = true) <| by
    simp [IsDefault]

theorem defaultAt?_defaultTail {stop : Char → Bool} {value : Option String}
    (h : ∀ v ∈ value, IsDefault stop v) :
    defaultAt? stop (defaultTail value) = value.map String.toList := by
  cases value with
  | none => rfl
  | some v =>
    obtain ⟨htrim, -, hstop⟩ := h v rfl
    have hhead : v.toList.head?.all (!isBlank ·) = true := by
      have hstripped := Text.trim_eq_self_iff.mp htrim
      simp only [Text.isStripped, Bool.and_eq_true] at hstripped
      exact hstripped.1
    have hfront : skipBlanks (' ' :: '=' :: ' ' :: v.toList) = '=' :: ' ' :: v.toList := by
      simp [skipBlanks, isBlank]
    have hback : skipBlanks (' ' :: v.toList) = v.toList := by
      rw [skipBlanks, List.dropWhile_cons_of_pos (by decide)]
      exact skipBlanks_eq_self hhead
    have htake : v.toList.takeWhile (fun c => !stop c) = v.toList :=
      List.takeWhile_eq_self_iff.mpr (by simpa using hstop)
    simp [defaultTail, defaultAt?, hfront, after?, hback, htake]

theorem lineDefaultAt?_defaultTail {value : Option String}
    (h : ∀ v ∈ value, IsDefault (· == '\n') v) :
    lineDefaultAt? (defaultTail value) = value.map String.toList := by
  rw [lineDefaultAt?, defaultAt?_defaultTail h]
  cases value with
  | none => rfl
  | some v => simp [Option.filter, (h v rfl).2.1]

theorem defaultValue_eq {m : Member} {stop : Char → Bool}
    (h : ∀ v ∈ m.defaultText, IsDefault stop v) : m.defaultValue = m.defaultText := by
  cases hv : m.defaultText with
  | none => simp [Member.defaultValue, hv]
  | some v =>
    obtain ⟨htrim, hne, -⟩ := h v hv
    simp [Member.defaultValue, hv, Text.nonBlank?_eq_some htrim hne]

theorem all_head?_defaultTail (value : Option String) :
    (defaultTail value).head?.all (!isReferenceChar ·) = true := by
  cases value with
  | none => rfl
  | some v => simp [defaultTail]; decide

/-! ### Arguments -/

namespace Argument

/-- The type of an argument; that it is a list is not known. -/
def signature (a : Argument) : Signature :=
  { typeName := a.typeName, isList := false, isNonNull := a.isNonNull }

/-- The name and the type can be read again. -/
def IsNamed (a : Argument) : Prop :=
  isName a.name.toList = true ∧ isCore a.typeName.toList = true

instance (a : Argument) : Decidable a.IsNamed :=
  inferInstanceAs (Decidable (_ ∧ _))

theorem toList_line (a : Argument) :
    a.line.toList = a.name.toList ++ ':' :: ' ' :: (a.signature.text.toList ++
      defaultTail a.defaultValue) := by
  rcases a with ⟨name, typeName, _ | v, _ | _⟩ <;>
    simp [line, typeText, signature, Signature.text, defaultTail]

/-- The member that the line of an argument is read as. -/
def member (a : Argument) : Member :=
  { name := a.name, arguments := none, reference := a.signature.text
    defaultText := a.defaultValue }

theorem argument_member {a : Argument} {stop : Char → Bool} (h : a.IsNamed)
    (hv : ∀ v ∈ a.defaultValue, IsDefault stop v) : a.member.argument = a := by
  have hdefault : a.member.defaultValue = a.defaultValue := defaultValue_eq (m := a.member) hv
  have hparse : Signature.parse a.member.reference = a.signature := Signature.parse_text h.2
  rw [Member.argument, hdefault, hparse]
  rfl

/-- What is read of the line up to its default value. -/
theorem nameAt?_line {a : Argument} (h : a.IsNamed) :
    nameAt? a.line.toList = some (a.name.toList,
      ':' :: ' ' :: (a.signature.text.toList ++ defaultTail a.defaultValue)) := by
  rw [toList_line]
  exact nameAt?_append h.1 (by simp; decide)

theorem referenceAt?_line {a : Argument} (h : a.IsNamed) :
    referenceAt? (skipBlanks (' ' :: (a.signature.text.toList ++ defaultTail a.defaultValue))) =
      some (a.signature.text.toList, defaultTail a.defaultValue) := by
  rw [skipBlanks_cons_of_isBlank (c := ' ') _ (by decide), Signature.skipBlanks_text_append h.2]
  exact Signature.referenceAt?_text h.2 (all_head?_defaultTail _)

theorem argumentAt?_line {a : Argument} (h : a.IsNamed)
    (hv : ∀ v ∈ a.defaultValue, IsDefault (fun c => c == ',' || c == ')') v) :
    argumentAt? a.line.toList = some a.member := by
  simp [argumentAt?, nameAt?_line h, after?, referenceAt?_line h,
    defaultAt?_defaultTail hv, member]

/-- The line of an input field; its default value goes on to the end. -/
theorem memberAt?_line {a : Argument} (h : a.IsNamed)
    (hv : ∀ v ∈ a.defaultValue, IsDefault (· == '\n') v) :
    memberAt? a.line.toList = some a.member := by
  simp [memberAt?, nameAt?_line h, argumentsAt?, after?, referenceAt?_line h,
    lineDefaultAt?_defaultTail hv, member]

theorem argument?_line {a : Argument} (h : a.IsNamed)
    (hv : ∀ v ∈ a.defaultValue, IsDefault (fun c => c == ',' || c == ')') v) :
    argument? a.line.toList = some a.member := by
  apply firstMatch?_of_some _ (argumentAt?_line h hv)
  simp [toList_line]

/-- Characters that stand in no reference and not between its parts come from the default value
of the argument. -/
theorem mem_line_iff {a : Argument} (h : a.IsNamed) {c : Char} (hc : isReferenceChar c = false)
    (hp : c ∉ [':', ' ', '=']) :
    c ∈ a.line.toList ↔ ∃ v ∈ a.defaultValue, c ∈ v.toList := by
  have hname : c ∉ a.name.toList := fun hmem => by
    simp [isReferenceChar_of_isNameChar (isNameChar_of_mem h.1 hmem)] at hc
  have htext : c ∉ a.signature.text.toList := fun hmem => by
    simp [Signature.isReferenceChar_of_mem_text (s := a.signature) h.2 hmem] at hc
  simp only [List.mem_cons, List.not_mem_nil, or_false, not_or] at hp
  cases hd : a.defaultValue with
  | none => simp [toList_line, hname, htext, hp, hd, defaultTail]
  | some v => simp [toList_line, hname, htext, hp, hd, defaultTail]

theorem isStripped_line {a : Argument} {stop : Char → Bool} (h : a.IsNamed)
    (hv : ∀ v ∈ a.defaultValue, IsDefault stop v) :
    Text.isStripped isBlank a.line.toList = true := by
  have hname := isName_ne_nil h.1
  have hhead : a.name.toList.head?.all (!isBlank ·) = true :=
    Text.all_head?_of_forall fun c hc => by simp [isBlank_of_mem_name h.1 hc]
  cases hd : a.defaultValue with
  | none =>
    have htext := Signature.toList_text_ne_nil (s := a.signature) h.2
    have hlast : a.signature.text.toList.getLast?.all (!isBlank ·) = true :=
      Text.all_getLast?_of_forall fun c hc => by
        simp [Signature.isBlank_of_mem_text (s := a.signature) h.2 hc]
    have hline : a.line.toList = (a.name.toList ++ [':', ' ']) ++ a.signature.text.toList := by
      simp [toList_line, hd, defaultTail]
    rw [hline, Text.isStripped_append (by simp) htext, List.head?_append_of_ne_nil _ hname]
    simp [hhead, hlast]
  | some v =>
    obtain ⟨htrim, hne, -⟩ := hv v hd
    have hstripped := Text.trim_eq_self_iff.mp htrim
    simp only [Text.isStripped, Bool.and_eq_true] at hstripped
    have hline : a.line.toList =
        (a.name.toList ++ (':' :: ' ' :: a.signature.text.toList ++ [' ', '=', ' '])) ++
          v.toList := by
      simp [toList_line, hd, defaultTail]
    rw [hline, Text.isStripped_append (by simp) (by simpa using hne),
      List.head?_append_of_ne_nil _ hname]
    simp [hhead, hstripped.2]

theorem not_introduces_line {a : Argument} (h : a.IsNamed)
    (hv : ∀ v ∈ a.defaultValue, ¬ Introduces v.toList) : ¬ Introduces a.line.toList := by
  have hname : ¬ Introduces a.name.toList :=
    not_introduces_of_no_blank fun _ hc => isBlank_of_mem_name h.1 hc
  have htext : ¬ Introduces a.signature.text.toList :=
    not_introduces_of_no_blank fun _ hc => Signature.isBlank_of_mem_text h.2 hc
  rw [toList_line, introduces_append_cons (by decide) (by decide),
    introduces_cons_of_isBlank (b := ' ') (by decide)]
  cases hd : a.defaultValue with
  | none => simp [defaultTail, hname, htext]
  | some v =>
    have htail : a.signature.text.toList ++ defaultTail (some v) =
        (a.signature.text.toList ++ [' ']) ++ '=' :: ' ' :: v.toList := by simp [defaultTail]
    rw [htail, introduces_append_cons (by decide) (by decide),
      introduces_cons_of_isBlank (b := ' ') (by decide),
      introduces_concat_of_isBlank (b := ' ') (by decide)]
    simp [hname, htext, hv v hd]

end Argument

/-! ### Fields -/

namespace Field

/-- The arguments of a field in their parentheses, if it has any. -/
def argumentTail (f : Field) : List Char :=
  if f.args.isEmpty then []
  else '(' :: (Text.join ", " (f.args.map Argument.line)).toList ++ [')']

theorem toList_line (f : Field) :
    f.line.toList =
      f.name.toList ++ (f.argumentTail ++ ':' :: ' ' :: f.signature.text.toList) := by
  by_cases h : f.args.isEmpty = true <;> simp [line, typeText, argumentTail, h]

/-- The field and its arguments can be read again. A default value must not end the argument. -/
def IsNamed (f : Field) : Prop :=
  isName f.name.toList = true ∧ isCore f.typeName.toList = true ∧ ∀ a ∈ f.args, a.IsNamed ∧
    ∀ v ∈ a.defaultValue, IsDefault (fun c => c == ',' || c == ')') v

theorem argumentList_join {args : List Argument} (hne : args ≠ [])
    (h : ∀ a ∈ args, a.IsNamed ∧
      ∀ v ∈ a.defaultValue, IsDefault (fun c => c == ',' || c == ')') v) :
    argumentList (Text.join ", " (args.map Argument.line)) = args := by
  have hpieces : ∀ s ∈ args.map Argument.line, Text.trim s = s ∧ ',' ∉ s.toList := by
    intro s hs
    obtain ⟨a, ha, rfl⟩ := List.mem_map.mp hs
    obtain ⟨hnamed, hv⟩ := h a ha
    refine ⟨Text.trim_eq_self_iff.mpr (Argument.isStripped_line hnamed hv), ?_⟩
    rw [Argument.mem_line_iff hnamed (by decide) (by decide)]
    rintro ⟨v, hvmem, hc⟩
    simpa using (hv v hvmem).2.2 ',' hc
  have hsplit : (Text.splitChars ',' (Text.join ", " (args.map Argument.line)).toList).map
      Text.trimChars = (args.map Argument.line).map String.toList :=
    Text.map_trimChars_splitChars_join (show ", ".toList = [] ++ ',' :: [' '] from rfl)
      (by decide) (by simp) (List.all_eq_true.mp rfl) (by simpa using hne) hpieces
  have hread : ∀ a ∈ args, (argument? a.line.toList).map Member.argument = some a := by
    intro a ha
    obtain ⟨hnamed, hv⟩ := h a ha
    rw [Argument.argument?_line hnamed hv, Option.map_some, Argument.argument_member hnamed hv]
  calc argumentList (Text.join ", " (args.map Argument.line))
      = ((args.map Argument.line).map String.toList).filterMap fun cs =>
          (argument? cs).map Member.argument := by
        rw [← hsplit, List.filterMap_map]
        rfl
    _ = args.filterMap fun a => (argument? a.line.toList).map Member.argument := by
        rw [List.filterMap_map, List.filterMap_map]
        rfl
    _ = args.filterMap some := List.filterMap_congr hread
    _ = args := List.filterMap_some

/-- The member that the line of a field is read as. -/
def member (f : Field) : Member :=
  { name := f.name
    arguments := if f.args.isEmpty then none else some (Text.join ", " (f.args.map Argument.line))
    reference := f.signature.text
    defaultText := none }

theorem field_member {f : Field} (h : f.IsNamed) :
    f.member.field f.description = f := by
  have hparse : Signature.parse f.signature.text = f.signature := Signature.parse_text h.2.1
  have hargs : (f.member.arguments.map argumentList).getD [] = f.args := by
    by_cases hne : f.args = []
    · simp [member, hne]
    · simp [member, hne, argumentList_join hne h.2.2]
  simp only [Member.field, hargs]
  simp only [member, hparse]
  rfl

theorem argumentsAt?_argumentTail {f : Field} (h : f.IsNamed) (rest : List Char) :
    argumentsAt? (f.argumentTail ++ ':' :: rest) =
      some (f.member.arguments.map String.toList, ':' :: rest) := by
  by_cases hne : f.args = []
  · simp [argumentTail, member, hne, argumentsAt?, after?]
  · have hinside : ∀ c ∈ (Text.join ", " (f.args.map Argument.line)).toList,
        (c != ')') = true := by
      intro c hc
      rw [bne_iff_ne]
      rintro rfl
      obtain ⟨s, hs, hc⟩ := (Text.mem_toList_join_iff (by decide)).mp hc
      obtain ⟨a, ha, rfl⟩ := List.mem_map.mp hs
      obtain ⟨hnamed, hv⟩ := h.2.2 a ha
      obtain ⟨v, hvmem, hc⟩ := (Argument.mem_line_iff hnamed (by decide) (by decide)).mp hc
      simpa using (hv v hvmem).2.2 ')' hc
    simp [argumentTail, member, hne, argumentsAt?, after?, List.dropWhile_append_of_pos hinside,
      List.takeWhile_append_of_pos hinside]

theorem memberAt?_line {f : Field} (h : f.IsNamed) : memberAt? f.line.toList = some f.member := by
  have hhead : (f.argumentTail ++ ':' :: ' ' :: f.signature.text.toList).head?.all
      (!isNameChar ·) = true := by
    by_cases hne : f.args = [] <;> simp [argumentTail, hne] <;> decide
  have hskip : skipBlanks (f.argumentTail ++ ':' :: ' ' :: f.signature.text.toList) =
      f.argumentTail ++ ':' :: ' ' :: f.signature.text.toList := by
    by_cases hne : f.args = []
    · simp [argumentTail, hne]
    · apply skipBlanks_eq_self
      simp [argumentTail, hne]
      decide
  have htext : referenceAt? (skipBlanks (' ' :: f.signature.text.toList)) =
      some (f.signature.text.toList, []) := by
    rw [skipBlanks_cons_of_isBlank (c := ' ') _ (by decide)]
    have hread := Signature.referenceAt?_text (s := f.signature) h.2.1
      (show ([] : List Char).head?.all (!isReferenceChar ·) = true from rfl)
    have hblanks := Signature.skipBlanks_text_append (s := f.signature) h.2.1 []
    rw [List.append_nil] at hread hblanks
    rw [hblanks, hread]
  rw [toList_line]
  simp [memberAt?, nameAt?_append h.1 hhead, hskip, argumentsAt?_argumentTail h, after?, htext]
  simp [lineDefaultAt?, defaultAt?, member, skipBlanks, after?]

theorem isStripped_line {f : Field} (h : f.IsNamed) :
    Text.isStripped isBlank f.line.toList = true := by
  have hname := isName_ne_nil h.1
  have htext := Signature.toList_text_ne_nil (s := f.signature) h.2.1
  have hhead : f.name.toList.head?.all (!isBlank ·) = true :=
    Text.all_head?_of_forall fun c hc => by simp [isBlank_of_mem_name h.1 hc]
  have hlast : f.signature.text.toList.getLast?.all (!isBlank ·) = true :=
    Text.all_getLast?_of_forall fun c hc => by
      simp [Signature.isBlank_of_mem_text (s := f.signature) h.2.1 hc]
  have hline : f.line.toList =
      (f.name.toList ++ (f.argumentTail ++ [':', ' '])) ++ f.signature.text.toList := by
    simp [toList_line]
  rw [hline, Text.isStripped_append (by simp) htext, List.head?_append_of_ne_nil _ hname]
  simp [hhead, hlast]

theorem not_introduces_line {f : Field} (h : f.IsNamed)
    (hv : ∀ a ∈ f.args, ∀ v ∈ a.defaultValue, ¬ Introduces v.toList) :
    ¬ Introduces f.line.toList := by
  have hname : ¬ Introduces f.name.toList :=
    not_introduces_of_no_blank fun _ hc => isBlank_of_mem_name h.1 hc
  have htext : ¬ Introduces f.signature.text.toList :=
    not_introduces_of_no_blank fun _ hc => Signature.isBlank_of_mem_text h.2.1 hc
  have hargs : ¬ Introduces (Text.join ", " (f.args.map Argument.line)).toList := by
    apply not_introduces_join
    intro s hs
    obtain ⟨a, ha, rfl⟩ := List.mem_map.mp hs
    exact Argument.not_introduces_line (h.2.2 a ha).1 (hv a ha)
  by_cases hne : f.args = []
  · have hline : f.line.toList = f.name.toList ++ ':' :: ' ' :: f.signature.text.toList := by
      simp [toList_line, argumentTail, hne]
    rw [hline, introduces_append_cons (by decide) (by decide),
      introduces_cons_of_isBlank (b := ' ') (by decide)]
    simp [hname, htext]
  · have hline : f.line.toList = f.name.toList ++ '(' ::
        ((Text.join ", " (f.args.map Argument.line)).toList ++ ')' ::
          ([] ++ ':' :: ' ' :: f.signature.text.toList)) := by
      simp [toList_line, argumentTail, hne]
    rw [hline, introduces_append_cons (by decide) (by decide),
      introduces_append_cons (by decide) (by decide),
      introduces_append_cons (by decide) (by decide),
      introduces_cons_of_isBlank (b := ' ') (by decide)]
    simp [hname, htext, hargs, not_introduces_of_no_blank]

theorem mem_line_iff {f : Field} (h : f.IsNamed) {c : Char} (hc : isReferenceChar c = false)
    (hp : c ∉ [':', ' ', '=', '(', ')', ',']) :
    c ∈ f.line.toList ↔ ∃ a ∈ f.args, ∃ v ∈ a.defaultValue, c ∈ v.toList := by
  have hname : c ∉ f.name.toList := fun hmem => by
    simp [isReferenceChar_of_isNameChar (isNameChar_of_mem h.1 hmem)] at hc
  have htext : c ∉ f.signature.text.toList := fun hmem => by
    simp [Signature.isReferenceChar_of_mem_text (s := f.signature) h.2.1 hmem] at hc
  simp only [List.mem_cons, List.not_mem_nil, or_false, not_or] at hp
  have hargs : c ∈ (Text.join ", " (f.args.map Argument.line)).toList ↔
      ∃ a ∈ f.args, ∃ v ∈ a.defaultValue, c ∈ v.toList := by
    rw [Text.mem_toList_join_iff (by simp [hp])]
    have hline : ∀ a ∈ f.args, (c ∈ a.line.toList ↔ ∃ v ∈ a.defaultValue, c ∈ v.toList) :=
      fun a ha => Argument.mem_line_iff (h.2.2 a ha).1 hc (by simp [hp])
    constructor
    · rintro ⟨s, hs, hmem⟩
      obtain ⟨a, ha, rfl⟩ := List.mem_map.mp hs
      exact ⟨a, ha, (hline a ha).mp hmem⟩
    · rintro ⟨a, ha, hmem⟩
      exact ⟨a.line, List.mem_map_of_mem ha, (hline a ha).mpr hmem⟩
  rw [← hargs, toList_line]
  by_cases hne : f.args = []
  · simp [hname, htext, hp, argumentTail, hne, Text.join]
  · simp [hname, htext, hp, argumentTail, hne]

end Field

end SchemaExplorer
