import SchemaExplorer.Proofs.Sdl.Invariant
import SchemaExplorer.Proofs.Sdl.RoundTrip
import SchemaExplorer.Proofs.Sdl.Segment

/-! # Members that are shown

What was read may have been written in any way. The line that shows a member is in canonical form
all the same: it is read as that member, unless its braces end the body it stands in. -/

namespace SchemaExplorer

open Sdl

namespace Sdl

/-! ### Members that were read -/

/-- The members of the type can be read from the lines that show them. -/
structure IsLegible (d : TypeDefinition) : Prop where
  fields : ∀ f ∈ d.fields, f.IsLegible
  inputFields : ∀ a ∈ d.inputFields, a.IsLegible

/-- A default value is part of a line, and so is what it would introduce. -/
theorem isLegible_field {cs : List Char} {m : Member} (hm : member? cs = some m)
    (hintro : ¬ Introduces cs) (hnewline : '\n' ∉ cs) (description : Option String) :
    (m.field description).IsLegible := by
  have hfound := isFoundIn_of_member? hm
  have hpart : ∀ a ∈ (m.field description).args, ∀ v ∈ a.defaultValue, v.toList <:+: cs := by
    intro a ha v hv
    obtain ⟨n, rfl, hn⟩ := hfound.exists_of_mem_args ha
    exact (hn.defaultValue v hv).2
  exact ⟨hfound.isNamed_field description,
    fun a ha v hv hintroduces => hintro (hintroduces.mono (hpart a ha v hv)),
    fun a ha v hv hmem => hnewline ((hpart a ha v hv).subset hmem)⟩

theorem isLegible_argument {cs : List Char} {m : Member} (hm : member? cs = some m)
    (hintro : ¬ Introduces cs) : m.argument.IsLegible := by
  have hfound := isFoundIn_of_member? hm
  exact ⟨hfound.isNamed_argument, fun v hv => (hfound.defaultValue v hv).1,
    fun v hv hintroduces => hintro (hintroduces.mono (hfound.defaultValue v hv).2)⟩

theorem isLegible_addMember {d : TypeDefinition} {cs : List Char} {m : Member} (h : IsLegible d)
    (hm : member? cs = some m) (hintro : ¬ Introduces cs) (hnewline : '\n' ∉ cs)
    (description : Option String) : IsLegible (addMember d m description) := by
  rw [addMember]
  split
  · refine ⟨fun f hf => ?_, h.inputFields⟩
    rcases List.mem_append.mp hf with hf | hf
    · exact h.fields f hf
    · rw [List.mem_singleton.mp hf]
      exact isLegible_field hm hintro hnewline description
  · split
    · refine ⟨h.fields, fun a ha => ?_⟩
      rcases List.mem_append.mp ha with ha | ha
      · exact h.inputFields a ha
      · rw [List.mem_singleton.mp ha]
        exact isLegible_argument hm hintro
    · exact h

theorem isLegible_of_mem_parse {text : String} {d : TypeDefinition} (hd : d ∈ parse text) :
    IsLegible d := by
  have hlines : d ∈ (Reader.start.readLines (Text.lines text)).finish := hd
  refine forall_mem_finish_readLines ?_ ?_ d hlines
  · intro line _ i description _
    exact ⟨by simp [Reader.introduced, TypeDefinition.declare],
      by simp [Reader.introduced, TypeDefinition.declare]⟩
  · intro line hline d m description h hother hm
    apply isLegible_addMember h hm
    · exact intro?_eq_none_iff.mp (intro?_of_lineOf_eq_other hother)
    · intro hmem
      exact Text.newline_not_mem_of_mem_lines hline ((Text.isInfix_stripChars _ _).subset hmem)

/-! ### A type with one line in its body -/

namespace Reader

variable {d : TypeDefinition} {line : String} {m : Member}

theorem readLine_memberLine_inside (hline : IsTrimmedLine line) (hother : lineOf line = .other)
    (hm : member? line.toList = some m) :
    ((inside [] d).readLine line).readLine "\x7d" =
      behind [if isClosing line.toList then d else addMember d m none] := by
  by_cases hclosing : isClosing line.toList = true
  · have hclosed : (inside [] d).readLine line = behind [d] := by
      rw [readLine_of_other hother, hline.trimChars_eq, readOther_body rfl, if_pos hclosing]
      rfl
    -- The brace that should have ended the body stands between types now.
    have hbrace : lineOf "\x7d" = .other := by decide
    rw [hclosed, if_pos hclosing, readLine_of_other hbrace, readOther_outside rfl]
  · have hmember : IsMemberLine line m := ⟨hline, hother, by simpa using hclosing, hm⟩
    have hread : (inside [] d).readLine line = inside [] (addMember d m none) :=
      readLine_memberLine hmember rfl
    rw [hread, if_neg hclosing]
    exact readLine_closing

end Reader

/-- A type that has a body and nothing in it. -/
theorem isCanonical_declare {typeName : String} {kind : TypeKind}
    (hname : isName typeName.toList = true)
    (hkind : TypeKind.classify kind.keyword typeName = kind) :
    (TypeDefinition.declare typeName kind none).IsCanonical := by
  constructor <;> simp [TypeDefinition.declare, hname, hkind]

theorem parse_memberLine {typeName line : String} (kind : TypeKind) {m : Member}
    (hname : isName typeName.toList = true)
    (hkind : TypeKind.classify kind.keyword typeName = kind)
    (hself : kind.isSelfTerminating = false) (hline : IsTrimmedLine line)
    (hother : lineOf line = .other) (hm : member? line.toList = some m) :
    let d := TypeDefinition.declare typeName kind none
    parse (Text.join "\n" [kind.keyword ++ " " ++ typeName ++ " \x7b", line, "\x7d"]) =
      [if isClosing line.toList then d else addMember d m none] := by
  intro d
  have hd : d.IsCanonical := isCanonical_declare hname hkind
  have hheader : d.header = kind.keyword ++ " " ++ typeName ++ " \x7b" := by
    rw [TypeDefinition.header, TypeDefinition.headerTail_of_not_isSelfTerminating hself]
    rfl
  have hlines : ∀ l ∈ [d.header, line, "\x7d"], Text.isLine l = true := by
    simp only [List.mem_cons, List.not_mem_nil, or_false, forall_eq_or_imp, forall_eq]
    exact ⟨(TypeDefinition.isTrimmedLine_header hd).isLine, hline.isLine, by decide⟩
  have hread : Reader.start.readLine d.header = Reader.inside [] d := by
    have hbegin : (Reader.behind []).readLines (descriptionLines d.description ++ [d.header]) =
        if d.kind.isSelfTerminating then Reader.behind ([] ++ [Reader.headed d])
        else Reader.inside [] (Reader.headed d) :=
      Reader.readLines_header hd
    rw [show d.kind.isSelfTerminating = false from hself] at hbegin
    exact hbegin
  have hbody : Reader.start.readLines [d.header, line, "\x7d"] =
      ((Reader.inside [] d).readLine line).readLine "\x7d" := by
    rw [← hread]
    rfl
  rw [← hheader, parse, Text.lines_join hlines, hbody,
    Reader.readLine_memberLine_inside hline hother hm]
  rfl

/-! ### Shown members -/

theorem classify_of_ne_root {typeName : String}
    (h : ∀ kind : OperationKind, typeName ≠ kind.rootTypeName) (keyword : String) :
    TypeKind.classify keyword typeName = TypeKind.ofKeyword keyword := by
  have hquery := h .query
  have hmutation := h .mutation
  have hsubscription := h .subscription
  simp only [OperationKind.rootTypeName] at hquery hmutation hsubscription
  rw [TypeKind.classify, if_neg hquery, if_neg hmutation, if_neg hsubscription]

/-- Of every schema text, the line that shows a field is read, in the body of an object, as that
field without its description, and the line that shows an input field is read, in the body of an
input object, as that input field. But a line on which braces only close ends the body and is no
member. -/
theorem parse_shown_member {text typeName : String} {d : TypeDefinition} (hd : d ∈ parse text)
    (hname : isName typeName.toList = true)
    (hroot : ∀ kind : OperationKind, typeName ≠ kind.rootTypeName) :
    (∀ f ∈ d.fields, parse (Text.join "\n" ["type " ++ typeName ++ " \x7b", f.line, "\x7d"]) =
      [{ TypeDefinition.declare typeName .object none with
          fields := if isClosing f.line.toList then [] else [f.withoutDescription] }]) ∧
    ∀ a ∈ d.inputFields, parse (Text.join "\n" ["input " ++ typeName ++ " \x7b", a.line, "\x7d"]) =
      [{ TypeDefinition.declare typeName .inputObject none with
          inputFields := if isClosing a.line.toList then [] else [a] }] := by
  have hlegible := isLegible_of_mem_parse hd
  constructor
  · intro f hf
    have h := hlegible.fields f hf
    have hfield : f.member.field none = f.withoutDescription :=
      Field.field_member (f := f.withoutDescription) h.isNamed
    have hread := parse_memberLine .object hname (classify_of_ne_root hroot _) rfl
      h.isTrimmedLine_line h.lineOf_line h.member?_line
    refine Eq.trans hread ?_
    by_cases hclosing : isClosing f.line.toList = true
    · simp [hclosing, TypeDefinition.declare]
    · simp [hclosing, addMember, TypeDefinition.declare, TypeKind.hasFields, hfield,
        TypeDefinition.addField]
  · intro a ha
    have h := hlegible.inputFields a ha
    have hread := parse_memberLine .inputObject hname (classify_of_ne_root hroot _) rfl
      h.isTrimmedLine_line h.lineOf_line h.member?_line
    refine Eq.trans hread ?_
    by_cases hclosing : isClosing a.line.toList = true
    · simp [hclosing, TypeDefinition.declare]
    · simp [hclosing, addMember, TypeDefinition.declare, TypeKind.hasFields,
        Argument.argument_member h.isNamed h.isDefault, TypeDefinition.addInputField]

/-- Brackets out of balance, bangs in a row, text around the members, and braces in their default
values. -/
def roughSchema : String :=
  "type Query \x7b\n \"all\"\n %f (a: [Int!]! = =\x7b, b c: X]!y = \x7d\x7b (1) : [[T]!!]! @x = 1\n\x7d\n" ++
    "input I \x7b\n m(z): A!]! = (\x7d \x7b) \n \x7b n: B = \x7d\n\x7d"

def roughField : Field :=
  { name := "f", typeName := "T", isList := true, isNonNull := true
    args :=
      [{ name := "a", typeName := "Int", defaultValue := some "=\x7b", isNonNull := true },
       { name := "c", typeName := "X]!y", defaultValue := some "\x7d\x7b (1", isNonNull := false }]
    description := some "all" }

def roughInputField : Argument :=
  { name := "m", typeName := "A", defaultValue := some "(\x7d \x7b)", isNonNull := true }

/-- Its line closes a brace and opens none. -/
def closingInputField : Argument :=
  { name := "n", typeName := "B", defaultValue := some "\x7d", isNonNull := false }

theorem parse_shown_member_roughSchema :
    let query := { TypeDefinition.declare "Query" .query none with fields := [roughField] }
    let input := { TypeDefinition.declare "I" .inputObject none with
      inputFields := [roughInputField, closingInputField] }
    (query ∈ parse roughSchema ∧ input ∈ parse roughSchema) ∧
      (isName "T".toList = true ∧ ∀ kind : OperationKind, "T" ≠ kind.rootTypeName) ∧
      parse (Text.join "\n" ["type T \x7b", roughField.line, "\x7d"]) =
        [{ TypeDefinition.declare "T" .object none with fields := [roughField.withoutDescription] }] ∧
      parse (Text.join "\n" ["input T \x7b", roughInputField.line, "\x7d"]) =
        [{ TypeDefinition.declare "T" .inputObject none with inputFields := [roughInputField] }] ∧
      parse (Text.join "\n" ["input T \x7b", closingInputField.line, "\x7d"]) =
        [TypeDefinition.declare "T" .inputObject none] := by
  intro query input
  have hquery : query ∈ parse roughSchema := by decide +kernel
  have hinput : input ∈ parse roughSchema := by decide +kernel
  have hname : isName "T".toList = true := by decide
  have hroot : ∀ kind : OperationKind, "T" ≠ kind.rootTypeName := fun kind => by
    cases kind <;> decide
  have hfield := (parse_shown_member hquery hname hroot).1 roughField (by simp [query])
  have hfirst := (parse_shown_member hinput hname hroot).2 roughInputField (by simp [input])
  have hsecond := (parse_shown_member hinput hname hroot).2 closingInputField (by simp [input])
  rw [if_neg (by decide +kernel)] at hfield hfirst
  rw [if_pos (by decide +kernel)] at hsecond
  exact ⟨⟨hquery, hinput⟩, ⟨hname, hroot⟩, hfield, hfirst, hsecond⟩

end Sdl

end SchemaExplorer
