import SchemaExplorer.Proofs.Sdl.Document

/-! # Reading what was written

A reader that stands between types reads the lines of a canonical type as that type, and stands
between types again behind them. So a text of such types gives them all, and nothing else. -/

namespace SchemaExplorer

/-- The type without the values of an enum, which are not kept. -/
def TypeDefinition.withoutEnumValues (d : TypeDefinition) : TypeDefinition :=
  { d with enumValues := [] }

namespace Sdl

namespace Reader

/-! ### Places to begin -/

/-- The reader behind the types `ds`, with nothing begun. -/
def behind (ds : List TypeDefinition) : Reader :=
  { definitions := ds, place := .outside, description := none }

/-- The reader in the body of `d` behind the types `ds`, at the start of a member. -/
def inside (ds : List TypeDefinition) (d : TypeDefinition) : Reader :=
  { definitions := ds, place := .body d, description := none }

variable {ds : List TypeDefinition} {d : TypeDefinition}

/-! ### Single lines -/

theorem readLines_descriptionLines {r : Reader} {description : Option String}
    (hr : r.description = none) (h : ∀ t ∈ description, IsDescription t) :
    r.readLines (descriptionLines description) = { r with description } := by
  cases description with
  | none =>
    obtain ⟨definitions, place, waiting⟩ := r
    obtain rfl : waiting = none := hr
    rfl
  | some t => exact readLine_of_description (lineOf_description (h t rfl))

theorem readLine_memberLine {r : Reader} {line : String} {m : Member} (h : IsMemberLine line m)
    (hr : r.place = .body d) :
    r.readLine line =
      { r with place := .body (addMember d m r.description), description := none } := by
  rw [readLine_of_other h.lineOf_eq, h.isTrimmedLine.trimChars_eq, readOther_body hr,
    h.isClosing_eq, readMember, h.member?_eq]
  rfl

theorem readLine_enumValue {value : String} (h : isName value.toList = true) :
    (inside ds d).readLine value = inside ds d := by
  have hclosing : isClosing value.toList = false := by
    simp [isClosing, not_mem_of_isName h (c := '}') (by decide)]
  rw [readLine_of_other (lineOf_of_isName h), (isTrimmedLine_of_isName h).trimChars_eq,
    readOther_body rfl, hclosing, readMember, member?_eq_none_of_isName h]
  rfl

theorem readLine_closing : (inside ds d).readLine "\x7d" = behind (ds ++ [d]) := by
  have hother : lineOf "\x7d" = .other := by decide
  rw [readLine_of_other hother, readOther_body rfl]
  rfl

/-! ### Bodies -/

theorem readLines_fieldLines {f : Field} (h : f.IsCanonical) (hkind : d.kind.hasFields = true) :
    (inside ds d).readLines f.lines = inside ds (d.addField f) := by
  rw [Field.lines, readLines_concat, readLines_descriptionLines rfl h.isDescription,
    readLine_memberLine (Field.isMemberLine_line h) rfl, addMember, if_pos hkind,
    Field.field_member h.isNamed]
  rfl

theorem readLines_fields {fs : List Field} (h : ∀ f ∈ fs, f.IsCanonical)
    (hkind : fs ≠ [] → d.kind.hasFields = true) :
    (inside ds d).readLines (fs.flatMap Field.lines) =
      inside ds { d with fields := d.fields ++ fs } := by
  induction fs generalizing d with
  | nil => simp [readLines]
  | cons f fs ih =>
    have hd := hkind (by simp)
    rw [List.flatMap_cons, readLines_append, readLines_fieldLines (h f (by simp)) hd,
      ih (d := d.addField f) (fun g hg => h g (List.mem_cons_of_mem _ hg)) fun _ => hd]
    simp [TypeDefinition.addField]

theorem readLines_inputFields {args : List Argument} (h : ∀ a ∈ args, a.IsCanonicalField)
    (hkind : args ≠ [] → d.kind = .inputObject) :
    (inside ds d).readLines (args.map Argument.line) =
      inside ds { d with inputFields := d.inputFields ++ args } := by
  induction args generalizing d with
  | nil => simp [readLines]
  | cons a args ih =>
    have hd := hkind (by simp)
    have ha := h a (by simp)
    have hread : (inside ds d).readLine a.line = inside ds (d.addInputField a) := by
      rw [readLine_memberLine (Argument.isMemberLine_line ha) rfl, addMember, hd,
        Argument.argument_member ha.isNamed ha.isDefault]
      rfl
    have hnext := ih (d := d.addInputField a) (fun b hb => h b (List.mem_cons_of_mem _ hb))
      fun _ => hd
    calc (inside ds d).readLines ((a :: args).map Argument.line)
        = ((inside ds d).readLine a.line).readLines (args.map Argument.line) := rfl
      _ = (inside ds (d.addInputField a)).readLines (args.map Argument.line) := by rw [hread]
      _ = inside ds { d with inputFields := d.inputFields ++ a :: args } := by
        rw [hnext]
        simp [TypeDefinition.addInputField]

theorem readLines_enumValues {values : List String} (h : ∀ v ∈ values, isName v.toList = true) :
    (inside ds d).readLines values = inside ds d := by
  induction values with
  | nil => rfl
  | cons v values ih =>
    have hv : (inside ds d).readLine v = inside ds d := readLine_enumValue (h v (by simp))
    have hrest := ih fun w hw => h w (List.mem_cons_of_mem _ hw)
    calc (inside ds d).readLines (v :: values)
        = ((inside ds d).readLine v).readLines values := rfl
      _ = inside ds d := by rw [hv, hrest]

/-! ### Whole types -/

/-- The type as far as its header has it. -/
def headed (d : TypeDefinition) : TypeDefinition :=
  { TypeDefinition.declare d.name d.kind d.description with possibleTypes := d.possibleTypes }

theorem introduced_header {d : TypeDefinition} (h : d.IsCanonical) :
    introduced { keyword := d.kind.keyword, name := d.name } d.header.toList d.description =
      headed d := by
  have hpossible : (if d.kind = .union then possibleTypes d.header.toList else []) =
      d.possibleTypes := by
    split
    · next hkind => exact TypeDefinition.possibleTypes_header h hkind
    · next hkind =>
      by_contra hne
      exact hkind (h.isUnion (Ne.symm hne))
  simp only [introduced, h.classify_eq, hpossible, headed]

/-- The description and the header begin the type, or are all of it. -/
theorem readLines_header {d : TypeDefinition} (h : d.IsCanonical) :
    (behind ds).readLines (descriptionLines d.description ++ [d.header]) =
      if d.kind.isSelfTerminating then behind (ds ++ [headed d]) else inside ds (headed d) := by
  rw [readLines_concat, readLines_descriptionLines rfl h.isDescription,
    readLine_of_intro (TypeDefinition.lineOf_header h),
    (TypeDefinition.isTrimmedLine_header h).trimChars_eq, startType_eq, h.classify_eq,
    introduced_header h]
  split
  · simp [behind, settled, finish, Place.type?]
  · next hself =>
    rw [if_pos (TypeDefinition.opensBrace_header (by simpa using hself))]
    simp [behind, inside, settled, finish, Place.type?]

theorem readLines_bodyLines {d : TypeDefinition} (h : d.IsCanonical) :
    (inside ds (headed d)).readLines (d.bodyLines ++ ["\x7d"]) =
      behind (ds ++ [d.withoutEnumValues]) := by
  have hfields : (inside ds (headed d)).readLines (d.fields.flatMap Field.lines) =
      inside ds { headed d with fields := d.fields } :=
    readLines_fields h.fields h.hasFields
  have hinput : (inside ds { headed d with fields := d.fields }).readLines
      (d.inputFields.map Argument.line) = inside ds d.withoutEnumValues := by
    refine Eq.trans (readLines_inputFields h.inputFields h.isInputObject) ?_
    simp [headed, TypeDefinition.declare, TypeDefinition.withoutEnumValues, h.ofType_eq]
  rw [readLines_concat, TypeDefinition.bodyLines, readLines_append, readLines_append, hfields,
    hinput, readLines_enumValues h.enumValues, readLine_closing]

/-- Behind the lines of a type there is that type, and the reader is ready for the next one. -/
theorem readLines_lines {d : TypeDefinition} (h : d.IsCanonical) :
    (behind ds).readLines d.lines = behind (ds ++ [d.withoutEnumValues]) := by
  rw [TypeDefinition.lines, List.append_cons, readLines_append, readLines_header h]
  by_cases hself : d.kind.isSelfTerminating = true
  · rw [if_pos hself, if_pos hself]
    -- A type without a body has no members, and the header is all of it.
    have hfields : d.fields = [] := by
      by_contra hne
      have hkind := h.hasFields hne
      cases hk : d.kind <;> simp_all [TypeKind.isSelfTerminating, TypeKind.hasFields]
    have hinput : d.inputFields = [] := by
      by_contra hne
      simp [h.isInputObject hne, TypeKind.isSelfTerminating] at hself
    have hfull : headed d = d.withoutEnumValues := by
      simp [headed, TypeDefinition.declare, TypeDefinition.withoutEnumValues, h.ofType_eq,
        hfields, hinput]
    rw [hfull]
    rfl
  · rw [if_neg hself, if_neg hself]
    exact readLines_bodyLines h

theorem readLines_document {new : List TypeDefinition} (h : ∀ d ∈ new, d.IsCanonical) :
    (behind ds).readLines (new.flatMap TypeDefinition.lines) =
      behind (ds ++ new.map TypeDefinition.withoutEnumValues) := by
  induction new generalizing ds with
  | nil => simp [readLines]
  | cons d new ih =>
    rw [List.flatMap_cons, readLines_append, readLines_lines (h d (by simp)),
      ih fun e he => h e (List.mem_cons_of_mem _ he)]
    simp

end Reader

/-- The text of any list of canonical types is read as these types, each with all it has but the
values of an enum, in the same order. -/
theorem parse_document (ds : List TypeDefinition) (h : ∀ d ∈ ds, d.IsCanonical) :
    parse (document ds) = ds.map TypeDefinition.withoutEnumValues := by
  have hlines : ∀ line ∈ ds.flatMap TypeDefinition.lines, Text.isLine line = true := by
    intro line hline
    obtain ⟨d, hd, hline⟩ := List.mem_flatMap.mp hline
    exact (h d hd).isLine_of_mem line hline
  rw [parse, document, Text.lines_join hlines]
  calc (Reader.start.readLines (ds.flatMap TypeDefinition.lines)).finish
      = (Reader.behind ([] ++ ds.map TypeDefinition.withoutEnumValues)).finish :=
        congrArg Reader.finish (Reader.readLines_document h)
    _ = ds.map TypeDefinition.withoutEnumValues := by
        simp [Reader.finish, Reader.behind, Place.type?]

/-- One type of each shape, with all that a member can have. -/
def atlas : List TypeDefinition :=
  [{ TypeDefinition.declare "Country" .object (some "A country # of the world") with
      fields :=
        [{ name := "name", typeName := "String", isList := false, isNonNull := true, args := []
           description := none },
         { name := "cities", typeName := "City", isList := true, isNonNull := true
           args :=
            [{ name := "first", typeName := "Int", defaultValue := some "10", isNonNull := true },
             { name := "near", typeName := "Point", isNonNull := false
               defaultValue := some "\x7bx: 0 y: [1 2]\x7d" }]
           description := some "type of cities" }] },
   { TypeDefinition.declare "Place" .union none with possibleTypes := ["Country", "City"] },
   { TypeDefinition.declare "Point" .inputObject (some "") with
      inputFields :=
        [{ name := "x", typeName := "Float", defaultValue := none, isNonNull := true },
         { name := "y", typeName := "Float", isNonNull := false
           defaultValue := some "(\x7b\x7d, \"input\")" }] },
   { TypeDefinition.declare "Size" .enum none with enumValues := ["SMALL", "type", "LARGE"] },
   TypeDefinition.declare "Date" .scalar (some "A day"),
   TypeDefinition.declare "Nothing" .union none,
   { TypeDefinition.declare "Query" .query none with
      fields :=
        [{ name := "countries", typeName := "Country", isList := true, isNonNull := false
           args := [], description := none }] }]

theorem parse_document_atlas :
    (∀ d ∈ atlas, d.IsCanonical) ∧
      parse (document atlas) = atlas.map TypeDefinition.withoutEnumValues :=
  have h : ∀ d ∈ atlas, d.IsCanonical := by decide +kernel
  ⟨h, parse_document atlas h⟩

end Sdl

end SchemaExplorer
