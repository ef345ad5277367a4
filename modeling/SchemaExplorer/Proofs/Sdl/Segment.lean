import SchemaExplorer.Proofs.Sdl.Reader
import SchemaExplorer.Proofs.Text.Split

/-! # A text by its segments

What a text defines, without a reader that goes through it: each introduction has the lines up to
the next one to itself, and these alone say what comes of its type. The reader gives the same
types, descriptions aside. -/

namespace SchemaExplorer.Sdl

/-! ### Segments -/

/-- A line that counts: not empty, no comment, no description, nor the quotes of one over several
lines. -/
def isSignificant (cs : List Char) : Bool :=
  !(cs.isEmpty || ['#'].isPrefixOf cs || ['"', '"', '"'].isPrefixOf cs ||
    (description? cs).isSome)

def significantLines (lines : List String) : List (List Char) :=
  (lines.map fun line => Text.trimChars line.toList).filter isSignificant

/-- The lines up to the next introduction. -/
def beforeIntro (lines : List (List Char)) : List (List Char) :=
  lines.takeWhile fun cs => (intro? cs).isNone

/-- An introduction with the line it stands on and the lines up to the next one. -/
structure Segment where
  intro : Intro
  head : List Char
  rest : List (List Char)

/-- The segments of the lines; what comes before the first introduction is in none. -/
def segments : List (List Char) → List Segment
  | [] => []
  | cs :: lines =>
    match intro? cs with
    | some i => { intro := i, head := cs, rest := beforeIntro lines } :: segments lines
    | none => segments lines

/-- The lines behind the first on which a brace opens. -/
def behindOpening (lines : List (List Char)) : List (List Char) :=
  (lines.dropWhile (!opensBrace ·)).tail

/-- The lines before the first that ends a body. -/
def beforeClosing (lines : List (List Char)) : List (List Char) :=
  lines.takeWhile (!isClosing ·)

/-- The arguments of a member as they are written. -/
def Member.declared (m : Member) : List Member :=
  match m.arguments with
  | none => []
  | some list => (Text.splitChars ',' list.toList).filterMap fun piece =>
      argument? (Text.trimChars piece)

namespace Segment

/-- What a reference says, blanks at its ends aside. The name is what the wrappers at its ends leave.
It is never null if `!` stands at the end, and a list if brackets stand around all in front of that. -/
def signatureOf (reference : String) : Signature :=
  let cs := Text.trimChars reference.toList
  { typeName := String.ofList (Text.stripChars isWrapper cs)
    isList := ['['].isPrefixOf cs && ([']'].isSuffixOf cs || [']', '!'].isSuffixOf cs)
    isNonNull := ['!'].isSuffixOf cs }

/-- The argument, or the field of an input object, that a member says. A default value of blanks
alone is none. -/
def argumentOf (m : Member) : Argument :=
  { name := m.name
    typeName := (signatureOf m.reference).typeName
    defaultValue := (m.defaultText.map Text.trim).filter (· ≠ "")
    isNonNull := (signatureOf m.reference).isNonNull }

/-- The field that a member says, with an argument for each piece between the commas of its list
that looks like one. -/
def fieldOf (m : Member) : Field :=
  { name := m.name
    typeName := (signatureOf m.reference).typeName
    isList := (signatureOf m.reference).isList
    isNonNull := (signatureOf m.reference).isNonNull
    args := m.declared.map argumentOf
    description := none }

def kind (s : Segment) : TypeKind :=
  TypeKind.classify s.intro.keyword s.intro.name

/-- A body begins in the segment and does not end there. -/
def isUnfinished (s : Segment) : Bool :=
  !s.kind.isSelfTerminating && (s.head :: s.rest).any opensBrace && !s.rest.any isClosing

/-- The members that are written in the body: those on the lines behind the first brace that opens
and before the line that ends the body. -/
def members (s : Segment) : List Member :=
  (behindOpening (s.head :: beforeClosing s.rest)).filterMap member?

/-- The texts between the bars behind the first equals sign, those left out that are blank. -/
def alternatives (s : Segment) : List String :=
  let behind := (s.head.dropWhile (· != '=')).tail
  (((Text.splitChars '|' behind).map Text.trimChars).filter (!·.isEmpty)).map String.ofList

/-- The type that the segment defines. -/
def definition (s : Segment) : TypeDefinition :=
  { name := s.intro.name
    kind := s.kind
    description := none
    fields := if s.kind.hasFields then s.members.map fieldOf else []
    enumValues := []
    inputFields := if s.kind = .inputObject then s.members.map argumentOf else []
    possibleTypes := if s.kind = .union then s.alternatives else []
    ofType := none }

end Segment

/-- The segments whose types are kept: all but those with an unfinished body before another
introduction. -/
def keptSegments : List Segment → List Segment
  | [] => []
  | s :: rest =>
    if s.isUnfinished && !rest.isEmpty then keptSegments rest else s :: keptSegments rest

/-! ### Members as they are read -/

theorem isPrefixOf_singleton (c : Char) (cs : List Char) :
    [c].isPrefixOf cs = (cs.head? == some c) := by
  cases cs with
  | nil => rfl
  | cons d cs => simp [List.isPrefixOf, Bool.beq_comm]

theorem isSuffixOf_singleton (c : Char) (cs : List Char) :
    [c].isSuffixOf cs = (cs.getLast? == some c) := by
  rw [Bool.eq_iff_iff, List.isSuffixOf_iff_suffix, beq_iff_eq, List.getLast?_eq_some_iff]
  exact exists_congr fun front => eq_comm

theorem isSuffixOf_pair (c d : Char) (cs : List Char) :
    [c, d].isSuffixOf cs = ([d].isSuffixOf cs && [c].isSuffixOf cs.dropLast) := by
  obtain rfl | ⟨front, e, rfl⟩ := List.eq_nil_or_concat cs
  · rfl
  · simp [List.isSuffixOf, List.isPrefixOf]

/-- A `!` at the end is outside of the brackets. -/
theorem brackets_eq (cs : List Char) :
    (['['].isPrefixOf cs && ([']'].isSuffixOf cs || [']', '!'].isSuffixOf cs)) =
      let wrapped := if cs.getLast? == some '!' then cs.dropLast else cs
      (wrapped.head? == some '[' && wrapped.getLast? == some ']') := by
  dsimp only
  rw [isSuffixOf_pair, isPrefixOf_singleton, isSuffixOf_singleton, isSuffixOf_singleton,
    isSuffixOf_singleton]
  by_cases hbang : cs.getLast? = some '!'
  · obtain ⟨inside, rfl⟩ := List.getLast?_eq_some_iff.mp hbang
    rw [List.getLast?_concat, List.dropLast_concat]
    cases inside <;> simp
  · have hne : (cs.getLast? == some '!') = false := beq_false_of_ne hbang
    simp only [hne, Bool.false_and, Bool.or_false, Bool.false_eq_true, if_false]

theorem parse_eq_signatureOf (reference : String) :
    Signature.parse reference = Segment.signatureOf reference := by
  rw [Segment.signatureOf, brackets_eq, isSuffixOf_singleton, Signature.parse, bareTypeName,
    Text.strip, Text.toList_trim]

namespace Member

theorem defaultValue_eq (m : Member) :
    m.defaultValue = (m.defaultText.map Text.trim).filter (· ≠ "") := by
  cases h : m.defaultText with
  | none => simp [defaultValue, h]
  | some text =>
    by_cases hblank : Text.trim text = "" <;>
      simp [defaultValue, h, Text.nonBlank?, Option.filter, hblank]

theorem argument_eq (m : Member) : m.argument = Segment.argumentOf m := by
  rw [argument, Argument.ofSignature, parse_eq_signatureOf, defaultValue_eq, Segment.argumentOf]

theorem args_field (m : Member) (description : Option String) :
    (m.field description).args = m.declared.map argument := by
  cases h : m.arguments with
  | none => simp [field, declared, h]
  | some list => simp [field, declared, h, argumentList, List.map_filterMap]

theorem field_none_eq (m : Member) : m.field none = Segment.fieldOf m := by
  have hargs : (m.field none).args = m.declared.map Segment.argumentOf := by
    rw [args_field]
    exact List.map_congr_left fun p _ => p.argument_eq
  rw [Segment.fieldOf, ← hargs, ← parse_eq_signatureOf]
  rfl

end Member

/-! ### Descriptions aside -/

end Sdl

/-- The field without its description. -/
def Field.withoutDescription (f : Field) : Field :=
  { f with description := none }

/-- The type without its description and those of its fields. -/
def TypeDefinition.withoutDescriptions (d : TypeDefinition) : TypeDefinition :=
  { d with description := none, fields := d.fields.map Field.withoutDescription }

namespace Sdl

theorem withoutDescriptions_addMember (d : TypeDefinition) (m : Member)
    (description : Option String) :
    (addMember d m description).withoutDescriptions =
      addMember d.withoutDescriptions m none := by
  have hkind : d.withoutDescriptions.kind = d.kind := rfl
  rw [addMember, addMember, hkind]
  split
  · simp [TypeDefinition.addField, TypeDefinition.withoutDescriptions, Field.withoutDescription,
      Member.field]
  · split <;> rfl

/-- The type with the members on the given lines. -/
def addLines (d : TypeDefinition) (lines : List (List Char)) : TypeDefinition :=
  (lines.filterMap member?).foldl (fun d m => addMember d m none) d

theorem addLines_cons (d : TypeDefinition) (cs : List Char) (lines : List (List Char)) :
    addLines d (cs :: lines) =
      match member? cs with
      | none => addLines d lines
      | some m => addLines (addMember d m none) lines := by
  cases h : member? cs <;> simp [addLines, h]

theorem foldl_addMember (d : TypeDefinition) (members : List Member) :
    members.foldl (fun d m => addMember d m none) d =
      { d with
        fields := d.fields ++ if d.kind.hasFields then members.map (·.field none) else []
        inputFields := d.inputFields ++
          if d.kind = .inputObject then members.map Member.argument else [] } := by
  induction members generalizing d with
  | nil => simp
  | cons m members ih =>
    rw [List.foldl_cons, ih, addMember]
    by_cases hfields : d.kind.hasFields = true
    · have hinput : d.kind ≠ .inputObject := fun e => by simp [e, TypeKind.hasFields] at hfields
      simp [hfields, hinput, TypeDefinition.addField]
    · by_cases hinput : d.kind = .inputObject
      · simp [hinput, TypeKind.hasFields, TypeDefinition.addInputField]
      · simp [hfields, hinput]

/-! ### Types that are being read -/

/-- What comes of the type that is being read from the lines up to the next introduction, if there
is one. -/
def Place.outcome (p : Place) (lines : List (List Char)) (next : Bool) : List TypeDefinition :=
  match p with
  | .outside => []
  | .header d =>
    if lines.any opensBrace && !lines.any isClosing && next then []
    else [addLines d.withoutDescriptions (behindOpening (beforeClosing lines))]
  | .body d =>
    if !lines.any isClosing && next then []
    else [addLines d.withoutDescriptions (beforeClosing lines)]

namespace Reader

/-- The types that are finished, descriptions aside. -/
def bare (r : Reader) : List TypeDefinition :=
  r.definitions.map TypeDefinition.withoutDescriptions

theorem bare_closeType {r : Reader} {d : TypeDefinition} (h : r.place.type? = some d) :
    r.closeType.bare = r.bare ++ [d.withoutDescriptions] := by
  simp [bare, closeType, finish, h]

/-- An introduction settles the type before it as if there were no line between them. -/
theorem bare_settled (r : Reader) :
    r.settled.map TypeDefinition.withoutDescriptions = r.bare ++ r.place.outcome [] true := by
  cases hp : r.place <;>
    simp [settled, finish, bare, hp, Place.outcome, Place.type?, behindOpening, beforeClosing,
      addLines]

theorem possibleTypes_eq_alternatives (s : Segment) : possibleTypes s.head = s.alternatives := by
  rw [Segment.alternatives, possibleTypes, Text.splitCharsOnce?]
  cases s.head.dropWhile (· != '=') with
  | nil => rfl
  | cons c behind => exact Text.filterMap_nonBlank? _

/-- What a segment defines is the type that its first line introduces, with the members that its
other lines add. -/
theorem definition_eq_addLines (s : Segment) (description : Option String) :
    s.definition = addLines (introduced s.intro s.head description).withoutDescriptions
      (behindOpening (s.head :: beforeClosing s.rest)) := by
  have hfields : s.members.map (·.field none) = s.members.map Segment.fieldOf :=
    List.map_congr_left fun m _ => m.field_none_eq
  have hinputFields : s.members.map Member.argument = s.members.map Segment.argumentOf :=
    List.map_congr_left fun m _ => m.argument_eq
  rw [addLines, foldl_addMember, introduced, possibleTypes_eq_alternatives, Segment.definition,
    ← hfields, ← hinputFields]
  rfl

theorem addLines_of_isSelfTerminating {d : TypeDefinition} (h : d.kind.isSelfTerminating = true)
    (lines : List (List Char)) : addLines d lines = d := by
  have hkind : d.kind.hasFields = false ∧ d.kind ≠ .inputObject := by
    cases hk : d.kind <;> simp_all [TypeKind.isSelfTerminating, TypeKind.hasFields]
  simp [addLines, foldl_addMember, hkind]

theorem bare_startType (r : Reader) (i : Intro) (cs : List Char) (lines : List (List Char))
    (next : Bool) :
    let s : Segment := { intro := i, head := cs, rest := lines }
    (r.startType i cs).bare ++ (r.startType i cs).place.outcome lines next =
      r.bare ++ r.place.outcome [] true ++
        if s.isUnfinished && next then [] else [s.definition] := by
  intro s
  have hdefinition : s.definition = addLines (introduced i cs r.description).withoutDescriptions
      (behindOpening (cs :: beforeClosing lines)) := definition_eq_addLines s r.description
  have hkind : s.kind = TypeKind.classify i.keyword i.name := rfl
  rw [startType_eq, ← bare_settled, hdefinition, Segment.isUnfinished, hkind]
  by_cases hself : (TypeKind.classify i.keyword i.name).isSelfTerminating = true
  · have hadd := addLines_of_isSelfTerminating
      (d := (introduced i cs r.description).withoutDescriptions) hself
    simp [hself, bare, Place.outcome, hadd]
  · by_cases hopen : opensBrace cs = true
    · simp [hself, hopen, bare, Place.outcome, behindOpening, s]
    · simp [hself, hopen, bare, Place.outcome, behindOpening, s]

/-- Another line takes a member or changes where the reader stands, as it has to. -/
theorem bare_readOther (r : Reader) (cs : List Char) (lines : List (List Char)) (next : Bool) :
    (r.readOther cs).bare ++ (r.readOther cs).place.outcome lines next =
      r.bare ++ r.place.outcome (cs :: lines) next := by
  cases hp : r.place with
  | outside => rw [readOther_outside hp, hp]; rfl
  | header d =>
    rw [readOther_header hp]
    by_cases hopen : opensBrace cs = true
    · have hclosing := isClosing_of_opensBrace hopen
      rw [if_pos hopen]
      simp [bare, Place.outcome, hopen, hclosing, behindOpening, beforeClosing]
    · rw [if_neg hopen]
      by_cases hclosing : isClosing cs = true
      · rw [if_pos hclosing, bare_closeType (by rw [hp, Place.type?])]
        simp [closeType, Place.outcome, hclosing, behindOpening, beforeClosing, addLines]
      · rw [if_neg hclosing, hp]
        simp [Place.outcome, hopen, hclosing, behindOpening, beforeClosing]
  | body d =>
    rw [readOther_body hp]
    by_cases hclosing : isClosing cs = true
    · rw [if_pos hclosing, bare_closeType (by rw [hp, Place.type?])]
      simp [closeType, Place.outcome, hclosing, beforeClosing, addLines]
    · rw [if_neg hclosing]
      have hbefore : beforeClosing (cs :: lines) = cs :: beforeClosing lines := by
        simp [beforeClosing, hclosing]
      cases hm : member? cs with
      | none => simp [readMember, hm, hp, Place.outcome, hbefore, hclosing, addLines_cons]
      | some m =>
        simp [readMember, hm, bare, Place.outcome, hbefore, hclosing, addLines_cons,
          withoutDescriptions_addMember]

/-! ### From the lines to the segments -/

theorem significantLines_cons (line : String) (lines : List String) :
    significantLines (line :: lines) =
      if isSignificant (Text.trimChars line.toList) then
        Text.trimChars line.toList :: significantLines lines
      else significantLines lines := by
  simp [significantLines, List.filter_cons]

theorem isSignificant_of_classify (cs : List Char) :
    (Line.classify cs = .ignored → isSignificant cs = false) ∧
    (∀ text, Line.classify cs = .description text → isSignificant cs = false) ∧
    (∀ i, Line.classify cs = .intro i → isSignificant cs = true ∧ intro? cs = some i) ∧
    (Line.classify cs = .other → isSignificant cs = true ∧ intro? cs = none) := by
  rw [Line.classify, isSignificant]
  split
  · next hignored =>
    simp only [Bool.or_eq_true] at hignored
    rcases hignored with (h | h) | h <;> simp [h]
  · next hread =>
    simp only [Bool.or_eq_true, not_or, Bool.not_eq_true] at hread
    obtain ⟨⟨hempty, hquotes⟩, hcomment⟩ := hread
    cases description? cs with
    | some text => simp
    | none => cases intro? cs <;> simp [hempty, hquotes, hcomment]

/-- The reader leaves the types that it has finished, then what comes of the type that it stands
in, then what the segments of the text define. -/
theorem map_finish_readLines (r : Reader) (lines : List String) :
    (r.readLines lines).finish.map TypeDefinition.withoutDescriptions =
      r.bare ++ r.place.outcome (beforeIntro (significantLines lines))
        (!(segments (significantLines lines)).isEmpty) ++
        (keptSegments (segments (significantLines lines))).map Segment.definition := by
  induction lines generalizing r with
  | nil =>
    cases hp : r.place <;>
      simp [readLines, finish, bare, hp, Place.type?, Place.outcome, significantLines, segments,
        keptSegments, beforeIntro, behindOpening, beforeClosing, addLines]
  | cons line lines ih =>
    have hread : r.readLines (line :: lines) = (r.readLine line).readLines lines := rfl
    obtain ⟨hignored, hdescription, hintro, hother⟩ :=
      isSignificant_of_classify (Text.trimChars line.toList)
    rw [hread, ih, significantLines_cons]
    cases h : lineOf line with
    | ignored =>
      rw [readLine_of_ignored h, hignored h]
      rfl
    | description text =>
      rw [readLine_of_description h, hdescription text h]
      rfl
    | intro i =>
      obtain ⟨hsignificant, hi⟩ := hintro i h
      rw [readLine_of_intro h, if_pos hsignificant, bare_startType]
      simp only [segments, hi, keptSegments]
      rw [List.append_assoc]
      have hbefore : beforeIntro (Text.trimChars line.toList :: significantLines lines) = [] := by
        simp [beforeIntro, hi]
      rw [hbefore]
      split <;> simp
    | other =>
      obtain ⟨hsignificant, hi⟩ := hother h
      rw [readLine_of_other h, if_pos hsignificant, bare_readOther]
      simp [segments, hi, beforeIntro]

end Reader

/-- What a text defines, descriptions aside, is what its segments define, in order. A type with a
body is missing just when another introduction comes before the end of its body. -/
theorem parse_eq_segments (text : String) :
    (parse text).map TypeDefinition.withoutDescriptions =
      (keptSegments (segments (significantLines (Text.lines text)))).map Segment.definition := by
  rw [parse, Reader.map_finish_readLines]
  rfl

/-- A body that opens and does not end takes its type with it, unless the text ends first. -/
example : (parse "type A \x7b\n a: Int\ntype B\ntype C \x7b").map (·.name) = ["B", "C"] := by
  decide +kernel

end SchemaExplorer.Sdl
