import SchemaExplorer.Proofs.Schema.TypeReference
import SchemaExplorer.Proofs.Sdl.Document

/-! # Fields however they are written

A field may be written with blanks between any two of its parts, with references nested to any
depth, and with a directive or a comment behind it. It is read as the same field all the same. -/

namespace SchemaExplorer.Sdl

open Text (isBlank Blanks dropEndWhile)

/-! ### What stands in a line -/

/-- A default value and the equals sign in front of it. The value is more than blanks, and no
character in it ends an argument. -/
structure WrittenDefault where
  beforeEquals : Blanks
  text : String
  trim_ne_empty : Text.trim text ≠ ""
  isInside : ',' ∉ text.toList ∧ ')' ∉ text.toList

/-- A reference and the colon in front of it. -/
structure WrittenType where
  beforeColon : Blanks
  beforeType : Blanks
  type : TypeReference
  isProper : type.isProper = true

structure WrittenArgument where
  before : Blanks
  name : String
  isName : isName name.toList = true
  type : WrittenType
  default : Option WrittenDefault
  behind : Blanks

/-- A list of arguments in parentheses. -/
structure WrittenArguments where
  before : Blanks
  arguments : List WrittenArgument

/-- What is not read of a line: a directive, or a comment. -/
structure WrittenRemainder where
  before : Blanks
  mark : Char
  isMark : mark = '@' ∨ mark = '#'
  text : String

structure WrittenField where
  before : Blanks
  name : String
  isName : isName name.toList = true
  arguments : Option WrittenArguments
  type : WrittenType
  remainder : Option WrittenRemainder
  behind : Blanks

def WrittenDefault.source (d : WrittenDefault) : String :=
  d.beforeEquals.text ++ "=" ++ d.text

def WrittenType.source (t : WrittenType) : String :=
  t.beforeColon.text ++ ":" ++ t.beforeType.text ++ t.type.text

def WrittenArgument.source (a : WrittenArgument) : String :=
  a.before.text ++ a.name ++ a.type.source ++ a.default.elim "" (·.source) ++ a.behind.text

/-- What stands between the parentheses. -/
def WrittenArguments.list (as : WrittenArguments) : String :=
  Text.join "," (as.arguments.map (·.source))

def WrittenArguments.source (as : WrittenArguments) : String :=
  as.before.text ++ "(" ++ as.list ++ ")"

def WrittenRemainder.source (r : WrittenRemainder) : String :=
  r.before.text ++ String.singleton r.mark ++ r.text

def WrittenField.source (f : WrittenField) : String :=
  f.before.text ++ f.name ++ f.arguments.elim "" (·.source) ++ f.type.source ++
    f.remainder.elim "" (·.source) ++ f.behind.text

/-! ### What it stands for -/

def WrittenArgument.argument (a : WrittenArgument) : Argument :=
  { name := a.name
    typeName := a.type.type.core
    defaultValue := a.default.map fun d => Text.trim d.text
    isNonNull := a.type.type.isNonNull }

def WrittenField.field (f : WrittenField) (description : Option String) : Field :=
  { name := f.name
    typeName := f.type.type.core
    isList := f.type.type.isList
    isNonNull := f.type.type.isNonNull
    args := (f.arguments.elim [] (·.arguments)).map (·.argument)
    description }

/-! ### Blanks between the parts -/

theorem skipBlanks_blanks_append (b : Blanks) (cs : List Char) :
    skipBlanks (b.text.toList ++ cs) = skipBlanks cs :=
  skipBlanks_append cs b.isBlank_of_mem

/-- A reference ends where blanks and a character stand that cannot continue it. -/
theorem all_head?_blanks_append (b : Blanks) {c : Char} (cs : List Char)
    (hc : isReferenceChar c = false) :
    (b.text.toList ++ c :: cs).head?.all (!isReferenceChar ·) = true := by
  apply Text.all_head?_append
  · apply Text.all_head?_of_forall
    intro d hd
    by_contra hreference
    have hblank : isBlank d = false := isBlank_of_isReferenceChar (by simpa using hreference)
    exact b.not_mem hblank hd
  · simp [hc]

/-- What ends a reference ends a name. -/
theorem all_head?_isNameChar {cs : List Char} (h : cs.head?.all (!isReferenceChar ·) = true) :
    cs.head?.all (!isNameChar ·) = true := by
  cases cs with
  | nil => rfl
  | cons c cs =>
    simp only [List.head?_cons, Option.all_some, isReferenceChar, Bool.not_or, Bool.and_eq_true]
      at h ⊢
    exact h.1

/-! ### Types -/

namespace WrittenType

variable (t : WrittenType)

theorem toList_source_append (rest : List Char) :
    t.source.toList ++ rest =
      t.beforeColon.text.toList ++
        ':' :: (t.beforeType.text.toList ++ (t.type.text.toList ++ rest)) := by
  simp [source]

theorem all_head?_source_append (rest : List Char) :
    (t.source.toList ++ rest).head?.all (!isReferenceChar ·) = true := by
  rw [toList_source_append]
  exact all_head?_blanks_append _ _ (by decide)

theorem skipBlanks_source_append (rest : List Char) :
    skipBlanks (t.source.toList ++ rest) =
      ':' :: (t.beforeType.text.toList ++ (t.type.text.toList ++ rest)) := by
  rw [toList_source_append, skipBlanks_blanks_append, skipBlanks_colon]

theorem referenceAt?_source {rest : List Char}
    (hrest : rest.head?.all (!isReferenceChar ·) = true) :
    referenceAt? (skipBlanks (t.beforeType.text.toList ++ (t.type.text.toList ++ rest))) =
      some (t.type.text.toList, rest) := by
  have hhead : (t.type.text.toList ++ rest).head?.all (!isBlank ·) = true := by
    rw [List.head?_append_of_ne_nil _ t.type.toList_text_ne_nil]
    exact Text.all_head?_of_forall fun c hc => by simp [t.type.isBlank_of_mem_text hc]
  rw [skipBlanks_blanks_append, skipBlanks_eq_self hhead]
  exact t.type.referenceAt?_text_append hrest

/-- A line that begins with a name and ends with a reference has no blanks at its ends. -/
theorem isStripped_append_source {name : List Char} (hname : isName name = true)
    (middle : List Char) :
    Text.isStripped isBlank (name ++ (middle ++ t.source.toList)) = true := by
  have hhead : name.head?.all (!isBlank ·) = true :=
    Text.all_head?_of_forall fun c hc => by simp [isBlank_of_mem_name hname hc]
  have hlast : t.type.text.toList.getLast?.all (!isBlank ·) = true :=
    Text.all_getLast?_of_forall fun c hc => by simp [t.type.isBlank_of_mem_text hc]
  have hsource : t.source.toList ≠ [] := by simp [source]
  have hend : t.source.toList.getLast? = t.type.text.toList.getLast? := by
    rw [source, String.toList_append, List.getLast?_append_of_ne_nil _ t.type.toList_text_ne_nil]
  rw [Text.isStripped_append (isName_ne_nil hname) (by simp [hsource]), hhead,
    List.getLast?_append_of_ne_nil _ hsource, hend, hlast]
  rfl

end WrittenType

/-! ### Arguments -/

namespace WrittenDefault

variable (d : WrittenDefault)

/-- The value as it is taken from an argument without blanks at its ends. -/
def taken : List Char :=
  skipBlanks (dropEndWhile isBlank d.text.toList)

theorem dropEndWhile_source :
    dropEndWhile isBlank d.source.toList =
      d.beforeEquals.text.toList ++ '=' :: dropEndWhile isBlank d.text.toList := by
  rw [← Text.dropEndWhile_append_cons _ _ (by decide)]
  simp [source]

theorem trim_taken : Text.trim (String.ofList d.taken) = Text.trim d.text := by
  have hchars : Text.trimChars d.taken = Text.trimChars d.text.toList :=
    (Text.stripChars_dropWhile _).trans (Text.stripChars_dropEndWhile _)
  rw [Text.trim, Text.trim, String.toList_ofList, hchars]

theorem defaultAt?_source :
    defaultAt? (fun c => c == ',' || c == ')') (dropEndWhile isBlank d.source.toList) =
      some d.taken := by
  have hstop : ∀ c ∈ d.taken, (!(c == ',' || c == ')')) = true := by
    intro c hc
    have hmem : c ∈ d.text.toList :=
      (List.rdropWhile_prefix isBlank _).subset ((List.dropWhile_suffix isBlank).subset hc)
    have hcomma : c ≠ ',' := fun e => d.isInside.1 (e ▸ hmem)
    have hparenthesis : c ≠ ')' := fun e => d.isInside.2 (e ▸ hmem)
    simp [hcomma, hparenthesis]
  have hequals : skipBlanks ('=' :: dropEndWhile isBlank d.text.toList) =
      '=' :: dropEndWhile isBlank d.text.toList := rfl
  rw [dropEndWhile_source, defaultAt?, skipBlanks_blanks_append, hequals]
  exact congrArg some (List.takeWhile_eq_self_iff.mpr hstop)

end WrittenDefault

namespace WrittenArgument

variable (a : WrittenArgument)

/-- The default value as the argument has it when the blanks at its ends are dropped. -/
def tail : List Char :=
  dropEndWhile isBlank (a.default.elim "" (·.source)).toList

theorem trimChars_source :
    Text.trimChars a.source.toList = a.name.toList ++ (a.type.source.toList ++ a.tail) := by
  have hsource : a.source.toList = a.before.text.toList ++
      ((a.name.toList ++ a.type.source.toList ++ (a.default.elim "" (·.source)).toList) ++
        a.behind.text.toList) := by
    simp [source]
  have hstripped : Text.isStripped isBlank (a.name.toList ++ a.type.source.toList) = true :=
    a.type.isStripped_append_source a.isName []
  rw [hsource, Text.trimChars, Text.stripChars_append_left _ a.before.isBlank_of_mem,
    Text.stripChars_append_right _ a.behind.isBlank_of_mem,
    Text.stripChars_append _ (by simp [isName_ne_nil a.isName]) hstripped, List.append_assoc]
  rfl

theorem all_head?_tail : a.tail.head?.all (!isReferenceChar ·) = true := by
  rw [tail]
  cases a.default with
  | none => rfl
  | some d =>
    rw [Option.elim_some, d.dropEndWhile_source]
    exact all_head?_blanks_append _ _ (by decide)

theorem defaultAt?_tail :
    defaultAt? (fun c => c == ',' || c == ')') a.tail = a.default.map (·.taken) := by
  rw [tail]
  cases a.default with
  | none => rfl
  | some d => exact d.defaultAt?_source

/-- The member that the argument is read as. -/
def member : Member :=
  { name := a.name
    arguments := none
    reference := a.type.type.text
    defaultText := (a.default.map (·.taken)).map String.ofList }

theorem argument?_trimChars_source : argument? (Text.trimChars a.source.toList) = some a.member := by
  have hname : nameAt? (a.name.toList ++ (a.type.source.toList ++ a.tail)) =
      some (a.name.toList, a.type.source.toList ++ a.tail) :=
    nameAt?_append a.isName (all_head?_isNameChar (a.type.all_head?_source_append _))
  have hmember : argumentAt? (a.name.toList ++ (a.type.source.toList ++ a.tail)) =
      some a.member := by
    simp [argumentAt?, hname, a.type.skipBlanks_source_append, after?,
      a.type.referenceAt?_source a.all_head?_tail, a.defaultAt?_tail, member]
  rw [trimChars_source]
  exact firstMatch?_of_some (by simp [isName_ne_nil a.isName]) hmember

theorem defaultValue_member :
    a.member.defaultValue = a.default.map fun d => Text.trim d.text := by
  rw [Member.defaultValue, member]
  cases a.default with
  | none => rfl
  | some d =>
    have hvalue : Text.nonBlank? (String.ofList d.taken) = some (Text.trim d.text) :=
      Text.nonBlank?_eq_some_iff.mpr ⟨d.trim_taken, d.trim_ne_empty⟩
    simp [hvalue]

theorem argument_member : a.member.argument = a.argument := by
  have hsignature : Signature.parse a.member.reference = a.type.type.signature :=
    a.type.type.parse_text a.type.isProper
  rw [Member.argument, hsignature, defaultValue_member]
  rfl

/-- Neither what parts the arguments nor what ends their list stands in an argument. -/
theorem not_mem_source {c : Char} (hc : c = ',' ∨ c = ')') : c ∉ a.source.toList := by
  have hreference : isReferenceChar c = false := by
    rcases hc with rfl | rfl <;> decide
  have hblank : isBlank c = false := by
    rcases hc with rfl | rfl <;> decide
  have hmark : c ≠ ':' ∧ c ≠ '=' := by
    rcases hc with rfl | rfl <;> decide
  have hname : c ∉ a.name.toList := fun hmem => by
    simp [isReferenceChar_of_isNameChar (isNameChar_of_mem a.isName hmem)] at hreference
  have htype : c ∉ a.type.type.text.toList := fun hmem => by
    simp [a.type.type.isReferenceChar_of_mem_text hmem] at hreference
  have hdefault : c ∉ (a.default.elim "" (·.source)).toList := by
    cases a.default with
    | none => simp
    | some d =>
      have htext : c ∉ d.text.toList := by
        rcases hc with rfl | rfl
        · exact d.isInside.1
        · exact d.isInside.2
      simp [WrittenDefault.source, d.beforeEquals.not_mem hblank, hmark, htext]
  simp [source, WrittenType.source, Blanks.not_mem _ hblank, hname, htype, hdefault, hmark]

end WrittenArgument

namespace WrittenArguments

variable (as : WrittenArguments)

theorem argumentList_list : argumentList as.list = as.arguments.map (·.argument) := by
  by_cases hne : as.arguments = []
  · have hnone : argumentList "" = [] := by decide
    simp [list, hne, Text.join, hnone]
  · have hpieces : Text.splitChars ',' as.list.toList =
        (as.arguments.map (·.source)).map String.toList := by
      apply Text.splitChars_join rfl (by simpa using hne)
      intro s hs
      obtain ⟨a, -, rfl⟩ := List.mem_map.mp hs
      exact a.not_mem_source (.inl rfl)
    have hread : ∀ a ∈ as.arguments, (argument? (Text.trimChars a.source.toList)).map
        Member.argument = some a.argument := by
      intro a _
      rw [a.argument?_trimChars_source, Option.map_some, a.argument_member]
    calc argumentList as.list
        = as.arguments.filterMap fun a =>
            (argument? (Text.trimChars a.source.toList)).map Member.argument := by
          rw [argumentList, hpieces, List.filterMap_map, List.filterMap_map]
          rfl
      _ = as.arguments.filterMap fun a => some a.argument := List.filterMap_congr hread
      _ = as.arguments.map (·.argument) := by
          rw [← List.filterMap_eq_map]
          rfl

theorem toList_source_append (rest : List Char) :
    as.source.toList ++ rest =
      as.before.text.toList ++ '(' :: (as.list.toList ++ ')' :: rest) := by
  simp [source]

theorem argumentsAt?_source (rest : List Char) :
    argumentsAt? (skipBlanks (as.source.toList ++ rest)) = some (some as.list.toList, rest) := by
  have hinside : ∀ c ∈ as.list.toList, (c != ')') = true := by
    intro c hc
    rw [bne_iff_ne]
    rintro rfl
    obtain ⟨s, hs, hmem⟩ := (Text.mem_toList_join_iff (by decide)).mp hc
    obtain ⟨a, -, rfl⟩ := List.mem_map.mp hs
    exact a.not_mem_source (.inr rfl) hmem
  have hopen : skipBlanks ('(' :: (as.list.toList ++ ')' :: rest)) =
      '(' :: (as.list.toList ++ ')' :: rest) := rfl
  rw [toList_source_append, skipBlanks_blanks_append, hopen]
  simp [argumentsAt?, after?, List.dropWhile_append_of_pos hinside,
    List.takeWhile_append_of_pos hinside]

end WrittenArguments

/-! ### Fields -/

namespace WrittenField

variable (f : WrittenField)

/-- What is written behind the type, when the blanks at the end of the line are dropped. -/
def tail : List Char :=
  dropEndWhile isBlank (f.remainder.elim "" (·.source)).toList

theorem trimChars_source :
    Text.trimChars f.source.toList = f.name.toList ++
      ((f.arguments.elim "" (·.source)).toList ++ (f.type.source.toList ++ f.tail)) := by
  have hsource : f.source.toList = f.before.text.toList ++
      ((f.name.toList ++ ((f.arguments.elim "" (·.source)).toList ++ f.type.source.toList) ++
        (f.remainder.elim "" (·.source)).toList) ++ f.behind.text.toList) := by
    simp [source]
  have hstripped := f.type.isStripped_append_source f.isName
    (f.arguments.elim "" (·.source)).toList
  rw [hsource, Text.trimChars, Text.stripChars_append_left _ f.before.isBlank_of_mem,
    Text.stripChars_append_right _ f.behind.isBlank_of_mem,
    Text.stripChars_append _ (by simp [isName_ne_nil f.isName]) hstripped, List.append_assoc,
    List.append_assoc]
  rfl

theorem tail_eq : f.tail = [] ∨ ∃ b : Blanks, ∃ mark text, (mark = '@' ∨ mark = '#') ∧
    f.tail = b.text.toList ++ mark :: text := by
  rw [tail]
  cases f.remainder with
  | none => exact .inl rfl
  | some r =>
    have hmark : isBlank r.mark = false := by
      rcases r.isMark with h | h <;> rw [h] <;> decide
    have hsource : r.source.toList = r.before.text.toList ++ r.mark :: r.text.toList := by
      simp [WrittenRemainder.source]
    refine .inr ⟨r.before, r.mark, dropEndWhile isBlank r.text.toList, r.isMark, ?_⟩
    rw [Option.elim_some, hsource, Text.dropEndWhile_append_cons _ _ hmark]

theorem all_head?_tail : f.tail.head?.all (!isReferenceChar ·) = true := by
  rcases f.tail_eq with h | ⟨b, mark, text, hmark, h⟩
  · rw [h]
    rfl
  · rw [h]
    apply all_head?_blanks_append
    rcases hmark with rfl | rfl <;> decide

theorem lineDefaultAt?_tail : lineDefaultAt? f.tail = none := by
  rcases f.tail_eq with h | ⟨b, mark, text, hmark, h⟩
  · rw [h]
    rfl
  · rw [h, lineDefaultAt?, defaultAt?, skipBlanks_blanks_append]
    rcases hmark with rfl | rfl <;> rfl

theorem all_head?_arguments_append (rest : List Char) :
    ((f.arguments.elim "" (·.source)).toList ++ (f.type.source.toList ++ rest)).head?.all
      (!isReferenceChar ·) = true := by
  cases f.arguments with
  | none => exact f.type.all_head?_source_append rest
  | some as =>
    rw [Option.elim_some, as.toList_source_append]
    exact all_head?_blanks_append _ _ (by decide)

/-- The arguments are found if there are any, and the colon is next in any case. -/
theorem exists_argumentsAt?_eq (rest : List Char) :
    ∃ back, argumentsAt? (skipBlanks ((f.arguments.elim "" (·.source)).toList ++
        (f.type.source.toList ++ rest))) = some (f.arguments.map (·.list.toList), back) ∧
      skipBlanks back = skipBlanks (f.type.source.toList ++ rest) := by
  cases f.arguments with
  | none =>
    refine ⟨skipBlanks (f.type.source.toList ++ rest), ?_, ?_⟩
    · simp [f.type.skipBlanks_source_append, argumentsAt?, after?]
    · rw [f.type.skipBlanks_source_append, skipBlanks_colon]
  | some as => exact ⟨_, as.argumentsAt?_source _, rfl⟩

/-- The member that the field is read as. -/
def member : Member :=
  { name := f.name
    arguments := f.arguments.map (·.list)
    reference := f.type.type.text
    defaultText := none }

theorem member?_trimChars_source : member? (Text.trimChars f.source.toList) = some f.member := by
  have hname : nameAt? (f.name.toList ++ ((f.arguments.elim "" (·.source)).toList ++
      (f.type.source.toList ++ f.tail))) = some (f.name.toList, _) :=
    nameAt?_append f.isName (all_head?_isNameChar (f.all_head?_arguments_append _))
  obtain ⟨back, harguments, hback⟩ := f.exists_argumentsAt?_eq f.tail
  have hmember : memberAt? (f.name.toList ++ ((f.arguments.elim "" (·.source)).toList ++
      (f.type.source.toList ++ f.tail))) = some f.member := by
    simp [memberAt?, hname, harguments, hback, f.type.skipBlanks_source_append, after?,
      f.type.referenceAt?_source f.all_head?_tail, f.lineDefaultAt?_tail, member,
      Function.comp_def]
  rw [trimChars_source]
  -- The field is found at the front, so what is behind it need not be searched.
  exact firstMatch?_of_some (by simp [isName_ne_nil f.isName]) hmember

theorem field_member (description : Option String) :
    f.member.field description = f.field description := by
  have hsignature : Signature.parse f.member.reference = f.type.type.signature :=
    f.type.type.parse_text f.type.isProper
  have hargs : (f.member.arguments.map argumentList).getD [] =
      (f.arguments.elim [] (·.arguments)).map (·.argument) := by
    rw [member]
    cases f.arguments with
    | none => rfl
    | some as => exact as.argumentList_list
  rw [Member.field, hsignature, hargs]
  rfl

theorem lineOf_source (h : ¬ Introduces f.source.toList) : lineOf f.source = .other := by
  have hstart : (Text.trimChars f.source.toList).head?.any isNameStart = true := by
    rw [trimChars_source]
    exact any_head?_append_of_isName f.isName _
  have hintro : intro? (Text.trimChars f.source.toList) = none := by
    rw [intro?_eq_none_iff]
    exact fun hmem => h (hmem.mono (Text.isInfix_stripChars isBlank _))
  rw [lineOf, classify_of_isNameStart hstart, hintro]
  rfl

end WrittenField

/-- In an open body of a type with fields, the line of a field adds that field with the
description that waits, and does nothing else. -/
theorem Reader.readLine_writtenField {r : Reader} {d : TypeDefinition} (hr : r.place = .body d)
    (hkind : d.kind.hasFields = true) (f : WrittenField) (hintro : ¬ Introduces f.source.toList)
    (hbraces : '}' ∈ f.source.toList → '{' ∈ f.source.toList) :
    r.readLine f.source =
      { r with
        place := .body { d with fields := d.fields ++ [f.field r.description] }
        description := none } := by
  have hclosing : isClosing (Text.trimChars f.source.toList) = false := by
    rw [isClosing_trimChars]
    exact isClosing_eq_false_iff.mpr hbraces
  have hadd : addMember d f.member r.description =
      { d with fields := d.fields ++ [f.field r.description] } := by
    rw [addMember, if_pos hkind, f.field_member, TypeDefinition.addField]
  rw [readLine_of_other (f.lineOf_source hintro), readOther_body hr, hclosing, readMember,
    f.member?_trimChars_source, ← hadd]
  rfl

/-- Blanks of several kinds, a default value that begins with an equals sign, a list of lists, and
a directive in which other fields seem to stand. -/
def looseField : WrittenField :=
  { before := ⟨"  ", by decide⟩
    name := "cities"
    isName := by decide
    arguments := some
      { before := ⟨" ", by decide⟩
        arguments :=
          [{ before := ⟨"\t", by decide⟩
             name := "first"
             isName := by decide
             type :=
               { beforeColon := ⟨" ", by decide⟩
                 beforeType := ⟨"", by decide⟩
                 type := .nonNull (.named "Int" (by decide))
                 isProper := by decide }
             default := some
               { beforeEquals := ⟨" ", by decide⟩
                 text := "= (10  "
                 trim_ne_empty := by decide
                 isInside := by decide }
             behind := ⟨" ", by decide⟩ },
           { before := ⟨"", by decide⟩
             name := "among"
             isName := by decide
             type :=
               { beforeColon := ⟨"", by decide⟩
                 beforeType := ⟨"\t ", by decide⟩
                 type := .list (.list (.nonNull (.named "Region" (by decide))))
                 isProper := by decide }
             default := none
             behind := ⟨"", by decide⟩ }] }
    type :=
      { beforeColon := ⟨" ", by decide⟩
        beforeType := ⟨"  ", by decide⟩
        type := .nonNull (.list (.list (.named "City" (by decide))))
        isProper := by decide }
    remainder := some
      { before := ⟨"", by decide⟩
        mark := '@'
        isMark := by decide
        text := "old(use: \"town(a: B = 1): C! = \x7b\x7d\")" }
    behind := ⟨" ", by decide⟩ }

theorem Reader.readLine_writtenField_looseField :
    let country := TypeDefinition.declare "Country" .object none
    let r : Reader := { definitions := [], place := .body country, description := some "All" }
    let line := "  cities (\tfirst :Int! == (10   ,among:\t [[Region!]]) :  [[City]]!" ++
      "@old(use: \"town(a: B = 1): C! = \x7b\x7d\") "
    (r.place = .body country ∧ country.kind.hasFields = true ∧ ¬ Introduces line.toList ∧
        ('}' ∈ line.toList → '{' ∈ line.toList)) ∧
      looseField.source = line ∧
      r.readLine line =
        { definitions := []
          place := .body
            { country with
              fields :=
                [{ name := "cities", typeName := "City", isList := true, isNonNull := true
                   args :=
                     [{ name := "first", typeName := "Int", defaultValue := some "= (10"
                        isNonNull := true },
                      { name := "among", typeName := "Region", defaultValue := none
                        isNonNull := false }]
                   description := some "All" }] }
          description := none } := by
  intro country r line
  have hsource : looseField.source = line := by decide
  have hintro : ¬ Introduces line.toList := intro?_eq_none_iff.mp (by decide)
  have hbraces : '}' ∈ line.toList → '{' ∈ line.toList := by decide
  have hread := readLine_writtenField (r := r) (d := country) rfl rfl looseField (hsource ▸ hintro)
    (hsource ▸ hbraces)
  rw [hsource] at hread
  exact ⟨⟨rfl, rfl, hintro, hbraces⟩, hsource, hread⟩

end SchemaExplorer.Sdl
