import Mathlib.Data.List.Forall2
import SchemaExplorer.Proofs.OrderedMap
import SchemaExplorer.Proofs.Query.Grammar
import SchemaExplorer.Proofs.Query.Provided
import SchemaExplorer.Proofs.Sdl.Invariant
import SchemaExplorer.Proofs.Text.Split
import SchemaExplorer.Query.Document

/-! # Generated documents

What is generated for a field of a schema derives in the grammar, as long as the texts that are
filled in do, and it is read as the selection of that field. -/

namespace SchemaExplorer.Query

open Sdl (isName isNameStart isNameChar)

/-! ### The name of the operation -/

/-- What begins a name has an upper case of one character that begins a name, too. -/
theorem upperChar_eq {c : Char} (h : isNameStart c = true) :
    Text.upperChar c = [c.toUpper] ∧ isNameStart c.toUpper = true := by
  have hascii : ∀ n < 128, isNameStart (Char.ofNat n) = true →
      Text.upperChar (Char.ofNat n) = [(Char.ofNat n).toUpper] ∧
        isNameStart (Char.ofNat n).toUpper = true := by
    decide +kernel
  have hc : c.toNat < 128 := by
    rw [Sdl.isNameStart_iff] at h
    omega
  simpa [h] using hascii c.toNat hc

theorem toList_operationName {fieldName : String} (h : isName fieldName.toList = true) :
    (operationName fieldName).toList =
      fieldName.toList.modifyHead Char.toUpper ++ "Generated".toList := by
  cases hlist : fieldName.toList with
  | nil => simp [hlist, isName] at h
  | cons c cs =>
    rw [hlist] at h
    obtain ⟨hc, -⟩ := Sdl.isName_cons.mp h
    simp [operationName, Text.upperFirst, hlist, (upperChar_eq hc).1]

theorem isName_operationName {fieldName : String} (h : isName fieldName.toList = true) :
    isName (operationName fieldName).toList = true := by
  rw [toList_operationName h]
  cases hlist : fieldName.toList with
  | nil => simp [hlist, isName] at h
  | cons c cs =>
    rw [hlist] at h
    obtain ⟨hc, hcs⟩ := Sdl.isName_cons.mp h
    have htail : "Generated".toList.all isNameChar = true := by decide
    refine Sdl.isName_cons.mpr ⟨(upperChar_eq hc).2, fun d hd => ?_⟩
    rcases List.mem_append.mp hd with hd | hd
    · exact hcs d hd
    · exact List.all_eq_true.mp htail d hd

/-! ### Literals -/

/-- The texts in the tables derive as what they stand for; a selection set may be empty. -/
structure Config.IsGrammatical (config : Config) : Prop where
  selectionSets : ∀ set ∈ config.selectionSets.values,
    set = "" ∨ ∃ selections, DerivesSelections set selections
  codePlaceholders : ∀ text ∈ config.codePlaceholders.values, ∃ v : Value, v.Derives text

theorem exists_derives_of_isSome {text : String} (h : (readValue? text).isSome = true) :
    ∃ v : Value, v.Derives text := by
  obtain ⟨v, hv⟩ := Option.isSome_iff_exists.mp h
  exact ⟨v, readValue?_eq_some_iff.mp hv⟩

theorem exists_derivesSelections_of_isSome {text : String}
    (h : (readSelections? text).isSome = true) :
    ∃ selections, DerivesSelections text selections := by
  obtain ⟨selections, hselections⟩ := Option.isSome_iff_exists.mp h
  exact ⟨selections, readSelections?_eq_some_iff.mp hselections⟩

theorem Config.isGrammatical_builtin : builtin.IsGrammatical := by
  have hsets : ∀ set ∈ builtin.selectionSets.values, (readSelections? set).isSome = true := by
    decide +kernel
  have hcodes : ∀ text ∈ builtin.codePlaceholders.values, (readValue? text).isSome = true := by
    decide +kernel
  exact ⟨fun set h => .inr (exists_derivesSelections_of_isSome (hsets set h)),
    fun text h => exists_derives_of_isSome (hcodes text h)⟩

theorem exists_derives_placeholder {config : Config} (h : config.IsGrammatical) (fieldName : String)
    (a : Argument) : ∃ v : Value, v.Derives (placeholder config fieldName a) := by
  have hread : ∀ text ∈ ["\"\"", "\x7b\x7d", "false", "0", "null"],
      (readValue? text).isSome = true := by
    decide +kernel
  rw [placeholder]
  split
  · cases hcode : config.codePlaceholder? fieldName with
    | none => exact exists_derives_of_isSome (hread _ (by simp))
    | some text => exact h.codePlaceholders text (OrderedMap.mem_values_of_get? hcode)
  · dsimp only
    repeat' split
    all_goals exact exists_derives_of_isSome (hread _ (by simp))

/-- What is written for an argument: the literal of its value without the blanks at its ends, or its
placeholder if it has no value that is more than blanks. -/
inductive IsLiteral (config : Config) (fieldName : String) (provided : OrderedMap String)
    (a : Argument) : String → Prop
  | given {value : String} (h : (a.name, value) ∈ provided.entries) (hvalue : Text.trim value ≠ "") :
      IsLiteral config fieldName provided a (providedLiteral a.typeName (Text.trim value))
  | missing (h : ∀ value, (a.name, value) ∈ provided.entries → Text.trim value = "") :
      IsLiteral config fieldName provided a (placeholder config fieldName a)

section

variable {config : Config} {fieldName : String} {provided : OrderedMap String} {a : Argument}

theorem IsLiteral.eq_literal {text : String} (h : IsLiteral config fieldName provided a text) :
    text = literal config fieldName provided a := by
  cases h with
  | given h hvalue =>
    exact (literal_of_provided (OrderedMap.get?_eq_some_iff.mpr h) hvalue).symm
  | missing h =>
    have hnone : (provided.get? a.name).bind Text.nonBlank? = none := by
      rw [Option.bind_eq_none_iff]
      exact fun value hget =>
        Text.nonBlank?_eq_none_iff.mpr (h value (OrderedMap.get?_eq_some_iff.mp hget))
    rw [literal, hnone]

theorem exists_derives_literal (h : config.IsGrammatical)
    (ha : ∀ value, (a.name, value) ∈ provided.entries → Text.trim value ≠ "" →
      ∃ v : Value, v.Derives (providedLiteral a.typeName (Text.trim value))) :
    ∃ text, IsLiteral config fieldName provided a text ∧ ∃ v : Value, v.Derives text := by
  by_cases hgiven : ∃ value, (a.name, value) ∈ provided.entries ∧ Text.trim value ≠ ""
  · obtain ⟨value, hvalue, hne⟩ := hgiven
    exact ⟨_, .given hvalue hne, ha value hvalue hne⟩
  · simp only [not_exists, not_and, not_not] at hgiven
    exact ⟨_, .missing hgiven, exists_derives_placeholder h fieldName a⟩

end

/-! ### Arguments -/

/-- Each argument has its name and what its literal derives as, in the order of the field. -/
def ArgumentsDerive (config : Config) (f : Field) (provided : OrderedMap String)
    (arguments : List (String × Value)) : Prop :=
  List.Forall₂ (fun a argument => argument.1 = a.name ∧
    ∃ text, IsLiteral config f.name provided a text ∧ argument.2.Derives text) f.args arguments

theorem exists_forall₂ {α β : Type} {R : α → β → Prop} {as : List α} (h : ∀ a ∈ as, ∃ b, R a b) :
    ∃ bs, List.Forall₂ R as bs := by
  induction as with
  | nil => exact ⟨[], .nil⟩
  | cons a as ih =>
    obtain ⟨b, hb⟩ := h a (by simp)
    obtain ⟨bs, hbs⟩ := ih fun a ha => h a (List.mem_cons_of_mem _ ha)
    exact ⟨b :: bs, .cons hb hbs⟩

theorem lexes_argument {name literal : String} {v : Value} (hname : isName name.toList = true)
    (hv : v.Derives literal) :
    Lexes (name ++ ": " ++ literal).toList (.name name :: .mark ':' :: v.tokens) := by
  have hbehind : Lexes (':' :: ' ' :: literal.toList) (.mark ':' :: v.tokens) :=
    .mark (by decide) (.ignored (by decide) hv)
  have hfront : Lexes name.toList [.name name] := Lexes.single (t := .name name) hname
  simpa using hfront.append hbehind rfl

theorem lexes_join_arguments {args : List Argument} {text : Argument → String}
    {arguments : List (String × Value)} (hnames : ∀ a ∈ args, isName a.name.toList = true)
    (h : List.Forall₂ (fun a argument => argument.1 = a.name ∧ argument.2.Derives (text a)) args
      arguments) :
    Lexes (Text.join ", " (args.map fun a => a.name ++ ": " ++ text a)).toList
      (fieldTokens arguments) := by
  induction h with
  | nil => exact .nil
  | @cons a argument args arguments ha hrest ih =>
    obtain ⟨name, v⟩ := argument
    obtain ⟨rfl, hv⟩ := ha
    have hone := lexes_argument (hnames a (by simp)) hv
    have hall := ih fun b hb => hnames b (List.mem_cons_of_mem _ hb)
    cases args with
    | nil =>
      cases hrest
      simpa [Text.join, fieldTokens] using hone
    | cons b args =>
      have hbehind : Lexes (',' :: ' ' ::
          (Text.join ", " ((b :: args).map fun a => a.name ++ ": " ++ text a)).toList)
          (fieldTokens arguments) :=
        .ignored (by decide) (.ignored (by decide) hall)
      simpa [Text.join_cons_cons, fieldTokens] using hone.append hbehind rfl

theorem exists_argumentsDerive {config : Config} {f : Field} {provided : OrderedMap String}
    (hconfig : config.IsGrammatical)
    (hprovided : ∀ a ∈ f.args, ∀ value, (a.name, value) ∈ provided.entries →
      Text.trim value ≠ "" → ∃ v : Value, v.Derives (providedLiteral a.typeName (Text.trim value))) :
    ∃ arguments, ArgumentsDerive config f provided arguments := by
  apply exists_forall₂
  intro a ha
  obtain ⟨text, htext, v, hv⟩ := exists_derives_literal hconfig (hprovided a ha)
  exact ⟨(a.name, v), rfl, text, htext, hv⟩

/-- The arguments in their parentheses. -/
theorem lexes_argumentText {config : Config} {f : Field} {provided : OrderedMap String}
    {arguments : List (String × Value)} (hnames : f.HasNames)
    (h : ArgumentsDerive config f provided arguments) :
    let args := argumentText config f provided
    Lexes (if args.isEmpty then "" else "(" ++ args ++ ")").toList
      (optional '(' ')' arguments.isEmpty (fieldTokens arguments)) := by
  intro args
  have hliterals : List.Forall₂ (fun a argument => argument.1 = a.name ∧
      argument.2.Derives (literal config f.name provided a)) f.args arguments := by
    refine List.Forall₂.imp ?_ h
    rintro a argument ⟨hname, text, htext, hv⟩
    rw [← htext.eq_literal]
    exact ⟨hname, hv⟩
  have hall : Lexes args.toList (fieldTokens arguments) := lexes_join_arguments hnames.2 hliterals
  cases hargs : f.args with
  | nil =>
    have hnil : arguments = [] := by
      rw [ArgumentsDerive, hargs] at h
      cases h
      rfl
    have hempty : args = "" := by simp [args, argumentText, hargs, Text.join]
    simpa [hempty, hnil, optional] using Lexes.nil
  | cons a rest =>
    have hcons : arguments ≠ [] := by
      rintro rfl
      rw [ArgumentsDerive, hargs] at h
      cases h
    have hne : args ≠ "" := Text.join_ne_empty (by simp [hargs]) (by simp)
    have hclosed := hall.append (.mark (c := ')') rfl .nil) rfl
    simpa [hne, hcons, optional, enclosed] using Lexes.mark (c := '(') rfl hclosed

/-! ### Selections -/

/-- What the table has for the type of the field derives as the selections, if it has more than an
empty text; otherwise there are none. -/
inductive SelectionsDerive (config : Config) (f : Field) : List Selection → Prop
  | entry {set : String} {selections : List Selection}
      (h : (bareTypeName f.typeName, set) ∈ config.selectionSets.entries) (hset : set ≠ "")
      (hderives : DerivesSelections set selections) : SelectionsDerive config f selections
  | missing (h : ∀ set, (bareTypeName f.typeName, set) ∈ config.selectionSets.entries → set = "") :
      SelectionsDerive config f []

theorem exists_selectionsDerive {config : Config} (h : config.IsGrammatical) (f : Field) :
    ∃ selections, SelectionsDerive config f selections := by
  by_cases hentry : ∃ set, (bareTypeName f.typeName, set) ∈ config.selectionSets.entries ∧ set ≠ ""
  · obtain ⟨set, hset, hne⟩ := hentry
    have hvalue : set ∈ config.selectionSets.values := List.mem_map_of_mem hset
    obtain ⟨selections, hselections⟩ := (h.selectionSets set hvalue).resolve_left hne
    exact ⟨selections, .entry hset hne hselections⟩
  · simp only [not_exists, not_and, not_not] at hentry
    exact ⟨[], .missing hentry⟩

/-- The text that is looked up for the type of the field derives as the selections. -/
theorem SelectionsDerive.derives {config : Config} {f : Field} {selections : List Selection}
    (h : SelectionsDerive config f selections) :
    let set := (config.selectionSet? (bareTypeName f.typeName)).getD ""
    if set = "" then selections = [] else DerivesSelections set selections := by
  cases h with
  | @entry set _ h hset hderives =>
    have hget : config.selectionSet? (bareTypeName f.typeName) = some set :=
      OrderedMap.get?_eq_some_iff.mpr h
    simpa [hget, hset] using hderives
  | missing h =>
    have hempty : (config.selectionSet? (bareTypeName f.typeName)).getD "" = "" := by
      cases hget : config.selectionSet? (bareTypeName f.typeName) with
      | none => rfl
      | some set => exact h set (OrderedMap.get?_eq_some_iff.mp hget)
    simp [hempty]

/-- The selection set, with a blank in front of it. -/
theorem lexes_set {set : String} {selections : List Selection}
    (h : if set = "" then selections = [] else DerivesSelections set selections) :
    Lexes (if set.isEmpty then "" else " " ++ set).toList
      (optional '\x7b' '\x7d' selections.isEmpty (selectionTokens selections)) := by
  by_cases hempty : set = ""
  · rw [if_pos hempty] at h
    simpa [hempty, h, optional] using Lexes.nil
  · rw [if_neg hempty] at h
    obtain ⟨hne, hlexes⟩ := h
    simpa [hempty, hne, optional] using Lexes.ignored (c := ' ') rfl hlexes

theorem lexes_selection {config : Config} {f : Field} {provided : OrderedMap String}
    {arguments : List (String × Value)} {selections : List Selection} (hnames : f.HasNames)
    (harguments : ArgumentsDerive config f provided arguments)
    (hselections : SelectionsDerive config f selections) :
    Lexes (selection config f provided).toList
      (Selection.field f.name arguments selections).tokens := by
  let args := argumentText config f provided
  let set := (config.selectionSet? (bareTypeName f.typeName)).getD ""
  have hargs : Lexes (if args.isEmpty then "" else "(" ++ args ++ ")").toList
      (optional '(' ')' arguments.isEmpty (fieldTokens arguments)) :=
    lexes_argumentText hnames harguments
  have hset : Lexes (if set.isEmpty then "" else " " ++ set).toList
      (optional '\x7b' '\x7d' selections.isEmpty (selectionTokens selections)) :=
    lexes_set hselections.derives
  have hname : Lexes f.name.toList [.name f.name] := Lexes.single (t := .name f.name) hnames.1
  have hargsHead : (if args.isEmpty then "" else "(" ++ args ++ ")").toList.head?.all isDelimiter =
      true := by
    split
    · rfl
    · simp
      rfl
  have hsetHead : (if set.isEmpty then "" else " " ++ set).toList.head?.all isDelimiter = true := by
    split
    · rfl
    · simp
      rfl
  simpa [selection, Selection.tokens] using
    hname.append (hargs.append hset hsetHead) (Text.all_head?_append hargsHead hsetHead)

/-! ### Documents -/

/-- The operation with the one selection that a document is generated for. -/
def generated (f : Field) (arguments : List (String × Value)) (selections : List Selection) :
    Operation :=
  { name := operationName f.name, selections := [.field f.name arguments selections] }

theorem derives_generate {config : Config} {f : Field} {provided : OrderedMap String}
    {arguments : List (String × Value)} {selections : List Selection} (hnames : f.HasNames)
    (harguments : ArgumentsDerive config f provided arguments)
    (hselections : SelectionsDerive config f selections) :
    (generated f arguments selections).Derives (generate config f provided) := by
  have hselection := lexes_selection hnames harguments hselections
  have hend : Lexes ['\n', '\x7d'] [.mark '\x7d'] := .ignored rfl (.mark rfl .nil)
  have hinside : Lexes ('\n' :: ' ' :: ' ' ::
      ((selection config f provided).toList ++ ['\n', '\x7d']))
      ((Selection.field f.name arguments selections).tokens ++ [.mark '\x7d']) :=
    .ignored rfl (.ignored rfl (.ignored rfl (hselection.append hend rfl)))
  have hname : Lexes (operationName f.name).toList [.name (operationName f.name)] :=
    Lexes.single (t := .name (operationName f.name)) (isName_operationName hnames.1)
  have hquery : Lexes "query".toList [.name "query"] := Lexes.single (t := .name "query") rfl
  have hset := Lexes.ignored (c := ' ') rfl (.mark (c := '\x7b') rfl hinside)
  have hall := hquery.append (.ignored (c := ' ') rfl (hname.append hset rfl)) rfl
  refine ⟨List.cons_ne_nil _ _, ?_⟩
  simpa [generate, generated, Operation.tokens, enclosed, selectionTokens] using hall

/-- For every field of every schema the document that is generated derives as one query, with the
name of the field in its own; it selects the field alone, with each of its arguments, and of the
field what the tables have for its type. -/
theorem read?_generate {text : String} {d : TypeDefinition} {f : Field} {config : Config}
    {provided : OrderedMap String} (hd : d ∈ Sdl.parse text) (hf : f ∈ d.fields)
    (hconfig : config.IsGrammatical)
    (hprovided : ∀ a ∈ f.args, ∀ value, (a.name, value) ∈ provided.entries →
      Text.trim value ≠ "" → ∃ v : Value, v.Derives (providedLiteral a.typeName (Text.trim value))) :
    ∃ name arguments selections,
      let o : Operation := { name, selections := [.field f.name arguments selections] }
      o.Derives (generate config f provided) ∧ read? (generate config f provided) = some o ∧
        name.toList = f.name.toList.modifyHead Char.toUpper ++ "Generated".toList ∧
        ArgumentsDerive config f provided arguments ∧ SelectionsDerive config f selections := by
  have hnames := Sdl.hasNames_of_mem_parse hd hf
  obtain ⟨arguments, harguments⟩ := exists_argumentsDerive hconfig hprovided
  obtain ⟨selections, hselections⟩ := exists_selectionsDerive hconfig f
  have hderives := derives_generate hnames harguments hselections
  exact ⟨operationName f.name, arguments, selections, hderives, read?_eq_some_iff.mpr hderives,
    toList_operationName hnames.1, harguments, hselections⟩

def countryField : Field :=
  { name := "country", typeName := "Country", isList := false, isNonNull := true
    args :=
      [{ name := "code", typeName := "ID", defaultValue := none, isNonNull := true },
       { name := "near", typeName := "Point", defaultValue := none, isNonNull := false },
       { name := "lang", typeName := "String", defaultValue := some "\"en\"", isNonNull := false }]
    description := none }

def countryValues : OrderedMap String :=
  .ofList [("near", "\x7bx: 0.5, y: [-1e3 two]\x7d"), ("lang", " fr "), ("zone", "\"")]

theorem read?_generate_countryField :
    ∃ name arguments selections,
      let o : Operation := { name, selections := [.field "country" arguments selections] }
      o.Derives (generate .builtin countryField countryValues) ∧
        read? (generate .builtin countryField countryValues) = some o ∧
        name.toList = "Country".toList ++ "Generated".toList ∧
        ArgumentsDerive .builtin countryField countryValues arguments ∧
        SelectionsDerive .builtin countryField selections := by
  have hd : { TypeDefinition.declare "Query" .query none with fields := [countryField] } ∈
      Sdl.parse ("type Query \x7b\n  country(code: ID!, near: Point, lang: String = \"en\")" ++
        ": Country!\n\x7d") := by
    decide +kernel
  have hvalues : ∀ a ∈ countryField.args, ∀ entry ∈ countryValues.entries, entry.1 = a.name →
      (readValue? (providedLiteral a.typeName (Text.trim entry.2))).isSome = true := by
    decide +kernel
  exact read?_generate hd (List.mem_singleton_self countryField) Config.isGrammatical_builtin
    fun a ha value hvalue _ => exists_derives_of_isSome (hvalues a ha (a.name, value) hvalue rfl)

end SchemaExplorer.Query
