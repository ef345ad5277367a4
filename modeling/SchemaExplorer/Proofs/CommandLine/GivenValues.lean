import SchemaExplorer.Proofs.CommandLine.Reading
import SchemaExplorer.Proofs.CommandLine.Warnings
import SchemaExplorer.Proofs.Files.Loading
import SchemaExplorer.Proofs.OrderedMap

/-! # Which of the given values count

For each argument that the field has, the last value under its name counts, if it is more than
blanks. A query shows nothing else of the values, and each of those that are for no argument is
warned of. -/

namespace SchemaExplorer.CommandLine

/-- The value that counts for an argument: of those under its name the last, without the blanks at
its ends, and none if nothing else is in it. -/
def valueFor? (values : List NamedValue) (name : String) : Option String :=
  ((values.filter (·.name = name)).getLast?).bind fun v => Text.nonBlank? v.value

/-- The values under names that no argument has. -/
def strayValues (f : Field) (values : List NamedValue) : List NamedValue :=
  values.filter fun v => v.name ∉ f.args.map Argument.name

variable {f : Field}

theorem takesArgument_iff {name : String} :
    takesArgument f name = true ↔ name ∈ f.args.map Argument.name := by
  simp [takesArgument]

/-! ### The query -/

theorem get?_acceptedValues {a : Argument} (ha : a ∈ f.args) (values : List NamedValue) :
    ((acceptedValues f values).get? a.name).bind Text.nonBlank? = valueFor? values a.name := by
  have haccepted : ((values.filter fun v => takesArgument f v.name).map fun v =>
      (v.name, v.value)).filter (·.1 = a.name) =
        (values.filter (·.name = a.name)).map fun v => (v.name, v.value) := by
    rw [List.filter_map, List.filter_filter]
    congr 1
    refine List.filter_congr fun v _ => ?_
    by_cases hname : v.name = a.name
    · have htakes : takesArgument f a.name = true :=
        takesArgument_iff.mpr (List.mem_map_of_mem ha)
      simp [hname, htakes]
    · simp [hname]
  rw [acceptedValues, OrderedMap.get?_ofList, haccepted, List.getLast?_map, Option.map_map,
    valueFor?]
  cases (values.filter (·.name = a.name)).getLast? <;> rfl

/-- The literal of an argument is that of the value that counts for it, or its placeholder. -/
theorem literal_acceptedValues (config : Query.Config) {a : Argument} (ha : a ∈ f.args)
    (values : List NamedValue) :
    Query.literal config f.name (acceptedValues f values) a =
      (valueFor? values a.name).elim (Query.placeholder config f.name a)
        (Query.providedLiteral a.typeName) := by
  rw [Query.literal, get?_acceptedValues ha]
  cases valueFor? values a.name with
  | none => rw [Option.elim_none]
  | some value => rw [Option.elim_some]

theorem generate_congr (config : Query.Config) {values values' : List NamedValue}
    (h : ∀ a ∈ f.args, valueFor? values a.name = valueFor? values' a.name) :
    Query.generate config f (acceptedValues f values) =
      Query.generate config f (acceptedValues f values') := by
  have htext : Query.argumentText config f (acceptedValues f values) =
      Query.argumentText config f (acceptedValues f values') := by
    rw [Query.argumentText, Query.argumentText]
    congr 1
    refine List.map_congr_left fun a ha => ?_
    rw [literal_acceptedValues config ha, literal_acceptedValues config ha, h a ha]
  simp only [Query.generate, Query.selection, htext]

/-! ### Runs -/

/-- The words are a command line that gives the values in `raws` to the field at `fieldPath`, and
its configuration and its schema, with that field in it, can be read. -/
structure AsksFor (files : FileSystem) (words raws : List String) (verbose : Bool)
    (config : Query.Config) (fieldPath : String) (f : Field) : Prop where
  giveValues : GiveValues raws
  command : ∃ schema configPath? catalog,
    parse words = .ok ⟨some (.generate fieldPath (namedValues raws) schema), configPath?, verbose⟩ ∧
    (Query.Config.load files configPath?).value = .ok config ∧
    (loadCatalog files schema).value = .loaded catalog ∧
    catalog.findField fieldPath = .ok f

/-- A command line without values asks for the same field with values in front. -/
theorem AsksFor.valueWords {files : FileSystem} {words raws : List String} {verbose : Bool}
    {config : Query.Config} {fieldPath : String}
    (h : AsksFor files ("generate" :: words) [] verbose config fieldPath f)
    (hraws : GiveValues raws) :
    AsksFor files ("generate" :: (CommandLine.valueWords raws ++ words)) raws verbose config
      fieldPath f := by
  obtain ⟨-, schema, configPath?, catalog, hparse, hconfig, hcatalog, hfield⟩ := h
  refine ⟨hraws, schema, configPath?, catalog, ?_, hconfig, hcatalog, hfield⟩
  simpa [namedValues] using parse_valueWords hraws hparse

/-- What is said of a value that is for no argument. -/
def strayWarning (fieldPath : String) (v : NamedValue) : String :=
  "`" ++ fieldPath ++ "` takes no argument named `" ++ v.name ++ "`; ignoring it."

theorem messages_valueWarnings (fieldPath : String) (f : Field) (values : List NamedValue) :
    Log.messages .warn (valueWarnings fieldPath f values) =
      (strayValues f values).map (strayWarning fieldPath) := by
  have hstray : (values.filter fun v => !takesArgument f v.name) = strayValues f values := by
    refine List.filter_congr fun v _ => ?_
    by_cases hname : takesArgument f v.name = true
    · simp [hname, takesArgument_iff.mp hname]
    · simpa [hname] using takesArgument_iff.not.mp hname
  rw [valueWarnings, hstray, Log.messages, List.filter_eq_self.mpr, List.map_map]
  · rfl
  · intro r hr
    obtain ⟨v, -, rfl⟩ := List.mem_map.mp hr
    rfl

theorem generateQuery_of_findField (config : Query.Config) {catalog : Catalog} {fieldPath : String}
    (hfield : catalog.findField fieldPath = .ok f) (values : List NamedValue) :
    (generateQuery config catalog fieldPath values).value =
      .success (Query.generate config f (acceptedValues f values)) ∧
    Log.messages .warn (generateQuery config catalog fieldPath values).records =
      (strayValues f values).map (strayWarning fieldPath) := by
  rw [generateQuery, hfield]
  refine ⟨rfl, ?_⟩
  have hnote : ∀ message, Log.messages .warn (Logged.note .debug message).records = [] :=
    fun _ => rfl
  simp only [Logged.records_bind, Logged.records_pure, List.append_nil, Log.messages_append, hnote]
  exact messages_valueWarnings fieldPath f values

/-- What a run answers, and what it warns of besides the setting of its log. -/
theorem AsksFor.answer_run {files : FileSystem} {words raws : List String} {verbose : Bool}
    {config : Query.Config} {fieldPath : String}
    (h : AsksFor files words raws verbose config fieldPath f) (setting? : Option String) :
    (run files words setting?).answer = .outcome (.success
      (Query.generate config f (acceptedValues f (namedValues raws)))) ∧
    Log.messages .warn (run files words setting?).records =
      Log.messages .warn (chooseLevel verbose setting?).records ++
        (strayValues f (namedValues raws)).map (strayWarning fieldPath) := by
  obtain ⟨-, schema, configPath?, catalog, hparse, hconfig, hcatalog, hfield⟩ := h
  obtain ⟨hquery, hwarnings⟩ := generateQuery_of_findField config hfield (namedValues raws)
  have hvalue : (Command.run files configPath?
      (.generate fieldPath (namedValues raws) schema)).value =
        .success (Query.generate config f (acceptedValues f (namedValues raws))) := by
    simp [Command.run, withCatalog, hconfig, hcatalog, hquery]
  have hrecords : Log.messages .warn (Command.run files configPath?
      (.generate fieldPath (namedValues raws) schema)).records =
        (strayValues f (namedValues raws)).map (strayWarning fieldPath) := by
    simp only [Command.run, withCatalog, Logged.records_bind, hconfig, hcatalog,
      Log.messages_append, (Query.Config.isQuiet_load files configPath?).messages_warn,
      (isQuiet_loadCatalog files schema).messages_warn, List.nil_append, hwarnings]
  have hbegun : ∀ message, Log.messages .warn (Logged.note .trace message).records = [] :=
    fun _ => rfl
  have hsetting : ∀ records, (Logged.notes records).records = records := fun _ => rfl
  simp only [CommandLine.run, hparse]
  constructor
  · simp [hvalue]
  · simp only [Logged.records_bind, Log.messages_append, hbegun, hsetting, hrecords,
      Logged.records_pure, List.append_nil, List.nil_append]

/-- Two runs that ask for one field show the same query, whatever values they are given, if for each
argument of the field the same value counts in both. The argument has the literal of this value, and
without one its placeholder. Each run warns once of every value that is for none, in their order, and
of nothing else but the setting of its log. -/
theorem run_of_valueFor {files : FileSystem} {words₁ words₂ raws₁ raws₂ : List String}
    {verbose₁ verbose₂ : Bool} {config : Query.Config} {fieldPath : String}
    (h₁ : AsksFor files words₁ raws₁ verbose₁ config fieldPath f)
    (h₂ : AsksFor files words₂ raws₂ verbose₂ config fieldPath f)
    (setting₁ setting₂ : Option String) :
    ((∀ a ∈ f.args, valueFor? (namedValues raws₁) a.name = valueFor? (namedValues raws₂) a.name) →
      ∃ provided,
        (run files words₁ setting₁).answer =
          .outcome (.success (Query.generate config f provided)) ∧
        (run files words₁ setting₁).answer = (run files words₂ setting₂).answer ∧
        (run files words₁ setting₁).answer.exitCode = 0 ∧
        (∀ a ∈ f.args, ∀ value, valueFor? (namedValues raws₁) a.name = some value →
          Query.literal config f.name provided a = Query.providedLiteral a.typeName value) ∧
        ∀ a ∈ f.args, valueFor? (namedValues raws₁) a.name = none →
          Query.literal config f.name provided a = Query.placeholder config f.name a) ∧
    Log.messages .warn (run files words₁ setting₁).records =
      Log.messages .warn (chooseLevel verbose₁ setting₁).records ++
        (strayValues f (namedValues raws₁)).map (strayWarning fieldPath) ∧
    Log.messages .warn (run files words₂ setting₂).records =
      Log.messages .warn (chooseLevel verbose₂ setting₂).records ++
        (strayValues f (namedValues raws₂)).map (strayWarning fieldPath) := by
  obtain ⟨hanswer₁, hwarnings₁⟩ := h₁.answer_run setting₁
  obtain ⟨hanswer₂, hwarnings₂⟩ := h₂.answer_run setting₂
  refine ⟨fun hvalues => ⟨_, hanswer₁, ?_, ?_, fun a ha value hvalue => ?_, fun a ha hnone => ?_⟩,
    hwarnings₁, hwarnings₂⟩
  · rw [hanswer₁, hanswer₂, generate_congr config hvalues]
  · rw [hanswer₁]
    rfl
  · rw [literal_acceptedValues config ha, hvalue, Option.elim_some]
  · rw [literal_acceptedValues config ha, hnone, Option.elim_none]

/-! A field with two arguments. The first values are for both of them, two for one and only blanks
for the other; of the second values one is for an argument, and two are for none. -/

def userSchema : String :=
  "type Query \x7b\n  user(id: ID!, name: String): User\n\x7d"

def userField : Field :=
  { name := "user", typeName := "User", isList := false, isNonNull := false, description := none
    args := [⟨"id", "ID", none, true⟩, ⟨"name", "String", none, false⟩] }

def userFiles : FileSystem := fun path =>
  if path = "user.graphql" then .ok (.file userSchema.toUTF8) else .error .notFound

def userWords : List String := ["--field=Query.user", "user.graphql"]

def repeatedValues : List String := ["id=7", "name=  ", " id = 8 "]

def mixedValues : List String := ["nick=x", "id=8", "ID=9"]

theorem asksFor_userWords :
    AsksFor userFiles ("generate" :: userWords) [] false .builtin "Query.user" userField where
  giveValues := by decide
  command := by
    let schema : SchemaSource := ⟨["graphql", "graphqls"], ["user.graphql"]⟩
    have hfound : (schema.find userFiles).value = .ok [⟨"user.graphql", userSchema.toUTF8⟩] := rfl
    have htext : [(⟨"user.graphql", userSchema.toUTF8⟩ : SchemaFile)].map SchemaFile.text =
        [userSchema].map .ok := by
      rw [List.map_singleton, SchemaFile.text_toUTF8 (by decide), List.map_singleton]
    exact ⟨schema, none, _, by rfl, rfl, (load_of_text hfound htext).2, by rfl⟩

theorem run_of_valueFor_user :
    ∃ provided,
      (run userFiles ("generate" :: (valueWords repeatedValues ++ userWords)) none).answer =
        .outcome (.success (Query.generate .builtin userField provided)) ∧
      (run userFiles ("generate" :: (valueWords repeatedValues ++ userWords)) none).answer =
        (run userFiles ("generate" :: (valueWords mixedValues ++ userWords)) none).answer ∧
      userField.args.map (Query.literal .builtin userField.name provided) = ["\"8\"", "\"\""] ∧
      Log.messages .warn
        (run userFiles ("generate" :: (valueWords repeatedValues ++ userWords)) none).records = [] ∧
      Log.messages .warn
        (run userFiles ("generate" :: (valueWords mixedValues ++ userWords)) none).records =
        ["`Query.user` takes no argument named `nick`; ignoring it.",
          "`Query.user` takes no argument named `ID`; ignoring it."] := by
  have hrepeated : GiveValues repeatedValues := by decide +kernel
  have hmixed : GiveValues mixedValues := by decide +kernel
  obtain ⟨hquery, hwarnings, hwarnings'⟩ := run_of_valueFor
    (asksFor_userWords.valueWords hrepeated) (asksFor_userWords.valueWords hmixed) none none
  obtain ⟨provided, hanswer, hsame, -, hliteral, hplaceholder⟩ := hquery (by decide +kernel)
  have hid := hliteral ⟨"id", "ID", none, true⟩ (by decide) "8" (by decide +kernel)
  have hname := hplaceholder ⟨"name", "String", none, false⟩ (by decide) (by decide +kernel)
  have hliterals : userField.args.map (Query.literal .builtin userField.name provided) =
      ["\"8\"", "\"\""] := by
    rw [userField, List.map_cons, List.map_singleton]
    exact congrArg₂ (fun id name => [id, name]) (hid.trans (by decide)) (hname.trans (by decide))
  exact ⟨provided, hanswer, hsame, hliterals, hwarnings.trans (by decide +kernel),
    hwarnings'.trans (by decide +kernel)⟩

end SchemaExplorer.CommandLine
