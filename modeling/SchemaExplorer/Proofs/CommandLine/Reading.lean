import SchemaExplorer.CommandLine.Reading
import SchemaExplorer.Proofs.Text.Split

/-! # Command lines with values in front

Values for arguments may be given again and again, and no other option looks at them. So a command
line asks for the same with values put in front of its other words, but for these values. -/

namespace SchemaExplorer.CommandLine

/-- The texts give values to arguments. -/
def GiveValues (raws : List String) : Prop :=
  ∀ raw ∈ raws, (NamedValue.parse raw).isOk = true

instance (raws : List String) : Decidable (GiveValues raws) :=
  inferInstanceAs (Decidable (∀ raw ∈ raws, _))

/-- The values that texts give. -/
def namedValues (raws : List String) : List NamedValue :=
  raws.filterMap fun raw => (NamedValue.parse raw).toOption

/-- The options that give these values, each in one word. -/
def valueWords (raws : List String) : List String :=
  raws.map fun raw => "--arg=" ++ raw

namespace Reading

/-- The reading with values that were given before everything else. -/
def withValues (r : Reading) (raws : List String) : Reading :=
  { r with settled := raws.map (fun raw => (Slot.value, [raw])) ++ r.settled }

section

variable (r : Reading) (raws : List String)

theorem has_withValues {slot : Slot} (h : slot ≠ .value) :
    (r.withValues raws).has slot = r.has slot := by
  simp [has, withValues, List.any_append, List.any_map, Ne.symm h]

theorem all_withValues {slot : Slot} (h : slot ≠ .value) :
    (r.withValues raws).all slot = r.all slot := by
  have hnone : (raws.map fun raw => (Slot.value, [raw])).filter (fun entry => entry.1 = slot) =
      [] := by
    rw [List.filter_eq_nil_iff]
    simp [Ne.symm h]
  simp [all, withValues, List.filter_append, hnone]

theorem all_value_withValues : (r.withValues raws).all .value = raws ++ r.all .value := by
  have hall : (raws.map fun raw => (Slot.value, [raw])).filter (fun entry => entry.1 = .value) =
      raws.map fun raw => (Slot.value, [raw]) := by
    rw [List.filter_eq_self]
    simp
  simp [all, withValues, List.filter_append, hall, List.flatMap_map]

/-! ### One word -/

theorem enter_withValues (slot : Slot) (given : List String) :
    (r.withValues raws).enter slot given = (r.enter slot given).map (withValues · raws) := by
  -- of all slots only that of the values looks different, and it may be set again
  have hhas : (!slot.isList && (r.withValues raws).has slot) = (!slot.isList && r.has slot) := by
    by_cases h : slot = .value
    · rw [h]
      rfl
    · rw [r.has_withValues raws h]
  have hset : ∀ values : Except Stop (List (List String)),
      (do let values ← values
          .ok { r.withValues raws with
            settled := (r.withValues raws).settled ++ [(slot, values.flatten)] }) =
        (do let values ← values
            .ok { r with settled := r.settled ++ [(slot, values.flatten)] } :
          Except Stop Reading).map (withValues · raws) := by
    intro values
    cases values with
    | error e => rfl
    | ok values => simp [withValues, bind, Except.bind, Except.map]
  simp only [enter]
  split
  · rfl
  · rfl
  · rw [hhas]
    split
    · rfl
    · split
      · rfl
      · exact hset _

theorem settle_withValues : (r.withValues raws).settle = r.settle.map (withValues · raws) := by
  cases hp : r.pending with
  | none => simp [settle, withValues, hp, Except.map]
  | some entry =>
    have hnone := enter_withValues { r with pending := none } raws entry.1 entry.2
    simpa [settle, withValues, hp] using hnone

theorem give_withValues (slot : Slot) (given : List String) :
    (r.withValues raws).give slot given = (r.give slot given).map (withValues · raws) := by
  rw [give, give, settle_withValues]
  cases r.settle with
  | error e => rfl
  | ok settled => exact settled.enter_withValues raws slot given

theorem await_withValues (slot : Slot) (given : List String) :
    (r.withValues raws).await slot given = (r.await slot given).map (withValues · raws) := by
  rw [await, await, settle_withValues]
  cases r.settle <;> rfl

theorem addPath_withValues (path : String) :
    (r.withValues raws).addPath path = (r.addPath path).map (withValues · raws) := by
  have hpending : (r.withValues raws).pending = r.pending := rfl
  rw [addPath, addPath, hpending]
  split
  · rfl
  · exact r.await_withValues raws .paths [path]

theorem giveLetters_withValues (scope : Scope) (letters : List Char) :
    (r.withValues raws).giveLetters scope letters =
      (r.giveLetters scope letters).map (withValues · raws) := by
  induction letters generalizing r with
  | nil => rfl
  | cons letter letters ih =>
    rw [giveLetters, giveLetters]
    split
    · rfl
    · rw [give_withValues]
      cases r.give _ [] with
      | error e => rfl
      | ok given => exact ih given

theorem readPlain_withValues (scope : Scope) (words : List String) :
    (r.withValues raws).readPlain scope words =
      (r.readPlain scope words).map (withValues · raws) := by
  induction words generalizing r with
  | nil => rfl
  | cons word words ih =>
    rw [readPlain, readPlain]
    split
    · split <;> rfl
    · rw [addPath_withValues]
      cases r.addPath word with
      | error e => rfl
      | ok added => exact ih added

/-! ### All words -/

theorem read_withValues (scope : Scope) (awaited : Bool) (words : List String) :
    (r.withValues raws).read scope awaited words =
      (r.read scope awaited words).map fun p => (p.1.withValues raws, p.2) := by
  induction words generalizing r awaited with
  | nil => rfl
  | cons word words ih =>
    -- whatever the word does to the reading, the values stay in front of it for the other words
    have hthen : ∀ (next : Except Stop Reading) (awaited : Bool),
        (do (← next.map (withValues · raws)).read scope awaited words) =
          (do (← next).read scope awaited words : Except Stop _).map
            fun p => (p.1.withValues raws, p.2) := by
      intro next awaited
      cases next with
      | error e => rfl
      | ok next => exact ih next awaited
    simp only [read]
    split
    · rfl
    · split
      · rfl
      · split
        · rw [readPlain_withValues]
          cases r.readPlain scope words <;> rfl
        · split
          · rfl
          · split
            · rw [give_withValues]
              exact hthen _ _
            · rw [await_withValues]
              exact hthen _ _
            · rfl
            · rw [give_withValues]
              exact hthen _ _
        · rw [giveLetters_withValues]
          exact hthen _ _
        · split
          · exact ih (r.collect word) false
          · split
            · rfl
            · rw [addPath_withValues]
              exact hthen _ _

end

/-! ### Values in front -/

theorem read_valueWord (raws : List String) {raw : String}
    (hraw : (NamedValue.parse raw).isOk = true) (words : List String) :
    (start.withValues raws).read .generate false (("--arg=" ++ raw) :: words) =
      (start.withValues (raws ++ [raw])).read .generate false words := by
  have hword : ("--arg=" ++ raw).toList = '-' :: '-' :: 'a' :: 'r' :: 'g' :: '=' :: raw.toList := by
    simp
  have hsplit : splitOption ('a' :: 'r' :: 'g' :: '=' :: raw.toList) = ("arg", some raw) := by
    have hparts : Text.splitCharsOnce? '=' ("arg".toList ++ '=' :: raw.toList) =
        some ("arg".toList, raw.toList) := Text.splitCharsOnce?_append raw.toList (by decide)
    have htext : 'a' :: 'r' :: 'g' :: '=' :: raw.toList = "arg".toList ++ '=' :: raw.toList := rfl
    rw [splitOption, htext, hparts]
    simp
  have hslot : Slot.ofLongName? .generate "arg" = some .value := rfl
  have hgive : (start.withValues raws).give .value [raw] =
      .ok (start.withValues (raws ++ [raw])) := by
    have hvalues : Slot.values .value raw = .ok [raw] := by
      cases hv : NamedValue.parse raw with
      | error e => simp [hv, Except.isOk, Except.toBool] at hraw
      | ok v => simp [Slot.values, hv]
    rw [give_withValues]
    simp [give, settle, start, enter, Slot.takesValue, Slot.isList, hvalues, withValues, bind,
      Except.bind, pure, Except.pure, Except.map]
  rw [read]
  simp only [hword, hsplit, hslot, Slot.takesValue, hgive]
  rfl

theorem read_valueWords (front : List String) {raws : List String} (hraws : GiveValues raws)
    (words : List String) :
    (start.withValues front).read .generate false (valueWords raws ++ words) =
      (start.withValues (front ++ raws)).read .generate false words := by
  induction raws generalizing front with
  | nil => simp [valueWords]
  | cons raw raws ih =>
    have hrest : GiveValues raws := fun other hother =>
      hraws other (List.mem_cons_of_mem raw hother)
    calc (start.withValues front).read .generate false (valueWords (raw :: raws) ++ words)
      _ = (start.withValues (front ++ [raw])).read .generate false (valueWords raws ++ words) :=
        read_valueWord front (hraws raw List.mem_cons_self) _
      _ = (start.withValues (front ++ raw :: raws)).read .generate false words := by
        rw [ih (front ++ [raw]) hrest, List.append_assoc, List.singleton_append]

/-- The values that a command has come before those it has anyway. -/
theorem command_withValues {r : Reading} {fieldPath : String} {values : List NamedValue}
    {schema : SchemaSource} (raws : List String)
    (h : r.command .generate = .ok (some (.generate fieldPath values schema))) :
    (r.withValues raws).command .generate =
      .ok (some (.generate fieldPath (namedValues raws ++ values) schema)) := by
  have hschema : (r.withValues raws).schema = r.schema := by
    simp [Reading.schema, has_withValues, all_withValues]
  have hvalues : ((r.withValues raws).all .value).filterMap
      (fun text => (NamedValue.parse text).toOption) =
        namedValues raws ++
          (r.all .value).filterMap fun text => (NamedValue.parse text).toOption := by
    rw [all_value_withValues, List.filterMap_append]
    rfl
  simp only [command] at h ⊢
  rw [has_withValues _ _ (by decide), all_withValues _ _ (by decide), hschema, hvalues]
  split at h
  · simp at h
  · next hpaths =>
    rw [if_neg hpaths]
    cases hfield : r.all .fieldPath with
    | nil => simp [hfield] at h
    | cons path rest =>
      simp only [hfield, Except.ok.injEq, Option.some.injEq, Command.generate.injEq] at h
      obtain ⟨rfl, rfl, rfl⟩ := h
      rfl

end Reading

theorem exists_of_bind_eq_ok {α β : Type} {x : Except Stop α} {f : α → Except Stop β} {b : β}
    (h : x >>= f = .ok b) : ∃ a, x = .ok a ∧ f a = .ok b := by
  cases x with
  | error e => cases h
  | ok a => exact ⟨a, rfl, h⟩

/-- A command line for a query asks for the same with values in front, and with these values before
its own. -/
theorem parse_valueWords {raws words : List String} {fieldPath : String} {values : List NamedValue}
    {schema : SchemaSource} {configPath? : Option String} {verbose : Bool}
    (hraws : GiveValues raws)
    (hparse : parse ("generate" :: words) =
      .ok ⟨some (.generate fieldPath values schema), configPath?, verbose⟩) :
    parse ("generate" :: (valueWords raws ++ words)) =
      .ok ⟨some (.generate fieldPath (namedValues raws ++ values) schema), configPath?,
        verbose⟩ := by
  have hgenerate : ∀ words, parse ("generate" :: words) = (do
      let read ← Reading.start.read .generate false words
      let inner ← read.1.settle
      let command? ← inner.command .generate
      .ok
        { command?
          configPath? := (inner.all .config ++ Reading.start.all .config).head?
          verbose := inner.has .verbose || Reading.start.has .verbose }) := fun words => rfl
  have hread : Reading.start.read .generate false (valueWords raws ++ words) =
      (Reading.start.read .generate false words).map fun p => (p.1.withValues raws, p.2) := by
    rw [← Reading.read_withValues]
    exact Reading.read_valueWords [] hraws words
  rw [hgenerate] at hparse ⊢
  obtain ⟨⟨read, rest⟩, hinner, hparse⟩ := exists_of_bind_eq_ok hparse
  obtain ⟨inner, hsettle, hparse⟩ := exists_of_bind_eq_ok hparse
  obtain ⟨command?, hcommand, hparse⟩ := exists_of_bind_eq_ok hparse
  obtain ⟨rfl, hconfig, hverbose⟩ := Invocation.mk.inj (Except.ok.inj hparse)
  have hsettle' : (read.withValues raws).settle = .ok (inner.withValues raws) := by
    rw [Reading.settle_withValues, hsettle]
    rfl
  have hcommand' := Reading.command_withValues raws hcommand
  rw [hread, hinner]
  simp only [Except.map, bind, Except.bind, hsettle', hcommand']
  rw [Reading.all_withValues _ _ (by decide), Reading.has_withValues _ _ (by decide), hconfig,
    hverbose]

end SchemaExplorer.CommandLine
