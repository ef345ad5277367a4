import SchemaExplorer.Proofs.Query.Token

/-! # The grammar of query documents

A value, a selection or an operation is written by one list of tokens, and each form of it is a
rule of the grammar. A document derives what its tokens write. Reading goes the other way, and
finds just what is derived. -/

namespace SchemaExplorer.Query

/-! ### What is written -/

inductive Value where
  | number (text : String)
  | string (body : String)
  | name (text : String)
  | list (items : List Value)
  | object (fields : List (String × Value))

/-- A field that is selected, with the arguments it gets and with what is selected of it. -/
inductive Selection where
  | field (name : String) (arguments : List (String × Value)) (selections : List Selection)

/-- A query under a name. -/
structure Operation where
  name : String
  selections : List Selection

def enclosed (left right : Char) (inner : List Token) : List Token :=
  .mark left :: (inner ++ [.mark right])

/-- What is left out, marks and all, if there is nothing between them. -/
def optional (left right : Char) (isEmpty : Bool) (inner : List Token) : List Token :=
  if isEmpty then [] else enclosed left right inner

mutual

def Value.tokens : Value → List Token
  | .number text => [.number text]
  | .string body => [.string body]
  | .name text => [.name text]
  | .list items => enclosed '[' ']' (itemTokens items)
  | .object fields => enclosed '\x7b' '\x7d' (fieldTokens fields)

def itemTokens : List Value → List Token
  | [] => []
  | v :: items => v.tokens ++ itemTokens items

/-- The fields of an object, and the arguments of a selection. -/
def fieldTokens : List (String × Value) → List Token
  | [] => []
  | (name, v) :: fields => .name name :: .mark ':' :: (v.tokens ++ fieldTokens fields)

end

mutual

def Selection.tokens : Selection → List Token
  | .field name arguments selections =>
    .name name :: (optional '(' ')' arguments.isEmpty (fieldTokens arguments) ++
      optional '\x7b' '\x7d' selections.isEmpty (selectionTokens selections))

def selectionTokens : List Selection → List Token
  | [] => []
  | s :: selections => s.tokens ++ selectionTokens selections

end

def Operation.tokens (o : Operation) : List Token :=
  .name "query" :: .name o.name :: enclosed '\x7b' '\x7d' (selectionTokens o.selections)

/-! ### What a text derives -/

def Value.Derives (text : String) (v : Value) : Prop :=
  Lexes text.toList v.tokens

/-- A selection set is not empty. -/
def DerivesSelections (text : String) (selections : List Selection) : Prop :=
  selections ≠ [] ∧ Lexes text.toList (enclosed '\x7b' '\x7d' (selectionTokens selections))

def Operation.Derives (text : String) (o : Operation) : Prop :=
  o.selections ≠ [] ∧ Lexes text.toList o.tokens

/-! ### Reading tokens -/

mutual

/-- A value, with at most `fuel` calls one within the other, and what follows it. -/
def valueWithin? : Nat → List Token → Option (Value × List Token)
  | 0, _ => none
  | _ + 1, [] => none
  | fuel + 1, t :: ts =>
    match t with
    | .number text => some (.number text, ts)
    | .string body => some (.string body, ts)
    | .name text => some (.name text, ts)
    | .mark c =>
      if c = '[' then (itemsWithin? fuel ts).map fun (items, rest) => (.list items, rest)
      else if c = '\x7b' then
        (fieldsWithin? '\x7d' fuel ts).map fun (fields, rest) => (.object fields, rest)
      else none

/-- The items of a list up to its closing bracket. -/
def itemsWithin? : Nat → List Token → Option (List Value × List Token)
  | 0, _ => none
  | fuel + 1, ts =>
    if ts.head? = some (.mark ']') then some ([], ts.tail)
    else do
      let (v, ts) ← valueWithin? fuel ts
      let (items, ts) ← itemsWithin? fuel ts
      some (v :: items, ts)

/-- Fields up to the mark `right`. -/
def fieldsWithin? (right : Char) : Nat → List Token → Option (List (String × Value) × List Token)
  | 0, _ => none
  | fuel + 1, .name name :: .mark ':' :: ts => do
    let (v, ts) ← valueWithin? fuel ts
    let (fields, ts) ← fieldsWithin? right fuel ts
    some ((name, v) :: fields, ts)
  | _ + 1, .mark c :: ts => if c = right then some ([], ts) else none
  | _ + 1, _ => none

end

/-- What `inner?` reads behind the mark `left`, which must be something; nothing if that mark is not
there. -/
def optional? {α : Type} (left : Char) (inner? : List Token → Option (List α × List Token))
    (ts : List Token) : Option (List α × List Token) :=
  if ts.head? = some (.mark left) then (inner? ts.tail).filter (!·.1.isEmpty) else some ([], ts)

/-- Selections up to the closing brace. -/
def selectionsWithin? : Nat → List Token → Option (List Selection × List Token)
  | 0, _ => none
  | fuel + 1, .name name :: ts => do
    let (arguments, ts) ← optional? '(' (fieldsWithin? ')' fuel) ts
    let (inner, ts) ← optional? '\x7b' (selectionsWithin? fuel) ts
    let (selections, ts) ← selectionsWithin? fuel ts
    some (.field name arguments inner :: selections, ts)
  | _ + 1, .mark c :: ts => if c = '\x7d' then some ([], ts) else none
  | _ + 1, _ => none

/-- The first of the two, if the second is empty. -/
def complete? {α : Type} : Option (α × List Token) → Option α
  | some (a, []) => some a
  | _ => none

def value? (ts : List Token) : Option Value :=
  complete? (valueWithin? ts.length ts)

def selections? : List Token → Option (List Selection)
  | .mark c :: ts =>
    if c = '\x7b' then (complete? (selectionsWithin? ts.length ts)).filter (!·.isEmpty) else none
  | _ => none

def operation? : List Token → Option Operation
  | .name keyword :: .name name :: ts =>
    if keyword = "query" then (selections? ts).map fun selections => { name, selections } else none
  | _ => none

/-! ### Reading texts -/

def readValue? (text : String) : Option Value :=
  (tokens? text.toList).bind value?

def readSelections? (text : String) : Option (List Selection) :=
  (tokens? text.toList).bind selections?

/-- The operation that a document writes. -/
def read? (text : String) : Option Operation :=
  (tokens? text.toList).bind operation?

/-! ### What is written is read -/

theorem Value.exists_tokens_eq (v : Value) :
    ∃ t ts, v.tokens = t :: ts ∧ t ≠ .mark ']' := by
  cases v <;> simp [Value.tokens, enclosed]

/-- With so much fuel, what is not longer is read back, and what follows it is left alone. -/
structure ReadsBack (fuel : Nat) : Prop where
  value : ∀ v rest, v.tokens.length ≤ fuel →
    valueWithin? fuel (v.tokens ++ rest) = some (v, rest)
  items : ∀ items rest, (itemTokens items).length < fuel →
    itemsWithin? fuel (itemTokens items ++ .mark ']' :: rest) = some (items, rest)
  fields : ∀ right fields rest, (fieldTokens fields).length < fuel →
    fieldsWithin? right fuel (fieldTokens fields ++ .mark right :: rest) = some (fields, rest)

namespace ReadsBack

variable {fuel : Nat}

theorem valueWithin?_succ (h : ReadsBack fuel) (v : Value) (rest : List Token)
    (hv : v.tokens.length ≤ fuel + 1) :
    valueWithin? (fuel + 1) (v.tokens ++ rest) = some (v, rest) := by
  cases v with
  | number text => rfl
  | string body => rfl
  | name text => rfl
  | list items =>
    simp only [Value.tokens, enclosed, List.length_cons, List.length_append] at hv
    have hitems := h.items items rest (by omega)
    simp [Value.tokens, enclosed, valueWithin?, hitems]
  | object fields =>
    simp only [Value.tokens, enclosed, List.length_cons, List.length_append] at hv
    have hfields := h.fields '\x7d' fields rest (by omega)
    simp [Value.tokens, enclosed, valueWithin?, hfields]

theorem itemsWithin?_succ (h : ReadsBack fuel) (items : List Value) (rest : List Token)
    (hitems : (itemTokens items).length < fuel + 1) :
    itemsWithin? (fuel + 1) (itemTokens items ++ .mark ']' :: rest) = some (items, rest) := by
  cases items with
  | nil => simp [itemTokens, itemsWithin?]
  | cons v items =>
    obtain ⟨t, ts, htokens, ht⟩ := v.exists_tokens_eq
    have hlength : v.tokens.length = ts.length + 1 := by simp [htokens]
    simp only [itemTokens, List.length_append] at hitems
    have hv := h.value v (itemTokens items ++ .mark ']' :: rest) (by omega)
    have hbehind := h.items items rest (by omega)
    rw [htokens, List.cons_append] at hv
    simp [itemTokens, itemsWithin?, htokens, ht, hv, hbehind]

theorem fieldsWithin?_succ (h : ReadsBack fuel) (right : Char) (fields : List (String × Value))
    (rest : List Token) (hfields : (fieldTokens fields).length < fuel + 1) :
    fieldsWithin? right (fuel + 1) (fieldTokens fields ++ .mark right :: rest) =
      some (fields, rest) := by
  cases fields with
  | nil => simp [fieldTokens, fieldsWithin?]
  | cons field fields =>
    obtain ⟨name, v⟩ := field
    simp only [fieldTokens, List.length_cons, List.length_append] at hfields
    have hv := h.value v (fieldTokens fields ++ .mark right :: rest) (by omega)
    have hbehind := h.fields right fields rest (by omega)
    simp [fieldTokens, fieldsWithin?, hv, hbehind]

end ReadsBack

theorem readsBack (fuel : Nat) : ReadsBack fuel := by
  induction fuel with
  | zero =>
    refine ⟨fun v rest h => ?_, fun _ _ h => absurd h (Nat.not_lt_zero _),
      fun _ _ _ h => absurd h (Nat.not_lt_zero _)⟩
    obtain ⟨t, ts, htokens, -⟩ := v.exists_tokens_eq
    simp [htokens] at h
  | succ fuel ih => exact ⟨ih.valueWithin?_succ, ih.itemsWithin?_succ, ih.fieldsWithin?_succ⟩

/-! ### What is read is what was written -/

/-- With so much fuel, what is read is what the tokens up to the rest write. -/
structure ReadsWritten (fuel : Nat) : Prop where
  value : ∀ {ts v rest}, valueWithin? fuel ts = some (v, rest) → ts = v.tokens ++ rest
  items : ∀ {ts items rest}, itemsWithin? fuel ts = some (items, rest) →
    ts = itemTokens items ++ .mark ']' :: rest
  fields : ∀ {right ts fields rest}, fieldsWithin? right fuel ts = some (fields, rest) →
    ts = fieldTokens fields ++ .mark right :: rest

namespace ReadsWritten

variable {fuel : Nat} {ts rest : List Token}

theorem of_valueWithin?_succ (h : ReadsWritten fuel) {v : Value}
    (hread : valueWithin? (fuel + 1) ts = some (v, rest)) : ts = v.tokens ++ rest := by
  cases ts with
  | nil => simp [valueWithin?] at hread
  | cons t ts =>
    cases t with
    | mark c =>
      simp only [valueWithin?] at hread
      split at hread
      · next hc =>
        obtain ⟨⟨items, behind⟩, hitems, heq⟩ := Option.map_eq_some_iff.mp hread
        obtain ⟨rfl, rfl⟩ := Prod.mk.inj heq
        simp [Value.tokens, enclosed, hc, h.items hitems]
      · split at hread
        · next hc =>
          obtain ⟨⟨fields, behind⟩, hfields, heq⟩ := Option.map_eq_some_iff.mp hread
          obtain ⟨rfl, rfl⟩ := Prod.mk.inj heq
          simp [Value.tokens, enclosed, hc, h.fields hfields]
        · simp at hread
    | _ =>
      obtain ⟨rfl, rfl⟩ := Prod.mk.inj (Option.some.inj hread)
      rfl

theorem of_itemsWithin?_succ (h : ReadsWritten fuel) {items : List Value}
    (hread : itemsWithin? (fuel + 1) ts = some (items, rest)) :
    ts = itemTokens items ++ .mark ']' :: rest := by
  rw [itemsWithin?] at hread
  split at hread
  · next hhead =>
    obtain ⟨rfl, rfl⟩ := Prod.mk.inj (Option.some.inj hread)
    exact (List.cons_head?_tail hhead).symm
  · simp only [Option.bind_eq_bind, Option.bind_eq_some_iff, Prod.exists, Option.some.injEq,
      Prod.mk.injEq] at hread
    obtain ⟨v, behind, hv, items', rest', hitems, rfl, rfl⟩ := hread
    rw [h.value hv, h.items hitems, itemTokens, List.append_assoc]

theorem of_fieldsWithin?_succ (h : ReadsWritten fuel) {right : Char}
    {fields : List (String × Value)}
    (hread : fieldsWithin? right (fuel + 1) ts = some (fields, rest)) :
    ts = fieldTokens fields ++ .mark right :: rest := by
  unfold fieldsWithin? at hread
  split at hread
  · simp at hread
  · next fuel' name ts' hfuel =>
    obtain rfl := Nat.succ.inj hfuel
    simp only [Option.bind_eq_bind, Option.bind_eq_some_iff, Prod.exists, Option.some.injEq,
      Prod.mk.injEq] at hread
    obtain ⟨v, behind, hv, fields', rest', hfields, rfl, rfl⟩ := hread
    rw [h.value hv, h.fields hfields]
    simp [fieldTokens]
  · split at hread
    · next hc =>
      obtain ⟨rfl, rfl⟩ := Prod.mk.inj (Option.some.inj hread)
      simp [fieldTokens, hc]
    · simp at hread
  · simp at hread

end ReadsWritten

theorem readsWritten (fuel : Nat) : ReadsWritten fuel := by
  induction fuel with
  | zero => constructor <;> simp [valueWithin?, itemsWithin?, fieldsWithin?]
  | succ fuel ih =>
    exact ⟨ih.of_valueWithin?_succ, ih.of_itemsWithin?_succ, ih.of_fieldsWithin?_succ⟩

/-! ### Selections -/

theorem optional?_optional {α : Type} {left right : Char} {tokens : List α → List Token}
    {inner? : List Token → Option (List α × List Token)} (items : List α) (rest : List Token)
    (hinner : items ≠ [] → inner? (tokens items ++ .mark right :: rest) = some (items, rest))
    (hrest : rest.head? ≠ some (.mark left)) :
    optional? left inner? (optional left right items.isEmpty (tokens items) ++ rest) =
      some (items, rest) := by
  by_cases hitems : items = []
  · simp [optional, optional?, hitems, hrest]
  · simp [optional, enclosed, optional?, hitems, hinner]

theorem eq_of_optional? {α : Type} {left right : Char} {tokens : List α → List Token}
    {inner? : List Token → Option (List α × List Token)} {items : List α} {ts rest : List Token}
    (hinner : ∀ ts items rest, inner? ts = some (items, rest) →
      ts = tokens items ++ .mark right :: rest)
    (h : optional? left inner? ts = some (items, rest)) :
    ts = optional left right items.isEmpty (tokens items) ++ rest := by
  rw [optional?] at h
  split at h
  · next hhead =>
    obtain ⟨hread, hne⟩ := Option.filter_eq_some_iff.mp h
    have hitems : items.isEmpty = false := by simpa using hne
    rw [optional, hitems, if_neg Bool.false_ne_true, enclosed, List.cons_append, List.append_assoc]
    rw [← List.cons_head?_tail hhead, hinner _ _ _ hread]
    rfl
  · obtain ⟨rfl, rfl⟩ := Prod.mk.inj (Option.some.inj h)
    rfl

theorem head?_selectionTokens_append (selections : List Selection) (rest : List Token) {c : Char}
    (hc : c ≠ '\x7d') :
    (selectionTokens selections ++ .mark '\x7d' :: rest).head? ≠ some (.mark c) := by
  cases selections with
  | nil => simpa [selectionTokens] using Ne.symm hc
  | cons s selections =>
    cases s
    simp [selectionTokens, Selection.tokens]

theorem head?_optional_append {isEmpty : Bool} {left right : Char} {inner rest : List Token}
    {c : Char} (hc : c ≠ left) (hrest : rest.head? ≠ some (.mark c)) :
    (optional left right isEmpty inner ++ rest).head? ≠ some (.mark c) := by
  cases isEmpty
  · simpa [optional, enclosed] using Ne.symm hc
  · simpa [optional] using hrest

theorem length_optional {α : Type} {items : List α} (left right : Char) (inner : List Token)
    (hitems : items ≠ []) : (optional left right items.isEmpty inner).length = inner.length + 2 := by
  simp [optional, enclosed, hitems]

theorem selectionsWithin?_append (fuel : Nat) (selections : List Selection) (rest : List Token)
    (h : (selectionTokens selections).length < fuel) :
    selectionsWithin? fuel (selectionTokens selections ++ .mark '\x7d' :: rest) =
      some (selections, rest) := by
  induction fuel generalizing selections rest with
  | zero => exact absurd h (Nat.not_lt_zero _)
  | succ fuel ih =>
    cases selections with
    | nil => simp [selectionTokens, selectionsWithin?]
    | cons s selections =>
      obtain ⟨name, arguments, inner⟩ := s
      simp only [selectionTokens, Selection.tokens, List.length_cons, List.length_append] at h
      have hbehind := ih selections rest (by omega)
      have hinner : optional? '\x7b' (selectionsWithin? fuel)
          (optional '\x7b' '\x7d' inner.isEmpty (selectionTokens inner) ++
            (selectionTokens selections ++ .mark '\x7d' :: rest)) =
          some (inner, selectionTokens selections ++ .mark '\x7d' :: rest) := by
        apply optional?_optional
        · intro hne
          have hlength := length_optional '\x7b' '\x7d' (selectionTokens inner) hne
          exact ih inner _ (by omega)
        · exact head?_selectionTokens_append selections rest (by decide)
      have harguments : optional? '(' (fieldsWithin? ')' fuel)
          (optional '(' ')' arguments.isEmpty (fieldTokens arguments) ++
            (optional '\x7b' '\x7d' inner.isEmpty (selectionTokens inner) ++
              (selectionTokens selections ++ .mark '\x7d' :: rest))) =
          some (arguments, optional '\x7b' '\x7d' inner.isEmpty (selectionTokens inner) ++
            (selectionTokens selections ++ .mark '\x7d' :: rest)) := by
        apply optional?_optional
        · intro hne
          have hlength := length_optional '(' ')' (fieldTokens arguments) hne
          exact (readsBack fuel).fields ')' arguments _ (by omega)
        · exact head?_optional_append (by decide)
            (head?_selectionTokens_append selections rest (by decide))
      simp [selectionTokens, Selection.tokens, selectionsWithin?, harguments, hinner, hbehind]

theorem eq_of_selectionsWithin? {fuel : Nat} {ts rest : List Token} {selections : List Selection}
    (h : selectionsWithin? fuel ts = some (selections, rest)) :
    ts = selectionTokens selections ++ .mark '\x7d' :: rest := by
  induction fuel generalizing ts selections rest with
  | zero => simp [selectionsWithin?] at h
  | succ fuel ih =>
    unfold selectionsWithin? at h
    split at h
    · simp at h
    · next fuel' name ts' hfuel =>
      obtain rfl := Nat.succ.inj hfuel
      simp only [Option.bind_eq_bind, Option.bind_eq_some_iff, Prod.exists, Option.some.injEq,
        Prod.mk.injEq] at h
      obtain ⟨arguments, ts₁, harguments, inner, ts₂, hinner, behind, ts₃, hbehind, rfl, rfl⟩ := h
      rw [eq_of_optional? (fun _ _ _ => (readsWritten fuel).fields) harguments,
        eq_of_optional? (fun _ _ _ => ih) hinner, ih hbehind]
      simp [selectionTokens, Selection.tokens]
    · split at h
      · next hc =>
        obtain ⟨rfl, rfl⟩ := Prod.mk.inj (Option.some.inj h)
        simp [selectionTokens, hc]
      · simp at h
    · simp at h

/-! ### Texts -/

theorem complete?_eq_some_iff {α : Type} {read : Option (α × List Token)} {a : α} :
    complete? read = some a ↔ read = some (a, []) := by
  unfold complete?
  split <;> simp_all

theorem value?_eq_some_iff {ts : List Token} {v : Value} : value? ts = some v ↔ ts = v.tokens := by
  rw [value?, complete?_eq_some_iff]
  constructor
  · intro h
    rw [(readsWritten ts.length).value h, List.append_nil]
  · rintro rfl
    have hread := (readsBack v.tokens.length).value v [] le_rfl
    rwa [List.append_nil] at hread

theorem selections?_eq_some_iff {ts : List Token} {selections : List Selection} :
    selections? ts = some selections ↔
      selections ≠ [] ∧ ts = enclosed '\x7b' '\x7d' (selectionTokens selections) := by
  constructor
  · intro h
    unfold selections? at h
    split at h
    · split at h
      · next hc =>
        obtain ⟨hread, hne⟩ := Option.filter_eq_some_iff.mp h
        rw [complete?_eq_some_iff] at hread
        exact ⟨by simpa using hne, by rw [hc, eq_of_selectionsWithin? hread, enclosed]⟩
      · simp at h
    · simp at h
  · rintro ⟨hne, rfl⟩
    have hread := selectionsWithin?_append ((selectionTokens selections).length + 1) selections []
      (Nat.lt_succ_self _)
    simp [selections?, enclosed, hread, complete?, hne]

theorem operation?_eq_some_iff {ts : List Token} {o : Operation} :
    operation? ts = some o ↔ o.selections ≠ [] ∧ ts = o.tokens := by
  constructor
  · intro h
    unfold operation? at h
    split at h
    · split at h
      · next hkeyword =>
        obtain ⟨selections, hread, rfl⟩ := Option.map_eq_some_iff.mp h
        obtain ⟨hne, rfl⟩ := selections?_eq_some_iff.mp hread
        exact ⟨hne, by rw [hkeyword, Operation.tokens]⟩
      · simp at h
    · simp at h
  · rintro ⟨hne, rfl⟩
    have hread := selections?_eq_some_iff.mpr ⟨hne, rfl⟩
    simp [operation?, Operation.tokens, hread]

/-- A text is read as what its tokens are read as, and it has one list of tokens. -/
theorem bind_tokens?_eq_some_iff {α : Type} {text : String} {read? : List Token → Option α} {a : α}
    {written : List Token} {p : Prop} (h : ∀ ts, read? ts = some a ↔ p ∧ ts = written) :
    (tokens? text.toList).bind read? = some a ↔ p ∧ Lexes text.toList written := by
  rw [Option.bind_eq_some_iff]
  constructor
  · rintro ⟨ts, hts, hread⟩
    obtain ⟨hp, rfl⟩ := (h ts).mp hread
    exact ⟨hp, tokens?_eq_some_iff.mp hts⟩
  · rintro ⟨hp, hlexes⟩
    exact ⟨written, tokens?_eq_some_iff.mpr hlexes, (h written).mpr ⟨hp, rfl⟩⟩

theorem readValue?_eq_some_iff {text : String} {v : Value} :
    readValue? text = some v ↔ v.Derives text := by
  rw [Value.Derives, ← true_and (Lexes _ _)]
  exact bind_tokens?_eq_some_iff fun _ => by rw [value?_eq_some_iff, true_and]

/-- Commas are blanks, and three quotes are not two strings. -/
example : (readValue? "[1,,-2.5e3 \x7ba: \"\"\x7d]").isSome ∧ (readValue? "[\"\"\"\"]").isNone := by
  decide +kernel

theorem readSelections?_eq_some_iff {text : String} {selections : List Selection} :
    readSelections? text = some selections ↔ DerivesSelections text selections :=
  bind_tokens?_eq_some_iff fun _ => selections?_eq_some_iff

/-- A document is read as the operation that it derives, and it derives no other. -/
theorem read?_eq_some_iff {text : String} {o : Operation} :
    read? text = some o ↔ o.Derives text :=
  bind_tokens?_eq_some_iff fun _ => operation?_eq_some_iff

end SchemaExplorer.Query
