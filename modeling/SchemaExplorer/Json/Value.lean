/-!
JSON values as they are written: the entries of an object in their order, with repeated keys.
-/

namespace SchemaExplorer

/-- A JSON value. A number is kept as its text. A string is `none` if it has an escaped surrogate
without its partner: such a string may be written, but it stands for no text. -/
inductive Json where
  | null
  | bool (value : Bool)
  | number (text : String)
  | string (text : Option String)
  | array (items : List Json)
  | object (entries : List (Option String × Json))

namespace Json

/-! ### Building values -/

def text (s : String) : Json :=
  string (some s)

def nat (n : Nat) : Json :=
  number (toString n)

def optional (s : Option String) : Json :=
  match s with
  | some s => text s
  | none => null

def texts (ss : List String) : Json :=
  array (ss.map text)

def record (entries : List (String × Json)) : Json :=
  object (entries.map fun entry => (some entry.1, entry.2))

/-! ### Taking values apart -/

def text? : Json → Option String
  | string (some s) => some s
  | _ => none

def bool? : Json → Option Bool
  | bool b => some b
  | _ => none

/-- A text or `null`. -/
def optional? : Json → Option (Option String)
  | null => some none
  | string (some s) => some (some s)
  | _ => none

def array? : Json → Option (List Json)
  | array items => some items
  | _ => none

/-- The items of an array, each read by `item?`. -/
def listOf? {α : Type} (item? : Json → Option α) (j : Json) : Option (List α) :=
  j.array?.bind (·.mapM item?)

/-- The entries of an object whose keys are all texts. -/
def entries? : Json → Option (List (String × Json))
  | object entries => entries.mapM fun entry => entry.1.map fun key => (key, entry.2)
  | _ => none

/-! ### Records

A record has fields of known names. It is written as an object, or as the array of its values in
the order of the names. -/

/-- The values under each of the names, of which none may be repeated. Other keys do not count. -/
def fieldsOf? (names : List String) (entries : List (String × Json)) :
    Option (List (Option Json)) :=
  names.mapM fun name =>
    match entries.filter (·.1 = name) with
    | [] => some none
    | [entry] => some (some entry.2)
    | _ => none

/-- The values of a record's fields, in the order of `names`; an object may leave some out. -/
def fields? (names : List String) (j : Json) : Option (List (Option Json)) :=
  match j with
  | array items => if items.length = names.length then some (items.map some) else none
  | _ => j.entries?.bind (fieldsOf? names)

end Json

end SchemaExplorer
