/-!
TOML values, and how the keys and headers of a document build up its tables.
-/

namespace SchemaExplorer

/-- How a table came into a document, which says how it may grow. -/
inductive Toml.Origin where
  /-- written in braces; it is closed -/
  | inline
  /-- written by its own header; dotted keys elsewhere may not add to it -/
  | header
  /-- named on the way to another header -/
  | implied
  /-- named on the way to a dotted key -/
  | dotted
deriving DecidableEq, Repr

/-- A value of a document. Numbers are only checked, and not kept; a date or a time is kept as its
text. -/
inductive Toml where
  | string (text : String)
  | number
  | boolean (value : Bool)
  | dateTime (text : String)
  | array (items : List Toml)
  | table (origin : Toml.Origin) (entries : List (String × Toml))
  | tables (rows : List (List (String × Toml)))

namespace Toml

abbrev Entries := List (String × Toml)

/-- The entries with another value under `key`. -/
def setEntry (key : String) (value : Toml) (entries : Entries) : Entries :=
  entries.map fun entry => if entry.1 = key then (key, value) else entry

/-- Changes the table that `path` leads to from a table of the given origin. Tables that are
missing on the way are made: dotted ones for a dotted key, implied ones for a header. In an array
of tables the way goes through the last of them. -/
def changeAt (dotted : Bool) (change : Origin → Entries → Option Entries) :
    List String → Origin → Entries → Option Entries
  | [], origin, entries => change origin entries
  | key :: path, _, entries =>
    match entries.lookup key with
    | none => do
      let origin := if dotted then .dotted else .implied
      let below ← changeAt dotted change path origin []
      some (entries ++ [(key, table origin below)])
    | some (table origin below) => do
      guard (origin != .inline && !(dotted && origin == .header))
      let below ← changeAt dotted change path origin below
      some (setEntry key (table origin below) entries)
    | some (tables rows) => do
      let below ← changeAt dotted change path .header (← rows.getLast?)
      some (setEntry key (tables (rows.dropLast ++ [below])) entries)
    | some _ => none

/-- Enters a value under a dotted key. The key must be new. A table that a header made, or that
headers imply, takes no dotted key, and a dotted table takes no other. -/
def insert (path : List String) (key : String) (value : Toml) (origin : Origin)
    (entries : Entries) : Option Entries :=
  changeAt true
    (fun origin entries => do
      guard ((origin == .dotted) != path.isEmpty && (entries.lookup key).isNone)
      some (entries ++ [(key, value)]))
    path origin entries

/-- Opens the table of a header. A table that is there must have been implied only. -/
def openTable (path : List String) (key : String) (root : Entries) : Option Entries :=
  changeAt false
    (fun _ entries =>
      match entries.lookup key with
      | none => some (entries ++ [(key, table .header [])])
      | some (table .implied below) => some (setEntry key (table .header below) entries)
      | some _ => none)
    path .header root

/-- Adds a table to the array of tables of a header. -/
def openRow (path : List String) (key : String) (root : Entries) : Option Entries :=
  changeAt false
    (fun _ entries =>
      match entries.lookup key with
      | none => some (entries ++ [(key, tables [[]])])
      | some (tables rows) => some (setEntry key (tables (rows ++ [[]])) entries)
      | some _ => none)
    path .header root

end Toml

end SchemaExplorer
