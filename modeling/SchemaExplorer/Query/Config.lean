import SchemaExplorer.OrderedMap

/-!
The tables from which queries are filled in.
-/

namespace SchemaExplorer.Query

/-- The selection set for a type, by its name; and the literal for an argument called `code` that
has no value, by the name of its field. -/
structure Config where
  selectionSets : OrderedMap String
  codePlaceholders : OrderedMap String
deriving DecidableEq

namespace Config

def empty : Config :=
  { selectionSets := .empty, codePlaceholders := .empty }

/-- The tables for an API about countries. -/
def builtin : Config :=
  { selectionSets := .ofList
      [("Country", "\x7b code name emoji capital continent \x7b name \x7d \x7d"),
        ("Continent", "\x7b code name countries \x7b name code \x7d \x7d"),
        ("Language", "\x7b code name native \x7d"),
        ("State", "\x7b code name \x7d"),
        ("Subdivision", "\x7b code name \x7d"),
        ("User", "\x7b id name email \x7d")]
    codePlaceholders := .ofList [("continent", "\"NA\""), ("country", "\"US\"")] }

/-- Lays `other` over `c`: where both have an entry, that of `other` counts. -/
def merge (c other : Config) : Config :=
  { selectionSets := c.selectionSets.merge other.selectionSets
    codePlaceholders := c.codePlaceholders.merge other.codePlaceholders }

def selectionSet? (c : Config) (typeName : String) : Option String :=
  c.selectionSets.get? typeName

def codePlaceholder? (c : Config) (fieldName : String) : Option String :=
  c.codePlaceholders.get? fieldName

end Config

end SchemaExplorer.Query
