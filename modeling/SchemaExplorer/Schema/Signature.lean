import SchemaExplorer.Text.Blank

/-!
References to types, such as `[Country!]!`. A signature keeps the name at the core of a reference
and its outermost wrapping only: one list flag and one non-null flag.
-/

namespace SchemaExplorer

/-- The characters that wrap the name in a reference. -/
def isWrapper (c : Char) : Bool :=
  c == '[' || c == ']' || c == '!'

/-- The name at the core of a reference. -/
def bareTypeName (reference : String) : String :=
  Text.strip isWrapper (Text.trim reference)

structure Signature where
  typeName : String
  isList : Bool
  isNonNull : Bool
deriving DecidableEq, Repr

namespace Signature

/-- Takes a reference apart. It is non-null if it ends with `!`, and a list if brackets stand at
both ends of what comes before that. -/
def parse (reference : String) : Signature :=
  let cs := Text.trimChars reference.toList
  let isNonNull := cs.getLast? == some '!'
  let wrapped := if isNonNull then cs.dropLast else cs
  { typeName := bareTypeName reference
    isList := wrapped.head? == some '[' && wrapped.getLast? == some ']'
    isNonNull := isNonNull }

/-- The reference that a signature stands for: brackets first, then the final `!`. -/
def text (s : Signature) : String :=
  (if s.isList then "[" ++ s.typeName ++ "]" else s.typeName) ++ (if s.isNonNull then "!" else "")

end Signature

end SchemaExplorer
