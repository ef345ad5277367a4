import SchemaExplorer.Text.Split

/-!
Paths of files, with `/` between their parts.
-/

namespace SchemaExplorer.Path

/-- The parts of a path as written, the empty ones included. -/
def parts (path : String) : List String :=
  Text.split '/' path

/-- The name of the file or directory that a path ends with. Empty parts and single dots at its
end do not count; there is no name if it ends with two dots. -/
def fileName? (path : String) : Option String :=
  ((parts path).filter fun part => part != "" && part != ".").getLast?.filter (· != "..")

/-- What follows the last dot of a name, unless nothing is before that dot. -/
def nameExtension? (name : String) : Option String :=
  match name.toList.reverse.dropWhile (· != '.') with
  | '.' :: _ :: _ => some (String.ofList (name.toList.reverse.takeWhile (· != '.')).reverse)
  | _ => none

/-- The extension of the file that a path names. -/
def extension? (path : String) : Option String :=
  (fileName? path).bind nameExtension?

/-- The path of an entry of a directory. -/
def child (directory name : String) : String :=
  if directory.toList.getLast? = some '/' then directory ++ name else directory ++ "/" ++ name

end SchemaExplorer.Path
