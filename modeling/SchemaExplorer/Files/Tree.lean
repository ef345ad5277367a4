import SchemaExplorer.Files.Path

/-!
Trees of files and directories: how a tree is built up, what a path leads to, and in which order
a walk meets what is below a directory.
-/

namespace SchemaExplorer

/-- A file with its content, or a directory with its entries by name, in no particular order. -/
inductive FileTree where
  | file (content : ByteArray)
  | directory (entries : List (String × FileTree))

/-- Why a path leads nowhere, or to what cannot be read as a text. -/
inductive FileError where
  | notFound
  | notDirectory
  | isDirectory
  | nameTooLong
  | nulInPath
  | notText
  | other (text : String)
deriving DecidableEq, Repr

def FileError.message : FileError → String
  | notFound => "No such file or directory (os error 2)"
  | notDirectory => "Not a directory (os error 20)"
  | isDirectory => "Is a directory (os error 21)"
  | nameTooLong => "File name too long (os error 36)"
  | nulInPath => "file name contained an unexpected NUL byte"
  | notText => "stream did not contain valid UTF-8"
  | other text => text

namespace FileTree

def empty : FileTree :=
  directory []

def entries : FileTree → List (String × FileTree)
  | file _ => []
  | directory es => es

/-! ### Building -/

/-- The entries with `tree` under `name`. -/
def setEntry (name : String) (tree : FileTree) :
    List (String × FileTree) → List (String × FileTree)
  | [] => [(name, tree)]
  | entry :: rest =>
    if entry.1 = name then (name, tree) :: rest else entry :: setEntry name tree rest

/-- The tree after `change` at the place that the names lead to, with directories on the way. -/
def changeAt (change : FileTree → FileTree) : List String → FileTree → FileTree
  | [], tree => change tree
  | name :: names, tree =>
    let below := (tree.entries.lookup name).getD empty
    directory (setEntry name (changeAt change names below) tree.entries)

/-- The names in a path that leads downwards. -/
def names (path : String) : List String :=
  (Path.parts path).filter fun part => part != "" && part != "."

def addFile (tree : FileTree) (path : String) (content : ByteArray) : FileTree :=
  changeAt (fun _ => file content) (names path) tree

/-- Adds a directory, unless there is one. -/
def addDirectory (tree : FileTree) (path : String) : FileTree :=
  changeAt (fun below => directory below.entries) (names path) tree

/-! ### Following a path -/

/-- The largest number of bytes in a name, and in a path with the byte that ends it. -/
def nameLimit : Nat := 255

def pathLimit : Nat := 4096

/-- Whether a path has too many bytes to be opened. -/
def isPathTooLong (path : String) : Bool :=
  pathLimit ≤ path.utf8ByteSize

/-- Follows the parts of a path from `here`, below `above`, the nearest first. -/
def follow (above : List FileTree) (here : FileTree) : List String → Except FileError FileTree
  | [] => .ok here
  | part :: parts =>
    match here with
    | file _ => .error .notDirectory
    | directory es =>
      if part = "" || part = "." then follow above here parts
      else if part = ".." then
        match above with
        | [] => .error .notFound
        | parent :: above => follow above parent parts
      else if nameLimit < part.utf8ByteSize then .error .nameTooLong
      else
        match es.lookup part with
        | some below => follow (here :: above) below parts
        | none => .error .notFound

/-- What a path leads to from the tree's own directory. Nothing is found outside of the tree. -/
def resolve (tree : FileTree) (path : String) : Except FileError FileTree :=
  if path.toList.contains '\x00' then .error .nulInPath
  else if isPathTooLong path then .error .nameTooLong
  else if path = "" || path.toList.head? = some '/' then .error .notFound
  else follow [] tree (Path.parts path)

/-! ### Walking -/

/-- A place that a walk comes to; a file has its content. -/
structure Visit where
  path : String
  content? : Option ByteArray

/-- Whether a walk ends at a place: it is a directory, and its path is too long to be opened. -/
def Visit.isBlocked (v : Visit) : Bool :=
  v.content?.isNone && isPathTooLong v.path

mutual

/-- The places from `path` on downwards, each directory before its entries, and these in the
order of their names. -/
def visits (path : String) : FileTree → List Visit
  | file content => [⟨path, some content⟩]
  | directory es =>
    ⟨path, none⟩ ::
      ((entryVisits path es).mergeSort fun a b => decide (a.1 ≤ b.1)).flatMap Prod.snd

/-- The names of the entries, each with the places from there on. -/
def entryVisits (path : String) : List (String × FileTree) → List (String × List Visit)
  | [] => []
  | (name, tree) :: es => (name, visits (Path.child path name) tree) :: entryVisits path es

end

end FileTree

/-- What each path leads to. -/
abbrev FileSystem := String → Except FileError FileTree

namespace FileSystem

/-- The text of a file's content. -/
def text? (content : ByteArray) : Except FileError String :=
  match String.fromUTF8? content with
  | some text => .ok text
  | none => .error .notText

/-- The text of the file that a path leads to. -/
def readText (files : FileSystem) (path : String) : Except FileError String :=
  match files path with
  | .ok (.file content) => text? content
  | .ok (.directory _) => .error .isDirectory
  | .error e => .error e

end FileSystem

end SchemaExplorer
