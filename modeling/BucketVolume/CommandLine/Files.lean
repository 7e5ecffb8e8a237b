/-!
# BucketVolume.CommandLine.Files — the files that commands read

A path is read in two steps: its directory is entered, then the file of its last name is read in it.
`FileTree` holds files and directories by the names that lead to them from the working directory.
-/

namespace BucketVolume.CommandLine

/-- Why a file cannot be read. -/
inductive FileProblem where
  | noFileName
  | notFound
  | notDirectory
  | isDirectory
  | notText
  | other (message : String)
deriving DecidableEq, Repr

/-- The wording of the problem. -/
def FileProblem.message (path : String) : FileProblem → String
  | .noFileName => "path has no file name: " ++ path
  | .notFound => "No such file or directory (os error 2)"
  | .notDirectory => "Not a directory (os error 20)"
  | .isDirectory => "Is a directory (os error 21)"
  | .notText => "stream did not contain valid UTF-8"
  | .other message => message

/-- A path: whether it starts at the root, the names of its directories, and its last name. -/
structure FilePath where
  absolute : Bool
  directories : List String
  fileName : String
deriving DecidableEq, Repr

/-- Reads a path. Empty names and single dots lead nowhere; a path without a last name, or with two
dots for one, names no file. -/
def FilePath.parse? (path : String) : Option FilePath :=
  let names := (path.splitOn "/").filter fun name => name != "" && name != "."
  match names.getLast? with
  | none => none
  | some ".." => none
  | some fileName => some ⟨path.toList.head? == some '/', names.dropLast, fileName⟩

/-- Files, and directories (`none`), by the names that lead to them. -/
structure FileTree where
  entries : List (List String × Option (List UInt8))

namespace FileTree

/-- The tree of paths and contents. -/
def ofPaths (files : List (String × Option (List UInt8))) : FileTree :=
  ⟨files.map fun (path, content) => ((path.splitOn "/").filter (· != ""), content)⟩

/-- Whether names lead to a directory: the working directory, a listed one, or one that holds
something. -/
def isDirectory (tree : FileTree) (names : List String) : Bool :=
  names.isEmpty || tree.entries.any fun (path, content) =>
    names.isPrefixOf path && (content.isNone || names.length < path.length)

/-- The content of the file to which names lead. -/
def content? (tree : FileTree) (names : List String) : Option (List UInt8) :=
  (tree.entries.lookup names).join

/-- Enters a directory. Above the working directory the tree knows of nothing. -/
def enter (tree : FileTree) (here : List String) (name : String) :
    Except FileProblem (List String) :=
  if name = ".." then
    if here.isEmpty then .error .notFound else .ok here.dropLast
  else if tree.isDirectory (here ++ [name]) then .ok (here ++ [name])
  else if (tree.content? (here ++ [name])).isSome then .error .notDirectory
  else .error .notFound

/-- Reads a file. -/
def read (tree : FileTree) (path : String) : Except FileProblem (List UInt8) :=
  match FilePath.parse? path with
  | none => .error .noFileName
  | some file =>
    if file.absolute then .error .notFound
    else do
      let here ← file.directories.foldlM tree.enter []
      if tree.isDirectory (here ++ [file.fileName]) then throw .isDirectory
      match tree.content? (here ++ [file.fileName]) with
      | some content => return content
      | none => throw .notFound

end FileTree

/-- The text of a file's content. -/
def textOfContent (content : List UInt8) : Except FileProblem String :=
  match String.fromUTF8? ⟨content.toArray⟩ with
  | some text => .ok text
  | none => .error .notText

end BucketVolume.CommandLine
