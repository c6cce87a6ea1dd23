import ReverseTunnel.Bytes
import ReverseTunnel.NameMap
import ReverseTunnel.SystemError
import ReverseTunnel.Text.Split

/-!
# Files and directories

The part of a file system that a run can see: some files with their content, and
some directories. A path names what stands under exactly that spelling; an
absolute path of which nothing is known leads to a missing file.
-/

namespace ReverseTunnel

/-- Files by path, and the directories that are known to exist. -/
structure FileTree where
  files : NameMap Bytes
  directories : List String

namespace FileTree

/-- No files, and only the root and the current directory. -/
def empty : FileTree := ⟨.empty, ["", "."]⟩

/-- The path of the directory that holds a path. -/
def parent (path : String) : String :=
  match Text.splitLast '/' path with
  | some (directory, _) => directory
  | none => "."

/-- The directory exists. -/
def hasDirectory (t : FileTree) (path : String) : Bool := t.directories.contains path

/-- Something stands at a path. -/
def exists? (t : FileTree) (path : String) : Bool :=
  t.files.contains path || t.hasDirectory path

/-- Why nothing can be found under a path: a part of it is a file, or is missing. -/
def missing (t : FileTree) (path : String) : SystemError :=
  if t.files.contains (parent path) then .notADirectory else .noSuchFile

/-- The content of a file. -/
def read (t : FileTree) (path : String) : Except SystemError Bytes :=
  match t.files.get? path with
  | some content => .ok content
  | none => if t.hasDirectory path then .error .isADirectory else .error (t.missing path)

/-- The content of a file as a text. -/
def readText (t : FileTree) (path : String) : Except SystemError String :=
  match t.read path with
  | .error e => .error e
  | .ok content =>
    match text? content with
    | some s => .ok s
    | none => .error .notUtf8

end FileTree

end ReverseTunnel
