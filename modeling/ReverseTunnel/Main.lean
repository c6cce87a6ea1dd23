import ReverseTunnel.CommandLine.Run

/-!
# The program

The program reads the files that its words name, runs the command on them, writes
the report of a failure to the error stream and ends with the exit code. The
sockets are those of an isolated host on which no address is taken.
-/

namespace ReverseTunnel.CommandLine

/-- The words that can be paths: each word, and what a word has behind `=`. -/
def candidatePaths (words : List String) : List String :=
  words ++ words.filterMap fun word => (Text.splitFirst '=' word).map Prod.snd

/-- A directory stands at a path. -/
def isDirectory (path : String) : IO Bool := do
  try
    (← IO.FS.realPath path).isDir
  catch _ => return false

/-- Adds what stands at a path to a file tree. -/
def addPath (tree : FileTree) (path : String) : IO FileTree := do
  try
    let content ← IO.FS.readBinFile path
    return { tree with files := tree.files.insert path content.toList }
  catch _ =>
    if ← isDirectory path then
      return { tree with directories := path :: tree.directories }
    return tree

/-- The variables of the environment that stand in for options. -/
def readEnvironment : IO (NameMap String) :=
  variableNames.foldlM (fun known name => do
    match ← IO.getEnv name with
    | some value => return known.insert name value
    | none => return known) .empty

/-- Runs the command that the words give. -/
def perform (words : List String) : IO UInt32 := do
  let tree ← (candidatePaths words).foldlM addPath .empty
  let outcome := run ⟨⟨[], tree⟩, ← readEnvironment, none⟩ words
  if let some report := outcome.report? then
    IO.eprint report.text
  return outcome.exitCode.toUInt32

end ReverseTunnel.CommandLine

/-- The program's entry point. -/
def main (words : List String) : IO UInt32 := ReverseTunnel.CommandLine.perform words
