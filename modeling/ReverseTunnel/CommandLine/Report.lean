/-!
# The report of a failure

A failure is reported by what failed, and below it by what caused it, the nearest
cause first. One cause stands alone; several are numbered. The later lines of a
cause are indented as its first one.
-/

namespace ReverseTunnel.CommandLine

/-- What failed, and its causes. -/
structure Report where
  failure : String
  causes : List String
  deriving DecidableEq

namespace Report

/-- A text whose lines but the first are indented. -/
def indentLines (indent : String) (text : String) : String :=
  String.ofList (text.toList.flatMap fun c => if c = '\n' then '\n' :: indent.toList else [c])

/-- The lines of the only cause. -/
def causeText (cause : String) : String := "    " ++ indentLines "    " cause ++ "\n"

/-- The lines of one of several causes; the numbers stand at the right of five places. -/
def numberedText (number : Nat) (cause : String) : String :=
  let digits := toString number
  String.ofList (List.replicate (5 - digits.length) ' ') ++ digits ++ ": " ++
    indentLines "       " cause ++ "\n"

/-- The lines of the causes. -/
def causesText : List String → String
  | [cause] => causeText cause
  | causes => String.join (causes.zipIdx.map fun c => numberedText c.2 c.1)

/-- The written form of a report. -/
def text (r : Report) : String :=
  "Error: " ++ r.failure ++ "\n" ++
    if r.causes.isEmpty then "" else "\nCaused by:\n" ++ causesText r.causes

end Report

end ReverseTunnel.CommandLine
