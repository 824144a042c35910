import DialogueScript.Compile.Directory

/- The report on a run, for people to read. -/
namespace DialogueScript.Command

inductive Stage where
  | total
  | scan
  | file (path : String)
deriving DecidableEq, Repr

/-- The words of a run that do not follow from its result: how long things took, and what is wrong
with a malformed file. -/
structure Wording where
  elapsed : Stage → String
  malformed : String

inductive Style where
  | dim
  | bold
  | green
  | yellow
  | red
  | blue
  | cyan
  | gray
deriving DecidableEq, Repr

def Style.code : Style → String
  | .dim => "\x1b[2m"
  | .bold => "\x1b[1m"
  | .green => "\x1b[32m"
  | .yellow => "\x1b[33m"
  | .red => "\x1b[31m"
  | .blue => "\x1b[34m"
  | .cyan => "\x1b[36m"
  | .gray => "\x1b[90m"

def paint (color : Bool) (style : Style) (text : String) : String :=
  if color then style.code ++ text ++ "\x1b[0m" else text

def unlines (lines : List String) : String :=
  String.join (lines.map (· ++ "\n"))

def furtherLines (message : String) : List String :=
  ((Text.lines message.toList).drop 1).map String.ofList

section
variable (wording : Wording) (color : Bool)

def countsLine (file : FileCounts) : String :=
  let counts := s!"{file.topics} topics, {file.gambits} gambits, {file.replies} replies in "
  "  " ++ paint color .green "✓" ++ " " ++ paint color .blue file.path ++ " " ++
    paint color .dim "│" ++ " " ++ paint color .dim (counts ++ wording.elapsed (.file file.path))

def unchangedLine (path : String) : String :=
  "  " ++ paint color .dim "=" ++ " " ++ paint color .dim path ++ " " ++
    paint color .dim "(unchanged)"

def failureLines (failure : FileFailure) : List String :=
  ("  " ++ paint color .red "✗" ++ " " ++ paint color .red failure.path) ::
    (furtherLines failure.error.message).map fun line => "      " ++ paint color .dim line

def diagnosticLine (entry : String × Diagnostic) : String :=
  "  " ++ paint color .yellow "!" ++ " " ++ paint color .dim (entry.1 ++ ":") ++ " " ++
    entry.2.display

def scriptLines (run : CompiledDirectory) : List String :=
  (if run.recompiled.isEmpty && run.unchanged.isEmpty && run.failures.isEmpty then
    [paint color .dim "  No scripts found"] else []) ++
    run.files.map (countsLine wording color) ++
    run.unchanged.map (unchangedLine color) ++
    run.failures.flatMap (failureLines color)

def diagnosticLines (run : CompiledDirectory) : List String :=
  if run.diagnostics.isEmpty then []
  else ["", paint color .gray "━━━ Diagnostics ━━━"] ++ run.diagnostics.map (diagnosticLine color)

def knowledgeLine (base : KnowledgeBase) : String :=
  let count (n : Nat) : String := paint color .bold (paint color .green (toString n))
  if base.isEmpty then paint color .dim "  Empty (no complete topic/gambit/reply set)"
  else
    "  Topics: " ++ count base.graph.topics.size ++ "  │  Gambits: " ++
      count base.graph.gambits.size ++ "  │  Replies: " ++ count base.graph.replies.size

def timingLine (run : CompiledDirectory) : String :=
  "  Total: " ++ paint color .green (wording.elapsed .total) ++
    "  │  Scan: " ++ paint color .cyan (wording.elapsed .scan) ++
    "  │  Compiled: " ++ paint color .dim (toString run.recompiled.length) ++
    "  │  Unchanged: " ++ paint color .dim (toString run.unchanged.length)

def report (root : String) (run : CompiledDirectory) : String :=
  unlines (
    ["", paint color .bold (paint color .cyan ("⚙  Compiling: " ++ root)),
      "", paint color .gray "━━━ Scripts ━━━"] ++
    scriptLines wording color run ++
    diagnosticLines color run ++
    ["", paint color .gray "━━━ Knowledge base ━━━", knowledgeLine color run.knowledgeBase,
      "", paint color .gray "━━━ Timing ━━━", timingLine wording color run, ""])

end

end DialogueScript.Command
