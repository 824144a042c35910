import DialogueScript.Compile.Conversation
import DialogueScript.Graph.Lowering

/- Compiling the text of one script: read, number, resolve the conversations, compile the
   triggers. -/
namespace DialogueScript

def schemaVersion : UInt32 := 1

structure CompiledScript where
  version : UInt32 := schemaVersion
  graph : Graph := {}
  diagnostics : List Diagnostic := []
deriving DecidableEq, Repr

/-- The lines of a text, trimmed and without the blank ones, each ended by a line feed. A text
without such lines is a single line feed. -/
def preprocess (text : List Char) : List Char :=
  let lines := ((Text.lines text).map Text.trim).filter (!·.isEmpty)
  ['\n'].intercalate lines ++ ['\n']

def isBlankText (text : String) : Bool := text.toList.all Text.isBlank

def lineAt (text : List Char) (number : Nat) : String :=
  String.ofList ((Text.lines text).getD (number - 1) [])

def readScript (options : Options) (text : String) : Except SourceError Script :=
  let prepared := preprocess text.toList
  match options.reader (String.ofList prepared) with
  | .ok script => .ok script
  | .error error => .error (.refused error (lineAt prepared error.line))

def lowerScript (options : Options) (scope : String) (script : Script) :
    Except SourceError (Graph × List Diagnostic) :=
  match Graph.ofScript scope options.topicConflicts script with
  | .ok lowered => .ok lowered
  | .error (.repeatedTopic name) => .error (.repeatedTopic name)
  | .error .identifiersExhausted => .error .identifiersExhausted

def resolveSource (options : Options) (name text : String) :
    Except SourceError (Graph × List Diagnostic) := do
  let script ← readScript options text
  let (graph, repeated) ← lowerScript options name script
  let (graph, unresolved) ← graph.revise (Graph.Gambit.resolveConversation options graph)
  return (graph, repeated ++ unresolved)

def compileText (options : Options) (expander : Concept.Expander) (name text : String) :
    Except SourceError CompiledScript × Concept.Expander :=
  if isBlankText text then (.ok {}, expander)
  else
    match resolveSource options name text with
    | .error error => (.error error, expander)
    | .ok (graph, diagnostics) =>
      let (compiled, expander) := graph.compileTriggers options expander
      (compiled.map fun (graph, unexpanded) =>
        { graph, diagnostics := diagnostics ++ unexpanded }, expander)

def compileSource (options : Options) (name text : String) : Except SourceError CompiledScript :=
  (compileText options options.expander name text).1

end DialogueScript
