import DialogueScript.Concept.Source
import DialogueScript.Graph.Merge
import DialogueScript.Pattern.Reader
import DialogueScript.Regex.Parser
import DialogueScript.Script.Reader

/- What can be chosen about a compilation. -/
namespace DialogueScript

abbrev Checksums := Std.ExtTreeMap String String

/-- Whether a script that fails ends the compilation of its directory or is left out. -/
inductive FailurePolicy where
  | failFast
  | skip
deriving DecidableEq, Repr

structure Options where
  sources : Concept.Sources := {}
  cache : Checksums := ∅
  extension : String := "ss"
  failurePolicy : FailurePolicy := .failFast
  topicConflicts : TopicConflict := .extend
  reader : Script.Reader := Script.read
  grammar : Pattern.Grammar := Pattern.grammar
  engine : Regex.Engine := Regex.engine

end DialogueScript
