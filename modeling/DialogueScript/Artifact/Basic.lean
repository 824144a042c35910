import DialogueScript.Compile.Source

/- The persisted result of compiling a directory: the merged graph, and the checksums of the scripts
   that it was made from. -/
namespace DialogueScript

structure KnowledgeBase where
  graph : Graph := {}
  checksums : Checksums := ∅
  version : UInt32 := schemaVersion
deriving DecidableEq, Repr

def KnowledgeBase.empty : KnowledgeBase := {}

def KnowledgeBase.isEmpty (base : KnowledgeBase) : Bool := base.graph.isEmpty

end DialogueScript
