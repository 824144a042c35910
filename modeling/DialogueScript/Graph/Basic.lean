import DialogueScript.Script.Basic

/- The compiled form of scripts: topics, gambits and replies, each under a key of its own and
   referring to one another by key. -/
namespace DialogueScript

abbrev Identifier := String

def randomTopic : String := "random"

structure Graph.Trigger where
  raw : String
  clean : Option String := none
deriving DecidableEq, Repr

structure Graph.Conversation where
  raw : String
  clean : Option String := none
  replies : List Identifier := []
deriving DecidableEq, Repr

structure Graph.Reply where
  id : Identifier
  text : String
deriving DecidableEq, Repr

structure Graph.Gambit where
  id : Identifier
  topic : String
  trigger : Option Graph.Trigger := none
  replies : List Identifier := []
  conversation : Option Graph.Conversation := none
  redirect : Option String := none
deriving DecidableEq, Repr

structure Graph.Topic where
  name : String
  flags : Flags := ∅
  keywords : List String := []
  filter : Option String := none
  gambits : List Identifier := []
deriving DecidableEq, Repr

structure Graph where
  topics : Std.ExtTreeMap String Graph.Topic := ∅
  gambits : Std.ExtTreeMap Identifier Graph.Gambit := ∅
  replies : Std.ExtTreeMap Identifier Graph.Reply := ∅
deriving DecidableEq, Repr

namespace Graph

def uses (graph : Graph) (id : Identifier) : Bool :=
  graph.gambits.contains id || graph.replies.contains id

/-- Without a topic, a gambit and a reply there is nothing to talk about. -/
def isIncomplete (graph : Graph) : Bool :=
  graph.topics.isEmpty || graph.gambits.isEmpty || graph.replies.isEmpty

def isEmpty (graph : Graph) : Bool :=
  graph.topics.isEmpty && graph.gambits.isEmpty && graph.replies.isEmpty

def Gambit.references (gambit : Gambit) : List Identifier :=
  gambit.replies ++ (gambit.conversation.map (·.replies)).getD []

def isClosed (graph : Graph) : Bool :=
  graph.topics.values.all (fun topic => topic.gambits.all graph.gambits.contains) &&
    graph.gambits.values.all (fun gambit => gambit.references.all graph.replies.contains)

end Graph

end DialogueScript
