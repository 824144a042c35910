import DialogueScript.Graph.Basic

/- Merging compiled scripts into one graph. Identifiers must not repeat. Topics of one name are
   combined, or refused if that is the policy; the random topic is always combined. -/
namespace DialogueScript

inductive TopicConflict where
  | extend
  | reject
deriving DecidableEq, Repr

namespace Graph

def appendNew [BEq α] (xs : List α) : List α → List α
  | [] => xs
  | y :: ys => if xs.contains y then appendNew xs ys else appendNew (xs ++ [y]) ys

/-- Combines a topic with a later declaration, whose flags and filter win. -/
def Topic.extend (topic later : Topic) : Topic :=
  { topic with
    gambits := appendNew topic.gambits later.gambits
    keywords := appendNew topic.keywords later.keywords
    flags := topic.flags ∪ later.flags
    filter := later.filter.or topic.filter }

def mergeTopics (topics later : Std.ExtTreeMap String Topic) : Std.ExtTreeMap String Topic :=
  topics ∪ later.map fun name topic =>
    match topics[name]? with
    | some earlier => earlier.extend topic
    | none => topic

inductive MergeFault where
  | repeatedIdentifier (id : Identifier)
  | repeatedTopic (name : String)
deriving DecidableEq, Repr

def sharedIdentifier? (graph other : Graph) : Option Identifier :=
  (other.gambits.keys ++ other.replies.keys).find? graph.uses

def sharedTopic? (graph other : Graph) : Option String :=
  other.topics.keys.find? fun name => name != randomTopic && graph.topics.contains name

def absorb (policy : TopicConflict) (graph other : Graph) : Except MergeFault Graph :=
  match graph.sharedIdentifier? other with
  | some id => .error (.repeatedIdentifier id)
  | none =>
    match if policy = .reject then graph.sharedTopic? other else none with
    | some name => .error (.repeatedTopic name)
    | none =>
      .ok {
        topics := mergeTopics graph.topics other.topics
        gambits := graph.gambits ∪ other.gambits
        replies := graph.replies ∪ other.replies }

end Graph

end DialogueScript
