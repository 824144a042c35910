import DialogueScript.Graph.Diagnostic
import DialogueScript.Graph.Merge
import DialogueScript.Graph.Numbering

/- From a script to its graph. Replies and gambits receive identifiers in the order in which they
   are written, the replies of a gambit before the gambit itself. -/
namespace DialogueScript

/-- Puts gambits at the end of the first topic named random, or into a new last one. -/
def Script.collect (gambits : List Script.Gambit) : List Script.Topic → List Script.Topic
  | [] => [{ name := randomTopic, flags := (∅ : Flags).insert "keep" "keep", gambits }]
  | topic :: rest =>
    if topic.name = randomTopic then { topic with gambits := topic.gambits ++ gambits } :: rest
    else topic :: collect gambits rest

def Script.collapsed (script : Script) : List Script.Topic :=
  if script.gambits.isEmpty then script.topics else Script.collect script.gambits script.topics

/-- The first topic other than random whose name was declared before. -/
def Script.repeatedTopic? (seen : List String) : List Script.Topic → Option String
  | [] => none
  | topic :: rest =>
    if topic.name ≠ randomTopic ∧ topic.name ∈ seen then some topic.name
    else repeatedTopic? (topic.name :: seen) rest

namespace Graph

structure Draft where
  graph : Graph := {}
  numbering : Numbering
  diagnostics : List Diagnostic := []

def Draft.fresh? (draft : Draft) : Option (Identifier × Draft) :=
  (draft.numbering.next? draft.graph.uses).map fun (id, numbering) =>
    (id, { draft with numbering })

def Draft.addReply? (draft : Draft) (text : String) : Option (Identifier × Draft) :=
  draft.fresh?.map fun (id, draft) =>
    let replies := draft.graph.replies.insert id ⟨id, text⟩
    (id, { draft with graph := { draft.graph with replies } })

def Draft.addReplies? (draft : Draft) : List String → Option (List Identifier × Draft)
  | [] => some ([], draft)
  | text :: rest => do
    let (id, draft) ← draft.addReply? text
    let (ids, draft) ← draft.addReplies? rest
    return (id :: ids, draft)

def Draft.addGambit? (draft : Draft) (topic : String) (gambit : Script.Gambit) :
    Option (Identifier × Draft) := do
  let (replies, draft) ← draft.addReplies? gambit.replies
  let (id, draft) ← draft.fresh?
  let added : Gambit := {
    id, topic, replies
    trigger := gambit.trigger.map fun raw => { raw }
    conversation := gambit.conversation.map fun raw => { raw }
    redirect := gambit.redirect }
  return (id, { draft with graph.gambits := draft.graph.gambits.insert id added })

def Draft.addGambits? (draft : Draft) (topic : String) :
    List Script.Gambit → Option (List Identifier × Draft)
  | [] => some ([], draft)
  | gambit :: rest => do
    let (id, draft) ← draft.addGambit? topic gambit
    let (ids, draft) ← draft.addGambits? topic rest
    return (id :: ids, draft)

def Draft.enter (draft : Draft) (topic : Topic) : Draft :=
  match draft.graph.topics[topic.name]? with
  | none => { draft with graph.topics := draft.graph.topics.insert topic.name topic }
  | some earlier =>
    { draft with
      graph.topics := draft.graph.topics.insert topic.name (earlier.extend topic)
      diagnostics := draft.diagnostics ++ [.repeatedTopic topic.name] }

def Draft.addTopic? (draft : Draft) (topic : Script.Topic) : Option Draft := do
  let (gambits, draft) ← draft.addGambits? topic.name topic.gambits
  return draft.enter {
    name := topic.name
    flags := topic.flags
    keywords := topic.keywords
    filter := topic.filter
    gambits }

def Draft.addTopics? (draft : Draft) : List Script.Topic → Option Draft
  | [] => some draft
  | topic :: rest => do
    let draft ← draft.addTopic? topic
    draft.addTopics? rest

inductive LoweringFault where
  | repeatedTopic (name : String)
  | identifiersExhausted
deriving DecidableEq, Repr

def ofScript (scope : String) (policy : TopicConflict) (script : Script) :
    Except LoweringFault (Graph × List Diagnostic) :=
  let topics := script.collapsed
  match if policy = .reject then Script.repeatedTopic? [] topics else none with
  | some name => .error (.repeatedTopic name)
  | none =>
    match Draft.addTopics? { numbering := .ofScope scope } topics with
    | none => .error .identifiersExhausted
    | some draft => .ok (draft.graph, draft.diagnostics)

end Graph

end DialogueScript
