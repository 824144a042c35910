import DialogueScript.Artifact.Basic
import DialogueScript.Json.Writer

/- The JSON form of graphs, compiled scripts and knowledge bases. -/
namespace DialogueScript

namespace Json

def ofOption (f : α → Json) : Option α → Json
  | none => .null
  | some value => f value

def ofNat (n : Nat) : Json := .number (Nat.repr n)

def ofList (f : α → Json) (values : List α) : Json := .array (values.map f)

def ofTable (f : α → Json) (table : Std.ExtTreeMap String α) : Json :=
  .object (table.toList.map fun (name, value) => (name, f value))

def present (name : String) (f : α → Json) : Option α → List (String × Json)
  | none => []
  | some value => [(name, f value)]

end Json

namespace Graph

def Trigger.toJson (trigger : Trigger) : Json :=
  .object (("raw", .string trigger.raw) :: Json.present "clean" .string trigger.clean)

def Reply.toJson (reply : Reply) : Json :=
  .object [("id", .string reply.id), ("string", .string reply.text)]

def Topic.toJson (topic : Topic) : Json :=
  .object [
    ("name", .string topic.name),
    ("flags", Json.ofTable .string topic.flags),
    ("keywords", Json.ofList .string topic.keywords),
    ("filter", Json.ofOption .string topic.filter),
    ("gambits", Json.ofList .string topic.gambits)]

def Conversation.pattern (conversation : Conversation) : Trigger :=
  ⟨conversation.raw, conversation.clean⟩

def Gambit.toJson (gambit : Gambit) : Json :=
  .object ([
    ("id", .string gambit.id),
    ("topic", .string gambit.topic),
    ("trigger", Json.ofOption Trigger.toJson gambit.trigger),
    ("replies", Json.ofList .string gambit.replies),
    ("conversation", Json.ofOption (Json.ofList .string) (gambit.conversation.map (·.replies)))] ++
    Json.present "conversation_pattern" Trigger.toJson
      (gambit.conversation.map Conversation.pattern) ++
    Json.present "redirect" .string gambit.redirect)

def members (graph : Graph) : List (String × Json) := [
  ("topics", Json.ofTable Topic.toJson graph.topics),
  ("gambits", Json.ofTable Gambit.toJson graph.gambits),
  ("replies", Json.ofTable Reply.toJson graph.replies)]

end Graph

def CompiledScript.toJson (script : CompiledScript) : Json :=
  .object (("version", Json.ofNat script.version.toNat) :: script.graph.members)

def KnowledgeBase.toJson (base : KnowledgeBase) : Json :=
  .object (base.graph.members ++
    [("checksums", Json.ofTable .string base.checksums),
      ("version", Json.ofNat base.version.toNat)])

end DialogueScript
