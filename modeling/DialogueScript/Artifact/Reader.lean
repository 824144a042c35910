import DialogueScript.Artifact.Basic
import DialogueScript.Json.Decode
import DialogueScript.Json.Reader

/- Reading persisted graphs back. Fields that are not known are passed over. -/
namespace DialogueScript

namespace Graph

def Trigger.ofJson? (json : Json) : Option Trigger := do
  match ← json.record? ["raw", "clean"] 1 with
  | [raw, clean] =>
    return {
    raw := ← Json.required? Json.string? raw
    clean := ← Json.optional? Json.string? clean }
  | _ => none

def Reply.ofJson? (json : Json) : Option Reply := do
  match ← json.record? ["id", "string"] 2 with
  | [id, text] =>
    return { id := ← Json.required? Json.string? id, text := ← Json.required? Json.string? text }
  | _ => none

def Topic.ofJson? (json : Json) : Option Topic := do
  match ← json.record? ["name", "flags", "keywords", "filter", "gambits"] 5 with
  | [name, flags, keywords, filter, gambits] =>
    return {
      name := ← Json.required? Json.string? name
      flags := ← Json.required? (Json.table? Json.string?) flags
      keywords := ← Json.required? (Json.list? Json.string?) keywords
      filter := ← Json.optional? Json.string? filter
      gambits := ← Json.required? (Json.list? Json.string?) gambits }
  | _ => none

def Conversation.ofParts : Option (List Identifier) → Option Trigger → Option Conversation
  | none, none => none
  | replies, pattern =>
    let pattern := pattern.getD { raw := "" }
    some { raw := pattern.raw, clean := pattern.clean, replies := replies.getD [] }

def Gambit.ofJson? (json : Json) : Option Gambit := do
  let names :=
    ["id", "topic", "trigger", "replies", "conversation", "conversation_pattern", "redirect"]
  match ← json.record? names 5 with
  | [id, topic, trigger, replies, conversation, pattern, redirect] =>
    return {
      id := ← Json.required? Json.string? id
      topic := ← Json.required? Json.string? topic
      trigger := ← Json.optional? Trigger.ofJson? trigger
      replies := ← Json.required? (Json.list? Json.string?) replies
      conversation := Conversation.ofParts
        (← Json.optional? (Json.list? Json.string?) conversation)
        (← Json.optional? Trigger.ofJson? pattern)
      redirect := ← Json.optional? Json.string? redirect }
  | _ => none

def ofMembers? (members : List (String × Json)) : Option Graph := do
  return {
    topics := ← Json.required? (Json.table? Topic.ofJson?) (← Json.field? members "topics")
    gambits := ← Json.required? (Json.table? Gambit.ofJson?) (← Json.field? members "gambits")
    replies := ← Json.required? (Json.table? Reply.ofJson?) (← Json.field? members "replies") }

end Graph

/-- A version is a natural number of 32 bits, written without a sign, a point or an exponent. -/
def version? : Json → Option UInt32
  | .number literal =>
    let digits := literal.toList
    let value := Json.digitsValue digits
    if digits.all Char.isDigit && value < UInt32.size then some (UInt32.ofNat value) else none
  | _ => none

def CompiledScript.ofJson? (json : Json) : Option CompiledScript := do
  let members ← json.members?
  return {
    version := ← Json.required? version? (← Json.field? members "version")
    graph := ← Graph.ofMembers? members }

def KnowledgeBase.ofJson? (json : Json) : Option KnowledgeBase := do
  let members ← json.members?
  return {
    graph := ← Graph.ofMembers? members
    checksums :=
      ← Json.required? (Json.table? Json.string?) (← Json.field? members "checksums")
    version := ← Json.required? version? (← Json.field? members "version") }

def CompiledScript.read? (text : String) : Option CompiledScript :=
  (Json.read? text).bind CompiledScript.ofJson?

def KnowledgeBase.read? (text : String) : Option KnowledgeBase :=
  (Json.read? text).bind KnowledgeBase.ofJson?

end DialogueScript
