import DialogueScript.Script.Fault
import DialogueScript.Script.Header

/- Reading a script line by line. The first character of a line says what the line is:

     > topic ...   opens a topic          - text   a reply
     < topic       closes it              ^ text   continues the last reply
     + text        a trigger, which       % text   the conversation
                   starts a gambit        @ text   the redirect

   Blank lines and lines that start with two slashes count for nothing. -/
namespace DialogueScript.Script

/-- What has been read so far. The gambit in progress belongs to the open topic, if there is one. -/
structure Draft where
  topics : List Topic := []
  gambits : List Gambit := []
  openTopic : Option Topic := none
  current : Option Gambit := none
deriving DecidableEq, Repr

def Draft.settle (draft : Draft) : Draft :=
  match draft.current, draft.openTopic with
  | none, _ => draft
  | some gambit, none => { draft with gambits := draft.gambits ++ [gambit], current := none }
  | some gambit, some topic =>
    { draft with
      openTopic := some { topic with gambits := topic.gambits ++ [gambit] }
      current := none }

def Draft.close (draft : Draft) : Draft :=
  match draft.settle with
  | { topics, gambits, openTopic, current } =>
    { topics := topics ++ openTopic.toList, gambits, openTopic := none, current }

def Draft.finish (draft : Draft) : Script := ⟨draft.close.topics, draft.close.gambits⟩

def Draft.openHeader (draft : Draft) (header : List Char) : Except Fault Draft :=
  match readHeader? header, draft.openTopic with
  | none, _ => .error .header
  | some _, some topic => .error (.stillOpen topic.name)
  | some topic, none => .ok { draft.settle with openTopic := some topic }

def Draft.closeTopic (draft : Draft) (rest : List Char) : Except Fault Draft :=
  if rest ≠ "topic".toList then .error .footer
  else if draft.openTopic.isNone then .error .noOpenTopic
  else .ok draft.close

def Draft.amend (draft : Draft) (missing : Fault) (change : Gambit → Except Fault Gambit) :
    Except Fault Draft :=
  match draft.current with
  | none => .error missing
  | some gambit => (change gambit).map fun gambit => { draft with current := some gambit }

def continueLast (addition : String) : List String → List String
  | [] => []
  | [reply] => [reply ++ " " ++ addition]
  | reply :: rest => reply :: continueLast addition rest

def Gambit.addContinuation (text : List Char) (gambit : Gambit) : Except Fault Gambit :=
  if gambit.replies.isEmpty then .error .continuationBeforeReply
  else if text.isEmpty then .ok gambit
  else .ok { gambit with replies := continueLast (String.ofList text) gambit.replies }

def Gambit.addConversation (text : List Char) (gambit : Gambit) : Except Fault Gambit :=
  if gambit.conversation.isSome then .error .secondConversation
  else if text.isEmpty then .error .emptyConversation
  else .ok { gambit with conversation := some (String.ofList text) }

def Gambit.addRedirect (text : List Char) (gambit : Gambit) : Except Fault Gambit :=
  if text.isEmpty then .error .emptyRedirect
  else .ok { gambit with redirect := some (String.ofList text) }

def Draft.take (draft : Draft) (sigil : Char) (text : List Char) : Except Fault Draft :=
  match sigil with
  | '>' => draft.openHeader text
  | '<' => draft.closeTopic text
  | '+' =>
    if text.isEmpty then .error .emptyTrigger
    else .ok { draft.settle with current := some { trigger := some (String.ofList text) } }
  | '-' =>
    if text.isEmpty then .error .emptyReply
    else draft.amend .replyBeforeTrigger fun gambit =>
      .ok { gambit with replies := gambit.replies ++ [String.ofList text] }
  | '^' => draft.amend .continuationBeforeTrigger (Gambit.addContinuation text)
  | '%' => draft.amend .conversationBeforeTrigger (Gambit.addConversation text)
  | '@' => draft.amend .redirectBeforeTrigger (Gambit.addRedirect text)
  | _ => .error .unknownSigil

/-- Lines that count for nothing. The line is trimmed. -/
def isIdle : List Char → Bool
  | [] => true
  | '/' :: '/' :: _ => true
  | _ => false

def Draft.takeLine (draft : Draft) (number : Nat) (line : List Char) : Except SyntaxError Draft :=
  match line with
  | [] => .ok draft
  | sigil :: rest =>
    if isIdle line then .ok draft
    else
      match draft.take sigil (Text.trim rest) with
      | .ok draft => .ok draft
      | .error fault =>
        let found := if fault.concernsLine then line else [sigil]
        .error ⟨String.ofList found, fault.message, number⟩

def Draft.takeLines (draft : Draft) (number : Nat) :
    List (List Char) → Except SyntaxError Draft
  | [] => .ok draft
  | line :: rest =>
    match draft.takeLine number (Text.trim line) with
    | .ok draft => draft.takeLines (number + 1) rest
    | .error error => .error error

abbrev Reader := String → Except SyntaxError Script

def read : Reader := fun text =>
  (Draft.takeLines {} 1 (Text.lines text.toList)).map Draft.finish

end DialogueScript.Script
