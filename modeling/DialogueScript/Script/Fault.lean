/- What can be wrong with a line of a script. -/
namespace DialogueScript.Script

inductive Fault where
  | header
  | stillOpen (name : String)
  | footer
  | noOpenTopic
  | emptyTrigger
  | emptyReply
  | replyBeforeTrigger
  | continuationBeforeTrigger
  | continuationBeforeReply
  | conversationBeforeTrigger
  | secondConversation
  | emptyConversation
  | redirectBeforeTrigger
  | emptyRedirect
  | unknownSigil
deriving DecidableEq, Repr

def Fault.message : Fault → String
  | .header => "expected '> topic <name> [\x7bflags\x7d] [(keywords)] [^filter]'"
  | .stillOpen name => s!"topic '{name}' is still open"
  | .footer => "expected '< topic'"
  | .noOpenTopic => "'< topic' without an open topic"
  | .emptyTrigger => "trigger text is empty"
  | .emptyReply => "reply text is empty"
  | .replyBeforeTrigger => "reply without a preceding trigger"
  | .continuationBeforeTrigger => "continuation without a preceding trigger"
  | .continuationBeforeReply => "continuation without a reply"
  | .conversationBeforeTrigger => "conversation without a preceding trigger"
  | .secondConversation => "gambit already has a conversation"
  | .emptyConversation => "conversation pattern is empty"
  | .redirectBeforeTrigger => "redirect without a preceding trigger"
  | .emptyRedirect => "redirect target is empty"
  | .unknownSigil => "expected one of '>', '<', '+', '-', '^', '%', '@' or a '//' comment"

/-- Some faults concern the line as a whole, the others its sigil. -/
def Fault.concernsLine : Fault → Bool
  | .header | .stillOpen _ | .footer | .noOpenTopic | .secondConversation => true
  | _ => false

structure SyntaxError where
  found : String
  message : String
  line : Nat
deriving DecidableEq, Repr

def SyntaxError.display (error : SyntaxError) : String :=
  s!"line {error.line}: {error.message} (found '{error.found}')"

end DialogueScript.Script
