import DialogueScript.Compile.Trigger

/- Resolving conversations: a conversation is a pattern, and it may follow every reply of the
   script whose text it matches as a whole. Sentence marks at the end of a reply are no matter. -/
namespace DialogueScript

/-- The expression that a clean pattern stands for in front of a reply. Nothing groups the pattern,
so a bar at its top level divides the whole. -/
def conversationRegex (clean : String) : List Char :=
  '^' :: clean.toList ++ "\\s*[?!.]*$".toList

namespace Graph

def repliesMatching (graph : Graph) (test : List Char → Bool) : List Identifier :=
  (graph.replies.values.filter fun reply => test reply.text.toList).map (·.id)

def resolve (engine : Regex.Engine) (graph : Graph) (id : Identifier)
    (conversation : Conversation) (clean : String) : Conversation × List Diagnostic :=
  let resolved := { conversation with clean := some clean }
  match engine (conversationRegex clean) with
  | .error message =>
    ({ resolved with replies := [] }, [.invalidConversation id conversation.raw message])
  | .ok test =>
    let replies := graph.repliesMatching test
    ({ resolved with replies },
      if replies.isEmpty then [.unresolvedConversation id conversation.raw] else [])

def Gambit.resolveConversation (options : Options) (graph : Graph) (gambit : Gambit) :
    Except SourceError (Gambit × List Diagnostic) :=
  match gambit.conversation with
  | none => .ok (gambit, [])
  | some conversation =>
    (options.cleanPattern conversation.raw).map fun clean =>
      let (resolved, diagnostics) := graph.resolve options.engine gambit.id conversation clean
      ({ gambit with conversation := some resolved }, diagnostics)

end Graph

end DialogueScript
