import DialogueScript.Graph.Basic

/- Conditions worth telling that do not stop a compilation. -/
namespace DialogueScript

inductive Diagnostic where
  | conceptNotExpanded (gambit : Identifier) (concept : String)
  | unresolvedConversation (gambit : Identifier) (pattern : String)
  | invalidConversation (gambit : Identifier) (pattern message : String)
  | repeatedTopic (name : String)
deriving DecidableEq, Repr

def Diagnostic.display : Diagnostic → String
  | .conceptNotExpanded gambit concept => s!"gambit {gambit}: concept not expanded: ~{concept}"
  | .unresolvedConversation gambit pattern =>
    s!"gambit {gambit}: no reply found for conversation: {pattern}"
  | .invalidConversation gambit pattern message =>
    s!"gambit {gambit}: conversation pattern '{pattern}' is invalid: {message}"
  | .repeatedTopic name => s!"topic '{name}' declared more than once"

end DialogueScript
