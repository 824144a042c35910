import DialogueScript.Pattern.Fault
import DialogueScript.Script.Fault
import DialogueScript.Text.Utf8

/- Why the text of one script cannot be compiled. -/
namespace DialogueScript

inductive SourceError where
  /-- The reader refused the script; `text` is the line that it pointed at. -/
  | refused (error : Script.SyntaxError) (text : String)
  | badPattern (text : String) (refusal : Pattern.Refusal)
  | repeatedTopic (name : String)
  | notUtf8 (fault : Text.Utf8Fault)
  | identifiersExhausted
deriving DecidableEq, Repr

def SourceError.message : SourceError → String
  | .refused error text =>
    s!"Error in parser\nFound: {error.found}\nMessage: {error.message}\nLine: '{text}'"
  | .badPattern text refusal => s!"Error in pattern '{text}': {refusal.display}"
  | .repeatedTopic name => s!"topic '{name}' is declared more than once"
  | .notUtf8 fault => s!"script is not valid UTF-8: {fault.message}"
  | .identifiersExhausted => "no unused identifier is left"

end DialogueScript
