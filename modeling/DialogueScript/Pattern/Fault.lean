/- What can be wrong with a pattern, and where. Offsets count UTF-8 bytes from the start of the
   pattern text. -/
namespace DialogueScript.Pattern

inductive Cause where
  | unterminatedGroup (bracket : Char)
  | unexpected (c : Char)
  | noConceptName
  | zeroWords
  | countTooLarge
  | noWordCount
  | unterminatedRange
  | descendingRange (range : List Char)
  | emptyGroup
deriving DecidableEq, Repr

def Cause.message : Cause → String
  | .unterminatedGroup bracket => s!"unterminated '{bracket}'"
  | .unexpected c => s!"unexpected '{c}'"
  | .noConceptName => "expected a concept name after '~'"
  | .zeroWords => "'*0' matches nothing"
  | .countTooLarge => "word count is too large"
  | .noWordCount => "expected a word count after '*~'"
  | .unterminatedRange => "unterminated '*(' range"
  | .descendingRange range => "invalid word range '" ++ String.ofList range ++ "'"
  | .emptyGroup => "empty alternation"

structure Fault where
  cause : Cause
  offset : Nat
deriving DecidableEq, Repr

structure Refusal where
  message : String
  offset : Nat
deriving DecidableEq, Repr

def Refusal.display (refusal : Refusal) : String :=
  s!"{refusal.message} (at offset {refusal.offset})"

def Fault.refusal (fault : Fault) : Refusal := ⟨fault.cause.message, fault.offset⟩

end DialogueScript.Pattern
