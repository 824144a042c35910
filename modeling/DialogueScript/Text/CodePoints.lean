/- Sets of code points as boundary tables. A table lists, in ascending order, the code points at
   which membership changes, starting from "outside" at zero. The same sets as lists of spans, in
   ascending order and with a gap between neighbours. -/
namespace DialogueScript.Text

/-- Membership of a code point: an odd number of boundaries lies at or below it. -/
def covers (code : Nat) : List Nat → Bool
  | [] => false
  | boundary :: rest => if code < boundary then false else !covers code rest

structure Span where
  first : Nat
  last : Nat
deriving DecidableEq, Repr

def lastCode : Nat := 0x10FFFF

def spans : (boundaries : List Nat) → List Span
  | [] => []
  | [first] => [⟨first, lastCode⟩]
  | first :: stop :: rest => ⟨first, stop - 1⟩ :: spans rest

def insertSpan (span : Span) : List Span → List Span
  | [] => [span]
  | other :: rest =>
    if span.last + 1 < other.first then span :: other :: rest
    else if other.last + 1 < span.first then other :: insertSpan span rest
    else insertSpan ⟨min span.first other.first, max span.last other.last⟩ rest

def joinSpans (spans : List Span) : List Span := spans.foldr insertSpan []

end DialogueScript.Text
