import DialogueScript.Concept.Source
import DialogueScript.Regex.Literal
import DialogueScript.Text.Blank
import DialogueScript.Text.WordCharacter

/- Replacing the concepts of a clean pattern by alternations. The pattern is first cut into parts,
   then each part is replaced on its own, so nothing that was put in is expanded again. -/
namespace DialogueScript.Concept

structure Occurrence where
  before : List Char
  name : List Char
  after : List Char
deriving DecidableEq, Repr

def Occurrence.toList (occurrence : Occurrence) : List Char :=
  occurrence.before ++ '~' :: occurrence.name ++ occurrence.after

def Occurrence.word (occurrence : Occurrence) : String := String.ofList occurrence.name

def occurrence? (text : List Char) : Option Occurrence :=
  match text.dropWhile Text.isBlank with
  | '~' :: rest =>
    let name := rest.takeWhile Text.isWordCharacter
    if name.isEmpty then none
    else some ⟨text.takeWhile Text.isBlank, name,
      (rest.drop name.length).takeWhile Text.isBlank⟩
  | _ => none

inductive Part where
  | plain (c : Char)
  | concept (occurrence : Occurrence)
deriving DecidableEq, Repr

/-- The parts of a text whose first `pending` characters belong to the part before. -/
def partsAfter : (pending : Nat) → List Char → List Part
  | _, [] => []
  | pending + 1, _ :: rest => partsAfter pending rest
  | 0, c :: rest =>
    match occurrence? (c :: rest) with
    | none => .plain c :: partsAfter 0 rest
    | some occurrence => .concept occurrence :: partsAfter (occurrence.toList.length - 1) rest

def parts (text : List Char) : List Part := partsAfter 0 text

def Part.word? : Part → Option String
  | .plain _ => none
  | .concept occurrence => some occurrence.word

def wordsToAsk (clean : String) : List String := (parts clean.toList).filterMap Part.word?

/-- The distinct ways to say a concept: its words in order, then its name. -/
def spellings (words : List String) (name : List Char) : List (List Char) :=
  let escaped := (words.map String.toList ++ [name]).map fun word => Regex.escape (Text.trim word)
  (escaped.filter (!·.isEmpty)).eraseDups

def alternation (words : List String) (name : List Char) : List Char :=
  "(?=^|\\s)\\s*(".toList ++ ['|'].intercalate (spellings words name) ++ ")(?=\\s|$)\\s*".toList

def Part.render (expand : String → List String) : Part → List Char
  | .plain c => [c]
  | .concept occurrence =>
    let words := expand occurrence.word
    if words.isEmpty then occurrence.toList else alternation words occurrence.name

def Part.unexpanded? (expand : String → List String) : Part → Option String
  | .plain _ => none
  | .concept occurrence =>
    if (expand occurrence.word).isEmpty then some occurrence.word else none

structure Expansion where
  clean : String
  unexpanded : List String
deriving DecidableEq, Repr

def expandPattern (expand : String → List String) (clean : String) : Expansion :=
  let parts := parts clean.toList
  ⟨String.ofList (parts.flatMap (Part.render expand)), parts.filterMap (Part.unexpanded? expand)⟩

end DialogueScript.Concept
