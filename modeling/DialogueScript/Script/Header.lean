import DialogueScript.Script.Basic
import DialogueScript.Text.Blank
import DialogueScript.Text.WordCharacter

/- The header of a topic: "topic name {flags} (keywords) ^filter", of which only the name is
   required. No part can be read in two ways, so each is read once from left to right. -/
namespace DialogueScript.Script

def isTopicNameCharacter (c : Char) : Bool := Text.isWordCharacter c || c == '~' || c == '-'

def cutAt? (c : Char) (text : List Char) : Option (List Char × List Char) :=
  match text.dropWhile (· != c) with
  | [] => none
  | _ :: after => some (text.takeWhile (· != c), after)

/-- An optional part in brackets, perhaps after blanks. Once opened it must be closed. -/
def readEnclosed? (bracket close : Char) (text : List Char) :
    Option (Option (List Char) × List Char) :=
  match Text.trimStart text with
  | c :: rest =>
    if c = bracket then (cutAt? close rest).map fun (body, after) => (some body, after)
    else some (none, text)
  | [] => some (none, text)

def readFilter? (text : List Char) : Option (Option (List Char)) :=
  match text with
  | [] => some none
  | _ =>
    match Text.trimStart text with
    | '^' :: body => if body.isEmpty then none else some (some (Text.trim body))
    | _ => none

/-- A flag is a name with a value, or a name that stands for itself. -/
def readFlag (text : List Char) : String × String :=
  match cutAt? '=' text with
  | some (name, value) => (String.ofList (Text.trim name), String.ofList (Text.trim value))
  | none => (String.ofList text, String.ofList text)

def readFlags (body : List Char) : Flags :=
  let parts := ((body.splitOn ',').map Text.trim).filter (!·.isEmpty)
  parts.foldl (fun flags part => flags.insert (readFlag part).1 (readFlag part).2) ∅

def afterTopicWord? : List Char → Option (List Char)
  | 't' :: 'o' :: 'p' :: 'i' :: 'c' :: c :: rest =>
    if Text.isBlank c then some (Text.trimStart rest) else none
  | _ => none

def readHeader? (header : List Char) : Option Topic := do
  let text ← afterTopicWord? header
  let name := text.takeWhile isTopicNameCharacter
  if name.isEmpty then none
  let (flags, text) ← readEnclosed? '{' '}' (text.dropWhile isTopicNameCharacter)
  let (keywords, text) ← readEnclosed? '(' ')' text
  let filter ← readFilter? text
  return {
    name := String.ofList name
    flags := (flags.map readFlags).getD ∅
    keywords := (Text.words (keywords.getD [])).map String.ofList
    filter := filter.map String.ofList }

end DialogueScript.Script
