import DialogueScript.Pattern.Fault
import DialogueScript.Pattern.Piece
import DialogueScript.Text.Alphanumeric
import DialogueScript.Text.Blank

/- Reading a pattern as its author writes it:

     word   ~concept   (a|b c)   [a|b]   *   *n   *~n   *(least-most)

   Sentence punctuation in words is dropped, and a word of nothing else counts for nothing. -/
namespace DialogueScript.Pattern

def isPunctuation (c : Char) : Bool := ['?', '!', '.', ',', ';', ':'].contains c

def isBoundary (c : Char) : Bool :=
  Text.isBlank c || ['*', '(', ')', '[', ']', '~', '|'].contains c

def isNameCharacter (c : Char) : Bool := Text.isAlphanumeric c || c == '_'

def bareWord (text : List Char) : List Char := text.filter (!isPunctuation ·)

def countLimit : Nat := Nat.pow 2 32

def readCount? (text : List Char) : Option Nat :=
  if text.isEmpty || !text.all Char.isDigit then none
  else
    let count := text.foldl (fun value c => 10 * value + (c.toNat - '0'.toNat)) 0
    if count < countLimit then some count else none

def readBound? (text : List Char) : Option Nat :=
  match Text.trim text with
  | '+' :: count => readCount? count
  | count => readCount? count

def readRange? (text : List Char) : Option (Nat × Nat) :=
  match text.dropWhile (· != '-') with
  | [] => none
  | _ :: upper => do
    let least ← readBound? (text.takeWhile (· != '-'))
    let most ← readBound? upper
    return (least, most)

def readAlternatives (body : List Char) : List (List (List Char)) :=
  let alternatives := (body.splitOn '|').map fun part =>
    ((Text.words part).map bareWord).filter (!·.isEmpty)
  alternatives.filter (!·.isEmpty)

/-- A piece, if one was read, and how many characters it takes up beyond the first. -/
structure Reading where
  piece : Option Piece
  taken : Nat
deriving DecidableEq, Repr

def readGroup (bracket close : Char) (piece : List (List (List Char)) → Piece)
    (rest : List Char) : Except Cause Reading :=
  let body := rest.takeWhile (· != close)
  if body.length = rest.length then .error (.unterminatedGroup bracket)
  else
    let alternatives := readAlternatives body
    if alternatives.isEmpty then .error .emptyGroup
    else .ok ⟨some (piece alternatives), body.length + 1⟩

/-- What follows a star: a count, a tilde and a count, a range, or nothing of the kind. A bracket
that holds no range is left for the next piece. -/
def readWildcard : (rest : List Char) → Except Cause Reading
  | [] => .ok ⟨some .anyText, 0⟩
  | '~' :: rest =>
    let count := rest.takeWhile Char.isDigit
    match readCount? count with
    | some n => .ok ⟨some (.upTo n), count.length + 1⟩
    | none => .error .noWordCount
  | '(' :: rest =>
    let body := rest.takeWhile (· != ')')
    if body.length = rest.length then .error .unterminatedRange
    else
      match readRange? body with
      | none => .ok ⟨some .anyText, 0⟩
      | some (least, most) =>
        if least ≤ most then .ok ⟨some (.between least most), body.length + 2⟩
        else .error (.descendingRange body)
  | c :: rest =>
    if c.isDigit then
      let count := (c :: rest).takeWhile Char.isDigit
      match readCount? count with
      | some 0 => .error .zeroWords
      | some n => .ok ⟨some (.exactly n), count.length⟩
      | none => .error .countTooLarge
    else .ok ⟨some .anyText, 0⟩

def readPiece (c : Char) (rest : List Char) : Except Cause Reading :=
  if Text.isBlank c then .ok ⟨none, 0⟩
  else
    match c with
    | '*' => readWildcard rest
    | '(' => readGroup '(' ')' .choice rest
    | '[' => readGroup '[' ']' .optional rest
    | ')' | ']' | '|' => .error (.unexpected c)
    | '~' =>
      let name := rest.takeWhile isNameCharacter
      if name.isEmpty then .error .noConceptName else .ok ⟨some (.concept name), name.length⟩
    | _ =>
      let tail := rest.takeWhile (!isBoundary ·)
      let word := bareWord (c :: tail)
      .ok ⟨if word.isEmpty then none else some (.word word), tail.length⟩

/-- Reads the pieces of a text that starts at a byte offset and whose first `pending` characters
belong to the piece read before. -/
def readFrom (offset : Nat) : (pending : Nat) → List Char → Except Fault (List Piece)
  | _, [] => .ok []
  | pending + 1, c :: rest => readFrom (offset + c.utf8Size) pending rest
  | 0, c :: rest =>
    match readPiece c rest with
    | .error cause => .error ⟨cause, offset⟩
    | .ok reading =>
      match readFrom (offset + c.utf8Size) reading.taken rest with
      | .error fault => .error fault
      | .ok pieces => .ok (reading.piece.toList ++ pieces)

def read (text : List Char) : Except Fault (List Piece) := readFrom 0 0 text

abbrev Grammar := String → Except Refusal String

def grammar : Grammar := fun text =>
  match read text.toList with
  | .ok pieces => .ok (String.ofList (render pieces))
  | .error fault => .error fault.refusal

end DialogueScript.Pattern
