import DialogueScript.Regex.Literal

/- Pieces of an author's pattern and their rendering as a regular expression. Words and
   alternatives are kept as plain text here and are escaped on rendering. -/
namespace DialogueScript.Pattern

inductive Piece where
  | word (text : List Char)
  | concept (name : List Char)
  /-- One of several alternatives, each a list of words. -/
  | choice (alternatives : List (List (List Char)))
  /-- One of several alternatives, or nothing. -/
  | optional (alternatives : List (List (List Char)))
  | anyText
  | exactly (count : Nat)
  | upTo (count : Nat)
  | between (least most : Nat)
deriving DecidableEq, Repr

/-- A solid piece always takes up a word, so a single space can stand beside it. -/
def Piece.isSolid : Piece → Bool
  | .word _ | .concept _ | .choice _ => true
  | _ => false

def renderAlternatives (alternatives : List (List (List Char))) : List Char :=
  ['|'].intercalate (alternatives.map fun words => [' '].intercalate (words.map Regex.escape))

def digits (n : Nat) : List Char := Nat.toDigits 10 n

def Piece.render : Piece → List Char
  | .word text => Regex.escape text
  | .concept name => '~' :: name
  | .choice alternatives => '(' :: renderAlternatives alternatives ++ ")".toList
  | .optional alternatives => "(?:".toList ++ renderAlternatives alternatives ++ ")?".toList
  | .anyText => "(.*?)".toList
  | .exactly count => "(\\S+(?:\\s+\\S+)\x7b".toList ++ digits (count - 1) ++ "\x7d)".toList
  | .upTo count => "((?:\\S+\\s*)\x7b0,".toList ++ digits count ++ "\x7d)".toList
  | .between least most =>
    "((?:\\S+\\s*)\x7b".toList ++ digits least ++ ',' :: digits most ++ "\x7d)".toList

/-- What stands between two neighbours: one space between solid pieces, and otherwise any blanks,
so that a piece which matches nothing leaves no second space to match. -/
def separator (left right : Piece) : List Char :=
  if left.isSolid && right.isSolid then [' '] else "\\s*".toList

def render : List Piece → List Char
  | [] => []
  | [piece] => piece.render
  | piece :: next :: rest => piece.render ++ separator piece next ++ render (next :: rest)

end DialogueScript.Pattern
