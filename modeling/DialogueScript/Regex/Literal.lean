/- Plain text inside a regular expression: each character that the expression syntax could read
   as an operator is written after a backslash. A reader takes a backslash in front of other
   punctuation too. -/
namespace DialogueScript.Regex

def metaCharacters : List Char := "\\.+*?()|[]\x7b\x7d^$#&-~".toList

def isMeta (c : Char) : Bool := metaCharacters.contains c

def escapeChar (c : Char) : List Char := if isMeta c then ['\\', c] else [c]

def isEscapable (c : Char) : Bool := c.toNat < 128 && !c.isAlphanum && c != '<' && c != '>'

def controlCharacter? : Char → Option Char
  | 'a' => some '\x07'
  | 'f' => some '\x0c'
  | 'n' => some '\n'
  | 'r' => some '\r'
  | 't' => some '\t'
  | 'v' => some '\x0b'
  | _ => none

def escape (text : List Char) : List Char := text.flatMap escapeChar

end DialogueScript.Regex
