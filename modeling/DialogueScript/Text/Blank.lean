import DialogueScript.Text.CodePoints

/- Blank characters, and the cuts that go by them: trimming, words and lines. -/
namespace DialogueScript.Text

def blankBoundaries : List Nat :=
  [9, 0xE, 0x20, 0x21, 0x85, 0x86, 0xA0, 0xA1, 0x1680, 0x1681, 0x2000, 0x200B, 0x2028, 0x202A,
    0x202F, 0x2030, 0x205F, 0x2060, 0x3000, 0x3001]

def isBlank (c : Char) : Bool := covers c.toNat blankBoundaries

def trimStart (text : List Char) : List Char := text.dropWhile isBlank

def trimEnd (text : List Char) : List Char := (text.reverse.dropWhile isBlank).reverse

def trim (text : List Char) : List Char := trimEnd (trimStart text)

def words (text : List Char) : List (List Char) := (text.splitOnP isBlank).filter (!·.isEmpty)

def unwords (ws : List (List Char)) : List Char := [' '].intercalate ws

def dropReturn (line : List Char) : List Char :=
  if line.getLast? = some '\r' then line.dropLast else line

/-- The parts between line feeds. A line feed at the end of the text starts no further line, and
one carriage return directly before a line feed belongs to the line end. -/
def lines (text : List Char) : List (List Char) :=
  let parts := text.splitOn '\n'
  parts.dropLast.map dropReturn ++ parts.getLast?.toList.filter (!·.isEmpty)

end DialogueScript.Text
