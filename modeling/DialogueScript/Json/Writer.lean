import DialogueScript.Json.Basic

/- Writing JSON, on one line without spaces or spread over lines with two spaces to a level. Text is
   written as it is, but for the quote, the backslash and the control characters. -/
namespace DialogueScript.Json

def escapeChar (c : Char) : List Char :=
  if c = '"' then ['\\', '"']
  else if c = '\\' then ['\\', '\\']
  else if c.toNat = 8 then ['\\', 'b']
  else if c.toNat = 12 then ['\\', 'f']
  else if c = '\n' then ['\\', 'n']
  else if c = '\r' then ['\\', 'r']
  else if c = '\t' then ['\\', 't']
  else if c.toNat < 32 then
    ['\\', 'u', '0', '0', Nat.digitChar (c.toNat / 16), Nat.digitChar (c.toNat % 16)]
  else [c]

def quote (text : String) : List Char := '"' :: text.toList.flatMap escapeChar ++ ['"']

def writeScalar : Json → List Char
  | .null => "null".toList
  | .bool true => "true".toList
  | .bool false => "false".toList
  | .number literal => literal.toList
  | .string value => quote value
  | .array _ => []
  | .object _ => []

mutual

def write : Json → List Char
  | .array elements => '[' :: writeElements elements ++ [']']
  | .object members => '{' :: writeMembers members ++ ['}']
  | value => writeScalar value

def writeElements : List Json → List Char
  | [] => []
  | [value] => write value
  | value :: rest => write value ++ ',' :: writeElements rest

def writeMembers : List (String × Json) → List Char
  | [] => []
  | [(name, value)] => quote name ++ ':' :: write value
  | (name, value) :: rest => quote name ++ ':' :: write value ++ ',' :: writeMembers rest

end

def newLine (level : Nat) : List Char := '\n' :: List.replicate (2 * level) ' '

mutual

def writePretty (level : Nat) : Json → List Char
  | .array [] => "[]".toList
  | .array elements =>
    '[' :: writePrettyElements (level + 1) elements ++ newLine level ++ [']']
  | .object [] => "\x7b\x7d".toList
  | .object members =>
    '{' :: writePrettyMembers (level + 1) members ++ newLine level ++ ['}']
  | value => writeScalar value

def writePrettyElements (level : Nat) : List Json → List Char
  | [] => []
  | [value] => newLine level ++ writePretty level value
  | value :: rest =>
    newLine level ++ writePretty level value ++ ',' :: writePrettyElements level rest

def writePrettyMembers (level : Nat) : List (String × Json) → List Char
  | [] => []
  | [(name, value)] => newLine level ++ quote name ++ ": ".toList ++ writePretty level value
  | (name, value) :: rest =>
    newLine level ++ quote name ++ ": ".toList ++ writePretty level value ++
      ',' :: writePrettyMembers level rest

end

def compact (value : Json) : String := String.ofList (write value)

def pretty (value : Json) : String := String.ofList (writePretty 0 value)

end DialogueScript.Json
