import DialogueScript.Json.Basic
import DialogueScript.Json.Magnitude

/- Reading JSON. Arrays and objects nest at most 127 deep, a number must be finite as a
   double, and an escaped half of a surrogate pair needs its other half. -/
namespace DialogueScript.Json

/-- One more than the admissible depth of nesting. -/
def depthLimit : Nat := 128

def isSpace (c : Char) : Bool := c == ' ' || c == '\t' || c == '\n' || c == '\r'

def skipSpace (text : List Char) : List Char := text.dropWhile isSpace

def hexValue? (c : Char) : Option Nat :=
  if '0' ≤ c ∧ c ≤ '9' then some (c.toNat - '0'.toNat)
  else if 'a' ≤ c ∧ c ≤ 'f' then some (c.toNat - 'a'.toNat + 10)
  else if 'A' ≤ c ∧ c ≤ 'F' then some (c.toNat - 'A'.toNat + 10)
  else none

def codeUnit? (a b c d : Char) : Option Nat := do
  return 4096 * (← hexValue? a) + 256 * (← hexValue? b) + 16 * (← hexValue? c) + (← hexValue? d)

def isLeading (unit : Nat) : Bool := 0xD800 ≤ unit && unit < 0xDC00

def isTrailing (unit : Nat) : Bool := 0xDC00 ≤ unit && unit < 0xE000

def shortEscape? : Char → Option Char
  | '"' => some '"'
  | '\\' => some '\\'
  | '/' => some '/'
  | 'b' => some (Char.ofNat 8)
  | 'f' => some (Char.ofNat 12)
  | 'n' => some '\n'
  | 'r' => some '\r'
  | 't' => some '\t'
  | _ => none

/-- What a string is made of: characters, and code units that may be halves of one. -/
inductive Symbol where
  | char (c : Char)
  | unit (code : Nat)
deriving DecidableEq, Repr

def readSymbols : List Char → Option (List Symbol × List Char)
  | [] => none
  | '"' :: rest => some ([], rest)
  | '\\' :: 'u' :: a :: b :: c :: d :: rest => do
    let code ← codeUnit? a b c d
    let (symbols, rest) ← readSymbols rest
    return (.unit code :: symbols, rest)
  | '\\' :: c :: rest => do
    let escaped ← shortEscape? c
    let (symbols, rest) ← readSymbols rest
    return (.char escaped :: symbols, rest)
  | c :: rest =>
    if c.toNat < 32 || c == '\\' then none
    else do
      let (symbols, rest) ← readSymbols rest
      return (.char c :: symbols, rest)

def joinSymbols? : List Symbol → Option (List Char)
  | [] => some []
  | .char c :: rest => (joinSymbols? rest).map (c :: ·)
  | .unit code :: rest =>
    if isTrailing code then none
    else if isLeading code then
      match rest with
      | .unit second :: rest =>
        if isTrailing second then
          (joinSymbols? rest).map
            (Char.ofNat (0x10000 + 0x400 * (code - 0xD800) + (second - 0xDC00)) :: ·)
        else none
      | _ => none
    else (joinSymbols? rest).map (Char.ofNat code :: ·)

def readString (text : List Char) : Option (String × List Char) := do
  let (symbols, rest) ← readSymbols text
  let chars ← joinSymbols? symbols
  return (String.ofList chars, rest)

def readFraction : List Char → Option (List Char × List Char)
  | '.' :: rest =>
    let digits := rest.takeWhile Char.isDigit
    if digits.isEmpty then none else some (digits, rest.drop digits.length)
  | text => some ([], text)

def readExponent : List Char → Option (Int × List Char)
  | c :: rest =>
    if c = 'e' ∨ c = 'E' then
      let negative := rest.head? = some '-'
      let rest := if negative ∨ rest.head? = some '+' then rest.drop 1 else rest
      let digits := rest.takeWhile Char.isDigit
      let value : Int := digitsValue digits
      if digits.isEmpty then none
      else some (if negative then -value else value, rest.drop digits.length)
    else some (0, c :: rest)
  | [] => some (0, [])

def readUnsigned (text : List Char) : Option (Scaled × List Char) := do
  let whole := text.takeWhile Char.isDigit
  if whole.isEmpty || (whole.head? == some '0' && 1 < whole.length) then none
  let (fraction, rest) ← readFraction (text.drop whole.length)
  let (exponent, rest) ← readExponent rest
  return (.ofDigits whole fraction exponent, rest)

def readNumber (text : List Char) : Option (Json × List Char) := do
  let unsigned := if text.head? = some '-' then text.drop 1 else text
  let (scaled, rest) ← readUnsigned unsigned
  if scaled.isFinite then
    return (.number (String.ofList (text.take (text.length - rest.length))), rest)
  else none

mutual

/-- Reads a value, with enough fuel for two steps a character. -/
def readValue : (fuel depth : Nat) → List Char → Option (Json × List Char)
  | 0, _, _ => none
  | fuel + 1, depth, text =>
    match skipSpace text with
    | '"' :: rest => (readString rest).map fun (value, rest) => (.string value, rest)
    | '[' :: rest =>
      if depth ≤ 1 then none
      else
        match skipSpace rest with
        | ']' :: rest => some (.array [], rest)
        | rest =>
          (readElements fuel (depth - 1) rest).map fun (values, rest) => (.array values, rest)
    | '{' :: rest =>
      if depth ≤ 1 then none
      else
        match skipSpace rest with
        | '}' :: rest => some (.object [], rest)
        | rest =>
          (readMembers fuel (depth - 1) rest).map fun (members, rest) => (.object members, rest)
    | 'n' :: 'u' :: 'l' :: 'l' :: rest => some (.null, rest)
    | 't' :: 'r' :: 'u' :: 'e' :: rest => some (.bool true, rest)
    | 'f' :: 'a' :: 'l' :: 's' :: 'e' :: rest => some (.bool false, rest)
    | rest => readNumber rest

def readElements : (fuel depth : Nat) → List Char → Option (List Json × List Char)
  | 0, _, _ => none
  | fuel + 1, depth, text => do
    let (value, rest) ← readValue fuel depth text
    match skipSpace rest with
    | ']' :: rest => return ([value], rest)
    | ',' :: rest =>
      let (values, rest) ← readElements fuel depth rest
      return (value :: values, rest)
    | _ => none

def readMembers : (fuel depth : Nat) → List Char → Option (List (String × Json) × List Char)
  | 0, _, _ => none
  | fuel + 1, depth, text =>
    match skipSpace text with
    | '"' :: rest => do
      let (name, rest) ← readString rest
      match skipSpace rest with
      | ':' :: rest =>
        let (value, rest) ← readValue fuel depth rest
        match skipSpace rest with
        | '}' :: rest => return ([(name, value)], rest)
        | ',' :: rest =>
          let (members, rest) ← readMembers fuel depth rest
          return ((name, value) :: members, rest)
        | _ => none
      | _ => none
    | _ => none

end

def read? (text : String) : Option Json :=
  let chars := text.toList
  match readValue (2 * chars.length + 2) depthLimit chars with
  | some (value, rest) => if (skipSpace rest).isEmpty then some value else none
  | none => none

end DialogueScript.Json
