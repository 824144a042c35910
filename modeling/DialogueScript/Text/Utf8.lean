/- Bytes as text. Where the bytes are not UTF-8 the place of the first fault is told: either the
   bytes there can begin no character, or they stop inside one. To be shown, bytes become text in
   any case, with a mark for each fault. -/
namespace DialogueScript.Text

inductive Utf8Fault where
  | invalid (length index : Nat)
  | incomplete (index : Nat)
deriving DecidableEq, Repr

def Utf8Fault.message : Utf8Fault → String
  | .invalid length index => s!"invalid utf-8 sequence of {length} bytes from index {index}"
  | .incomplete index => s!"incomplete utf-8 byte sequence from index {index}"

/-- A lead byte asks for this many further bytes, the first of them between two bounds. -/
structure Lead where
  further : Nat
  least : UInt8
  most : UInt8
deriving DecidableEq, Repr

def lead? (byte : UInt8) : Option Lead :=
  if byte ≤ 0x7F then some ⟨0, 0x80, 0xBF⟩
  else if byte < 0xC2 then none
  else if byte ≤ 0xDF then some ⟨1, 0x80, 0xBF⟩
  else if byte = 0xE0 then some ⟨2, 0xA0, 0xBF⟩
  else if byte = 0xED then some ⟨2, 0x80, 0x9F⟩
  else if byte ≤ 0xEF then some ⟨2, 0x80, 0xBF⟩
  else if byte = 0xF0 then some ⟨3, 0x90, 0xBF⟩
  else if byte = 0xF4 then some ⟨3, 0x80, 0x8F⟩
  else if byte ≤ 0xF3 then some ⟨3, 0x80, 0xBF⟩
  else none

/-- Scans the bytes of a character that starts at `start`. `further` more bytes are due, the next
one between two bounds; `here` is the index of the next byte. -/
def faultFrom (start here further : Nat) (least most : UInt8) : List UInt8 → Option Utf8Fault
  | [] => if further = 0 then none else some (.incomplete start)
  | byte :: rest =>
    if further = 0 then
      match lead? byte with
      | none => some (.invalid 1 here)
      | some lead => faultFrom here (here + 1) lead.further lead.least lead.most rest
    else if least ≤ byte ∧ byte ≤ most then
      faultFrom start (here + 1) (further - 1) 0x80 0xBF rest
    else some (.invalid (here - start) start)

def utf8Fault? (bytes : List UInt8) : Option Utf8Fault := faultFrom 0 0 0 0x80 0xBF bytes

def encode (text : String) : List UInt8 := text.toUTF8.data.toList

def decode (bytes : List UInt8) : Except Utf8Fault String :=
  match String.fromUTF8? ⟨bytes.toArray⟩ with
  | some text => .ok text
  | none => .error ((utf8Fault? bytes).getD (.incomplete 0))

structure Begun where
  bits : Nat
  due : Lead
deriving DecidableEq, Repr

def faultMark : Char := '\uFFFD'

def beginChar (byte : UInt8) : List Char × Option Begun :=
  match lead? byte with
  | none => ([faultMark], none)
  | some lead =>
    if lead.further = 0 then ([Char.ofNat byte.toNat], none)
    else ([], some ⟨byte.toNat % (64 >>> lead.further), lead⟩)

/-- One more byte inside a character. A byte that cannot go on with it leaves a fault behind and is
taken as the first byte of the next. -/
def Begun.advance (begun : Begun) (byte : UInt8) : List Char × Option Begun :=
  if begun.due.least ≤ byte ∧ byte ≤ begun.due.most then
    let bits := 64 * begun.bits + byte.toNat % 64
    if begun.due.further = 1 then ([Char.ofNat bits], none)
    else ([], some ⟨bits, ⟨begun.due.further - 1, 0x80, 0xBF⟩⟩)
  else (faultMark :: (beginChar byte).1, (beginChar byte).2)

def shownFrom (begun : Option Begun) : List UInt8 → List Char
  | [] => if begun.isSome then [faultMark] else []
  | byte :: rest =>
    let (done, next) := begun.elim (beginChar byte) (·.advance byte)
    done ++ shownFrom next rest

def shown (bytes : List UInt8) : String :=
  match decode bytes with
  | .ok text => text
  | .error _ => String.ofList (shownFrom none bytes)

end DialogueScript.Text
