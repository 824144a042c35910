import DialogueScript.Digest.Sha256
import DialogueScript.Graph.Basic
import DialogueScript.Text.Utf8

/- Identifiers. A scope determines an endless sequence of them, so the same script under the same
   name always receives the same ones. Each is eight characters drawn from the digest of the scope's
   own digest and a counter of eight bytes. -/
namespace DialogueScript

def alphabet : List Char :=
  "ABCDEFGHIJKLMNOPQRSTUVWXYZabcdefghijklmnopqrstuvwxyz0123456789".toList

def identifierLength : Nat := 8

/-- The counter runs through the numbers of eight bytes and then repeats. -/
def counterLimit : Nat := Nat.pow 2 64

def identifierChar (byte : UInt8) : Char := alphabet.getD (byte.toNat % 62) 'A'

def counterBytes (counter : Nat) : List UInt8 :=
  (List.range 8).map fun i => UInt8.ofNat (counter / Nat.pow 256 i)

def identifierAt (seed : List UInt8) (counter : Nat) : Identifier :=
  String.ofList (((Sha256.digest (seed ++ counterBytes counter)).take identifierLength).map
    identifierChar)

structure Numbering where
  seed : List UInt8
  counter : Nat := 0
deriving DecidableEq, Repr

def Numbering.ofScope (scope : String) : Numbering :=
  ⟨Sha256.digest (Text.encode scope), 0⟩

/-- The first of the next so many identifiers that is not taken, and the place after it. -/
def Numbering.search (numbering : Numbering) (taken : Identifier → Bool) :
    (tries : Nat) → Option (Identifier × Numbering)
  | 0 => none
  | tries + 1 =>
    let id := identifierAt numbering.seed numbering.counter
    let next := { numbering with counter := numbering.counter + 1 }
    if taken id then next.search taken tries else some (id, next)

/-- The next identifier that is not taken. There is none only if every remaining term of the
sequence is taken. -/
def Numbering.next? (numbering : Numbering) (taken : Identifier → Bool) :
    Option (Identifier × Numbering) :=
  numbering.search taken (counterLimit - numbering.counter)

end DialogueScript
