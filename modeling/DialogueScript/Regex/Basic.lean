import DialogueScript.Text.Blank
import DialogueScript.Text.CaseFold

/- Regular expressions over a type of character tests, and the positions of a text that they
   lead to. A set of positions is a number: position `i` belongs to it when bit `i` is set. -/
namespace DialogueScript

/-- `repeated` stands for at least and at most so many copies, without a limit if none is given;
an eager one prefers more copies to fewer. A captured group asks for its place to be told. Neither
makes a difference to whether a text matches. -/
inductive Regex (α : Type) where
  | empty
  | one (test : α)
  | atStart
  | atEnd
  | seq (first second : Regex α)
  | alt (left right : Regex α)
  | repeated (body : Regex α) (least : Nat) (most : Option Nat) (eager : Bool)
  | group (captured : Bool) (body : Regex α)
deriving DecidableEq, Repr

namespace Regex

def map (f : α → β) : Regex α → Regex β
  | .empty => .empty
  | .one test => .one (f test)
  | .atStart => .atStart
  | .atEnd => .atEnd
  | .seq first second => .seq (first.map f) (second.map f)
  | .alt left right => .alt (left.map f) (right.map f)
  | .repeated body least most eager => .repeated (body.map f) least most eager
  | .group captured body => .group captured (body.map f)

/-- A test of one character. Letter case makes no difference to it. -/
inductive CharTest where
  | literal (c : Char)
  | anyOf (cs : List Char)
  | notLineFeed
  | blank
  | notBlank
deriving DecidableEq, Repr

def CharTest.accepts : CharTest → Char → Bool
  | .literal d, c => Text.sameLetter d c
  | .anyOf ds, c => ds.any (Text.sameLetter · c)
  | .notLineFeed, c => c != '\n'
  | .blank, c => Text.isBlank c
  | .notBlank, c => !Text.isBlank c

def CharTest.positions (test : CharTest) : List Char → Nat
  | [] => 0
  | c :: rest => 2 * test.positions rest + (test.accepts c).toNat

def walk (step : Nat → Nat) : (steps : Nat) → Nat → Nat
  | 0, set => set
  | steps + 1, set =>
    let next := step set
    if next = set then set else walk step steps next

def reach (step : Nat → Nat) : (rounds : Nat) → Nat → Nat
  | 0, set => set
  | rounds + 1, set =>
    let wider := set ||| step set
    if wider = set then set else reach step rounds wider

/-- The positions to which an expression leads from a set of positions of a text with this many
characters. The tests are given by the positions in front of the characters that pass them. -/
def advance (length : Nat) : Regex Nat → Nat → Nat
  | .empty, set => set
  | .one positions, set => (set &&& positions) <<< 1
  | .atStart, set => set &&& 1
  | .atEnd, set => set &&& (1 <<< length)
  | .seq first second, set => advance length second (advance length first set)
  | .alt left right, set => advance length left set ||| advance length right set
  | .repeated body least most _, set =>
    let required := walk (advance length body) least set
    match most with
    | none => reach (advance length body) (length + 1) required
    | some most =>
      if least ≤ most then reach (advance length body) (most - least) required else 0
  | .group _ body, set => advance length body set

def matchesIn (regex : Regex CharTest) (text : List Char) : Bool :=
  let everywhere := (1 <<< (text.length + 1)) - 1
  advance text.length (regex.map (CharTest.positions · text)) everywhere != 0

end Regex

end DialogueScript
