import DialogueScript.Text.Lowercase

/- Simple case folding, one character to one. Two characters are the same letter in disregard of
   case exactly when they fold to the same character. Folding and words go by the sixteenth edition
   of Unicode, lowercase and alphanumeric characters by the seventeenth. -/
namespace DialogueScript.Text

/-- Characters that fold elsewhere than to their lowercase partner. -/
def foldExceptions : List (Nat × Nat) :=
  [(0xB5, 0x3BC), (0x17F, 0x73), (0x345, 0x3B9), (0x3C2, 0x3C3), (0x3D0, 0x3B2), (0x3D1, 0x3B8),
    (0x3D5, 0x3C6), (0x3D6, 0x3C0), (0x3F0, 0x3BA), (0x3F1, 0x3C1), (0x3F5, 0x3B5),
    (0x1C80, 0x432), (0x1C81, 0x434), (0x1C82, 0x43E), (0x1C83, 0x441), (0x1C84, 0x442),
    (0x1C85, 0x442), (0x1C86, 0x44A), (0x1C87, 0x463), (0x1C88, 0xA64B), (0x1E9B, 0x1E61),
    (0x1FBE, 0x3B9), (0x1FD3, 0x390), (0x1FE3, 0x3B0), (0xFB05, 0xFB06)]

/-- Letters that have a lowercase partner since the seventeenth edition and fold to themselves. -/
def unfoldedBoundaries : List Nat :=
  [0xA7CE, 0xA7CF, 0xA7D2, 0xA7D3, 0xA7D4, 0xA7D5, 0x16EA0, 0x16EB9]

def foldCase (c : Char) : Char :=
  match foldExceptions.lookup c.toNat with
  | some code => Char.ofNat code
  | none => if covers c.toNat unfoldedBoundaries then c else lowercaseChar c

def sameLetter (a b : Char) : Bool := foldCase a == foldCase b

def CaseRun.partner? (run : CaseRun) (code : Nat) : Option Nat :=
  let partner := run.first + (code - run.target)
  if run.target ≤ code && run.holds partner then some partner else none

def letterForms (c : Char) : List Char :=
  let folded := foldCase c
  let exceptions := foldExceptions.filterMap fun (code, target) =>
    if target = folded.toNat then some code else none
  let partners := lowercaseRuns.filterMap (·.partner? folded.toNat)
  folded :: ((exceptions ++ partners).map Char.ofNat).filter (sameLetter c)

end DialogueScript.Text
