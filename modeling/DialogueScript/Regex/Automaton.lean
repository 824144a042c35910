/- Building an automaton over bytes, as far as its memory goes. States are numbered in the order
   in which they are added. A state has a fixed size and takes up more for each transition to
   other states; a fork has links to states instead. A build stops once the memory is used up. -/
namespace DialogueScript.Regex

structure Automaton where
  states : Nat := 0
  extraBytes : Nat := 0
deriving DecidableEq, Repr

def stateBytes : Nat := 32

def transitionBytes : Nat := 8

def linkBytes : Nat := 4

def sizeLimit : Nat := 10485760

def Automaton.bytes (automaton : Automaton) : Nat :=
  stateBytes * automaton.states + automaton.extraBytes

abbrev Assembly := StateT Automaton Option

def grow (states extraBytes : Nat) : Assembly Unit := fun automaton =>
  let grown : Automaton := ⟨automaton.states + states, automaton.extraBytes + extraBytes⟩
  if grown.bytes ≤ sizeLimit then some ((), grown) else none

def addState (transitions : Nat) : Assembly Nat := do
  let automaton ← get
  grow 1 (transitionBytes * transitions)
  return automaton.states

def addFork (links : Nat) : Assembly Unit := grow 1 (linkBytes * links)

/-- A link from the last state of a part to what follows. Only a fork takes up more for it. -/
def linkFrom (isFork : Bool) : Assembly Unit := grow 0 (if isFork then linkBytes else 0)

structure Shared where
  slot : Nat
  key : List Nat
  state : Nat
deriving DecidableEq, Repr

/-- The states that can be shared, newest first. Each slot keeps only the newest one. -/
abbrev Sharing := StateT (List Shared) Assembly

def keyHash (key : List Nat) : UInt64 :=
  key.foldl (fun hash number => (hash ^^^ number.toUInt64) * 1099511628211) 14695981039346656037

def share (slots : Nat) (key : List Nat) (transitions : Nat) : Sharing Nat := do
  let slot := (keyHash key).toNat % slots
  let known := (← get).find? (·.slot == slot)
  match known.filter (·.key == key) with
  | some shared => return shared.state
  | none =>
    let state ← addState transitions
    modify (⟨slot, key, state⟩ :: ·)
    return state

end DialogueScript.Regex
