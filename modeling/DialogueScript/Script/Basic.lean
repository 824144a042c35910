import Std.Data.ExtTreeMap

/- A script as written: topics and gambits in their order of appearance, nothing resolved. -/
namespace DialogueScript

abbrev Flags := Std.ExtTreeMap String String

/-- A trigger with its replies. The conversation is the pattern of the remark that must come
before; the redirect names another trigger. -/
structure Script.Gambit where
  trigger : Option String := none
  replies : List String := []
  conversation : Option String := none
  redirect : Option String := none
deriving DecidableEq, Repr

structure Script.Topic where
  name : String
  flags : Flags := ∅
  keywords : List String := []
  filter : Option String := none
  gambits : List Script.Gambit := []
deriving DecidableEq, Repr

structure Script where
  topics : List Script.Topic := []
  gambits : List Script.Gambit := []
deriving DecidableEq, Repr

end DialogueScript
