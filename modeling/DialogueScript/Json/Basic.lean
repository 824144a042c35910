/- JSON values. An object keeps its members as they are written, so a member that is given twice is
   still seen, and a number is kept as it is written. -/
namespace DialogueScript

inductive Json where
  | null
  | bool (value : Bool)
  | number (literal : String)
  | string (value : String)
  | array (elements : List Json)
  | object (members : List (String × Json))
deriving Repr

end DialogueScript
