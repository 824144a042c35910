import DialogueScript.Json.Basic
import Std.Data.ExtTreeMap

/- Taking JSON values apart. -/
namespace DialogueScript.Json

def string? : Json → Option String
  | .string value => some value
  | _ => none

def list? (element? : Json → Option α) : Json → Option (List α)
  | .array elements => elements.mapM element?
  | _ => none

/-- A table whose values are all of one kind. Of two values under one name the later one holds. -/
def table? (value? : Json → Option α) : Json → Option (Std.ExtTreeMap String α)
  | .object members => do
    let entries ← members.mapM fun (name, value) => (value? value).map (name, ·)
    return entries.foldl (fun table entry => table.insert entry.1 entry.2) ∅
  | _ => none

def latestMembers : List (String × Json) → List (String × Json)
  | [] => []
  | member :: rest =>
    if rest.any (·.1 == member.1) then latestMembers rest else member :: latestMembers rest

def latest : Json → Json
  | .object members => .object (latestMembers members)
  | json => json

def nullable? (value? : Json → Option α) : Json → Option (Option α)
  | .null => some none
  | value => (value? value).map some

def members? : Json → Option (List (String × Json))
  | .object members => some members
  | _ => none

/-- The field of a name, which may be missing but must not be given twice. -/
def field? (members : List (String × Json)) (name : String) : Option (Option Json) :=
  match members.filter (·.1 == name) with
  | [] => some none
  | [member] => some (some member.2)
  | _ => none

/-- The fields of a record by name, or in the order of the names as an array. In an array only
fields beyond the first `required` may be missing. -/
def record? (names : List String) (required : Nat) : Json → Option (List (Option Json))
  | .object members => names.mapM (field? members)
  | .array elements =>
    if required ≤ elements.length ∧ elements.length ≤ names.length then
      some (elements.map some ++ List.replicate (names.length - elements.length) none)
    else none
  | _ => none

def required? (value? : Json → Option α) (field : Option Json) : Option α := field.bind value?

def optional? (value? : Json → Option α) : Option Json → Option (Option α)
  | none => some none
  | some value => nullable? value? value

end DialogueScript.Json
