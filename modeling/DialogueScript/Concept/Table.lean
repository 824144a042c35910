import DialogueScript.Concept.Source

/- A table of words that serves as either source. Letter case makes no difference to it. -/
namespace DialogueScript.Concept

structure Table where
  entries : Std.ExtTreeMap String (List String) := ∅
deriving DecidableEq, Repr

def Table.insert (table : Table) (word : String) (words : List String) : Table :=
  ⟨table.entries.insert (lowercase word) words⟩

/-- Fills a table in the given order, so that the later of two entries for a word holds. -/
def Table.ofList (entries : List (String × List String)) : Table :=
  entries.foldl (fun table entry => table.insert entry.1 entry.2) {}

def Table.lookup (table : Table) (word : String) : List String :=
  (table.entries[lowercase word]?).getD []

/-- The table as a source whose lookups fail for some exact spellings. -/
def Table.source (table : Table) (failing : List String := []) : Source := fun word =>
  if word ∈ failing then none else some (table.lookup word)

end DialogueScript.Concept
