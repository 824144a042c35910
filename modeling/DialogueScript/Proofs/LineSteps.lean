import DialogueScript.Script.Reader

/- What one line of a script does to what has been read before it, and a whole text line by line.
   Every line that counts is of one of four sorts, and a text that is read is a run of such steps.
   -/
namespace DialogueScript.Script
open Text

structure Entry where
  sigil : Char
  text : List Char

/-- A line of a text: its sigil and the text after it, both trimmed. Blank lines and comments count
for nothing. -/
def Entry.ofLine? (line : List Char) : Option Entry :=
  match trim line with
  | [] => none
  | sigil :: rest => if isIdle (sigil :: rest) then none else some ⟨sigil, trim rest⟩

def entriesIn (text : String) : List Entry := (lines text.toList).filterMap Entry.ofLine?

inductive Gambit.Takes (gambit : Gambit) : Entry → Gambit → Prop where
  | reply (text : List Char) : text ≠ [] →
      Takes gambit ⟨'-', text⟩ { gambit with replies := gambit.replies ++ [String.ofList text] }
  | blank : gambit.replies ≠ [] → Takes gambit ⟨'^', []⟩ gambit
  | continuation (text : List Char) : gambit.replies ≠ [] → text ≠ [] →
      Takes gambit ⟨'^', text⟩
        { gambit with replies := continueLast (String.ofList text) gambit.replies }
  | conversation (text : List Char) : gambit.conversation = none → text ≠ [] →
      Takes gambit ⟨'%', text⟩ { gambit with conversation := some (String.ofList text) }
  | redirect (text : List Char) : text ≠ [] →
      Takes gambit ⟨'@', text⟩ { gambit with redirect := some (String.ofList text) }

inductive Draft.Steps (draft : Draft) : Entry → Draft → Prop where
  | opens {header : List Char} {topic : Topic} : draft.openTopic = none →
      readHeader? header = some topic →
      Steps draft ⟨'>', header⟩ { draft.settle with openTopic := some topic }
  | closes {topic : Topic} : draft.openTopic = some topic →
      Steps draft ⟨'<', "topic".toList⟩ draft.close
  | starts (text : List Char) : text ≠ [] →
      Steps draft ⟨'+', text⟩
        { draft.settle with current := some { trigger := some (String.ofList text) } }
  | amends {entry : Entry} {gambit changed : Gambit} : draft.current = some gambit →
      gambit.Takes entry changed → Steps draft entry { draft with current := some changed }

theorem settle_current (draft : Draft) : draft.settle.current = none := by
  unfold Draft.settle
  split <;> first | assumption | rfl

section Steps

variable {draft next last : Draft}

theorem amend_steps {entry : Entry} {missing : Fault} {change : Gambit → Except Fault Gambit}
    (takes : ∀ gambit changed, change gambit = .ok changed → gambit.Takes entry changed)
    (ok : draft.amend missing change = .ok next) : draft.Steps entry next := by
  unfold Draft.amend at ok
  split at ok
  · cases ok
  · rename_i gambit current
    cases changes : change gambit with
    | error fault =>
      rw [changes] at ok
      cases ok
    | ok changed =>
      rw [changes] at ok
      cases ok
      exact .amends current (takes gambit changed changes)

theorem addContinuation_takes {text : List Char} {gambit changed : Gambit}
    (ok : gambit.addContinuation text = .ok changed) : gambit.Takes ⟨'^', text⟩ changed := by
  unfold Gambit.addContinuation at ok
  split at ok
  · cases ok
  · rename_i replied
    have some : gambit.replies ≠ [] := by simpa using replied
    split at ok
    · rename_i blank
      cases ok
      rw [List.isEmpty_iff.mp blank]
      exact .blank some
    · rename_i nonempty
      cases ok
      exact .continuation text some (by simpa using nonempty)

theorem addConversation_takes {text : List Char} {gambit changed : Gambit}
    (ok : gambit.addConversation text = .ok changed) : gambit.Takes ⟨'%', text⟩ changed := by
  unfold Gambit.addConversation at ok
  split at ok
  · cases ok
  · rename_i first
    split at ok
    · cases ok
    · rename_i nonempty
      cases ok
      exact .conversation text (by simpa using first) (by simpa using nonempty)

theorem addRedirect_takes {text : List Char} {gambit changed : Gambit}
    (ok : gambit.addRedirect text = .ok changed) : gambit.Takes ⟨'@', text⟩ changed := by
  unfold Gambit.addRedirect at ok
  split at ok
  · cases ok
  · rename_i nonempty
    cases ok
    exact .redirect text (by simpa using nonempty)

theorem take_steps {sigil : Char} {text : List Char} (ok : draft.take sigil text = .ok next) :
    draft.Steps ⟨sigil, text⟩ next := by
  unfold Draft.take at ok
  split at ok
  · unfold Draft.openHeader at ok
    split at ok
    · cases ok
    · cases ok
    · rename_i topic header outside
      cases ok
      exact .opens outside header
  · unfold Draft.closeTopic at ok
    split at ok
    · cases ok
    · rename_i footer
      rw [Decidable.not_not.mp footer]
      split at ok
      · cases ok
      · rename_i inside
        cases ok
        cases found : draft.openTopic with
        | none => simp [found] at inside
        | some topic => exact .closes found
  · split at ok
    · cases ok
    · rename_i nonempty
      cases ok
      exact .starts text (by simpa using nonempty)
  · split at ok
    · cases ok
    · rename_i nonempty
      refine amend_steps ?_ ok
      intro gambit changed same
      cases same
      exact .reply text (by simpa using nonempty)
  · exact amend_steps (fun _ _ => addContinuation_takes) ok
  · exact amend_steps (fun _ _ => addConversation_takes) ok
  · exact amend_steps (fun _ _ => addRedirect_takes) ok
  · cases ok

inductive Draft.Runs : Draft → List Entry → Draft → Prop where
  | nil (draft : Draft) : Runs draft [] draft
  | cons {draft next last : Draft} {entry : Entry} {rest : List Entry} :
      draft.Steps entry next → Runs next rest last → Runs draft (entry :: rest) last

theorem takeLine_steps {number : Nat} {line : List Char}
    (ok : draft.takeLine number (trim line) = .ok next) :
    Entry.ofLine? line = none ∧ next = draft ∨
      ∃ entry, Entry.ofLine? line = some entry ∧ draft.Steps entry next := by
  unfold Draft.takeLine at ok
  unfold Entry.ofLine?
  cases shape : trim line with
  | nil =>
    rw [shape] at ok
    cases ok
    exact .inl ⟨rfl, rfl⟩
  | cons sigil rest =>
    simp only [shape] at ok ⊢
    split at ok
    · rename_i idle
      cases ok
      exact .inl ⟨if_pos idle, rfl⟩
    · rename_i awake
      split at ok
      · rename_i taken
        cases ok
        exact .inr ⟨_, if_neg awake, take_steps taken⟩
      · cases ok

theorem takeLines_runs {number : Nat} {rows : List (List Char)}
    (ok : draft.takeLines number rows = .ok last) :
    draft.Runs (rows.filterMap Entry.ofLine?) last := by
  induction rows generalizing draft number with
  | nil =>
    cases ok
    exact .nil _
  | cons row rest ih =>
    rw [Draft.takeLines] at ok
    split at ok
    · rename_i taken
      have later := ih ok
      rcases takeLine_steps taken with ⟨idle, rfl⟩ | ⟨entry, read, step⟩
      · rwa [List.filterMap_cons_none idle]
      · rw [List.filterMap_cons_some read]
        exact .cons step later
    · cases ok

theorem read_runs {text : String} {script : Script} (ok : read text = .ok script) :
    ∃ last, Draft.Runs {} (entriesIn text) last ∧ last.finish = script := by
  unfold read at ok
  cases taken : Draft.takeLines {} 1 (lines text.toList) with
  | error fault =>
    rw [taken] at ok
    cases ok
  | ok last =>
    rw [taken] at ok
    cases ok
    exact ⟨last, takeLines_runs taken, rfl⟩

end Steps

end DialogueScript.Script
