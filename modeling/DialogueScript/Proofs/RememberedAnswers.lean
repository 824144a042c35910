import DialogueScript.Proofs.SharedExpander

/- A run of an expander over a row of words. Each word is answered as a new expander would answer
   it, and its sources are asked only when that exact spelling comes up for the first time. Failed
   lookups count as answers without words and are remembered like all others. -/
namespace DialogueScript.Concept

/-- What comes of a question to a source that may be missing: the words found, and the questions
that were put. -/
inductive Asked (source : Option Source) (call : Call) : List String → List Call → Prop where
  | missing (absent : source = none) : Asked source call [] []
  | failed {ask : Source} (present : source = some ask) (fails : ask call.word = none) :
      Asked source call [] [call]
  | found {ask : Source} {words : List String} (present : source = some ask)
      (finds : ask call.word = some words) : Asked source call words [call]

/-- How a word is looked up when nothing is remembered. The facts see it in lowercase and settle it
if they have words for it; if not, the dictionary sees it as it is, and underscores in its entries
become spaces. -/
inductive LookedUp (sources : Sources) (word : String) : Step → Prop where
  | facts {words : List String} {calls : List Call}
      (asked : Asked sources.facts ⟨.facts, lowercase word⟩ words calls) (some : words ≠ []) :
      LookedUp sources word ⟨words, calls⟩
  | dictionary {words : List String} {calls more : List Call}
      (silent : Asked sources.facts ⟨.facts, lowercase word⟩ [] calls)
      (asked : Asked sources.dictionary ⟨.dictionary, word⟩ words more) :
      LookedUp sources word ⟨words.map phrase, calls ++ more⟩

theorem asked_iff {source : Option Source} {call : Call} {words : List String}
    {calls : List Call} :
    Asked source call words calls ↔
      words = (source.bind (· call.word)).getD [] ∧
        calls = if source.isSome then [call] else [] := by
  constructor
  · rintro (⟨rfl⟩ | ⟨rfl, fails⟩ | ⟨rfl, finds⟩)
    · exact ⟨rfl, rfl⟩
    · simp [fails]
    · simp [finds]
  · rintro ⟨rfl, rfl⟩
    cases source with
    | none => exact .missing rfl
    | some ask =>
      cases answer : ask call.word with
      | none =>
        have failed : Asked (some ask) call [] [call] := .failed rfl answer
        simpa [answer] using failed
      | some words =>
        have found : Asked (some ask) call words [call] := .found rfl answer
        simpa [answer] using found

theorem lookedUp_iff {sources : Sources} {word : String} {step : Step} :
    LookedUp sources word step ↔ step = ⟨sources.expand word, sources.calls word⟩ := by
  have facts {words : List String} {calls : List Call} :
      Asked sources.facts ⟨.facts, lowercase word⟩ words calls ↔
        words = sources.fromFacts word ∧
          calls = if sources.facts.isSome then [⟨.facts, lowercase word⟩] else [] := asked_iff
  have dictionary {words : List String} {calls : List Call} :
      Asked sources.dictionary ⟨.dictionary, word⟩ words calls ↔
        words = (sources.dictionary.bind (· word)).getD [] ∧
          calls = if sources.dictionary.isSome then [⟨.dictionary, word⟩] else [] := asked_iff
  constructor
  · rintro (⟨asked, known⟩ | ⟨silent, asked⟩)
    · obtain ⟨rfl, rfl⟩ := facts.mp asked
      simp [Sources.expand, Sources.calls, known]
    · obtain ⟨nothing, rfl⟩ := facts.mp silent
      obtain ⟨rfl, rfl⟩ := dictionary.mp asked
      simp [Sources.expand, Sources.calls, Sources.fromDictionary, ← nothing]
  · rintro rfl
    by_cases nothing : sources.fromFacts word = []
    · have silent := facts.mpr ⟨nothing.symm, rfl⟩
      have step := LookedUp.dictionary silent (dictionary.mpr ⟨rfl, rfl⟩)
      simpa [Sources.expand, Sources.calls, Sources.fromDictionary, nothing] using step
    · have step := LookedUp.facts (facts.mpr ⟨rfl, rfl⟩) nothing
      simpa [Sources.expand, Sources.calls, nothing] using step

section Runs

variable {expander : Expander} {sources : Sources}

theorem step_of_expand (expander : Expander) (word : String) :
    (expander.expand word).1 =
      ⟨expander.answer word,
        if word ∈ expander.remembered then [] else expander.sources.calls word⟩ := by
  rw [answer_eq]
  cases found : expander.remembered[word]? with
  | none =>
    rw [if_neg (not_mem_iff_lookup.mpr found)]
    simp only [Expander.expand, found, Option.getD_none]
  | some words =>
    rw [if_pos (mem_iff_lookup.mpr ⟨words, found⟩)]
    simp only [Expander.expand, found, Option.getD_some]

theorem known_after_expand (expander : Expander) (word other : String) :
    other ∈ (expander.expand word).2.remembered ↔ other = word ∨ other ∈ expander.remembered := by
  rw [mem_iff_lookup, expand_remembers, mem_iff_lookup]
  by_cases same : word = other
  · simp [same]
  · simp [same, Ne.symm same]

theorem expandAll_length (expander : Expander) (words : List String) :
    (expander.expandAll words).length = words.length := by
  induction words generalizing expander with
  | nil => rfl
  | cons word rest ih => simp [Expander.expandAll, ih]

theorem expandAll_step (faithful : expander.Faithful sources) {words : List String} {i : Nat}
    {word : String} (reached : words[i]? = some word) :
    (expander.expandAll words)[i]? = some ⟨sources.expand word,
      if word ∈ expander.remembered ∨ word ∈ words.take i then [] else sources.calls word⟩ := by
  induction words generalizing expander i with
  | nil => cases reached
  | cons first rest ih =>
    cases i with
    | zero =>
      cases reached
      simp [Expander.expandAll, step_of_expand, faithful.answer, faithful.same]
    | succ i =>
      rw [List.getElem?_cons_succ] at reached
      rw [Expander.expandAll, List.getElem?_cons_succ,
        ih (expand_keeps_faithful faithful first) reached]
      simp only [known_after_expand, List.take_succ_cons, List.mem_cons, or_assoc, or_left_comm]

end Runs

/-- An expander that remembers is transparent. In a run over any words each one gets the words that
a new expander finds for it, and causes the questions that a new expander asks if its exact spelling
has not come up before, and none otherwise. Afterwards all words of the run are remembered with
their answers, and nothing else. -/
theorem remembering_is_transparent (sources : Sources) :
    (∀ word step, LookedUp sources word step ↔ step = (Expander.expand { sources } word).1) ∧
    ∀ words : List String,
      (Expander.expandAll { sources } words).length = words.length ∧
      (∀ (i : Nat) (word : String) (fresh : Step), words[i]? = some word →
        LookedUp sources word fresh →
        (Expander.expandAll { sources } words)[i]? =
          some ⟨fresh.words, if word ∈ words.take i then [] else fresh.calls⟩) ∧
      ∀ (word : String) (fresh : Step), LookedUp sources word fresh →
        (Expander.learn { sources } words).remembered[word]? =
          if word ∈ words then some fresh.words else none := by
  have new := new_expander_faithful sources
  refine ⟨?_, fun words => ⟨expandAll_length _ words, ?_, ?_⟩⟩
  · intro word step
    rw [lookedUp_iff, step_of_expand, new.answer]
    simp
  · intro i word fresh reached lookedUp
    rw [lookedUp_iff.mp lookedUp, expandAll_step new reached]
    simp
  · intro word fresh lookedUp
    rw [lookedUp_iff.mp lookedUp, learn_remembers, new.answer]
    simp

def petSources : Sources where
  facts := some fun word => if word = "animal" then some ["cat"] else none
  dictionary := some fun word => if word = "pet" then some ["guinea_pig"] else none

-- Two spellings are two words to the memory and to the dictionary, and one word to the facts.
set_option maxRecDepth 4000 in
theorem failed_lookup_is_not_repeated :
    LookedUp petSources "Pet" ⟨[], [⟨.facts, "pet"⟩, ⟨.dictionary, "Pet"⟩]⟩ ∧
      LookedUp petSources "pet" ⟨["guinea pig"], [⟨.facts, "pet"⟩, ⟨.dictionary, "pet"⟩]⟩ ∧
      (Expander.expandAll { sources := petSources } ["Pet", "pet", "Pet"])[1]? =
        some ⟨["guinea pig"], [⟨.facts, "pet"⟩, ⟨.dictionary, "pet"⟩]⟩ ∧
      (Expander.expandAll { sources := petSources } ["Pet", "pet", "Pet"])[2]? = some ⟨[], []⟩ ∧
      (Expander.learn { sources := petSources } ["Pet", "pet", "Pet"]).remembered["Pet"]? =
        some [] := by
  have capital : LookedUp petSources "Pet" ⟨[], [⟨.facts, "pet"⟩, ⟨.dictionary, "Pet"⟩]⟩ :=
    .dictionary (.failed rfl rfl) (.failed rfl rfl)
  have entry : Asked petSources.dictionary ⟨.dictionary, "pet"⟩ ["guinea_pig"]
      [⟨.dictionary, "pet"⟩] := .found rfl rfl
  have small :
      LookedUp petSources "pet" ⟨["guinea pig"], [⟨.facts, "pet"⟩, ⟨.dictionary, "pet"⟩]⟩ :=
    .dictionary (.failed rfl rfl) entry
  obtain ⟨_, steps, memory⟩ := (remembering_is_transparent petSources).2 ["Pet", "pet", "Pet"]
  exact ⟨capital, small, steps 1 "pet" _ rfl small, steps 2 "Pet" _ rfl capital,
    memory "Pet" _ capital⟩

end DialogueScript.Concept
