import DialogueScript.Proofs.EnoughIdentifiers
import DialogueScript.Proofs.LoweredContent
import Mathlib.Data.List.Forall2

/- Identifiers under edits. A script is given the different terms of its scope's sequence, one
   after the other: for each gambit one for each of its replies, then one for itself. So which
   identifiers a gambit gets depends on the scope and on how many replies the gambits up to it have,
   and on nothing else that the script says. -/
namespace DialogueScript

def Script.ordered (topics : List Script.Topic) : List (String × Script.Gambit) :=
  topics.flatMap fun topic => topic.gambits.map (topic.name, ·)

def Script.inOrder (script : Script) : List (String × Script.Gambit) :=
  Script.ordered script.collapsed

/-- The different terms among the first so many of a sequence, each where it first appears. -/
def termsBefore (seed : List UInt8) (counter : Nat) : List Identifier :=
  Graph.appendNew [] ((List.range counter).map (identifierAt seed))

section Terms

variable {seed : List UInt8} {counter later : Nat}

theorem mem_termsBefore {id : Identifier} :
    id ∈ termsBefore seed counter ↔ ∃ place < counter, identifierAt seed place = id := by
  simp [termsBefore, Graph.mem_appendNew]

theorem termsBefore_succ (seed : List UInt8) (counter : Nat) :
    termsBefore seed (counter + 1) =
      Graph.appendNew (termsBefore seed counter) [identifierAt seed counter] := by
  rw [termsBefore, List.range_succ, List.map_append, Graph.appendNew_append]
  rfl

theorem termsBefore_grows (ahead : counter ≤ later) :
    termsBefore seed counter <+: termsBefore seed later := by
  induction ahead with
  | refl => exact List.prefix_rfl
  | @step later _ ih =>
    refine ih.trans ?_
    rw [termsBefore_succ, Graph.appendNew_eq]
    exact List.prefix_append _ _

theorem termsBefore_passed (ahead : counter ≤ later)
    (passed : ∀ place, counter ≤ place → place < later →
      identifierAt seed place ∈ termsBefore seed counter) :
    termsBefore seed later = termsBefore seed counter := by
  induction ahead with
  | refl => rfl
  | @step later ahead ih =>
    have last := passed later ahead (Nat.lt_succ_self later)
    rw [termsBefore_succ, ih fun place start stop => passed place start (Nat.lt_succ_of_lt stop)]
    simp [Graph.appendNew, last]

theorem termsBefore_agree {first second : List Identifier}
    (sameLength : first.length = second.length) (begins : first <+: termsBefore seed counter)
    (also : second <+: termsBefore seed later) : first = second := by
  rcases Nat.le_total counter later with ahead | ahead
  · have both := begins.trans (termsBefore_grows ahead)
    have leads := List.prefix_of_prefix_length_le both also (Nat.le_of_eq sameLength)
    exact leads.eq_of_length sameLength
  · have both := also.trans (termsBefore_grows ahead)
    have leads := List.prefix_of_prefix_length_le both begins (Nat.le_of_eq sameLength.symm)
    exact (leads.eq_of_length sameLength.symm).symm

end Terms

namespace Graph

namespace Draft

def terms (draft : Draft) : List Identifier :=
  termsBefore draft.numbering.seed draft.numbering.counter

variable {draft next : Draft} {scope : String} {count : Nat}

theorem Spends.spent {draftOf : α → Draft} {value : α}
    (spends : Spends scope count draftOf (some value)) : (draftOf value).Spent scope count := by
  cases spends with
  | done value spent => exact spent

/-- A fresh identifier is the next term: what the search passes was handed out before. -/
theorem Spent.fresh_terms (spent : draft.Spent scope count) {id : Identifier}
    (fresh : draft.fresh? = some (id, next)) : next.terms = draft.terms ++ [id] := by
  simp only [fresh?, Option.map_eq_some_iff] at fresh
  obtain ⟨⟨other, numbering⟩, found, same⟩ := fresh
  simp only [Prod.mk.injEq] at same
  obtain ⟨rfl, rfl⟩ := same
  have untaken := (search_finds_untaken found).1
  obtain ⟨place, ahead, _, named, rfl, passed⟩ := search_passes_taken found
  have used : ∀ term, draft.graph.uses term = true ↔ term ∈ draft.terms := by
    intro term
    rw [← mem_identifiers, spent.passed, terms, mem_termsBefore]
  have new : other ∉ draft.terms := by
    intro member
    rw [(used other).mpr member] at untaken
    cases untaken
  have passes : termsBefore draft.numbering.seed place = draft.terms :=
    termsBefore_passed ahead fun counter start stop => (used _).mp (passed counter start stop)
  change termsBefore draft.numbering.seed (place + 1) = draft.terms ++ [other]
  rw [termsBefore_succ, passes, ← named, appendNew_of_disjoint (by simp)]
  intro term member
  rw [List.mem_singleton.mp member]
  exact new

theorem addReply_terms (spent : draft.Spent scope count) {text : String} {id : Identifier}
    (added : draft.addReply? text = some (id, next)) : next.terms = draft.terms ++ [id] := by
  simp only [addReply?, Option.map_eq_some_iff] at added
  obtain ⟨⟨fresh, numbered⟩, found, same⟩ := added
  simp only [Prod.mk.injEq] at same
  obtain ⟨rfl, rfl⟩ := same
  exact (spent.fresh_terms found :)

theorem addReplies_terms (spent : draft.Spent scope count) {texts : List String}
    {ids : List Identifier} (added : draft.addReplies? texts = some (ids, next)) :
    next.terms = draft.terms ++ ids := by
  induction texts generalizing draft count ids with
  | nil =>
    simp only [addReplies?, Option.some.injEq, Prod.mk.injEq] at added
    obtain ⟨rfl, rfl⟩ := added
    simp
  | cons text rest ih =>
    simp only [addReplies?, Option.bind_eq_bind, Option.bind_eq_some_iff, Option.pure_def,
      Option.some.injEq, Prod.mk.injEq] at added
    obtain ⟨⟨id, one⟩, first, ⟨others, last⟩, later, rfl, rfl⟩ := added
    have replied := addReply_spends spent text
    rw [first] at replied
    rw [ih replied.spent later, addReply_terms spent first]
    simp

end Draft

def Gambit.given (gambit : Gambit) : List Identifier := gambit.replies ++ [gambit.id]

/-- A gambit of a script, with the name of its topic, and what is stored for it. -/
structure StoredAs (graph : Graph) (written : String × Script.Gambit) (stored : Gambit) : Prop where
  topic : stored.topic = written.1
  found : graph.gambits[stored.id]? = some stored
  content : graph.writtenAt? stored.id = some written.2

theorem length_of_mapM {f : α → Option β} {xs : List α} {ys : List β}
    (found : xs.mapM f = some ys) : ys.length = xs.length := by
  induction xs generalizing ys with
  | nil =>
    cases found
    rfl
  | cons x xs ih =>
    simp only [List.mapM_cons, Option.bind_eq_bind, Option.bind_eq_some_iff, Option.pure_def,
      Option.some.injEq] at found
    obtain ⟨y, _, later, rest, rfl⟩ := found
    rw [List.length_cons, List.length_cons, ih rest]

theorem StoredAs.reply_count {graph : Graph} {written : String × Script.Gambit} {stored : Gambit}
    (kept : graph.StoredAs written stored) : stored.replies.length = written.2.replies.length := by
  have content := kept.content
  simp only [writtenAt?, kept.found, Option.bind_eq_bind, Option.bind_some, Option.bind_eq_some_iff,
    Option.pure_def, Option.some.injEq] at content
  obtain ⟨texts, read, same⟩ := content
  rw [← same]
  exact (length_of_mapM read).symm

theorem StoredAs.adds {draft next : Draft} (adds : draft.Adds next)
    {written : String × Script.Gambit} {stored : Gambit}
    (kept : draft.graph.StoredAs written stored) : next.graph.StoredAs written stored :=
  ⟨kept.topic, adds.gambits _ _ kept.found, adds.writtenAt _ _ kept.content⟩

namespace Draft

variable {draft next : Draft} {scope home : String} {count : Nat}

theorem addGambit_deals (spent : draft.Spent scope count) {gambit : Script.Gambit}
    {id : Identifier} (added : draft.addGambit? home gambit = some (id, next)) :
    ∃ stored, stored.id = id ∧ next.graph.StoredAs (home, gambit) stored ∧
      next.terms = draft.terms ++ stored.given := by
  have content := (addGambit_adds added).2
  simp only [addGambit?, Option.bind_eq_bind, Option.bind_eq_some_iff, Option.pure_def,
    Option.some.injEq, Prod.mk.injEq] at added
  obtain ⟨⟨replies, filled⟩, texts, ⟨fresh, numbered⟩, found, rfl, rfl⟩ := added
  have replied := addReplies_spends spent gambit.replies
  rw [texts] at replied
  have handed := replied.spent.fresh_terms found
  rw [addReplies_terms spent texts, List.append_assoc] at handed
  let stored : Gambit := {
    id := fresh, topic := home, replies
    trigger := gambit.trigger.map fun raw => { raw }
    conversation := gambit.conversation.map fun raw => { raw }
    redirect := gambit.redirect }
  exact ⟨stored, rfl, ⟨rfl, by simp [stored], content⟩, handed⟩

theorem addGambits_deals (spent : draft.Spent scope count) {gambits : List Script.Gambit}
    {ids : List Identifier} (added : draft.addGambits? home gambits = some (ids, next)) :
    ∃ dealt, dealt.map (·.id) = ids ∧
      List.Forall₂ next.graph.StoredAs (gambits.map (home, ·)) dealt ∧
      next.terms = draft.terms ++ dealt.flatMap Gambit.given := by
  induction gambits generalizing draft count ids with
  | nil =>
    simp only [addGambits?, Option.some.injEq, Prod.mk.injEq] at added
    obtain ⟨rfl, rfl⟩ := added
    exact ⟨[], rfl, .nil, by simp⟩
  | cons gambit rest ih =>
    simp only [addGambits?, Option.bind_eq_bind, Option.bind_eq_some_iff, Option.pure_def,
      Option.some.injEq, Prod.mk.injEq] at added
    obtain ⟨⟨id, one⟩, first, ⟨others, last⟩, later, rfl, rfl⟩ := added
    have spentOne := addGambit_spends spent home gambit
    rw [first] at spentOne
    obtain ⟨stored, named, kept, handed⟩ := addGambit_deals spent first
    obtain ⟨dealt, names, all, more⟩ := ih spentOne.spent later
    refine ⟨stored :: dealt, by simp [named, names], .cons ?_ all, ?_⟩
    · exact kept.adds (addGambits_adds later).1
    · rw [more, handed]
      simp

end Draft

def listedIn (graph : Graph) (name : String) : List Identifier :=
  (graph.topics[name]?.map (·.gambits)).getD []

/-- What has been made of gambits in order: how each is stored, that the identifiers were handed out
in that order, and that topics list their gambits in that order. -/
structure Deals (graph : Graph) (terms : List Identifier) (order : List (String × Script.Gambit))
    (dealt : List Gambit) : Prop where
  stored : List.Forall₂ graph.StoredAs order dealt
  terms : terms = dealt.flatMap Gambit.given
  listed : ∀ name, graph.listedIn name = (dealt.filter (·.topic = name)).map (·.id)

section Topics

variable {draft next : Draft} {graph : Graph} {terms : List Identifier} {scope home : String}
  {count : Nat} {order : List (String × Script.Gambit)} {dealt : List Gambit}

theorem stored_topics (all : List.Forall₂ graph.StoredAs order dealt) :
    dealt.map (·.topic) = order.map (·.1) := by
  induction all with
  | nil => rfl
  | cons kept _ ih => rw [List.map_cons, List.map_cons, kept.topic, ih]

theorem filter_own_topic {name : String} {gambits : List Script.Gambit} {more : List Gambit}
    (all : List.Forall₂ graph.StoredAs (gambits.map (name, ·)) more) (other : String) :
    more.filter (·.topic = other) = if name = other then more else [] := by
  have own : ∀ gambit ∈ more, gambit.topic = name := by
    intro gambit member
    have listed : gambit.topic ∈ more.map (·.topic) := List.mem_map_of_mem member
    rw [stored_topics all, List.map_map] at listed
    obtain ⟨_, _, same⟩ := List.mem_map.mp listed
    exact same.symm
  split
  · rename_i same
    rw [List.filter_eq_self]
    intro gambit member
    simp [own gambit member, same]
  · rename_i differ
    rw [List.filter_eq_nil_iff]
    intro gambit member
    simp [own gambit member, differ]

theorem listedIn_enter {declared : Script.Topic} {ids : List Identifier}
    (waiting : Growing draft.graph declared.name ids []) (name : String) :
    (draft.enter (.ofDeclaration declared ids)).graph.listedIn name =
      draft.graph.listedIn name ++ if declared.name = name then ids else [] := by
  cases found : draft.graph.topics[declared.name]? with
  | none =>
    rw [Draft.enter_vacant found]
    by_cases here : declared.name = name
    · subst here
      simp [listedIn, Topic.ofDeclaration, found]
    · simp [listedIn, Topic.ofDeclaration, lookup_insert, here]
  | some earlier =>
    rw [Draft.enter_occupied found]
    by_cases here : declared.name = name
    · subst here
      have new : ∀ id ∈ ids, id ∉ earlier.gambits := by
        intro id member listed
        exact (waiting.listed_home declared.name id ⟨earlier, found, listed⟩).1 member
      simp [listedIn, Topic.ofDeclaration, Topic.extend, found,
        appendNew_of_disjoint waiting.unlisted_once new]
    · simp [listedIn, Topic.ofDeclaration, lookup_insert, here]

theorem enter_numbering (draft : Draft) (topic : Topic) :
    (draft.enter topic).numbering = draft.numbering := by
  unfold Draft.enter
  split <;> rfl

theorem enter_adds_nothing (draft : Draft) (topic : Topic) :
    (draft.enter topic).graph.gambits = draft.graph.gambits ∧
      (draft.enter topic).graph.replies = draft.graph.replies := by
  obtain ⟨entered, same, _⟩ := draft.enter_spec topic
  rw [same]
  exact ⟨rfl, rfl⟩

theorem StoredAs.congr {other : Graph} (gambits : other.gambits = graph.gambits)
    (replies : other.replies = graph.replies) {written : String × Script.Gambit} {stored : Gambit}
    (kept : graph.StoredAs written stored) : other.StoredAs written stored := by
  refine ⟨kept.topic, gambits ▸ kept.found, ?_⟩
  rw [← kept.content]
  simp only [writtenAt?, gambits, textAt_congr replies]

theorem addTopic_deals (spent : draft.Spent scope count) {topic : Script.Topic}
    (added : draft.addTopic? topic = some next) (growing : Growing draft.graph home [] [])
    (deals : draft.graph.Deals draft.terms order dealt) :
    ∃ more, next.graph.Deals next.terms (order ++ topic.gambits.map (topic.name, ·))
      (dealt ++ more) := by
  simp only [Draft.addTopic?, Option.bind_eq_bind, Option.bind_eq_some_iff, Option.pure_def,
    Option.some.injEq] at added
  obtain ⟨⟨ids, filled⟩, numbered, rfl⟩ := added
  have waiting := addGambits_keeps_growing numbered (growing.rehome topic.name)
  have adds := (addGambits_adds numbered).1
  obtain ⟨more, rfl, kept, handed⟩ := Draft.addGambits_deals spent numbered
  rw [List.nil_append] at waiting
  obtain ⟨gambits, replies⟩ := enter_adds_nothing filled (.ofDeclaration topic (more.map (·.id)))
  refine ⟨more, ?_, ?_, ?_⟩
  · have all : List.Forall₂ filled.graph.StoredAs (order ++ topic.gambits.map (topic.name, ·))
        (dealt ++ more) :=
      List.rel_append (deals.stored.imp fun _ _ held => held.adds adds) kept
    exact all.imp fun _ _ held => held.congr gambits replies
  · rw [List.flatMap_append, ← deals.terms, ← handed]
    simp only [Draft.terms, enter_numbering]
  · intro name
    have before : filled.graph.listedIn name = draft.graph.listedIn name := by
      simp only [listedIn, adds.topics]
    refine (listedIn_enter waiting name).trans ?_
    rw [before, deals.listed, List.filter_append, filter_own_topic kept, List.map_append]
    split <;> rfl

theorem addTopics_deals (spent : draft.Spent scope count) {topics : List Script.Topic}
    (added : draft.addTopics? topics = some next) (growing : Growing draft.graph home [] [])
    (deals : draft.graph.Deals draft.terms order dealt) :
    ∃ more, next.graph.Deals next.terms (order ++ Script.ordered topics) more := by
  induction topics generalizing draft home count order dealt with
  | nil =>
    simp only [Draft.addTopics?, Option.some.injEq] at added
    refine ⟨dealt, ?_⟩
    simpa [Script.ordered, ← added] using deals
  | cons topic rest ih =>
    have spentOne := Draft.addTopics_spends spent [topic]
    simp only [Draft.addTopics?, Option.bind_eq_bind, Option.bind_eq_some_iff] at added
    obtain ⟨one, first, later⟩ := added
    simp only [Draft.addTopics?, first, Option.bind_eq_bind, Option.bind_some] at spentOne
    obtain ⟨more, dealtOne⟩ := addTopic_deals spent first growing deals
    have grown := addTopic_keeps_growing first growing
    obtain ⟨all, dealtAll⟩ := ih spentOne.spent later grown dealtOne
    refine ⟨all, ?_⟩
    rwa [List.append_assoc] at dealtAll

/-- Lowering hands out the terms of the scope's sequence to the gambits in order. -/
theorem ofScript_deals {policy : TopicConflict} {script : Script} {diagnostics : List Diagnostic}
    (ok : ofScript scope policy script = .ok (graph, diagnostics)) :
    ∃ counter dealt,
      graph.Deals (termsBefore (Numbering.ofScope scope).seed counter) script.inOrder dealt := by
  simp only [ofScript] at ok
  split at ok
  · simp at ok
  · split at ok
    · simp at ok
    · rename_i draft built
      simp only [Except.ok.injEq, Prod.mk.injEq] at ok
      rw [← ok.1]
      have start : Deals {} (Draft.terms { numbering := .ofScope scope }) [] [] :=
        ⟨.nil, rfl, by simp [listedIn]⟩
      obtain ⟨dealt, deals⟩ :=
        addTopics_deals (Draft.spent_at_start scope) built (empty_growing "") start
      have spent := Draft.addTopics_spends (Draft.spent_at_start scope) script.collapsed
      rw [built] at spent
      refine ⟨draft.numbering.counter, dealt, ?_⟩
      rw [← spent.spent.seed]
      exact deals

end Topics

/- Gambits by number. -/

/-- What is stored for the gambit with this number of a script. It stands in the list of its topic
behind the gambits of that topic that come before it in the script. -/
def gambitAt? (graph : Graph) (script : Script) (number : Nat) : Option Gambit := do
  let (name, _) ← script.inOrder[number]?
  let place := (script.inOrder.take number).countP (·.1 = name)
  let id ← (graph.listedIn name)[place]?
  graph.gambits[id]?

theorem filter_at_count {xs : List α} {p : α → Bool} {i : Nat} {x : α} (found : xs[i]? = some x)
    (passes : p x = true) : (xs.filter p)[(xs.take i).countP p]? = some x := by
  obtain ⟨within, rfl⟩ := List.getElem?_eq_some_iff.mp found
  have split : xs = xs.take i ++ xs[i] :: xs.drop (i + 1) := by
    rw [List.getElem_cons_drop, List.take_append_drop]
  have filtered : xs.filter p =
      (xs.take i).filter p ++ xs[i] :: (xs.drop (i + 1)).filter p := by
    conv => lhs; rw [split]
    rw [List.filter_append, List.filter_cons_of_pos passes]
  rw [filtered, List.countP_eq_length_filter]
  simp

section Numbers

variable {graph : Graph} {terms : List Identifier} {script : Script} {dealt : List Gambit}

theorem Deals.gambitAt (deals : graph.Deals terms script.inOrder dealt) {number : Nat}
    {written : String × Script.Gambit} (found : script.inOrder[number]? = some written) :
    ∃ stored, dealt[number]? = some stored ∧ graph.StoredAs written stored ∧
      graph.gambitAt? script number = some stored := by
  obtain ⟨within, rfl⟩ := List.getElem?_eq_some_iff.mp found
  have alsoWithin : number < dealt.length := deals.stored.length_eq ▸ within
  have kept : graph.StoredAs script.inOrder[number] dealt[number] :=
    deals.stored.get within alsoWithin
  refine ⟨dealt[number], List.getElem?_eq_getElem alsoWithin, kept, ?_⟩
  have earlier : (script.inOrder.take number).countP (·.1 = script.inOrder[number].1) =
      (dealt.take number).countP (·.topic = script.inOrder[number].1) := by
    have names : (dealt.take number).map (·.topic) = (script.inOrder.take number).map (·.1) := by
      rw [List.map_take, List.map_take, stored_topics deals.stored]
    have counted := congrArg (List.countP (· = script.inOrder[number].1)) names
    rw [List.countP_map, List.countP_map] at counted
    exact counted.symm
  have listed : (graph.listedIn script.inOrder[number].1)[(script.inOrder.take number).countP
      (·.1 = script.inOrder[number].1)]? = some dealt[number].id := by
    rw [deals.listed, earlier, List.getElem?_map,
      filter_at_count (List.getElem?_eq_getElem alsoWithin) (by simp [kept.topic])]
    rfl
  simp only [gambitAt?, found, Option.bind_eq_bind, Option.bind_some, listed, kept.found]

theorem Deals.reply_counts (deals : graph.Deals terms script.inOrder dealt) :
    dealt.map (·.given.length) = script.inOrder.map (·.2.replies.length + 1) := by
  have counts : ∀ {order dealt}, List.Forall₂ graph.StoredAs order dealt →
      dealt.map (·.given.length) = order.map (·.2.replies.length + 1) := by
    intro order dealt all
    induction all with
    | nil => rfl
    | cons kept _ ih =>
      rw [List.map_cons, List.map_cons, ih, Gambit.given, List.length_append, kept.reply_count]
      rfl
  exact counts deals.stored

end Numbers

/-- Gambits that are numbered from one sequence get the same identifiers as far as their numbers of
replies agree. -/
theorem dealt_agree {seed : List UInt8} {counter later : Nat} {dealt again : List Gambit}
    (handed : termsBefore seed counter = dealt.flatMap Gambit.given)
    (alsoHanded : termsBefore seed later = again.flatMap Gambit.given) {count : Nat}
    (same : (dealt.take count).map (·.given.length) = (again.take count).map (·.given.length)) :
    (dealt.take count).map Gambit.given = (again.take count).map Gambit.given := by
  have begins : ∀ gambits : List Gambit,
      ((gambits.take count).map Gambit.given).flatten <+: gambits.flatMap Gambit.given := by
    intro gambits
    rw [← List.flatMap_def]
    conv => rhs; rw [← List.take_append_drop count gambits, List.flatMap_append]
    exact List.prefix_append _ _
  have lengths : ((dealt.take count).map Gambit.given).map List.length =
      ((again.take count).map Gambit.given).map List.length := by
    simpa [Function.comp_def] using same
  have sizes : ((dealt.take count).map Gambit.given).flatten.length =
      ((again.take count).map Gambit.given).flatten.length := by
    rw [List.length_flatten, List.length_flatten, lengths]
  have flat := termsBefore_agree sizes (handed ▸ begins dealt) (alsoHanded ▸ begins again)
  exact List.eq_iff_flatten_eq.mpr ⟨flat, lengths⟩

/-- Identifiers are stable under edits. Two scripts of one scope are given the same identifiers for
their gambits and replies as far as the gambits, in the order in which they are numbered, have
equally many replies. -/
theorem identifiers_survive_edits {scope : String} {policy otherPolicy : TopicConflict}
    {script edited : Script} {graph after : Graph} {told toldAfter : List Diagnostic}
    (ok : ofScript scope policy script = .ok (graph, told))
    (again : ofScript scope otherPolicy edited = .ok (after, toldAfter)) {count : Nat}
    (same : (script.inOrder.take count).map (·.2.replies.length) =
      (edited.inOrder.take count).map (·.2.replies.length)) :
    ∀ number < count, ∀ written, script.inOrder[number]? = some written →
      ∃ rewritten gambit revised, edited.inOrder[number]? = some rewritten ∧
        graph.gambitAt? script number = some gambit ∧ graph.writtenAt? gambit.id = some written.2 ∧
        after.gambitAt? edited number = some revised ∧
        after.writtenAt? revised.id = some rewritten.2 ∧
        gambit.id = revised.id ∧ gambit.replies = revised.replies := by
  obtain ⟨counter, dealt, deals⟩ := ofScript_deals ok
  obtain ⟨later, redealt, redeals⟩ := ofScript_deals again
  have lengths : (dealt.take count).map (·.given.length) =
      (redealt.take count).map (·.given.length) := by
    rw [List.map_take, List.map_take, deals.reply_counts, redeals.reply_counts, ← List.map_take,
      ← List.map_take]
    have added := congrArg (List.map (· + 1)) same
    simpa [Function.comp_def] using added
  have given := dealt_agree deals.terms redeals.terms lengths
  intro number below written found
  obtain ⟨gambit, isDealt, kept, placed⟩ := deals.gambitAt found
  have chunk : (redealt[number]?).map Gambit.given = some gambit.given := by
    have taken := congrArg (·[number]?) given
    simpa [List.getElem?_take, below, isDealt] using taken.symm
  obtain ⟨revised, isRedealt, equal⟩ := Option.map_eq_some_iff.mp chunk
  have within : number < edited.inOrder.length := by
    rw [redeals.stored.length_eq]
    exact (List.getElem?_eq_some_iff.mp isRedealt).1
  have refound := List.getElem?_eq_getElem within
  obtain ⟨stored, isStored, rekept, replaced⟩ := redeals.gambitAt refound
  rw [isRedealt, Option.some.injEq] at isStored
  subst isStored
  obtain ⟨replies, ids⟩ := List.append_inj' equal rfl
  exact ⟨_, gambit, revised, refound, placed, kept.content, replaced, rekept.content,
    (List.singleton_inj.mp ids).symm, replies.symm⟩

def plainScript : Script where
  topics := [{ name := "pets", gambits := [{ trigger := some "hi", replies := ["hello"] }] }]

def editedScript : Script where
  topics := [{
    name := "animals", keywords := ["dog"]
    gambits := [{ trigger := some "hey", replies := ["good day"] }, { trigger := some "bye" }] }]

theorem edited_gambit_keeps_identifiers :
    ∃ graph after told toldAfter gambit revised,
      ofScript "chat.ss" .extend plainScript = .ok (graph, told) ∧
      ofScript "chat.ss" .reject editedScript = .ok (after, toldAfter) ∧
      graph.gambitAt? plainScript 0 = some gambit ∧ after.gambitAt? editedScript 0 = some revised ∧
      gambit.id = revised.id ∧ gambit.replies = revised.replies := by
  have evaluated : (ofScript "chat.ss" .extend plainScript).toOption.isSome = true ∧
      (ofScript "chat.ss" .reject editedScript).toOption.isSome = true := by
    decide +kernel
  cases ok : ofScript "chat.ss" .extend plainScript with
  | error fault =>
    rw [ok] at evaluated
    cases evaluated.1
  | ok lowered =>
    cases again : ofScript "chat.ss" .reject editedScript with
    | error fault =>
      rw [again] at evaluated
      cases evaluated.2
    | ok relowered =>
      have counts : (plainScript.inOrder.take 1).map (·.2.replies.length) =
          (editedScript.inOrder.take 1).map (·.2.replies.length) := by
        decide
      obtain ⟨_, gambit, revised, _, placed, _, replaced, _, id, replies⟩ :=
        identifiers_survive_edits ok again counts 0 (by decide) _ rfl
      exact ⟨lowered.1, relowered.1, lowered.2, relowered.2, gambit, revised, rfl, rfl, placed,
        replaced, id, replies⟩

end Graph

end DialogueScript
