import DialogueScript.Proofs.Lowering

/- What a lowered graph says. Lowering scatters a script over three tables and refers to its parts
   by identifier; here the references are followed back. Each topic gives, in order, what all the
   declarations of its name hold, and nothing else. -/
namespace DialogueScript

/-- The topics of a script with its loose gambits in the random topic: behind those of the first
topic of that name, or in a new last topic. -/
inductive Script.Collapses (script : Script) : List Script.Topic → Prop where
  | nothing_loose : script.gambits = [] → Collapses script script.topics
  | joined (before after : List Script.Topic) (topic : Script.Topic) :
      script.topics = before ++ topic :: after → topic.name = randomTopic →
      (∀ other ∈ before, other.name ≠ randomTopic) →
      Collapses script
        (before ++ { topic with gambits := topic.gambits ++ script.gambits } :: after)
  | created : script.gambits ≠ [] → (∀ topic ∈ script.topics, topic.name ≠ randomTopic) →
      Collapses script (script.topics ++ [{
        name := randomTopic, flags := (∅ : Flags).insert "keep" "keep",
        gambits := script.gambits }])

theorem collect_cases (gambits : List Script.Gambit) (topics : List Script.Topic) :
    (∃ before topic after, topics = before ++ topic :: after ∧ topic.name = randomTopic ∧
      (∀ other ∈ before, other.name ≠ randomTopic) ∧
      Script.collect gambits topics =
        before ++ { topic with gambits := topic.gambits ++ gambits } :: after) ∨
    (∀ topic ∈ topics, topic.name ≠ randomTopic) ∧
      Script.collect gambits topics = topics ++ [{
        name := randomTopic, flags := (∅ : Flags).insert "keep" "keep", gambits }] := by
  induction topics with
  | nil => exact .inr ⟨by simp, rfl⟩
  | cons topic rest ih =>
    by_cases named : topic.name = randomTopic
    · exact .inl ⟨[], topic, rest, rfl, named, by simp, by simp [Script.collect, named]⟩
    · have step : Script.collect gambits (topic :: rest) =
          topic :: Script.collect gambits rest := by
        simp [Script.collect, named]
      rw [step]
      rcases ih with ⟨before, random, after, rfl, isRandom, first, same⟩ | ⟨absent, same⟩
      · refine .inl ⟨topic :: before, random, after, rfl, isRandom, ?_, by rw [same]; rfl⟩
        intro other member
        rcases List.mem_cons.mp member with rfl | later
        · exact named
        · exact first other later
      · refine .inr ⟨?_, by rw [same]; rfl⟩
        intro other member
        rcases List.mem_cons.mp member with rfl | later
        · exact named
        · exact absent other later

theorem collapsed_collapses (script : Script) : script.Collapses script.collapsed := by
  by_cases loose : script.gambits = []
  · have same : script.collapsed = script.topics := by simp [Script.collapsed, loose]
    rw [same]
    exact .nothing_loose loose
  · have same : script.collapsed = Script.collect script.gambits script.topics := by
      simp [Script.collapsed, loose]
    rw [same]
    rcases collect_cases script.gambits script.topics with
      ⟨before, topic, after, split, named, first, collected⟩ | ⟨absent, collected⟩
    · rw [collected]
      exact .joined before after topic split named first
    · rw [collected]
      exact .created loose absent

namespace Script

def declarationsOf (name : String) (topics : List Topic) : List Topic :=
  topics.filter (·.name = name)

/-- The first declaration's keywords, then each later keyword where it first appears. -/
def combinedKeywords : List Topic → List String
  | [] => []
  | first :: later =>
    first.keywords ++ ((later.flatMap (·.keywords)).filter (· ∉ first.keywords)).eraseDups

/-- The names that are declared again, once for each further declaration. -/
def repeatedNames (seen : List String) : List Topic → List String
  | [] => []
  | topic :: rest =>
    if topic.name ∈ seen then topic.name :: repeatedNames (topic.name :: seen) rest
    else repeatedNames (topic.name :: seen) rest

theorem declarationsOf_append_other {name : String} {topic : Topic} (other : topic.name ≠ name)
    (done : List Topic) : declarationsOf name (done ++ [topic]) = declarationsOf name done := by
  simp [declarationsOf, other]

theorem declarationsOf_append_same (topic : Topic) (done : List Topic) :
    declarationsOf topic.name (done ++ [topic]) = declarationsOf topic.name done ++ [topic] := by
  simp [declarationsOf]

theorem declarationsOf_eq_nil {name : String} {done : List Topic} :
    declarationsOf name done = [] ↔ name ∉ done.map (·.name) := by
  simp [declarationsOf]

theorem repeatedNames_append (seen : List String) (done : List Topic) (topic : Topic) :
    repeatedNames seen (done ++ [topic]) = repeatedNames seen done ++
      if topic.name ∈ seen ∨ topic.name ∈ done.map (·.name) then [topic.name] else [] := by
  induction done generalizing seen with
  | nil =>
    by_cases old : topic.name ∈ seen
    · simp [repeatedNames, old]
    · simp [repeatedNames, old]
  | cons first rest ih =>
    have same : (topic.name ∈ first.name :: seen ∨ topic.name ∈ rest.map (·.name)) ↔
        (topic.name ∈ seen ∨ topic.name ∈ (first :: rest).map (·.name)) := by
      simp only [List.mem_cons, List.map_cons]
      rw [or_comm (a := topic.name = first.name), or_assoc]
    simp only [List.cons_append, repeatedNames, ih, same]
    split
    · rfl
    · rfl

end Script

namespace Graph
open Std

theorem appendNew_append [BEq α] (xs ys zs : List α) :
    appendNew xs (ys ++ zs) = appendNew (appendNew xs ys) zs := by
  induction ys generalizing xs with
  | nil => rfl
  | cons y ys ih =>
    simp only [List.cons_append, appendNew]
    split
    · exact ih xs
    · exact ih (xs ++ [y])

theorem appendNew_eq [DecidableEq α] (xs ys : List α) :
    appendNew xs ys = xs ++ (ys.filter (· ∉ xs)).eraseDups := by
  induction ys generalizing xs with
  | nil => simp [appendNew]
  | cons y ys ih =>
    simp only [appendNew]
    by_cases present : y ∈ xs
    · rw [if_pos (List.contains_iff_mem.mpr present), ih]
      simp [present]
    · rw [if_neg (fun found => present (List.contains_iff_mem.mp found)), ih]
      have filtered : ys.filter (· ∉ xs ++ [y]) = (ys.filter (· ∉ xs)).filter (!· == y) := by
        rw [List.filter_filter]
        apply List.filter_congr
        intro z _
        by_cases same : z = y
        · simp [same]
        · simp [same]
      rw [filtered]
      simp only [present, not_false_eq_true, decide_true, List.filter_cons_of_pos,
        List.eraseDups_cons, List.append_assoc, List.singleton_append]

theorem appendNew_of_disjoint [DecidableEq α] {xs ys : List α} (once : ys.Nodup)
    (disjoint : ∀ y ∈ ys, y ∉ xs) : appendNew xs ys = xs ++ ys := by
  induction ys generalizing xs with
  | nil => simp [appendNew]
  | cons y ys ih =>
    obtain ⟨new, later⟩ := List.nodup_cons.mp once
    have absent : y ∉ xs := disjoint y List.mem_cons_self
    have step : appendNew xs (y :: ys) = appendNew (xs ++ [y]) ys := by
      simp [appendNew, absent]
    rw [step, ih later]
    · simp
    · intro z member
      simp only [List.mem_append, List.mem_singleton, not_or]
      exact ⟨disjoint z (List.mem_cons_of_mem _ member), fun same => new (same ▸ member)⟩

theorem combinedKeywords_append {declarations : List Script.Topic} (some : declarations ≠ [])
    (topic : Script.Topic) :
    Script.combinedKeywords (declarations ++ [topic]) =
      appendNew (Script.combinedKeywords declarations) topic.keywords := by
  cases declarations with
  | nil => exact absurd rfl some
  | cons first later =>
    simp only [Script.combinedKeywords, List.cons_append, ← appendNew_eq, List.flatMap_append,
      appendNew_append, List.flatMap_singleton]

/- Following references. -/

def textAt? (graph : Graph) (id : Identifier) : Option String :=
  graph.replies[id]?.map (·.text)

theorem textAt_congr {graph other : Graph} (same : graph.replies = other.replies) :
    graph.textAt? = other.textAt? := by
  funext id
  simp only [textAt?, same]

def writtenAt? (graph : Graph) (id : Identifier) : Option Script.Gambit := do
  let gambit ← graph.gambits[id]?
  let replies ← gambit.replies.mapM graph.textAt?
  return {
    trigger := gambit.trigger.map (·.raw)
    replies
    conversation := gambit.conversation.map (·.raw)
    redirect := gambit.redirect }

/-- No trigger and no conversation has a clean pattern yet, and no conversation has replies. -/
def Uncompiled (graph : Graph) : Prop :=
  ∀ (id : Identifier) gambit, graph.gambits[id]? = some gambit →
    (∀ trigger, gambit.trigger = some trigger → trigger.clean = none) ∧
    ∀ conversation, gambit.conversation = some conversation →
      conversation.clean = none ∧ conversation.replies = []

/-- A step of the making that leaves alone what is there, and enters no topic. -/
structure Draft.Adds (draft next : Draft) : Prop where
  gambits : ∀ (id : Identifier) gambit, draft.graph.gambits[id]? = some gambit →
    next.graph.gambits[id]? = some gambit
  replies : ∀ (id : Identifier) reply, draft.graph.replies[id]? = some reply →
    next.graph.replies[id]? = some reply
  topics : next.graph.topics = draft.graph.topics
  diagnostics : next.diagnostics = draft.diagnostics
  uncompiled : draft.graph.Uncompiled → next.graph.Uncompiled

variable {draft middle next : Draft}

theorem Draft.Adds.refl (draft : Draft) : draft.Adds draft :=
  ⟨fun _ _ found => found, fun _ _ found => found, rfl, rfl, fun raw => raw⟩

theorem Draft.Adds.trans (first : draft.Adds middle) (second : middle.Adds next) :
    draft.Adds next where
  gambits id gambit found := second.gambits id gambit (first.gambits id gambit found)
  replies id reply found := second.replies id reply (first.replies id reply found)
  topics := second.topics.trans first.topics
  diagnostics := second.diagnostics.trans first.diagnostics
  uncompiled raw := second.uncompiled (first.uncompiled raw)

theorem mapM_of_agree {f g : α → Option β} (agree : ∀ x y, f x = some y → g x = some y)
    {xs : List α} {ys : List β} (found : xs.mapM f = some ys) : xs.mapM g = some ys := by
  induction xs generalizing ys with
  | nil => exact found
  | cons x xs ih =>
    simp only [List.mapM_cons, Option.bind_eq_bind, Option.bind_eq_some_iff, Option.pure_def,
      Option.some.injEq] at found ⊢
    obtain ⟨y, first, later, rest, rfl⟩ := found
    exact ⟨y, agree x y first, later, ih rest, rfl⟩

theorem Draft.Adds.textAt (adds : draft.Adds next) (id : Identifier) (text : String)
    (found : draft.graph.textAt? id = some text) : next.graph.textAt? id = some text := by
  obtain ⟨reply, stored, rfl⟩ := Option.map_eq_some_iff.mp found
  exact Option.map_eq_some_iff.mpr ⟨reply, adds.replies id reply stored, rfl⟩

theorem Draft.Adds.writtenAt (adds : draft.Adds next) (id : Identifier) (gambit : Script.Gambit)
    (found : draft.graph.writtenAt? id = some gambit) :
    next.graph.writtenAt? id = some gambit := by
  simp only [writtenAt?, Option.bind_eq_bind, Option.bind_eq_some_iff, Option.pure_def,
    Option.some.injEq] at found ⊢
  obtain ⟨held, stored, texts, read, rfl⟩ := found
  exact ⟨held, adds.gambits id held stored, texts, mapM_of_agree adds.textAt read, rfl⟩

/- The steps of the making. -/

theorem addReply_adds {text : String} {id : Identifier}
    (added : draft.addReply? text = some (id, next)) :
    draft.Adds next ∧ next.graph.textAt? id = some text := by
  simp only [Draft.addReply?, Option.map_eq_some_iff] at added
  obtain ⟨⟨fresh, numbered⟩, found, same⟩ := added
  obtain ⟨_, _, noReply, graph, told⟩ := Draft.fresh_spec found
  simp only [Prod.mk.injEq] at same
  obtain ⟨rfl, rfl⟩ := same
  refine ⟨⟨?_, ?_, ?_, told, ?_⟩, by simp [textAt?]⟩
  · simp [graph]
  · intro other reply stored
    have new : fresh ≠ other := fun same => noReply (mem_iff_lookup.mpr ⟨reply, same ▸ stored⟩)
    simpa [graph, lookup_insert, new] using stored
  · simp [graph]
  · simp [graph, Uncompiled]

theorem addReplies_adds {texts : List String} {ids : List Identifier}
    (added : draft.addReplies? texts = some (ids, next)) :
    draft.Adds next ∧ ids.mapM next.graph.textAt? = some texts := by
  induction texts generalizing draft ids with
  | nil =>
    simp only [Draft.addReplies?, Option.some.injEq, Prod.mk.injEq] at added
    obtain ⟨rfl, rfl⟩ := added
    exact ⟨.refl draft, rfl⟩
  | cons text rest ih =>
    simp only [Draft.addReplies?, Option.bind_eq_bind, Option.bind_eq_some_iff, Option.pure_def,
      Option.some.injEq, Prod.mk.injEq] at added
    obtain ⟨⟨id, one⟩, first, ⟨others, last⟩, later, rfl, rfl⟩ := added
    obtain ⟨adds, stored⟩ := addReply_adds first
    obtain ⟨more, read⟩ := ih later
    refine ⟨adds.trans more, ?_⟩
    simp [more.textAt id text stored, read]

theorem addGambit_adds {home : String} {gambit : Script.Gambit} {id : Identifier}
    (added : draft.addGambit? home gambit = some (id, next)) :
    draft.Adds next ∧ next.graph.writtenAt? id = some gambit := by
  simp only [Draft.addGambit?, Option.bind_eq_bind, Option.bind_eq_some_iff, Option.pure_def,
    Option.some.injEq, Prod.mk.injEq] at added
  obtain ⟨⟨replies, filled⟩, texts, ⟨fresh, numbered⟩, found, rfl, rfl⟩ := added
  obtain ⟨adds, read⟩ := addReplies_adds texts
  obtain ⟨_, noGambit, _, graph, told⟩ := Draft.fresh_spec found
  constructor
  · refine adds.trans ⟨?_, ?_, ?_, told, ?_⟩
    · intro other held stored
      have new : fresh ≠ other := fun same => noGambit (mem_iff_lookup.mpr ⟨held, same ▸ stored⟩)
      simpa [graph, lookup_insert, new] using stored
    · simp [graph]
    · simp [graph]
    · intro raw other held stored
      simp only [graph, lookup_insert] at stored
      split at stored
      · rw [← Option.some.inj stored]
        simp
      · exact raw other held stored
  · have texts : ∀ gambits, replies.mapM (textAt? { numbered.graph with gambits }) =
        some gambit.replies := by
      intro gambits
      rw [← read, textAt_congr (congrArg Graph.replies graph.symm)]
      rfl
    simp [writtenAt?, texts, Function.comp_def]

theorem addGambits_adds {home : String} {gambits : List Script.Gambit} {ids : List Identifier}
    (added : draft.addGambits? home gambits = some (ids, next)) :
    draft.Adds next ∧ ids.mapM next.graph.writtenAt? = some gambits := by
  induction gambits generalizing draft ids with
  | nil =>
    simp only [Draft.addGambits?, Option.some.injEq, Prod.mk.injEq] at added
    obtain ⟨rfl, rfl⟩ := added
    exact ⟨.refl draft, rfl⟩
  | cons gambit rest ih =>
    simp only [Draft.addGambits?, Option.bind_eq_bind, Option.bind_eq_some_iff, Option.pure_def,
      Option.some.injEq, Prod.mk.injEq] at added
    obtain ⟨⟨id, one⟩, first, ⟨others, last⟩, later, rfl, rfl⟩ := added
    obtain ⟨adds, stored⟩ := addGambit_adds first
    obtain ⟨more, read⟩ := ih later
    refine ⟨adds.trans more, ?_⟩
    simp [more.writtenAt id gambit stored, read]

/- From the gambits of one declaration to the topics of a script. -/

/-- What a topic holds: all that the declarations of its name hold, in order. -/
structure Topic.Combines (topic : Topic) (graph : Graph) (declarations : List Script.Topic) :
    Prop where
  gambits : topic.gambits.mapM graph.writtenAt? = some (declarations.flatMap (·.gambits))
  keywords : topic.keywords = Script.combinedKeywords declarations
  flags : ∀ flag : String,
    topic.flags[flag]? = (declarations.filterMap (·.flags[flag]?)).getLast?
  filter : topic.filter = (declarations.filterMap (·.filter)).getLast?

/-- A graph and what is told about it stand for a list of topics, none of them compiled yet. -/
structure Represents (graph : Graph) (diagnostics : List Diagnostic) (topics : List Script.Topic) :
    Prop where
  names : ∀ name, name ∈ graph.topics ↔ name ∈ topics.map (·.name)
  combines : ∀ (name : String) topic, graph.topics[name]? = some topic →
    topic.Combines graph (Script.declarationsOf name topics)
  told : diagnostics = (Script.repeatedNames [] topics).map .repeatedTopic
  uncompiled : graph.Uncompiled

theorem empty_represents : Represents {} [] [] := by
  constructor <;> simp [Script.repeatedNames, Uncompiled]

theorem mapM_append_some {f : α → Option β} {xs ys : List α} {us vs : List β}
    (first : xs.mapM f = some us) (second : ys.mapM f = some vs) :
    (xs ++ ys).mapM f = some (us ++ vs) := by
  simp [List.mapM_append, first, second]

theorem Topic.Combines.adds {topic : Topic} {declarations : List Script.Topic}
    (adds : draft.Adds next) (combines : topic.Combines draft.graph declarations) :
    topic.Combines next.graph declarations :=
  { combines with gambits := mapM_of_agree adds.writtenAt combines.gambits }

def Topic.ofDeclaration (declared : Script.Topic) (gambits : List Identifier) : Topic where
  name := declared.name
  flags := declared.flags
  keywords := declared.keywords
  filter := declared.filter
  gambits := gambits

theorem ofDeclaration_combines {graph : Graph} {declared : Script.Topic}
    {gambits : List Identifier}
    (read : gambits.mapM graph.writtenAt? = some declared.gambits) :
    (Topic.ofDeclaration declared gambits).Combines graph [declared] where
  gambits := by simpa [Topic.ofDeclaration] using read
  keywords := by simp [Topic.ofDeclaration, Script.combinedKeywords]
  flags flag := by
    cases found : declared.flags[flag]? <;> simp [Topic.ofDeclaration, found]
  filter := by
    cases found : declared.filter <;> simp [Topic.ofDeclaration, found]

/-- A further declaration of a name. Its gambits are new, so none of them is taken for one that is
already listed. -/
theorem Topic.Combines.extend {graph : Graph} {topic : Topic} {declarations : List Script.Topic}
    {declared : Script.Topic} {gambits : List Identifier}
    (combines : topic.Combines graph declarations) (before : declarations ≠ [])
    (once : gambits.Nodup) (new : ∀ id ∈ gambits, id ∉ topic.gambits)
    (read : gambits.mapM graph.writtenAt? = some declared.gambits) :
    (topic.extend (Topic.ofDeclaration declared gambits)).Combines graph
      (declarations ++ [declared]) where
  gambits := by
    simp only [Topic.extend, Topic.ofDeclaration, appendNew_of_disjoint once new]
    simpa using mapM_append_some combines.gambits read
  keywords := by
    rw [combinedKeywords_append before, ← combines.keywords]
    rfl
  flags flag := by
    simp only [Topic.extend, Topic.ofDeclaration, ExtTreeMap.getElem?_union, combines.flags]
    cases found : declared.flags[flag]? <;> simp [found]
  filter := by
    simp only [Topic.extend, Topic.ofDeclaration, combines.filter]
    cases found : declared.filter <;> simp [found]

theorem Represents.adds {done : List Script.Topic} (adds : draft.Adds next)
    (sofar : Represents draft.graph draft.diagnostics done) :
    Represents next.graph next.diagnostics done where
  names name := by rw [adds.topics, sofar.names]
  combines name topic found := by
    rw [adds.topics] at found
    exact (sofar.combines name topic found).adds adds
  told := adds.diagnostics.trans sofar.told
  uncompiled := adds.uncompiled sofar.uncompiled

/-- Storing one topic, made of all the declarations of its name, completes the next declaration. -/
theorem Represents.store {graph : Graph} {diagnostics told : List Diagnostic}
    {done : List Script.Topic} {declared : Script.Topic} {entered : Topic}
    (sofar : Represents graph diagnostics done)
    (combines : entered.Combines graph (Script.declarationsOf declared.name (done ++ [declared])))
    (more : told = (Script.repeatedNames [] (done ++ [declared])).map .repeatedTopic) :
    Represents { graph with topics := graph.topics.insert declared.name entered } told
      (done ++ [declared]) where
  names name := by
    simp only [ExtTreeMap.mem_insert, Std.compare_eq_iff_eq, sofar.names, List.map_append,
      List.mem_append, List.map_cons, List.map_nil, List.mem_singleton]
    rw [or_comm, eq_comm]
  combines name topic found := by
    simp only [lookup_insert] at found
    split at found
    · rename_i here
      rw [← Option.some.inj found, ← here]
      exact ⟨combines.gambits, combines.keywords, combines.flags, combines.filter⟩
    · rename_i other
      rw [Script.declarationsOf_append_other other]
      have kept := sofar.combines name topic found
      exact ⟨kept.gambits, kept.keywords, kept.flags, kept.filter⟩
  told := more
  uncompiled := sofar.uncompiled

theorem Draft.enter_vacant {topic : Topic} (vacant : draft.graph.topics[topic.name]? = none) :
    draft.enter topic =
      { draft with graph.topics := draft.graph.topics.insert topic.name topic } := by
  simp [Draft.enter, vacant]

theorem Draft.enter_occupied {topic earlier : Topic}
    (occupied : draft.graph.topics[topic.name]? = some earlier) :
    draft.enter topic =
      { draft with
        graph.topics := draft.graph.topics.insert topic.name (earlier.extend topic)
        diagnostics := draft.diagnostics ++ [.repeatedTopic topic.name] } := by
  simp [Draft.enter, occupied]

theorem Represents.enter {done : List Script.Topic} {declared : Script.Topic}
    {ids : List Identifier} (sofar : Represents draft.graph draft.diagnostics done)
    (waiting : Growing draft.graph declared.name ids [])
    (read : ids.mapM draft.graph.writtenAt? = some declared.gambits) :
    Represents (draft.enter (Topic.ofDeclaration declared ids)).graph
      (draft.enter (Topic.ofDeclaration declared ids)).diagnostics (done ++ [declared]) := by
  have names := sofar.names declared.name
  cases found : draft.graph.topics[declared.name]? with
  | none =>
    have first : declared.name ∉ done.map (·.name) :=
      fun member => not_mem_iff_lookup.mpr found (names.mpr member)
    rw [Draft.enter_vacant found]
    refine sofar.store ?_ ?_
    · rw [Script.declarationsOf_append_same, Script.declarationsOf_eq_nil.mpr first]
      exact ofDeclaration_combines read
    · rw [sofar.told, Script.repeatedNames_append]
      simp [first]
  | some earlier =>
    have again : declared.name ∈ done.map (·.name) :=
      names.mp (mem_iff_lookup.mpr ⟨earlier, found⟩)
    rw [Draft.enter_occupied found]
    refine sofar.store ?_ ?_
    · rw [Script.declarationsOf_append_same]
      refine (sofar.combines declared.name earlier found).extend ?_ waiting.unlisted_once ?_ read
      · exact fun none => Script.declarationsOf_eq_nil.mp none again
      · intro id new listed
        exact (waiting.listed_home declared.name id ⟨earlier, found, listed⟩).1 new
    · rw [sofar.told, Script.repeatedNames_append]
      simp [again, Topic.ofDeclaration]

theorem addTopic_represents {home : String} {topic : Script.Topic} {done : List Script.Topic}
    (added : draft.addTopic? topic = some next) (growing : Growing draft.graph home [] [])
    (sofar : Represents draft.graph draft.diagnostics done) :
    Represents next.graph next.diagnostics (done ++ [topic]) := by
  simp only [Draft.addTopic?, Option.bind_eq_bind, Option.bind_eq_some_iff, Option.pure_def,
    Option.some.injEq] at added
  obtain ⟨⟨ids, filled⟩, numbered, rfl⟩ := added
  have waiting := addGambits_keeps_growing numbered (growing.rehome topic.name)
  obtain ⟨adds, read⟩ := addGambits_adds numbered
  exact (sofar.adds adds).enter waiting read

theorem addTopics_represents {home : String} {topics done : List Script.Topic}
    (added : draft.addTopics? topics = some next) (growing : Growing draft.graph home [] [])
    (sofar : Represents draft.graph draft.diagnostics done) :
    Represents next.graph next.diagnostics (done ++ topics) := by
  induction topics generalizing draft home done with
  | nil =>
    simp only [Draft.addTopics?, Option.some.injEq] at added
    rw [← added, List.append_nil]
    exact sofar
  | cons topic rest ih =>
    simp only [Draft.addTopics?, Option.bind_eq_bind, Option.bind_eq_some_iff] at added
    obtain ⟨one, first, later⟩ := added
    have represents := ih later (addTopic_keeps_growing first growing)
      (addTopic_represents first growing sofar)
    rwa [List.append_assoc, List.singleton_append] at represents

theorem ofScript_represents {scope : String} {policy : TopicConflict} {script : Script}
    {graph : Graph} {diagnostics : List Diagnostic}
    (ok : ofScript scope policy script = .ok (graph, diagnostics)) :
    graph.Represents diagnostics script.collapsed := by
  simp only [ofScript] at ok
  split at ok
  · simp at ok
  · split at ok
    · simp at ok
    · rename_i built
      simp only [Except.ok.injEq, Prod.mk.injEq] at ok
      rw [← ok.1, ← ok.2]
      have represents := addTopics_represents built (empty_growing "") empty_represents
      rwa [List.nil_append] at represents

/-- Lowering loses, repeats and reorders nothing: the graph stands for the topics of the script,
with the loose gambits in the random one. -/
theorem lowering_represents_script {scope : String} {policy : TopicConflict} {script : Script}
    {graph : Graph} {diagnostics : List Diagnostic}
    (ok : ofScript scope policy script = .ok (graph, diagnostics)) :
    script.Collapses script.collapsed ∧ graph.Represents diagnostics script.collapsed :=
  ⟨collapsed_collapses script, ofScript_represents ok⟩

def sampleScript : Script where
  topics := [
    { name := "pets", keywords := ["cat"],
      gambits := [{ trigger := some "hi", replies := ["hello"] }] },
    { name := "pets", keywords := ["dog", "cat"], filter := some "always" }]
  gambits := [{ trigger := some "bye", conversation := some "hello", redirect := some "hi" }]

theorem sample_script_represented : ∃ graph diagnostics,
    ofScript "chat.ss" .extend sampleScript = .ok (graph, diagnostics) ∧
      sampleScript.Collapses sampleScript.collapsed ∧
      graph.Represents diagnostics sampleScript.collapsed := by
  have evaluated : (ofScript "chat.ss" .extend sampleScript).toOption.isSome = true := by
    decide +kernel
  cases ok : ofScript "chat.ss" .extend sampleScript with
  | error fault =>
    rw [ok] at evaluated
    exact absurd evaluated (by simp [Except.toOption])
  | ok lowered => exact ⟨lowered.1, lowered.2, rfl, lowering_represents_script ok⟩

end Graph

end DialogueScript
