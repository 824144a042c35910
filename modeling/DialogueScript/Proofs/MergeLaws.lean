import DialogueScript.Proofs.LoweredContent

/- The laws of merging. Which graphs may be merged is decided by what they share, two by two, and
   the union itself can always be formed and is associative; so how merges are grouped makes no
   difference. A merge in place looks before it changes anything. -/
namespace DialogueScript.Graph
open Std

def union (graph other : Graph) : Graph where
  topics := mergeTopics graph.topics other.topics
  gambits := graph.gambits ∪ other.gambits
  replies := graph.replies ∪ other.replies

def Knows (graph : Graph) (id : Identifier) : Prop :=
  id ∈ graph.gambits ∨ id ∈ graph.replies

structure Compatible (policy : TopicConflict) (graph other : Graph) : Prop where
  identifiers : ∀ id, graph.Knows id → ¬ other.Knows id
  topics : policy = .reject → ∀ name ∈ graph.topics, name ∈ other.topics → name = randomTopic

section Merging

variable {policy : TopicConflict} {graph other third merged : Graph}

theorem shared_identifier_none_iff_apart :
    graph.sharedIdentifier? other = none ↔ ∀ id, graph.Knows id → ¬ other.Knows id := by
  rw [shared_identifier_none_iff]
  constructor
  · intro apart id mine theirs
    exact mine.elim (apart id theirs).1 (apart id theirs).2
  · intro apart id theirs
    exact ⟨fun mine => apart id (.inl mine) theirs, fun mine => apart id (.inr mine) theirs⟩

theorem shared_topic_none_iff :
    graph.sharedTopic? other = none ↔
      ∀ name ∈ graph.topics, name ∈ other.topics → name = randomTopic := by
  simp only [sharedTopic?, List.find?_eq_none, ExtTreeMap.mem_keys, Bool.and_eq_true, bne_iff_ne,
    ExtTreeMap.contains_iff_mem, not_and]
  constructor
  · intro apart name mine theirs
    exact Decidable.byContradiction fun solid => apart name theirs solid mine
  · intro apart name theirs solid mine
    exact solid (apart name mine theirs)

/-- A merge succeeds exactly if the graphs are compatible, and then it gives their union. -/
theorem absorb_ok_iff :
    graph.absorb policy other = .ok merged ↔
      Compatible policy graph other ∧ merged = graph.union other := by
  unfold absorb
  cases distinct : graph.sharedIdentifier? other with
  | some id =>
    have clash : ¬ Compatible policy graph other := by
      intro compatible
      have none := shared_identifier_none_iff_apart.mpr compatible.identifiers
      simp [distinct] at none
    simp [clash]
  | none =>
    have apart := shared_identifier_none_iff_apart.mp distinct
    cases shared : (if policy = .reject then graph.sharedTopic? other else none) with
    | some name =>
      have clash : ¬ Compatible policy graph other := by
        intro compatible
        split at shared
        · rename_i rejecting
          have none := shared_topic_none_iff.mpr (compatible.topics rejecting)
          simp [none] at shared
        · cases shared
      simp [clash]
    | none =>
      have compatible : Compatible policy graph other := by
        refine ⟨apart, ?_⟩
        intro rejecting
        rw [if_pos rejecting] at shared
        exact shared_topic_none_iff.mp shared
      simp only [compatible, true_and, Except.ok.injEq]
      exact eq_comm

theorem Compatible.symm (compatible : Compatible policy graph other) :
    Compatible policy other graph where
  identifiers id theirs mine := compatible.identifiers id mine theirs
  topics rejecting name theirs mine := compatible.topics rejecting name mine theirs

theorem mem_topics_union {name : String} :
    name ∈ (graph.union other).topics ↔ name ∈ graph.topics ∨ name ∈ other.topics := by
  rw [union, mergeTopics, ExtTreeMap.mem_union_iff, ExtTreeMap.mem_map]

theorem knows_union {id : Identifier} :
    (graph.union other).Knows id ↔ graph.Knows id ∨ other.Knows id := by
  simp only [Knows, union, ExtTreeMap.mem_union_iff]
  exact or_or_or_comm

/-- What is compatible with a union is compatible with both of its parts. -/
theorem union_compatible_iff :
    Compatible policy (graph.union other) third ↔
      Compatible policy graph third ∧ Compatible policy other third := by
  constructor
  · intro compatible
    refine ⟨⟨?_, ?_⟩, ⟨?_, ?_⟩⟩
    · exact fun id mine => compatible.identifiers id (knows_union.mpr (.inl mine))
    · exact fun rejecting name mine =>
        compatible.topics rejecting name (mem_topics_union.mpr (.inl mine))
    · exact fun id mine => compatible.identifiers id (knows_union.mpr (.inr mine))
    · exact fun rejecting name mine =>
        compatible.topics rejecting name (mem_topics_union.mpr (.inr mine))
  · rintro ⟨first, second⟩
    refine ⟨?_, ?_⟩
    · intro id known
      exact (knows_union.mp known).elim (first.identifiers id) (second.identifiers id)
    · intro rejecting name known
      exact (mem_topics_union.mp known).elim (first.topics rejecting name)
        (second.topics rejecting name)

theorem compatible_union_iff :
    Compatible policy third (graph.union other) ↔
      Compatible policy third graph ∧ Compatible policy third other := by
  constructor
  · intro compatible
    obtain ⟨first, second⟩ := union_compatible_iff.mp compatible.symm
    exact ⟨first.symm, second.symm⟩
  · rintro ⟨first, second⟩
    exact (union_compatible_iff.mpr ⟨first.symm, second.symm⟩).symm

end Merging

/- The union is associative, since each of the rules by which topics are combined is. -/

theorem appendNew_assoc [DecidableEq α] (xs ys zs : List α) :
    appendNew (appendNew xs ys) zs = appendNew xs (appendNew ys zs) := by
  induction zs generalizing ys with
  | nil => rfl
  | cons z zs ih =>
    by_cases present : z ∈ ys
    · have skipped : appendNew ys (z :: zs) = appendNew ys zs := by simp [appendNew, present]
      have known : z ∈ appendNew xs ys := mem_appendNew.mpr (.inr present)
      have skippedToo : appendNew (appendNew xs ys) (z :: zs) = appendNew (appendNew xs ys) zs := by
        simp [appendNew, known]
      rw [skipped, skippedToo, ih]
    · have added : appendNew ys (z :: zs) = appendNew (ys ++ [z]) zs := by simp [appendNew, present]
      calc appendNew (appendNew xs ys) (z :: zs)
        _ = appendNew (appendNew (appendNew xs ys) [z]) zs := appendNew_append _ [z] zs
        _ = appendNew (appendNew xs (ys ++ [z])) zs := by rw [appendNew_append xs ys [z]]
        _ = appendNew xs (appendNew ys (z :: zs)) := by rw [ih, added]

theorem table_union_assoc (first second third : ExtTreeMap String β) :
    first ∪ second ∪ third = first ∪ (second ∪ third) := by
  apply ExtTreeMap.ext_getElem?
  intro key
  simp only [ExtTreeMap.getElem?_union, Option.or_assoc]

theorem table_empty_union (table : ExtTreeMap String β) : ∅ ∪ table = table := by
  apply ExtTreeMap.ext_getElem?
  intro key
  simp [ExtTreeMap.getElem?_union]

theorem table_union_empty (table : ExtTreeMap String β) : table ∪ ∅ = table := by
  apply ExtTreeMap.ext_getElem?
  intro key
  simp [ExtTreeMap.getElem?_union]

instance : Std.Associative Topic.extend where
  assoc topic second third := by
    simp only [Topic.extend, appendNew_assoc, table_union_assoc, Option.or_assoc]

theorem lookup_merged (topics later : ExtTreeMap String Topic) (name : String) :
    (mergeTopics topics later)[name]? = topics[name]?.merge Topic.extend later[name]? := by
  rw [lookup_mergeTopics]
  cases topics[name]? <;> cases later[name]? <;> rfl

theorem union_assoc (graph other third : Graph) :
    (graph.union other).union third = graph.union (other.union third) := by
  have topics : mergeTopics (mergeTopics graph.topics other.topics) third.topics =
      mergeTopics graph.topics (mergeTopics other.topics third.topics) := by
    apply ExtTreeMap.ext_getElem?
    intro name
    simp only [lookup_merged]
    exact (Option.associative_merge Topic.extend).assoc _ _ _
  simp only [union, topics, table_union_assoc]

theorem empty_union (graph : Graph) : union {} graph = graph := by
  have topics : mergeTopics ∅ graph.topics = graph.topics := by
    apply ExtTreeMap.ext_getElem?
    intro name
    simp [lookup_merged]
  simp only [union, topics, table_empty_union]

theorem union_empty (graph : Graph) : graph.union {} = graph := by
  have topics : mergeTopics graph.topics ∅ = graph.topics := by
    apply ExtTreeMap.ext_getElem?
    intro name
    simp [lookup_merged]
  simp only [union, topics, table_union_empty]

theorem empty_compatible (policy : TopicConflict) (graph : Graph) :
    Compatible policy {} graph := by
  constructor <;> simp [Knows]

/- Merging in place: the graph is held in a variable and changed step by step. What the variable
   holds when a fault is thrown is what is left behind. -/

def enterTopic (graph : Graph) (entry : String × Topic) : Graph :=
  let entered :=
    match graph.topics[entry.1]? with
    | some earlier => earlier.extend entry.2
    | none => entry.2
  { graph with topics := graph.topics.insert entry.1 entered }

def absorbInPlace (policy : TopicConflict) (other : Graph) :
    ExceptT MergeFault (StateM Graph) Unit := do
  let graph ← get
  (graph.sharedIdentifier? other).forM fun id => throw (.repeatedIdentifier id)
  if policy = .reject then
    (graph.sharedTopic? other).forM fun name => throw (.repeatedTopic name)
  modify fun graph => { graph with gambits := graph.gambits ∪ other.gambits }
  modify fun graph => { graph with replies := graph.replies ∪ other.replies }
  other.topics.toList.forM fun entry => modify (enterTopic · entry)

theorem lookup_enterTopic (graph : Graph) (entry : String × Topic) (name : String) :
    (graph.enterTopic entry).topics[name]? =
      if entry.1 = name then graph.topics[name]?.merge Topic.extend (some entry.2)
      else graph.topics[name]? := by
  simp only [enterTopic, lookup_insert]
  split
  · rename_i here
    rw [here]
    cases graph.topics[name]? <;> rfl
  · rfl

theorem lookup_entered_others {entries : List (String × Topic)} {name : String}
    (others : ∀ entry ∈ entries, entry.1 ≠ name) (graph : Graph) :
    (entries.foldl enterTopic graph).topics[name]? = graph.topics[name]? := by
  induction entries generalizing graph with
  | nil => rfl
  | cons entry rest ih =>
    simp only [List.mem_cons, forall_eq_or_imp] at others
    rw [List.foldl_cons, ih others.2, lookup_enterTopic, if_neg others.1]

theorem lookup_entered {entries : List (String × Topic)} {name : String} {topic : Topic}
    (distinct : entries.Pairwise fun first second => first.1 ≠ second.1)
    (member : (name, topic) ∈ entries) (graph : Graph) :
    (entries.foldl enterTopic graph).topics[name]? =
      graph.topics[name]?.merge Topic.extend (some topic) := by
  obtain ⟨before, after, rfl⟩ := List.append_of_mem member
  obtain ⟨_, late, early⟩ := List.pairwise_append.mp distinct
  have firstOne : ∀ entry ∈ before, entry.1 ≠ name :=
    fun entry listed => early entry listed _ List.mem_cons_self
  have lastOne : ∀ entry ∈ after, entry.1 ≠ name :=
    fun entry listed => ((List.pairwise_cons.mp late).1 entry listed).symm
  rw [List.foldl_append, List.foldl_cons, lookup_entered_others lastOne, lookup_enterTopic,
    if_pos rfl, lookup_entered_others firstOne]

theorem entered_topics (graph other : Graph) :
    (other.topics.toList.foldl enterTopic graph).topics =
      mergeTopics graph.topics other.topics := by
  have distinct : other.topics.toList.Pairwise fun first second => first.1 ≠ second.1 := by
    refine ExtTreeMap.distinct_keys_toList.imp ?_
    intro first second apart same
    exact apart (Std.compare_eq_iff_eq.mpr same)
  apply ExtTreeMap.ext_getElem?
  intro name
  rw [lookup_merged]
  cases held : other.topics[name]? with
  | none =>
    rw [Option.merge_none_right]
    apply lookup_entered_others
    rintro ⟨key, topic⟩ member rfl
    rw [ExtTreeMap.mem_toList_iff_getElem?_eq_some, held] at member
    cases member
  | some topic =>
    exact lookup_entered distinct (ExtTreeMap.mem_toList_iff_getElem?_eq_some.mpr held) graph

theorem entered_items (entries : List (String × Topic)) (graph : Graph) :
    (entries.foldl enterTopic graph).gambits = graph.gambits ∧
      (entries.foldl enterTopic graph).replies = graph.replies := by
  induction entries generalizing graph with
  | nil => exact ⟨rfl, rfl⟩
  | cons entry rest ih => exact ih (graph.enterTopic entry)

/-- Entering the topics of the other graph, once its gambits and replies are in, makes the union. -/
theorem entered_union (graph other : Graph) :
    other.topics.toList.foldl enterTopic
      { graph with
        gambits := graph.gambits ∪ other.gambits
        replies := graph.replies ∪ other.replies } = graph.union other := by
  generalize start : ({ graph with
    gambits := graph.gambits ∪ other.gambits
    replies := graph.replies ∪ other.replies } : Graph) = filled
  have topics := entered_topics filled other
  obtain ⟨gambits, replies⟩ := entered_items other.topics.toList filled
  generalize other.topics.toList.foldl enterTopic filled = result at topics gambits replies
  subst start
  cases result
  simp only at topics gambits replies
  rw [topics, gambits, replies]
  rfl

theorem run_enterAll (entries : List (String × Topic)) (graph : Graph) :
    (entries.forM fun entry => (modify (enterTopic · entry) :
      ExceptT MergeFault (StateM Graph) Unit)).run.run graph =
        (.ok (), entries.foldl enterTopic graph) := by
  induction entries generalizing graph with
  | nil => rfl
  | cons entry rest ih => exact ih (graph.enterTopic entry)

theorem run_get_bind (graph : Graph) (rest : Graph → ExceptT MergeFault (StateM Graph) Unit) :
    (get >>= rest).run.run graph = (rest graph).run.run graph := rfl

theorem run_absorbInPlace (policy : TopicConflict) (graph other : Graph) :
    (absorbInPlace policy other).run.run graph =
      match graph.absorb policy other with
      | .ok merged => (.ok (), merged)
      | .error fault => (.error fault, graph) := by
  have looped := run_enterAll other.topics.toList
    { graph with
      gambits := graph.gambits ∪ other.gambits
      replies := graph.replies ∪ other.replies }
  rw [entered_union] at looped
  unfold absorb absorbInPlace
  rw [run_get_bind]
  cases distinct : graph.sharedIdentifier? other with
  | some id => rfl
  | none =>
    cases policy with
    | extend => exact looped
    | reject =>
      cases shared : graph.sharedTopic? other with
      | some name => rfl
      | none => exact looped

section Laws

variable {policy : TopicConflict} {graph other : Graph}

theorem absorb_assoc_iff {first second third merged : Graph} :
    (∃ both, first.absorb policy second = .ok both ∧ both.absorb policy third = .ok merged) ↔
      ∃ both, second.absorb policy third = .ok both ∧ first.absorb policy both = .ok merged := by
  simp only [absorb_ok_iff]
  constructor
  · rintro ⟨_, ⟨near, rfl⟩, outer, rfl⟩
    obtain ⟨far, late⟩ := union_compatible_iff.mp outer
    exact ⟨_, ⟨late, rfl⟩, compatible_union_iff.mpr ⟨near, far⟩, union_assoc _ _ _⟩
  · rintro ⟨_, ⟨late, rfl⟩, outer, rfl⟩
    obtain ⟨near, far⟩ := compatible_union_iff.mp outer
    exact ⟨_, ⟨near, rfl⟩, union_compatible_iff.mpr ⟨far, late⟩, (union_assoc _ _ _).symm⟩

theorem absorb_fails_iff :
    (∃ fault, graph.absorb policy other = .error fault) ↔ ¬ Compatible policy graph other := by
  cases outcome : graph.absorb policy other with
  | ok merged => simp [(absorb_ok_iff.mp outcome).1]
  | error fault =>
    simp only [Except.error.injEq, exists_eq', true_iff]
    intro compatible
    have succeeds := absorb_ok_iff.mpr ⟨compatible, rfl⟩
    rw [outcome] at succeeds
    cases succeeds

theorem incompatible_iff :
    ¬ Compatible policy graph other ↔
      (∃ id, graph.Knows id ∧ other.Knows id) ∨
        policy = .reject ∧ ∃ name, name ≠ randomTopic ∧ name ∈ graph.topics ∧
          name ∈ other.topics := by
  constructor
  · intro clash
    apply Classical.byContradiction
    intro nothing
    obtain ⟨apart, unshared⟩ := not_or.mp nothing
    refine clash ⟨?_, ?_⟩
    · intro id mine theirs
      exact apart ⟨id, mine, theirs⟩
    · intro rejecting name mine theirs
      apply Decidable.byContradiction
      intro solid
      exact unshared ⟨rejecting, name, solid, mine, theirs⟩
  · rintro (⟨id, mine, theirs⟩ | ⟨rejecting, name, solid, mine, theirs⟩) compatible
    · exact compatible.identifiers id mine theirs
    · exact solid (compatible.topics rejecting name mine theirs)

end Laws

/-- Merging is a partial union. How merges are grouped makes no difference, and the empty graph adds
nothing on either side. A merge fails over an identifier that both graphs have, of whatever kind,
and if topics are rejected over a topic that both have, the random one apart. A merge in place that
fails leaves the graph as it was. -/
theorem merging_is_partial_union (policy : TopicConflict) :
    (∀ first second third merged : Graph,
      (∃ both, first.absorb policy second = .ok both ∧ both.absorb policy third = .ok merged) ↔
        ∃ both, second.absorb policy third = .ok both ∧ first.absorb policy both = .ok merged) ∧
    (∀ graph : Graph, absorb policy {} graph = .ok graph ∧ graph.absorb policy {} = .ok graph) ∧
    (∀ graph other : Graph, (∃ fault, graph.absorb policy other = .error fault) ↔
      (∃ id, (id ∈ graph.gambits ∨ id ∈ graph.replies) ∧
        (id ∈ other.gambits ∨ id ∈ other.replies)) ∨
      policy = .reject ∧ ∃ name, name ≠ "random" ∧ name ∈ graph.topics ∧ name ∈ other.topics) ∧
    ∀ graph other : Graph, (absorbInPlace policy other).run.run graph =
      match graph.absorb policy other with
      | .ok merged => (.ok (), merged)
      | .error fault => (.error fault, graph) := by
  refine ⟨?_, ?_, ?_, run_absorbInPlace policy⟩
  · intro first second third merged
    exact absorb_assoc_iff
  · intro graph
    have compatible := empty_compatible policy graph
    exact ⟨absorb_ok_iff.mpr ⟨compatible, (empty_union graph).symm⟩,
      absorb_ok_iff.mpr ⟨compatible.symm, (union_empty graph).symm⟩⟩
  · intro graph other
    exact absorb_fails_iff.trans incompatible_iff

end DialogueScript.Graph
