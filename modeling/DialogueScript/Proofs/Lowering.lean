import DialogueScript.Proofs.Merging

/- Graphs in the making are well-formed up to what is still open: the gambits that were numbered but
   not yet entered in the list of their topic, and the replies that were numbered before the gambit
   that they belong to. Each step of the making keeps this, and at the end nothing is open. -/
namespace DialogueScript.Graph
open Std

/-- Well-formed but for the gambits of the topic `home` that no list has yet, and for the replies
that no gambit has yet. -/
structure Growing (graph : Graph) (home : String) (unlisted unowned : List Identifier) : Prop where
  topic_key : ∀ (name : String) topic, graph.topics[name]? = some topic → topic.name = name
  gambit_key : ∀ (id : Identifier) gambit, graph.gambits[id]? = some gambit → gambit.id = id
  reply_key : ∀ (id : Identifier) reply, graph.replies[id]? = some reply → reply.id = id
  gambit_identifier : ∀ id ∈ graph.gambits, IsIdentifier id
  reply_identifier : ∀ id ∈ graph.replies, IsIdentifier id
  apart : ∀ id ∈ graph.gambits, id ∉ graph.replies
  listed : ∀ (id : Identifier) gambit, graph.gambits[id]? = some gambit →
    id ∈ unlisted ∨ graph.Lists gambit.topic id
  listed_home : ∀ name id, graph.Lists name id →
    id ∉ unlisted ∧ ∃ gambit, graph.gambits[id]? = some gambit ∧ gambit.topic = name
  listed_once : ∀ (name : String) topic, graph.topics[name]? = some topic → topic.gambits.Nodup
  unlisted_home : ∀ id ∈ unlisted, ∃ gambit, graph.gambits[id]? = some gambit ∧ gambit.topic = home
  unlisted_once : unlisted.Nodup
  owned : ∀ id ∈ graph.replies, id ∈ unowned ∨ ∃ owner, graph.Owns owner id
  owned_known : ∀ owner id, graph.Owns owner id → id ∈ graph.replies ∧ id ∉ unowned
  owned_unique : ∀ owner other id, graph.Owns owner id → graph.Owns other id → owner = other
  owned_once : ∀ (id : Identifier) gambit, graph.gambits[id]? = some gambit → gambit.replies.Nodup
  unowned_known : ∀ id ∈ unowned, id ∈ graph.replies
  unowned_once : unowned.Nodup
  /-- No conversation is resolved while the graph grows. -/
  unresolved : ∀ (id : Identifier) gambit, graph.gambits[id]? = some gambit →
    ∀ conversation, gambit.conversation = some conversation → conversation.replies = []

theorem empty_growing (home : String) : Growing {} home [] [] := by
  constructor <;> simp [Lists, Owns]

theorem Growing.well_formed {graph : Graph} {home : String} (growing : Growing graph home [] []) :
    graph.WellFormed where
  topic_key := growing.topic_key
  gambit_key := growing.gambit_key
  reply_key := growing.reply_key
  gambit_identifier := growing.gambit_identifier
  reply_identifier := growing.reply_identifier
  apart := growing.apart
  listed id gambit found := (growing.listed id gambit found).resolve_left (by simp)
  listed_home name id listed := (growing.listed_home name id listed).2
  listed_once := growing.listed_once
  owned id member := (growing.owned id member).resolve_left (by simp)
  owned_known owner id owned := (growing.owned_known owner id owned).1
  owned_unique := growing.owned_unique
  owned_once := growing.owned_once
  resolved id gambit found conversation held := by
    simp [growing.unresolved id gambit found conversation held]

theorem Growing.rehome {graph : Graph} {home : String} (growing : Growing graph home [] unowned)
    (other : String) : Growing graph other [] unowned :=
  { growing with unlisted_home := by simp }

theorem Growing.add_reply {graph : Graph} {home : String} {unlisted unowned : List Identifier}
    (growing : Growing graph home unlisted unowned) {id : Identifier} (text : String)
    (shape : IsIdentifier id) (noGambit : id ∉ graph.gambits) (noReply : id ∉ graph.replies) :
    Growing { graph with replies := graph.replies.insert id ⟨id, text⟩ } home unlisted
      (unowned ++ [id]) := by
  have known : ∀ other, other ∈ graph.replies.insert id ⟨id, text⟩ ↔
      id = other ∨ other ∈ graph.replies := by
    intro other
    simp only [ExtTreeMap.mem_insert, Std.compare_eq_iff_eq]
  refine { growing with
    reply_key := ?_, reply_identifier := ?_, apart := ?_, owned := ?_, owned_known := ?_,
    unowned_known := ?_, unowned_once := ?_ }
  · intro other reply found
    simp only [lookup_insert] at found
    split at found
    · rename_i same
      exact Option.some.inj found ▸ same
    · exact growing.reply_key other reply found
  · intro other member
    rcases (known other).mp member with rfl | old
    · exact shape
    · exact growing.reply_identifier other old
  · intro other member stored
    rcases (known other).mp stored with rfl | old
    · exact noGambit member
    · exact growing.apart other member old
  · intro other member
    rcases (known other).mp member with rfl | old
    · exact .inl (by simp)
    · exact (growing.owned other old).imp (List.mem_append_left _) fun owned => owned
  · intro owner other owned
    obtain ⟨old, closed⟩ := growing.owned_known owner other owned
    refine ⟨(known other).mpr (.inr old), ?_⟩
    simp only [List.mem_append, List.mem_singleton, not_or]
    exact ⟨closed, fun same => noReply (same ▸ old)⟩
  · intro other member
    rcases List.mem_append.mp member with waiting | new
    · exact (known other).mpr (.inr (growing.unowned_known other waiting))
    · exact (known other).mpr (.inl (List.mem_singleton.mp new).symm)
  · rw [List.nodup_append]
    refine ⟨growing.unowned_once, by simp, ?_⟩
    rintro a waiting b new rfl
    rw [List.mem_singleton] at new
    subst new
    exact noReply (growing.unowned_known _ waiting)

theorem owns_after_insert {graph : Graph} {id : Identifier} (gambit : Gambit)
    (new : id ∉ graph.gambits) (owner reply : Identifier) :
    Owns { graph with gambits := graph.gambits.insert id gambit } owner reply ↔
      (owner = id ∧ reply ∈ gambit.replies) ∨ graph.Owns owner reply := by
  simp only [Owns, lookup_insert]
  by_cases same : id = owner
  · subst same
    simp [not_mem_iff_lookup.mp new]
  · simp [same, Ne.symm same]

/-- A numbered gambit takes the replies that wait for it, and itself waits for its topic. -/
theorem Growing.add_gambit {graph : Graph} {home : String} {unlisted unowned : List Identifier}
    (growing : Growing graph home unlisted unowned) (gambit : Gambit)
    (shape : IsIdentifier gambit.id) (noGambit : gambit.id ∉ graph.gambits)
    (noReply : gambit.id ∉ graph.replies) (topic : gambit.topic = home)
    (replies : gambit.replies = unowned)
    (silent : ∀ conversation, gambit.conversation = some conversation → conversation.replies = []) :
    Growing { graph with gambits := graph.gambits.insert gambit.id gambit } home
      (unlisted ++ [gambit.id]) [] := by
  have owns := owns_after_insert gambit noGambit
  have kept : ∀ (id : Identifier) held, graph.gambits[id]? = some held →
      (graph.gambits.insert gambit.id gambit)[id]? = some held := by
    intro id held found
    have other : gambit.id ≠ id := fun same => noGambit (mem_iff_lookup.mpr ⟨held, same ▸ found⟩)
    simpa [lookup_insert, other] using found
  have stored : ∀ (id : Identifier) held, (graph.gambits.insert gambit.id gambit)[id]? = some held →
      (gambit.id = id ∧ gambit = held) ∨ graph.gambits[id]? = some held := by
    intro id held found
    rw [lookup_insert] at found
    split at found
    · exact .inl ⟨by assumption, Option.some.inj found⟩
    · exact .inr found
  have fresh : ∀ id ∈ unlisted, id ≠ gambit.id := by
    rintro id waiting rfl
    obtain ⟨held, found, _⟩ := growing.unlisted_home _ waiting
    exact noGambit (mem_iff_lookup.mpr ⟨held, found⟩)
  refine { growing with
    gambit_key := ?_, gambit_identifier := ?_, apart := ?_, listed := ?_, listed_home := ?_,
    unlisted_home := ?_, unlisted_once := ?_, owned := ?_, owned_known := ?_, owned_unique := ?_,
    owned_once := ?_, unowned_known := by simp, unowned_once := by simp, unresolved := ?_ }
  · intro id held found
    rcases stored id held found with ⟨rfl, rfl⟩ | old
    · rfl
    · exact growing.gambit_key id held old
  · intro id member
    obtain ⟨held, found⟩ := mem_iff_lookup.mp member
    rcases stored id held found with ⟨rfl, rfl⟩ | old
    · exact shape
    · exact growing.gambit_identifier id (mem_iff_lookup.mpr ⟨held, old⟩)
  · intro id member
    obtain ⟨held, found⟩ := mem_iff_lookup.mp member
    rcases stored id held found with ⟨rfl, rfl⟩ | old
    · exact noReply
    · exact growing.apart id (mem_iff_lookup.mpr ⟨held, old⟩)
  · intro id held found
    rcases stored id held found with ⟨rfl, rfl⟩ | old
    · exact .inl (by simp)
    · exact (growing.listed id held old).imp (List.mem_append_left _) fun listed => listed
  · intro name id listed
    obtain ⟨closed, held, found, at_home⟩ := growing.listed_home name id listed
    refine ⟨?_, held, kept id held found, at_home⟩
    simp only [List.mem_append, List.mem_singleton, not_or]
    exact ⟨closed, fun same => noGambit (mem_iff_lookup.mpr ⟨held, same ▸ found⟩)⟩
  · intro id member
    rcases List.mem_append.mp member with waiting | new
    · obtain ⟨held, found, at_home⟩ := growing.unlisted_home id waiting
      exact ⟨held, kept id held found, at_home⟩
    · rw [List.mem_singleton.mp new]
      exact ⟨gambit, by simp, topic⟩
  · rw [List.nodup_append]
    refine ⟨growing.unlisted_once, by simp, ?_⟩
    intro id waiting other new
    rw [List.mem_singleton.mp new]
    exact fresh id waiting
  · intro id member
    rcases growing.owned id member with waiting | ⟨owner, owned⟩
    · exact .inr ⟨gambit.id, (owns _ _).mpr (.inl ⟨rfl, replies ▸ waiting⟩)⟩
    · exact .inr ⟨owner, (owns _ _).mpr (.inr owned)⟩
  · intro owner id owned
    rcases (owns owner id).mp owned with ⟨_, taken⟩ | old
    · exact ⟨growing.unowned_known id (replies ▸ taken), by simp⟩
    · exact ⟨(growing.owned_known owner id old).1, by simp⟩
  · intro owner other id first second
    -- A reply that waited for this gambit has no older owner.
    rcases (owns owner id).mp first with ⟨rfl, taken⟩ | old
    · rcases (owns other id).mp second with ⟨rfl, _⟩ | clash
      · rfl
      · exact absurd (replies ▸ taken) (growing.owned_known other id clash).2
    · rcases (owns other id).mp second with ⟨rfl, taken⟩ | again
      · exact absurd (replies ▸ taken) (growing.owned_known owner id old).2
      · exact growing.owned_unique owner other id old again
  · intro id held found
    rcases stored id held found with ⟨rfl, rfl⟩ | old
    · exact replies ▸ growing.unowned_once
    · exact growing.owned_once id held old
  · intro id held found
    rcases stored id held found with ⟨rfl, rfl⟩ | old
    · exact silent
    · exact growing.unresolved id held old

theorem Draft.enter_spec (draft : Draft) (topic : Topic) :
    ∃ entered, (draft.enter topic).graph =
        { draft.graph with topics := draft.graph.topics.insert topic.name entered } ∧
      ((draft.graph.topics[topic.name]? = none ∧ entered = topic) ∨
        ∃ earlier, draft.graph.topics[topic.name]? = some earlier ∧
          entered = earlier.extend topic) := by
  cases found : draft.graph.topics[topic.name]? with
  | none => exact ⟨topic, by simp [Draft.enter, found], .inl ⟨rfl, rfl⟩⟩
  | some earlier =>
    exact ⟨earlier.extend topic, by simp [Draft.enter, found], .inr ⟨earlier, rfl, rfl⟩⟩

/-- Entering a topic closes what waits for it. -/
theorem Growing.enter {draft : Draft} (topic : Topic)
    (growing : Growing draft.graph topic.name topic.gambits []) :
    Growing (draft.enter topic).graph topic.name [] [] := by
  obtain ⟨entered, same, origin⟩ := draft.enter_spec topic
  have listed_now : ∀ id, id ∈ entered.gambits ↔
      id ∈ topic.gambits ∨ draft.graph.Lists topic.name id := by
    intro id
    rcases origin with ⟨vacant, rfl⟩ | ⟨earlier, occupied, rfl⟩
    · simp [Lists, vacant]
    · simp [Lists, occupied, Topic.extend, mem_appendNew, or_comm]
  have lists : ∀ name id, Lists { draft.graph with
      topics := draft.graph.topics.insert topic.name entered } name id ↔
        (name = topic.name ∧ id ∈ topic.gambits) ∨ draft.graph.Lists name id := by
    intro name id
    by_cases here : topic.name = name
    · subst here
      simp [Lists, listed_now]
    · simp [Lists, lookup_insert, here, Ne.symm here]
  rw [same]
  refine { growing with
    topic_key := ?_, listed := ?_, listed_home := ?_, listed_once := ?_,
    unlisted_home := by simp, unlisted_once := by simp }
  · intro name held found
    simp only [lookup_insert] at found
    split at found
    · rename_i here
      rw [← Option.some.inj found, ← here]
      rcases origin with ⟨_, rfl⟩ | ⟨earlier, occupied, rfl⟩
      · rfl
      · exact growing.topic_key topic.name earlier occupied
    · exact growing.topic_key name held found
  · intro id gambit found
    refine .inr ((lists gambit.topic id).mpr ?_)
    rcases growing.listed id gambit found with waiting | listed
    · obtain ⟨held, again, at_home⟩ := growing.unlisted_home id waiting
      rw [found, Option.some.injEq] at again
      exact .inl ⟨again ▸ at_home, waiting⟩
    · exact .inr listed
  · intro name id listed
    rcases (lists name id).mp listed with ⟨rfl, waiting⟩ | old
    · exact ⟨by simp, growing.unlisted_home id waiting⟩
    · exact ⟨by simp, (growing.listed_home name id old).2⟩
  · intro name held found
    simp only [lookup_insert] at found
    split at found
    · rw [← Option.some.inj found]
      rcases origin with ⟨_, rfl⟩ | ⟨earlier, occupied, rfl⟩
      · exact growing.unlisted_once
      · exact appendNew_nodup (growing.listed_once topic.name earlier occupied)
    · exact growing.listed_once name held found

/- The steps of the making, from a single reply to all the topics of a script. -/

variable {draft next : Draft} {home : String} {unlisted unowned : List Identifier}

theorem addReply_keeps_growing {text : String} {id : Identifier}
    (added : draft.addReply? text = some (id, next))
    (growing : Growing draft.graph home unlisted unowned) :
    Growing next.graph home unlisted (unowned ++ [id]) := by
  simp only [Draft.addReply?, Option.map_eq_some_iff] at added
  obtain ⟨⟨fresh, numbered⟩, found, same⟩ := added
  obtain ⟨shape, noGambit, noReply, graph, _⟩ := Draft.fresh_spec found
  simp only [Prod.mk.injEq] at same
  obtain ⟨rfl, rfl⟩ := same
  simp only [graph]
  exact growing.add_reply text shape noGambit noReply

theorem addReplies_keeps_growing {texts : List String} {ids : List Identifier}
    (added : draft.addReplies? texts = some (ids, next))
    (growing : Growing draft.graph home unlisted unowned) :
    Growing next.graph home unlisted (unowned ++ ids) := by
  induction texts generalizing draft unowned ids with
  | nil =>
    simp only [Draft.addReplies?, Option.some.injEq, Prod.mk.injEq] at added
    obtain ⟨rfl, rfl⟩ := added
    simpa using growing
  | cons text rest ih =>
    simp only [Draft.addReplies?, Option.bind_eq_bind, Option.bind_eq_some_iff, Option.pure_def,
      Option.some.injEq, Prod.mk.injEq] at added
    obtain ⟨⟨id, one⟩, first, ⟨others, last⟩, later, rfl, rfl⟩ := added
    have step := ih later (addReply_keeps_growing first growing)
    simpa using step

theorem addGambit_keeps_growing {gambit : Script.Gambit} {id : Identifier}
    (added : draft.addGambit? home gambit = some (id, next))
    (growing : Growing draft.graph home unlisted []) :
    Growing next.graph home (unlisted ++ [id]) [] := by
  simp only [Draft.addGambit?, Option.bind_eq_bind, Option.bind_eq_some_iff, Option.pure_def,
    Option.some.injEq, Prod.mk.injEq] at added
  obtain ⟨⟨replies, filled⟩, texts, ⟨fresh, numbered⟩, found, rfl, rfl⟩ := added
  have waiting := addReplies_keeps_growing texts growing
  obtain ⟨shape, noGambit, noReply, graph, _⟩ := Draft.fresh_spec found
  simp only [graph]
  refine waiting.add_gambit ⟨fresh, home, _, replies, _, _⟩ shape noGambit noReply rfl
    rfl ?_
  intro conversation held
  obtain ⟨raw, _, rfl⟩ := Option.map_eq_some_iff.mp held
  rfl

theorem addGambits_keeps_growing {gambits : List Script.Gambit} {ids : List Identifier}
    (added : draft.addGambits? home gambits = some (ids, next))
    (growing : Growing draft.graph home unlisted []) :
    Growing next.graph home (unlisted ++ ids) [] := by
  induction gambits generalizing draft unlisted ids with
  | nil =>
    simp only [Draft.addGambits?, Option.some.injEq, Prod.mk.injEq] at added
    obtain ⟨rfl, rfl⟩ := added
    simpa using growing
  | cons gambit rest ih =>
    simp only [Draft.addGambits?, Option.bind_eq_bind, Option.bind_eq_some_iff, Option.pure_def,
      Option.some.injEq, Prod.mk.injEq] at added
    obtain ⟨⟨id, one⟩, first, ⟨others, last⟩, later, rfl, rfl⟩ := added
    have step := ih later (addGambit_keeps_growing first growing)
    simpa using step

theorem addTopic_keeps_growing {topic : Script.Topic} (added : draft.addTopic? topic = some next)
    (growing : Growing draft.graph home [] []) : Growing next.graph topic.name [] [] := by
  simp only [Draft.addTopic?, Option.bind_eq_bind, Option.bind_eq_some_iff, Option.pure_def,
    Option.some.injEq] at added
  obtain ⟨⟨gambits, filled⟩, entered, rfl⟩ := added
  have waiting := addGambits_keeps_growing entered (growing.rehome topic.name)
  exact Growing.enter ⟨topic.name, _, _, _, gambits⟩ waiting

theorem addTopics_keeps_growing {topics : List Script.Topic}
    (added : draft.addTopics? topics = some next) (growing : Growing draft.graph home [] []) :
    Growing next.graph home [] [] := by
  induction topics generalizing draft home with
  | nil =>
    simp only [Draft.addTopics?, Option.some.injEq] at added
    exact added ▸ growing
  | cons topic rest ih =>
    simp only [Draft.addTopics?, Option.bind_eq_bind, Option.bind_eq_some_iff] at added
    obtain ⟨one, first, later⟩ := added
    exact (ih later (addTopic_keeps_growing first growing)).rehome home

theorem lowered_graph_well_formed {scope : String} {policy : TopicConflict} {script : Script}
    {graph : Graph} {diagnostics : List Diagnostic}
    (ok : ofScript scope policy script = .ok (graph, diagnostics)) : graph.WellFormed := by
  simp only [ofScript] at ok
  split at ok
  · simp at ok
  · split at ok
    · simp at ok
    · rename_i built
      simp only [Except.ok.injEq, Prod.mk.injEq] at ok
      rw [← ok.1]
      exact (addTopics_keeps_growing built (empty_growing "")).well_formed

end DialogueScript.Graph
