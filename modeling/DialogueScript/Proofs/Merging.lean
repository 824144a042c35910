import DialogueScript.Compile.Directory
import DialogueScript.Proofs.WellFormed
import Mathlib.Algebra.GroupWithZero.Nat

/- Merging graphs. A merge that succeeds is a union: nothing is lost, nothing is listed twice, and
   what two graphs refer to stays what each of them refers to. -/
namespace DialogueScript
open Std

namespace Graph

theorem mem_appendNew [DecidableEq α] {xs ys : List α} {x : α} :
    x ∈ appendNew xs ys ↔ x ∈ xs ∨ x ∈ ys := by
  induction ys generalizing xs with
  | nil => simp [appendNew]
  | cons y ys ih =>
    simp only [appendNew]
    split
    · rename_i present
      rw [ih]
      have known : y ∈ xs := List.contains_iff_mem.mp present
      grind
    · rw [ih]
      simp only [List.mem_append, List.mem_cons, List.not_mem_nil, or_false]
      exact or_assoc

theorem appendNew_nodup [DecidableEq α] {xs ys : List α} (once : xs.Nodup) :
    (appendNew xs ys).Nodup := by
  induction ys generalizing xs with
  | nil => exact once
  | cons y ys ih =>
    simp only [appendNew]
    split
    · exact ih once
    · rename_i absent
      apply ih
      have new : y ∉ xs := fun member => absent (List.contains_iff_mem.mpr member)
      rw [List.nodup_append]
      refine ⟨once, by simp, ?_⟩
      rintro a first b second rfl
      exact new (List.mem_singleton.mp second ▸ first)

theorem lookup_mergeTopics (topics later : ExtTreeMap String Topic) (name : String) :
    (mergeTopics topics later)[name]? =
      match topics[name]?, later[name]? with
      | some topic, some added => some (topic.extend added)
      | none, some added => some added
      | found, none => found := by
  rw [mergeTopics, ExtTreeMap.getElem?_union, ExtTreeMap.getElem?_map]
  cases later[name]? <;> cases topics[name]? <;> rfl

theorem shared_identifier_none_iff {graph other : Graph} :
    graph.sharedIdentifier? other = none ↔
      ∀ id, id ∈ other.gambits ∨ id ∈ other.replies → id ∉ graph.gambits ∧ id ∉ graph.replies := by
  simp only [sharedIdentifier?, List.find?_eq_none, List.mem_append, ExtTreeMap.mem_keys,
    Bool.not_eq_true, uses_eq_false_iff]

structure Merges (graph other merged : Graph) : Prop where
  disjoint : ∀ id, id ∈ other.gambits ∨ id ∈ other.replies →
    id ∉ graph.gambits ∧ id ∉ graph.replies
  topics : merged.topics = mergeTopics graph.topics other.topics
  gambits : merged.gambits = graph.gambits ∪ other.gambits
  replies : merged.replies = graph.replies ∪ other.replies

theorem absorb_merges {policy : TopicConflict} {graph other merged : Graph}
    (ok : graph.absorb policy other = .ok merged) : Merges graph other merged := by
  simp only [absorb] at ok
  split at ok
  · simp at ok
  · rename_i unshared
    split at ok
    · simp at ok
    · simp only [Except.ok.injEq] at ok
      subst ok
      exact ⟨shared_identifier_none_iff.mp unshared, rfl, rfl, rfl⟩

theorem lookup_disjoint_union {table other : ExtTreeMap String β}
    (disjoint : ∀ key ∈ other, key ∉ table) (key : String) (value : β) :
    (table ∪ other)[key]? = some value ↔ table[key]? = some value ∨ other[key]? = some value := by
  rw [ExtTreeMap.getElem?_union]
  cases found : other[key]? with
  | none => simp
  | some held =>
    have absent := not_mem_iff_lookup.mp (disjoint key (mem_iff_lookup.mpr ⟨held, found⟩))
    simp [absent]

variable {graph other merged : Graph}

theorem Merges.lookup_gambit (merge : Merges graph other merged) (id : Identifier)
    (gambit : Gambit) : merged.gambits[id]? = some gambit ↔
      graph.gambits[id]? = some gambit ∨ other.gambits[id]? = some gambit := by
  rw [merge.gambits]
  exact lookup_disjoint_union (fun key member => (merge.disjoint key (.inl member)).1) id gambit

theorem Merges.lookup_reply (merge : Merges graph other merged) (id : Identifier)
    (reply : Reply) : merged.replies[id]? = some reply ↔
      graph.replies[id]? = some reply ∨ other.replies[id]? = some reply := by
  rw [merge.replies]
  exact lookup_disjoint_union (fun key member => (merge.disjoint key (.inr member)).2) id reply

theorem Merges.mem_gambits_iff (merge : Merges graph other merged) {id : Identifier} :
    id ∈ merged.gambits ↔ id ∈ graph.gambits ∨ id ∈ other.gambits := by
  rw [merge.gambits, ExtTreeMap.mem_union_iff]

theorem Merges.mem_replies_iff (merge : Merges graph other merged) {id : Identifier} :
    id ∈ merged.replies ↔ id ∈ graph.replies ∨ id ∈ other.replies := by
  rw [merge.replies, ExtTreeMap.mem_union_iff]

theorem Merges.sizes (merge : Merges graph other merged) :
    merged.gambits.size = graph.gambits.size + other.gambits.size ∧
      merged.replies.size = graph.replies.size + other.replies.size := by
  rw [merge.gambits, merge.replies]
  exact ⟨ExtTreeMap.size_union_of_not_mem fun id mine theirs =>
      (merge.disjoint id (.inl theirs)).1 mine,
    ExtTreeMap.size_union_of_not_mem fun id mine theirs =>
      (merge.disjoint id (.inr theirs)).2 mine⟩

theorem Merges.mem_topics_iff (merge : Merges graph other merged) {name : String} :
    name ∈ merged.topics ↔ name ∈ graph.topics ∨ name ∈ other.topics := by
  rw [merge.topics, mergeTopics, ExtTreeMap.mem_union_iff, ExtTreeMap.mem_map]

theorem Merges.topic_cases (merge : Merges graph other merged) {name : String} {topic : Topic}
    (found : merged.topics[name]? = some topic) :
    (∃ first, graph.topics[name]? = some first ∧
      (topic = first ∨ ∃ added, other.topics[name]? = some added ∧ topic = first.extend added)) ∨
      other.topics[name]? = some topic := by
  rw [merge.topics, lookup_mergeTopics] at found
  cases earlier : graph.topics[name]? with
  | none =>
    cases later : other.topics[name]? with
    | none => simp [earlier, later] at found
    | some added =>
      simp only [earlier, later] at found
      exact .inr found
  | some first =>
    cases later : other.topics[name]? with
    | none =>
      simp only [earlier, later, Option.some.injEq] at found
      exact .inl ⟨first, rfl, .inl found.symm⟩
    | some added =>
      simp only [earlier, later, Option.some.injEq] at found
      exact .inl ⟨first, rfl, .inr ⟨added, rfl, found.symm⟩⟩

theorem Merges.lists_iff (merge : Merges graph other merged) (name : String) (id : Identifier) :
    merged.Lists name id ↔ graph.Lists name id ∨ other.Lists name id := by
  simp only [Lists, merge.topics, lookup_mergeTopics]
  cases graph.topics[name]? <;> cases other.topics[name]? <;> simp [Topic.extend, mem_appendNew]

theorem Merges.owns_iff (merge : Merges graph other merged) (owner id : Identifier) :
    merged.Owns owner id ↔ graph.Owns owner id ∨ other.Owns owner id := by
  simp only [Owns, merge.lookup_gambit]
  grind

theorem Merges.resolved (merge : Merges graph other merged) {gambit : Gambit}
    (resolved : graph.Resolved gambit ∨ other.Resolved gambit) : merged.Resolved gambit := by
  intro conversation held
  rcases resolved with resolved | resolved
  · obtain ⟨ascending, known⟩ := resolved conversation held
    exact ⟨ascending, fun id member => merge.mem_replies_iff.mpr (.inl (known id member))⟩
  · obtain ⟨ascending, known⟩ := resolved conversation held
    exact ⟨ascending, fun id member => merge.mem_replies_iff.mpr (.inr (known id member))⟩

/-- Only one of two merged graphs can own a reply, since the other does not know it. -/
theorem Merges.owners_agree (merge : Merges graph other merged) (wf : graph.WellFormed)
    (owf : other.WellFormed) {owner second id : Identifier} (first : graph.Owns owner id)
    (later : other.Owns second id) : False :=
  (merge.disjoint id (.inr (owf.owned_known second id later))).2 (wf.owned_known owner id first)

theorem merge_keeps_well_formed (merge : Merges graph other merged) (wf : graph.WellFormed)
    (owf : other.WellFormed) : merged.WellFormed where
  topic_key name topic found := by
    rcases merge.topic_cases found with ⟨first, earlier, same | ⟨added, _, same⟩⟩ | later
    · exact same ▸ wf.topic_key name first earlier
    · exact same ▸ wf.topic_key name first earlier
    · exact owf.topic_key name topic later
  gambit_key id gambit found := by
    rcases (merge.lookup_gambit id gambit).mp found with first | second
    · exact wf.gambit_key id gambit first
    · exact owf.gambit_key id gambit second
  reply_key id reply found := by
    rcases (merge.lookup_reply id reply).mp found with first | second
    · exact wf.reply_key id reply first
    · exact owf.reply_key id reply second
  gambit_identifier id member :=
    (merge.mem_gambits_iff.mp member).elim (wf.gambit_identifier id) (owf.gambit_identifier id)
  reply_identifier id member :=
    (merge.mem_replies_iff.mp member).elim (wf.reply_identifier id) (owf.reply_identifier id)
  apart id member known := by
    rcases merge.mem_gambits_iff.mp member with first | second
    · rcases merge.mem_replies_iff.mp known with own | foreign
      · exact wf.apart id first own
      · exact (merge.disjoint id (.inr foreign)).1 first
    · rcases merge.mem_replies_iff.mp known with foreign | own
      · exact (merge.disjoint id (.inl second)).2 foreign
      · exact owf.apart id second own
  listed id gambit found := by
    rcases (merge.lookup_gambit id gambit).mp found with first | second
    · exact (merge.lists_iff _ _).mpr (.inl (wf.listed id gambit first))
    · exact (merge.lists_iff _ _).mpr (.inr (owf.listed id gambit second))
  listed_home name id listed := by
    rcases (merge.lists_iff name id).mp listed with first | second
    · obtain ⟨gambit, found, home⟩ := wf.listed_home name id first
      exact ⟨gambit, (merge.lookup_gambit id gambit).mpr (.inl found), home⟩
    · obtain ⟨gambit, found, home⟩ := owf.listed_home name id second
      exact ⟨gambit, (merge.lookup_gambit id gambit).mpr (.inr found), home⟩
  listed_once name topic found := by
    rcases merge.topic_cases found with ⟨first, earlier, same | ⟨added, _, same⟩⟩ | later
    · exact same ▸ wf.listed_once name first earlier
    · exact same ▸ appendNew_nodup (wf.listed_once name first earlier)
    · exact owf.listed_once name topic later
  owned id member := by
    rcases merge.mem_replies_iff.mp member with first | second
    · obtain ⟨owner, owned⟩ := wf.owned id first
      exact ⟨owner, (merge.owns_iff owner id).mpr (.inl owned)⟩
    · obtain ⟨owner, owned⟩ := owf.owned id second
      exact ⟨owner, (merge.owns_iff owner id).mpr (.inr owned)⟩
  owned_known owner id owned := by
    rw [merge.mem_replies_iff]
    exact ((merge.owns_iff owner id).mp owned).imp (wf.owned_known owner id)
      (owf.owned_known owner id)
  owned_unique owner second id first later := by
    rcases (merge.owns_iff owner id).mp first with mine | theirs
    · rcases (merge.owns_iff second id).mp later with again | crossed
      · exact wf.owned_unique owner second id mine again
      · exact (merge.owners_agree wf owf mine crossed).elim
    · rcases (merge.owns_iff second id).mp later with crossed | again
      · exact (merge.owners_agree wf owf crossed theirs).elim
      · exact owf.owned_unique owner second id theirs again
  owned_once id gambit found := by
    rcases (merge.lookup_gambit id gambit).mp found with first | second
    · exact wf.owned_once id gambit first
    · exact owf.owned_once id gambit second
  resolved id gambit found := by
    rcases (merge.lookup_gambit id gambit).mp found with first | second
    · exact merge.resolved (.inl (wf.resolved id gambit first))
    · exact merge.resolved (.inr (owf.resolved id gambit second))

end Graph

theorem mergeAll_counts {policy : TopicConflict} {graph merged : Graph} {graphs : List Graph}
    (ok : mergeAll policy graph graphs = .ok merged) :
    merged.gambits.size = graph.gambits.size + (graphs.map (·.gambits.size)).sum ∧
      merged.replies.size = graph.replies.size + (graphs.map (·.replies.size)).sum := by
  induction graphs generalizing graph with
  | nil =>
    simp only [mergeAll, Except.ok.injEq] at ok
    simp [ok]
  | cons other rest ih =>
    simp only [mergeAll] at ok
    split at ok
    · simp at ok
    · rename_i next absorbed
      obtain ⟨gambits, replies⟩ := (Graph.absorb_merges absorbed).sizes
      obtain ⟨moreGambits, moreReplies⟩ := ih ok
      simp only [List.map_cons, List.sum_cons]
      omega

theorem absorb_fault {policy : TopicConflict} {graph other : Graph} {fault : Graph.MergeFault}
    (failed : graph.absorb policy other = .error fault) :
    (∃ id, fault = .repeatedIdentifier id) ∨
      ∃ name, fault = .repeatedTopic name ∧ name ∈ graph.topics ∧ name ∈ other.topics := by
  simp only [Graph.absorb] at failed
  split at failed
  · exact .inl ⟨_, (Except.error.inj failed).symm⟩
  · split at failed
    · rename_i name shared
      refine .inr ⟨name, (Except.error.inj failed).symm, ?_⟩
      split at shared
      · have both := List.find?_some shared
        simp only [Bool.and_eq_true] at both
        exact ⟨ExtTreeMap.mem_iff_contains.mpr both.2,
          ExtTreeMap.mem_keys.mp (List.mem_of_find?_eq_some shared)⟩
      · simp at shared
    · simp at failed

theorem mergeAll_fault {policy : TopicConflict} {graph : Graph} {graphs : List Graph}
    {error : CompileError} (failed : mergeAll policy graph graphs = .error error) :
    (∃ id, error = .repeatedIdentifier id) ∨
      ∃ name before other after, error = .repeatedTopic name ∧ graphs = before ++ other :: after ∧
        name ∈ other.topics ∧
          (name ∈ graph.topics ∨ ∃ earlier ∈ before, name ∈ earlier.topics) := by
  induction graphs generalizing graph with
  | nil => simp [mergeAll] at failed
  | cons other rest ih =>
    simp only [mergeAll] at failed
    split at failed
    · rename_i fault refused
      have same := Except.error.inj failed
      rcases absorb_fault refused with ⟨id, rfl⟩ | ⟨name, rfl, mine, theirs⟩
      · exact .inl ⟨id, same.symm⟩
      · exact .inr ⟨name, [], other, rest, same.symm, rfl, theirs, .inl mine⟩
    · rename_i next absorbed
      rcases ih failed with repeated | ⟨name, before, later, after, same, split, has, earlier⟩
      · exact .inl repeated
      · refine .inr ⟨name, other :: before, later, after, same, by rw [split]; rfl, has, ?_⟩
        rcases earlier with merged | ⟨graph, member, held⟩
        · rcases (Graph.absorb_merges absorbed).mem_topics_iff.mp merged with mine | theirs
          · exact .inl mine
          · exact .inr ⟨other, List.mem_cons_self, theirs⟩
        · exact .inr ⟨graph, List.mem_cons_of_mem _ member, held⟩

theorem mergeAll_keeps_well_formed {policy : TopicConflict} {graph merged : Graph}
    {graphs : List Graph} (ok : mergeAll policy graph graphs = .ok merged)
    (wf : graph.WellFormed) (each : ∀ other ∈ graphs, other.WellFormed) : merged.WellFormed := by
  induction graphs generalizing graph with
  | nil =>
    simp only [mergeAll, Except.ok.injEq] at ok
    exact ok ▸ wf
  | cons other rest ih =>
    simp only [mergeAll] at ok
    split at ok
    · simp at ok
    · rename_i next absorbed
      refine ih ok ?_ fun other member => each other (List.mem_cons_of_mem _ member)
      exact Graph.merge_keeps_well_formed (Graph.absorb_merges absorbed) wf
        (each other List.mem_cons_self)

end DialogueScript
