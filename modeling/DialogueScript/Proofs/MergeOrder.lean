import DialogueScript.Proofs.MergeLaws
import Mathlib.Data.List.Basic

/- What the order of a merge can change. Graphs can be merged if any two of them can, and which
   graph a gambit or a reply comes from does not depend on the order. Of a topic that several graphs
   have, the order decides how its lists are arranged and which flag values and which filter win,
   and nothing else. -/
namespace DialogueScript
open Std

namespace Graph

variable {policy : TopicConflict} {graph other : Graph} {graphs others : List Graph}

theorem pairwise_union_iff (compatible : Compatible policy graph other) :
    (graph.union other :: graphs).Pairwise (Compatible policy) ↔
      (graph :: other :: graphs).Pairwise (Compatible policy) := by
  simp only [List.pairwise_cons, List.mem_cons, forall_eq_or_imp, union_compatible_iff, compatible,
    true_and]
  constructor
  · rintro ⟨both, rest⟩
    exact ⟨fun third member => (both third member).1, fun third member => (both third member).2,
      rest⟩
  · rintro ⟨first, second, rest⟩
    exact ⟨fun third member => ⟨first third member, second third member⟩, rest⟩

theorem pairwise_compatible_perm (perm : graphs.Perm others) :
    graphs.Pairwise (Compatible policy) ↔ others.Pairwise (Compatible policy) :=
  perm.pairwise_iff Compatible.symm

theorem lookup_folded {table : Graph → ExtTreeMap Identifier β}
    (unites : ∀ first second, table (union first second) = table first ∪ table second)
    (known : ∀ graph id, id ∈ table graph → graph.Knows id)
    (compatible : (graph :: graphs).Pairwise (Compatible policy)) (id : Identifier) (value : β) :
    (table (graphs.foldl union graph))[id]? = some value ↔
      ∃ member ∈ graph :: graphs, (table member)[id]? = some value := by
  induction graphs generalizing graph with
  | nil => simp
  | cons next rest ih =>
    obtain ⟨first, _⟩ := List.pairwise_cons.mp compatible
    have near := first next List.mem_cons_self
    have apart : ∀ key ∈ table next, key ∉ table graph := fun key theirs mine =>
      near.identifiers key (known graph key mine) (known next key theirs)
    rw [List.foldl_cons, ih ((pairwise_union_iff near).mpr compatible)]
    simp only [List.mem_cons, exists_eq_or_imp, unites, lookup_disjoint_union apart, or_assoc]

theorem folded_tables_agree {table : Graph → ExtTreeMap Identifier β}
    (unites : ∀ first second, table (union first second) = table first ∪ table second)
    (known : ∀ graph id, id ∈ table graph → graph.Knows id)
    (compatible : (graph :: graphs).Pairwise (Compatible policy)) (perm : graphs.Perm others) :
    table (graphs.foldl union graph) = table (others.foldl union graph) := by
  have reordered := (pairwise_compatible_perm (perm.cons graph)).mp compatible
  apply ExtTreeMap.ext_getElem?
  intro id
  apply Option.ext
  intro value
  rw [lookup_folded unites known compatible, lookup_folded unites known reordered]
  simp only [List.mem_cons, perm.mem_iff]

/-- Something that a topic has after a further declaration if it or the declaration had it. -/
def Additive (feature : Topic → Prop) : Prop :=
  ∀ topic later, feature (Topic.extend topic later) ↔ feature topic ∨ feature later

def Features (graph : Graph) (name : String) (feature : Topic → Prop) : Prop :=
  ∃ topic, graph.topics[name]? = some topic ∧ feature topic

theorem union_features_iff {feature : Topic → Prop} (additive : Additive feature) (name : String) :
    (graph.union other).Features name feature ↔
      graph.Features name feature ∨ other.Features name feature := by
  simp only [Features, union, lookup_merged]
  cases graph.topics[name]? <;> cases other.topics[name]? <;> simp [additive _ _]

theorem folded_features_iff {feature : Topic → Prop} (additive : Additive feature)
    (name : String) :
    (graphs.foldl union graph).Features name feature ↔
      ∃ member ∈ graph :: graphs, member.Features name feature := by
  induction graphs generalizing graph with
  | nil => simp
  | cons next rest ih =>
    rw [List.foldl_cons, ih]
    simp only [List.mem_cons, exists_eq_or_imp, union_features_iff additive, or_assoc]

theorem folded_features_agree {feature : Topic → Prop} (additive : Additive feature)
    (perm : graphs.Perm others) (name : String) :
    (graphs.foldl union graph).Features name feature ↔
      (others.foldl union graph).Features name feature := by
  simp only [folded_features_iff additive, List.mem_cons, perm.mem_iff]

theorem additive_present : Additive fun _ => True := by simp [Additive]

theorem additive_gambit (id : Identifier) : Additive fun topic => id ∈ topic.gambits := by
  simp [Additive, Topic.extend, mem_appendNew]

theorem additive_keyword (keyword : String) : Additive fun topic => keyword ∈ topic.keywords := by
  simp [Additive, Topic.extend, mem_appendNew]

theorem additive_flag (flag : String) : Additive fun topic => flag ∈ topic.flags := by
  simp [Additive, Topic.extend]

theorem additive_filter : Additive fun topic => topic.filter.isSome := by
  intro topic later
  simp [Topic.extend, or_comm]

/-- Two topics that differ in nothing but the arrangement of their lists, the values of their flags
and the text of their filters. -/
structure Topic.SameContent (topic other : Topic) : Prop where
  gambits : ∀ id, id ∈ topic.gambits ↔ id ∈ other.gambits
  keywords : ∀ keyword, keyword ∈ topic.keywords ↔ keyword ∈ other.keywords
  flags : ∀ flag, flag ∈ topic.flags ↔ flag ∈ other.flags
  filter : topic.filter.isSome ↔ other.filter.isSome

theorem folded_topics_agree (perm : graphs.Perm others) {name : String} {topic reordered : Topic}
    (found : (graphs.foldl union graph).topics[name]? = some topic)
    (again : (others.foldl union graph).topics[name]? = some reordered) :
    topic.SameContent reordered := by
  have agree : ∀ {feature}, Additive feature → (feature topic ↔ feature reordered) := by
    intro feature additive
    have same := @folded_features_agree graph graphs others feature additive perm name
    simpa [Features, found, again] using same
  exact ⟨fun id => agree (additive_gambit id), fun keyword => agree (additive_keyword keyword),
    fun flag => agree (additive_flag flag), agree additive_filter⟩

/-- A topic of a merge is made of the declarations of its name, in order. -/
theorem lookup_folded_topic (name : String) :
    (graphs.foldl union graph).topics[name]? =
      (graphs.filterMap (·.topics[name]?)).foldl
        (fun held declared => held.merge Topic.extend (some declared)) graph.topics[name]? := by
  induction graphs generalizing graph with
  | nil => rfl
  | cons next rest ih =>
    rw [List.foldl_cons, ih, union, lookup_merged]
    cases declared : next.topics[name]? with
    | none => simp [declared]
    | some topic => simp [declared]

theorem lookup_declared_once {name : String} {only : Graph}
    (once : graphs.filter (·.topics.contains name) = [only]) :
    (graphs.foldl union {}).topics[name]? = only.topics[name]? := by
  have member : only ∈ graphs.filter (·.topics.contains name) := by simp [once]
  have holds := ExtTreeMap.contains_iff_mem.mp (List.mem_filter.mp member).2
  obtain ⟨topic, found⟩ := mem_iff_lookup.mp holds
  have declarations : graphs.filterMap (·.topics[name]?) = [topic] := by
    have skipped : graphs.filterMap (·.topics[name]?) =
        (graphs.filter (·.topics.contains name)).filterMap (·.topics[name]?) := by
      rw [List.filterMap_filter]
      apply List.filterMap_congr
      intro next _
      split
      · rfl
      · rename_i lacks
        exact not_mem_iff_lookup.mp fun held => lacks (ExtTreeMap.contains_iff_mem.mpr held)
    rw [skipped, once]
    simp [found]
  rw [lookup_folded_topic, declarations, found]
  simp

end Graph

variable {policy : TopicConflict} {graphs others : List Graph}

theorem mergeAll_ok_iff {graph merged : Graph} :
    mergeAll policy graph graphs = .ok merged ↔
      (graph :: graphs).Pairwise (Graph.Compatible policy) ∧
        merged = graphs.foldl Graph.union graph := by
  induction graphs generalizing graph with
  | nil =>
    simp only [mergeAll, Except.ok.injEq, List.pairwise_singleton, List.foldl_nil, true_and]
    exact eq_comm
  | cons other rest ih =>
    simp only [mergeAll]
    cases absorbed : graph.absorb policy other with
    | error fault =>
      have clash := Graph.absorb_fails_iff.mp ⟨fault, absorbed⟩
      simp only [reduceCtorEq, false_iff, not_and]
      intro compatible
      exact absurd ((List.pairwise_cons.mp compatible).1 other List.mem_cons_self) clash
    | ok next =>
      obtain ⟨compatible, rfl⟩ := Graph.absorb_ok_iff.mp absorbed
      simp only [List.foldl_cons]
      rw [ih, Graph.pairwise_union_iff compatible]

theorem mergeAll_empty_ok_iff {merged : Graph} :
    mergeAll policy {} graphs = .ok merged ↔
      graphs.Pairwise (Graph.Compatible policy) ∧ merged = graphs.foldl Graph.union {} := by
  rw [mergeAll_ok_iff, List.pairwise_cons]
  simp [Graph.empty_compatible]

/-- Graphs can be merged in any order or in none. The order changes no gambit and no reply, and of
the topics only how their lists are arranged and which flag values and which filter win. It does not
change a topic that only one of the graphs has. -/
theorem merge_order_rearranges_topics (perm : graphs.Perm others) :
    ((∃ merged, mergeAll policy {} graphs = .ok merged) ↔
      ∃ merged, mergeAll policy {} others = .ok merged) ∧
    ∀ merged reordered, mergeAll policy {} graphs = .ok merged →
      mergeAll policy {} others = .ok reordered →
      merged.gambits = reordered.gambits ∧ merged.replies = reordered.replies ∧
      (∀ name, name ∈ merged.topics ↔ name ∈ reordered.topics) ∧
      (∀ (name : String) topic other, merged.topics[name]? = some topic →
        reordered.topics[name]? = some other → topic.SameContent other) ∧
      ∀ (name : String) only, graphs.filter (·.topics.contains name) = [only] →
        merged.topics[name]? = only.topics[name]? ∧
          reordered.topics[name]? = only.topics[name]? := by
  have same := @Graph.pairwise_compatible_perm policy graphs others perm
  constructor
  · simp [mergeAll_empty_ok_iff, same]
  · intro merged reordered ok again
    obtain ⟨compatible, rfl⟩ := mergeAll_ok_iff.mp ok
    obtain ⟨_, rfl⟩ := mergeAll_ok_iff.mp again
    refine ⟨?_, ?_, ?_, ?_, ?_⟩
    · exact Graph.folded_tables_agree (fun _ _ => rfl) (fun _ _ => .inl) compatible perm
    · exact Graph.folded_tables_agree (fun _ _ => rfl) (fun _ _ => .inr) compatible perm
    · intro name
      have present :=
        @Graph.folded_features_agree {} graphs others _ Graph.additive_present perm name
      simpa [Graph.Features, ← mem_iff_lookup] using present
    · intro name topic other
      exact Graph.folded_topics_agree perm
    · intro name only once
      have onceToo : others.filter (·.topics.contains name) = [only] := by
        have moved := perm.filter (·.topics.contains name)
        rw [once] at moved
        exact (List.singleton_perm.mp moved).symm
      exact ⟨Graph.lookup_declared_once once, Graph.lookup_declared_once onceToo⟩

def singleGraph (topic : Graph.Topic) (gambit reply : Identifier) : Graph where
  topics := (∅ : ExtTreeMap String Graph.Topic).insert topic.name { topic with gambits := [gambit] }
  gambits := (∅ : ExtTreeMap Identifier Graph.Gambit).insert gambit
    { id := gambit, topic := topic.name, replies := [reply] }
  replies := (∅ : ExtTreeMap Identifier Graph.Reply).insert reply ⟨reply, "hi"⟩

def catGraph : Graph :=
  singleGraph { name := "pets", keywords := ["cat"], filter := some "purring" }
    "gambitA1" "replyA01"

def dogGraph : Graph :=
  singleGraph { name := "pets", keywords := ["dog"], filter := some "barking" }
    "gambitB1" "replyB01"

theorem pets_in_either_order :
    [catGraph, dogGraph].Perm [dogGraph, catGraph] ∧
      ∃ merged reordered, mergeAll .extend {} [catGraph, dogGraph] = .ok merged ∧
        mergeAll .extend {} [dogGraph, catGraph] = .ok reordered ∧ merged ≠ reordered ∧
        merged.gambits = reordered.gambits ∧ merged.replies = reordered.replies ∧
        ∀ name, name ∈ merged.topics ↔ name ∈ reordered.topics := by
  have perm : [catGraph, dogGraph].Perm [dogGraph, catGraph] := .swap dogGraph catGraph []
  have works : (mergeAll .extend {} [catGraph, dogGraph]).toOption.isSome = true := by decide
  have differ : mergeAll .extend {} [catGraph, dogGraph] ≠
      mergeAll .extend {} [dogGraph, catGraph] := by
    decide
  obtain ⟨succeeds, content⟩ := @merge_order_rearranges_topics .extend _ _ perm
  cases ok : mergeAll .extend {} [catGraph, dogGraph] with
  | error fault =>
    rw [ok] at works
    cases works
  | ok merged =>
    obtain ⟨reordered, again⟩ := succeeds.mp ⟨merged, ok⟩
    obtain ⟨gambits, replies, names, _⟩ := content merged reordered ok again
    refine ⟨perm, merged, reordered, rfl, again, ?_, gambits, replies, names⟩
    rintro rfl
    exact differ (ok.trans again.symm)

end DialogueScript
