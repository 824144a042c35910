import DialogueScript.Compile.Trigger
import DialogueScript.Proofs.Identifiers
import DialogueScript.Proofs.Tables

/- Well-formed graphs. Keys agree with what is stored under them, each gambit stands once in the
   list of its topic and in no other, each reply belongs to one gambit, and conversations lead to
   replies. Revising gambits and merging graphs keep this. -/
namespace DialogueScript.Graph
open Std

def Lists (graph : Graph) (name : String) (id : Identifier) : Prop :=
  ∃ topic, graph.topics[name]? = some topic ∧ id ∈ topic.gambits

def Owns (graph : Graph) (owner id : Identifier) : Prop :=
  ∃ gambit, graph.gambits[owner]? = some gambit ∧ id ∈ gambit.replies

/-- The replies that a conversation may follow are told once each, in order, and exist. -/
def Resolved (graph : Graph) (gambit : Gambit) : Prop :=
  ∀ conversation, gambit.conversation = some conversation →
    conversation.replies.Pairwise (· < ·) ∧ ∀ id ∈ conversation.replies, id ∈ graph.replies

structure WellFormed (graph : Graph) : Prop where
  topic_key : ∀ (name : String) topic, graph.topics[name]? = some topic → topic.name = name
  gambit_key : ∀ (id : Identifier) gambit, graph.gambits[id]? = some gambit → gambit.id = id
  reply_key : ∀ (id : Identifier) reply, graph.replies[id]? = some reply → reply.id = id
  gambit_identifier : ∀ id ∈ graph.gambits, IsIdentifier id
  reply_identifier : ∀ id ∈ graph.replies, IsIdentifier id
  apart : ∀ id ∈ graph.gambits, id ∉ graph.replies
  /-- A gambit stands in the list of its own topic, -/
  listed : ∀ (id : Identifier) gambit, graph.gambits[id]? = some gambit →
    graph.Lists gambit.topic id
  /-- in no other list, -/
  listed_home : ∀ name id, graph.Lists name id →
    ∃ gambit, graph.gambits[id]? = some gambit ∧ gambit.topic = name
  /-- and only once there. -/
  listed_once : ∀ (name : String) topic, graph.topics[name]? = some topic → topic.gambits.Nodup
  owned : ∀ id ∈ graph.replies, ∃ owner, graph.Owns owner id
  owned_known : ∀ owner id, graph.Owns owner id → id ∈ graph.replies
  owned_unique : ∀ owner other id, graph.Owns owner id → graph.Owns other id → owner = other
  owned_once : ∀ (id : Identifier) gambit, graph.gambits[id]? = some gambit → gambit.replies.Nodup
  resolved : ∀ (id : Identifier) gambit, graph.gambits[id]? = some gambit → graph.Resolved gambit

theorem empty_well_formed : WellFormed {} := by
  constructor <;> simp [Lists, Owns]

theorem well_formed_is_closed {graph : Graph} (wf : graph.WellFormed) : graph.isClosed = true := by
  have topics : ∀ topic ∈ graph.topics.values, ∀ id ∈ topic.gambits, id ∈ graph.gambits := by
    intro topic member id listed
    obtain ⟨name, found⟩ := mem_values_iff.mp member
    obtain ⟨gambit, known, _⟩ := wf.listed_home name id ⟨topic, found, listed⟩
    exact mem_iff_lookup.mpr ⟨gambit, known⟩
  have gambits : ∀ gambit ∈ graph.gambits.values, ∀ id ∈ gambit.references,
      id ∈ graph.replies := by
    intro gambit member id referred
    obtain ⟨owner, found⟩ := mem_values_iff.mp member
    simp only [Gambit.references, List.mem_append] at referred
    rcases referred with owned | follows
    · exact wf.owned_known owner id ⟨gambit, found, owned⟩
    · cases conversation : gambit.conversation with
      | none => simp [conversation] at follows
      | some c =>
        simp only [conversation, Option.map_some, Option.getD_some] at follows
        exact (wf.resolved owner gambit found c conversation).2 id follows
  simp only [isClosed, Bool.and_eq_true, List.all_eq_true]
  exact ⟨topics, gambits⟩

/- Revising. -/

/-- What a successful revision leaves: the topics and the replies as they were, and under every
gambit's key what the change made of it. -/
theorem revise_spec {graph revised : Graph} {diagnostics : List Diagnostic}
    {change : Gambit → Except ε (Gambit × List Diagnostic)}
    (ok : graph.revise change = .ok (revised, diagnostics)) :
    revised.topics = graph.topics ∧ revised.replies = graph.replies ∧
      (∀ (id : Identifier) gambit, graph.gambits[id]? = some gambit →
        ∃ told after, change gambit = .ok (after, told) ∧ revised.gambits[id]? = some after) ∧
      ∀ id : Identifier, graph.gambits[id]? = none → revised.gambits[id]? = none := by
  simp only [revise] at ok
  split at ok
  · simp at ok
  · rename_i smooth
    simp only [Except.ok.injEq, Prod.mk.injEq] at ok
    obtain ⟨rfl, _⟩ := ok
    refine ⟨rfl, rfl, ?_, ?_⟩
    · intro id gambit found
      have outcome : (graph.gambits.map fun _ gambit => change gambit)[id]? =
          some (change gambit) := by
        rw [ExtTreeMap.getElem?_map, found]
        rfl
      have noFailure := List.findSome?_eq_none_iff.mp smooth _ (mem_values_iff.mpr ⟨id, outcome⟩)
      cases changed : change gambit with
      | error fault => simp [changed, failure?] at noFailure
      | ok result =>
        refine ⟨result.2, result.1, rfl, ?_⟩
        simp [found, changed, Except.toOption]
    · intro id missing
      simp [missing]

theorem revise_told {graph revised : Graph} {diagnostics : List Diagnostic}
    {change : Gambit → Except ε (Gambit × List Diagnostic)}
    (ok : graph.revise change = .ok (revised, diagnostics)) {diagnostic : Diagnostic}
    (told : diagnostic ∈ diagnostics) :
    ∃ gambit after more, change gambit = .ok (after, more) ∧ diagnostic ∈ more := by
  simp only [revise] at ok
  split at ok
  · simp at ok
  · simp only [Except.ok.injEq, Prod.mk.injEq] at ok
    rw [← ok.2, List.mem_flatMap] at told
    obtain ⟨outcome, made, told⟩ := told
    obtain ⟨id, found⟩ := mem_values_iff.mp made
    rw [ExtTreeMap.getElem?_map, Option.map_eq_some_iff] at found
    obtain ⟨gambit, _, rfl⟩ := found
    cases changed : change gambit with
    | error fault => simp [changed, Except.toOption] at told
    | ok result =>
      refine ⟨gambit, result.1, result.2, changed, ?_⟩
      simpa [changed, Except.toOption] using told

theorem revised_from {graph revised : Graph} {diagnostics : List Diagnostic}
    {change : Gambit → Except ε (Gambit × List Diagnostic)}
    (ok : graph.revise change = .ok (revised, diagnostics)) {id : Identifier} {after : Gambit}
    (found : revised.gambits[id]? = some after) :
    ∃ gambit told, graph.gambits[id]? = some gambit ∧ change gambit = .ok (after, told) := by
  obtain ⟨_, _, forth, back⟩ := revise_spec ok
  cases before : graph.gambits[id]? with
  | none => simp [back id before] at found
  | some gambit =>
    obtain ⟨told, other, changed, stored⟩ := forth id gambit before
    rw [stored, Option.some.injEq] at found
    subst found
    exact ⟨gambit, told, rfl, changed⟩

theorem revised_mem_iff {graph revised : Graph} {diagnostics : List Diagnostic}
    {change : Gambit → Except ε (Gambit × List Diagnostic)}
    (ok : graph.revise change = .ok (revised, diagnostics)) (id : Identifier) :
    id ∈ revised.gambits ↔ id ∈ graph.gambits := by
  simp only [mem_iff_lookup]
  constructor
  · rintro ⟨after, found⟩
    obtain ⟨gambit, _, before, _⟩ := revised_from ok found
    exact ⟨gambit, before⟩
  · rintro ⟨gambit, before⟩
    obtain ⟨_, after, _, stored⟩ := (revise_spec ok).2.2.1 id gambit before
    exact ⟨after, stored⟩

/-- A change that leaves a gambit its identifier, its topic and its replies. -/
def KeepsOutline (change : Gambit → Except ε (Gambit × List Diagnostic)) : Prop :=
  ∀ gambit after told, change gambit = .ok (after, told) →
    after.id = gambit.id ∧ after.topic = gambit.topic ∧ after.replies = gambit.replies

theorem revise_keeps_well_formed {graph revised : Graph} {diagnostics : List Diagnostic}
    {change : Gambit → Except ε (Gambit × List Diagnostic)} (wf : graph.WellFormed)
    (ok : graph.revise change = .ok (revised, diagnostics)) (keeps : KeepsOutline change)
    (resolves : ∀ (id : Identifier) gambit after told, graph.gambits[id]? = some gambit →
      change gambit = .ok (after, told) → graph.Resolved after) :
    revised.WellFormed := by
  obtain ⟨topics, replies, forth, _⟩ := revise_spec ok
  have lists : revised.Lists = graph.Lists := by simp only [funext_iff, Lists, topics, implies_true]
  have owns : ∀ owner id, revised.Owns owner id ↔ graph.Owns owner id := by
    intro owner id
    constructor
    · rintro ⟨after, found, member⟩
      obtain ⟨gambit, told, before, changed⟩ := revised_from ok found
      exact ⟨gambit, before, (keeps gambit after told changed).2.2 ▸ member⟩
    · rintro ⟨gambit, before, member⟩
      obtain ⟨told, after, changed, stored⟩ := forth owner gambit before
      exact ⟨after, stored, (keeps gambit after told changed).2.2.symm ▸ member⟩
  refine {
    topic_key := by rw [topics]; exact wf.topic_key
    gambit_key := ?_
    reply_key := by rw [replies]; exact wf.reply_key
    gambit_identifier := fun id member =>
      wf.gambit_identifier id ((revised_mem_iff ok id).mp member)
    reply_identifier := by rw [replies]; exact wf.reply_identifier
    apart := fun id member => by rw [replies]; exact wf.apart id ((revised_mem_iff ok id).mp member)
    listed := ?_
    listed_home := ?_
    listed_once := by rw [topics]; exact wf.listed_once
    owned := ?_
    owned_known := fun owner id owned => by
      rw [replies]; exact wf.owned_known owner id ((owns owner id).mp owned)
    owned_unique := fun owner other id first second =>
      wf.owned_unique owner other id ((owns owner id).mp first) ((owns other id).mp second)
    owned_once := ?_
    resolved := ?_ }
  · intro id after found
    obtain ⟨gambit, told, before, changed⟩ := revised_from ok found
    rw [(keeps gambit after told changed).1]
    exact wf.gambit_key id gambit before
  · intro id after found
    obtain ⟨gambit, told, before, changed⟩ := revised_from ok found
    rw [lists, (keeps gambit after told changed).2.1]
    exact wf.listed id gambit before
  · intro name id listed
    rw [lists] at listed
    obtain ⟨gambit, before, home⟩ := wf.listed_home name id listed
    obtain ⟨told, after, changed, stored⟩ := forth id gambit before
    exact ⟨after, stored, (keeps gambit after told changed).2.1.trans home⟩
  · intro id member
    rw [replies] at member
    obtain ⟨owner, owned⟩ := wf.owned id member
    exact ⟨owner, (owns owner id).mpr owned⟩
  · intro id after found
    obtain ⟨gambit, told, before, changed⟩ := revised_from ok found
    rw [(keeps gambit after told changed).2.2]
    exact wf.owned_once id gambit before
  · intro id after found
    obtain ⟨gambit, told, before, changed⟩ := revised_from ok found
    have resolved := resolves id gambit after told before changed
    simpa only [Resolved, replies] using resolved

end DialogueScript.Graph
