import DialogueScript.Proofs.Identifiers
import DialogueScript.Proofs.Tables

/- How many identifiers a script needs. A graph in the making uses exactly those terms of the
   sequence that its numbering has passed, each for one gambit or reply. So a script can be numbered
   if and only if its scope has as many different identifiers as the script has gambits and
   replies. -/
namespace DialogueScript
open Std

def Offers (scope : String) (count : Nat) : Prop :=
  ∃ ids : List Identifier, ids.Nodup ∧ ids.length = count ∧
    ∀ id ∈ ids, ∃ counter < counterLimit, identifierAt (Numbering.ofScope scope).seed counter = id

theorem Offers.fewer {scope : String} {count more : Nat} (offers : Offers scope more)
    (fewer : count ≤ more) : Offers scope count := by
  obtain ⟨ids, distinct, size, known⟩ := offers
  refine ⟨ids.take count, distinct.sublist (List.take_sublist count ids), ?_, ?_⟩
  · rw [List.length_take, size, Nat.min_eq_left fewer]
  · intro id member
    exact known id (List.mem_of_mem_take member)

def Script.itemCount (gambits : List Script.Gambit) : Nat :=
  gambits.length + (gambits.flatMap (·.replies)).length

theorem Script.itemCount_cons (gambit : Script.Gambit) (rest : List Script.Gambit) :
    itemCount (gambit :: rest) = gambit.replies.length + 1 + itemCount rest := by
  simp only [itemCount, List.length_cons, List.flatMap_cons, List.length_append]
  omega

theorem Script.itemCount_append (first second : List Script.Gambit) :
    itemCount (first ++ second) = itemCount first + itemCount second := by
  simp only [itemCount, List.length_append, List.flatMap_append]
  omega

theorem Script.itemCount_perm {first second : List Script.Gambit} (perm : first.Perm second) :
    itemCount first = itemCount second := by
  rw [itemCount, itemCount, perm.length_eq, (perm.flatMap_right _).length_eq]

section Searching

variable {numbering next : Numbering} {taken : Identifier → Bool} {tries : Nat}

/-- A search passes only terms that are taken. -/
theorem search_passes_taken {id : Identifier}
    (found : numbering.search taken tries = some (id, next)) :
    ∃ place, numbering.counter ≤ place ∧ place < numbering.counter + tries ∧
      id = identifierAt numbering.seed place ∧ next = { numbering with counter := place + 1 } ∧
      ∀ counter, numbering.counter ≤ counter → counter < place →
        taken (identifierAt numbering.seed counter) = true := by
  induction tries generalizing numbering with
  | zero => simp [Numbering.search] at found
  | succ tries ih =>
    simp only [Numbering.search] at found
    split at found
    · rename_i first
      obtain ⟨place, ahead, within, named, goes, passed⟩ := ih found
      simp only at ahead within named goes passed
      refine ⟨place, by omega, by omega, named, goes, ?_⟩
      intro counter start stop
      by_cases here : counter = numbering.counter
      · rw [here]
        exact first
      · exact passed counter (by omega) stop
    · simp only [Option.some.injEq, Prod.mk.injEq] at found
      refine ⟨numbering.counter, by omega, by omega, found.1.symm, found.2.symm, ?_⟩
      intro counter start stop
      omega

theorem failed_search (failed : numbering.search taken tries = none) {counter : Nat}
    (ahead : numbering.counter ≤ counter) (within : counter < numbering.counter + tries) :
    taken (identifierAt numbering.seed counter) = true := by
  induction tries generalizing numbering with
  | zero => omega
  | succ tries ih =>
    simp only [Numbering.search] at failed
    split at failed
    · rename_i first
      by_cases here : counter = numbering.counter
      · rw [here]
        exact first
      · have later := ih failed (by simp only; omega) (by simp only; omega)
        exact later
    · cases failed

end Searching

namespace Graph

def identifiers (graph : Graph) : List Identifier := graph.gambits.keys ++ graph.replies.keys

theorem mem_identifiers {graph : Graph} {id : Identifier} :
    id ∈ graph.identifiers ↔ graph.uses id = true := by
  simp [identifiers, uses]

theorem keys_insert_perm {values : ExtTreeMap Identifier α} {id : Identifier}
    (fresh : id ∉ values) (value : α) : (values.insert id value).keys.Perm (id :: values.keys) := by
  have new : id ∉ values.keys := by rwa [ExtTreeMap.mem_keys]
  rw [List.perm_ext_iff_of_nodup ExtTreeMap.nodup_keys
    (List.nodup_cons.mpr ⟨new, ExtTreeMap.nodup_keys⟩)]
  intro other
  rw [List.mem_cons, ExtTreeMap.mem_keys, ExtTreeMap.mem_keys, ExtTreeMap.mem_insert,
    Std.compare_eq_iff_eq, eq_comm]

namespace Draft

/-- So many identifiers are in use: one for each gambit and reply, and each term of the scope's
sequence that the numbering has passed. -/
structure Spent (draft : Draft) (scope : String) (count : Nat) : Prop where
  seed : draft.numbering.seed = (Numbering.ofScope scope).seed
  counter : draft.numbering.counter ≤ counterLimit
  distinct : draft.graph.identifiers.Nodup
  passed : ∀ id, id ∈ draft.graph.identifiers ↔
    ∃ counter < draft.numbering.counter, identifierAt draft.numbering.seed counter = id
  size : draft.graph.identifiers.length = count

variable {draft next : Draft} {scope : String} {count more : Nat}

theorem spent_at_start (scope : String) : Spent { numbering := .ofScope scope } scope 0 where
  seed := rfl
  counter := Nat.zero_le _
  distinct := List.nodup_nil
  passed id := by simp [mem_identifiers, uses, Numbering.ofScope]
  size := rfl

theorem Spent.offers (spent : draft.Spent scope count) : Offers scope count := by
  refine ⟨draft.graph.identifiers, spent.distinct, spent.size, ?_⟩
  intro id member
  obtain ⟨counter, passed, same⟩ := (spent.passed id).mp member
  rw [spent.seed] at same
  exact ⟨counter, Nat.lt_of_lt_of_le passed spent.counter, same⟩

/-- Where no identifier is left, all that the scope has are in use. -/
theorem Spent.exhausted (spent : draft.Spent scope count) (none : draft.fresh? = none) :
    ¬ Offers scope (count + 1) := by
  rintro ⟨ids, distinct, size, known⟩
  simp only [fresh?, Option.map_eq_none_iff, Numbering.next?] at none
  have within : ids ⊆ draft.graph.identifiers := by
    intro id member
    obtain ⟨counter, below, same⟩ := known id member
    rw [← spent.seed] at same
    -- A term behind the counter was used, and one ahead of it was tried in vain.
    by_cases passed : counter < draft.numbering.counter
    · exact (spent.passed id).mpr ⟨counter, passed, same⟩
    · rw [mem_identifiers, ← same]
      exact failed_search none (by omega) (by omega)
  have few := distinct.length_le_of_subset within
  rw [spent.size, size] at few
  omega

theorem Spent.store (spent : draft.Spent scope count) {id : Identifier}
    (fresh : draft.fresh? = some (id, next)) {graph : Graph}
    (stored : graph.identifiers.Perm (id :: next.graph.identifiers)) :
    Spent { next with graph } scope (count + 1) := by
  simp only [fresh?, Option.map_eq_some_iff] at fresh
  obtain ⟨⟨other, numbering⟩, found, same⟩ := fresh
  simp only [Prod.mk.injEq] at same
  obtain ⟨rfl, rfl⟩ := same
  have untaken := (search_finds_untaken found).1
  obtain ⟨place, ahead, within, named, goes, taken⟩ := search_passes_taken found
  have limit := spent.counter
  subst goes
  have new : other ∉ draft.graph.identifiers := by
    rw [mem_identifiers, untaken]
    decide
  refine ⟨spent.seed, ?_, stored.nodup_iff.mpr (List.nodup_cons.mpr ⟨new, spent.distinct⟩), ?_, ?_⟩
  · simp only
    omega
  · intro term
    rw [stored.mem_iff, List.mem_cons]
    constructor
    · rintro (rfl | used)
      · exact ⟨place, Nat.lt_succ_self place, named.symm⟩
      · obtain ⟨counter, passed, same⟩ := (spent.passed term).mp used
        exact ⟨counter, by simp only; omega, same⟩
    · rintro ⟨counter, passed, rfl⟩
      simp only at passed ⊢
      by_cases last : counter = place
      · exact .inl (by rw [last, named])
      · right
        by_cases early : counter < draft.numbering.counter
        · exact (spent.passed _).mpr ⟨counter, early, rfl⟩
        · exact mem_identifiers.mpr (taken counter (by omega) (by omega))
  · rw [stored.length_eq, List.length_cons, spent.size]

/-- What comes of steps after which so many identifiers are in use: a draft that uses them, or
nothing because the scope does not have so many. -/
inductive Spends (scope : String) (count : Nat) (draftOf : α → Draft) : Option α → Prop where
  | done (value : α) : (draftOf value).Spent scope count → Spends scope count draftOf (some value)
  | short : ¬ Offers scope count → Spends scope count draftOf none

theorem Spends.bind {first : α → Draft} {second : β → Draft} {step : Option α}
    {rest : α → Option β} (spends : Spends scope count first step) (fewer : count ≤ more)
    (continues : ∀ value, (first value).Spent scope count →
      Spends scope more second (rest value)) :
    Spends scope more second (step >>= rest) := by
  cases spends with
  | done value spent => exact continues value spent
  | short few => exact .short fun offers => few (offers.fewer fewer)

theorem Spends.ok_iff {draftOf : α → Draft} {step : Option α}
    (spends : Spends scope count draftOf step) : (∃ value, step = some value) ↔
      Offers scope count := by
  cases spends with
  | done value spent => exact ⟨fun _ => spent.offers, fun _ => ⟨value, rfl⟩⟩
  | short few => simp [few]

theorem addReply_spends (spent : draft.Spent scope count) (text : String) :
    Spends scope (count + 1) Prod.snd (draft.addReply? text) := by
  rw [addReply?]
  cases fresh : draft.fresh? with
  | none => exact .short (spent.exhausted fresh)
  | some result =>
    obtain ⟨_, _, noReply, same, _⟩ := fresh_spec fresh
    rw [← same] at noReply
    refine .done _ (spent.store fresh ?_)
    exact ((keys_insert_perm noReply _).append_left _).trans List.perm_middle

theorem addReplies_spends (spent : draft.Spent scope count) (texts : List String) :
    Spends scope (count + texts.length) Prod.snd (draft.addReplies? texts) := by
  induction texts generalizing draft count with
  | nil => exact .done _ spent
  | cons text rest ih =>
    rw [List.length_cons, Nat.add_comm rest.length, ← Nat.add_assoc]
    refine (addReply_spends spent text).bind (Nat.le_add_right _ _) ?_
    rintro ⟨id, next⟩ spentOne
    refine (ih spentOne).bind (Nat.le_refl _) ?_
    rintro ⟨ids, last⟩ spentAll
    exact .done _ spentAll

theorem addGambit_spends (spent : draft.Spent scope count) (home : String)
    (gambit : Script.Gambit) :
    Spends scope (count + (gambit.replies.length + 1)) Prod.snd (draft.addGambit? home gambit) := by
  rw [← Nat.add_assoc]
  refine (addReplies_spends spent gambit.replies).bind (Nat.le_add_right _ _) ?_
  rintro ⟨ids, next⟩ replied
  cases fresh : next.fresh? with
  | none =>
    simp only [fresh]
    exact .short (replied.exhausted fresh)
  | some result =>
    simp only [fresh]
    obtain ⟨_, noGambit, _, same, _⟩ := fresh_spec fresh
    rw [← same] at noGambit
    refine .done _ (replied.store fresh ?_)
    exact (keys_insert_perm noGambit _).append_right _

theorem addGambits_spends (spent : draft.Spent scope count) (home : String)
    (gambits : List Script.Gambit) :
    Spends scope (count + Script.itemCount gambits) Prod.snd
      (draft.addGambits? home gambits) := by
  induction gambits generalizing draft count with
  | nil => exact .done _ spent
  | cons gambit rest ih =>
    rw [Script.itemCount_cons, ← Nat.add_assoc]
    refine (addGambit_spends spent home gambit).bind (Nat.le_add_right _ _) ?_
    rintro ⟨id, next⟩ spentOne
    refine (ih spentOne).bind (Nat.le_refl _) ?_
    rintro ⟨ids, last⟩ spentAll
    exact .done _ spentAll

theorem Spent.enter (spent : draft.Spent scope count) (topic : Topic) :
    (draft.enter topic).Spent scope count := by
  rw [Draft.enter]
  split
  · exact ⟨spent.seed, spent.counter, spent.distinct, spent.passed, spent.size⟩
  · exact ⟨spent.seed, spent.counter, spent.distinct, spent.passed, spent.size⟩

theorem addTopics_spends (spent : draft.Spent scope count) (topics : List Script.Topic) :
    Spends scope (count + Script.itemCount (topics.flatMap (·.gambits))) id
      (draft.addTopics? topics) := by
  induction topics generalizing draft count with
  | nil => exact .done _ spent
  | cons topic rest ih =>
    rw [List.flatMap_cons, Script.itemCount_append, ← Nat.add_assoc]
    have entered : Spends scope (count + Script.itemCount topic.gambits) id
        (draft.addTopic? topic) := by
      refine (addGambits_spends spent topic.name topic.gambits).bind (Nat.le_refl _) ?_
      rintro ⟨ids, next⟩ numbered
      exact .done _ (numbered.enter _)
    exact entered.bind (Nat.le_add_right _ _) fun _ spentOne => ih spentOne

end Draft

/-- Topics can be numbered if and only if the scope has an identifier for each gambit and reply. -/
theorem numbered_iff_offered (scope : String) (topics : List Script.Topic) :
    (∃ draft, Draft.addTopics? { numbering := .ofScope scope } topics = some draft) ↔
      Offers scope (Script.itemCount (topics.flatMap (·.gambits))) := by
  have spends := Draft.addTopics_spends (Draft.spent_at_start scope) topics
  rw [Nat.zero_add] at spends
  exact spends.ok_iff

end Graph

end DialogueScript
