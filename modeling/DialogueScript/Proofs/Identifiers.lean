import DialogueScript.Graph.Lowering

/- The identifiers that a numbering hands out: eight letters or digits each, and none of them in
   use. -/
namespace DialogueScript

def IsIdentifier (id : Identifier) : Prop :=
  id.toList.length = 8 ∧ ∀ c ∈ id.toList, c.isAlphanum = true

instance (id : Identifier) : Decidable (IsIdentifier id) :=
  inferInstanceAs (Decidable (_ ∧ _))

theorem identifier_char_is_alphanumeric (byte : UInt8) :
    (identifierChar byte).isAlphanum = true := by
  have alphabet_fits : alphabet.all Char.isAlphanum = true := rfl
  simp only [identifierChar, List.getD_eq_getElem?_getD]
  cases found : alphabet[byte.toNat % 62]? with
  | none => rfl
  | some c => exact List.all_eq_true.mp alphabet_fits c (List.mem_of_getElem? found)

theorem digest_length (message : List UInt8) : (Sha256.digest message).length = 32 := by
  simp [Sha256.digest, Sha256.bytesOf]

theorem numbered_is_identifier (seed : List UInt8) (counter : Nat) :
    IsIdentifier (identifierAt seed counter) := by
  constructor
  · simp [identifierAt, digest_length, identifierLength]
  · intro c member
    simp only [identifierAt, String.toList_ofList, List.mem_map] at member
    obtain ⟨byte, _, rfl⟩ := member
    exact identifier_char_is_alphanumeric byte

/-- A search ends at a term of the sequence that is not taken, and does not change the seed. -/
theorem search_finds_untaken {numbering next : Numbering} {taken : Identifier → Bool}
    {tries : Nat} {id : Identifier} (found : numbering.search taken tries = some (id, next)) :
    taken id = false ∧ IsIdentifier id := by
  induction tries generalizing numbering with
  | zero => simp [Numbering.search] at found
  | succ tries ih =>
    simp only [Numbering.search] at found
    split at found
    · exact ih found
    · rename_i free
      simp only [Option.some.injEq, Prod.mk.injEq] at found
      rw [← found.1]
      exact ⟨by simpa using free, numbered_is_identifier _ _⟩

namespace Graph

theorem uses_eq_false_iff {graph : Graph} {id : Identifier} :
    graph.uses id = false ↔ id ∉ graph.gambits ∧ id ∉ graph.replies := by
  simp [uses, ← Std.ExtTreeMap.contains_iff_mem]

theorem Draft.fresh_spec {draft next : Draft} {id : Identifier}
    (fresh : draft.fresh? = some (id, next)) :
    IsIdentifier id ∧ id ∉ draft.graph.gambits ∧ id ∉ draft.graph.replies ∧
      next.graph = draft.graph ∧ next.diagnostics = draft.diagnostics := by
  simp only [Draft.fresh?, Option.map_eq_some_iff] at fresh
  obtain ⟨⟨other, numbering⟩, found, same⟩ := fresh
  simp only [Prod.mk.injEq] at same
  obtain ⟨rfl, rfl⟩ := same
  obtain ⟨untaken, shape⟩ := search_finds_untaken found
  obtain ⟨noGambit, noReply⟩ := uses_eq_false_iff.mp untaken
  exact ⟨shape, noGambit, noReply, rfl, rfl⟩

end Graph

end DialogueScript
