import DialogueScript.Pattern.Reader
import DialogueScript.Text.CaseFold
import DialogueScript.Proofs.TextCuts
import Mathlib.Data.List.Forall2

/- Characters without letter case. Blanks and sentence marks are the same letter as nothing but
   themselves, so a text that is matched in disregard of case has them where the pattern has. -/
namespace DialogueScript.Text

/-- No table of letter case mentions a code point. -/
def isCaseless (code : Nat) : Bool :=
  code != 0 && foldExceptions.all (fun entry => entry.1 != code && entry.2 != code) &&
    lowercaseRuns.all fun run =>
      (code < run.first || run.last < code) &&
        (code < run.target || run.target + (run.last - run.first) < code)

theorem lowercaseCode_cases (code : Nat) (runs : List CaseRun) :
    lowercaseCode code runs = code ∨ ∃ run ∈ runs, run.holds code = true ∧
      lowercaseCode code runs = code - run.first + run.target := by
  induction runs with
  | nil => exact .inl rfl
  | cons run rest ih =>
    rw [lowercaseCode]
    split
    · exact .inl rfl
    · split
      · rename_i holds
        exact .inr ⟨run, List.mem_cons_self, holds, rfl⟩
      · rcases ih with same | ⟨other, member, holds, moved⟩
        · exact .inl same
        · exact .inr ⟨other, List.mem_cons_of_mem _ member, holds, moved⟩

theorem toNat_ofNat_cases (code : Nat) :
    (Char.ofNat code).toNat = code ∨ (Char.ofNat code).toNat = 0 := by
  by_cases valid : code.isValidChar
  · left
    rw [Char.ofNat, dif_pos valid]
    rfl
  · right
    rw [Char.ofNat, dif_neg valid]
    rfl

section Caseless

variable {c d : Char}

theorem lowercase_of_caseless (caseless : isCaseless c.toNat = true) : lowercaseChar c = c := by
  simp only [isCaseless, Bool.and_eq_true, List.all_eq_true, bne_iff_ne, Bool.or_eq_true,
    decide_eq_true_eq] at caseless
  rcases lowercaseCode_cases c.toNat lowercaseRuns with same | ⟨run, member, holds, _⟩
  · rw [lowercaseChar, same, Char.ofNat_toNat]
  · simp only [CaseRun.holds, Bool.and_eq_true, decide_eq_true_eq] at holds
    have outside := (caseless.2 run member).1
    omega

theorem code_of_made {code : Nat} (caseless : isCaseless c.toNat = true)
    (made : Char.ofNat code = c) : code = c.toNat := by
  simp only [isCaseless, Bool.and_eq_true, bne_iff_ne] at caseless
  subst made
  rcases toNat_ofNat_cases code with same | zero
  · exact same.symm
  · exact absurd zero caseless.1.1

theorem caseless_of_lowercase (caseless : isCaseless c.toNat = true)
    (lowered : lowercaseChar d = c) : d = c := by
  rcases lowercaseCode_cases d.toNat lowercaseRuns with same | ⟨run, member, holds, moved⟩
  · rwa [lowercaseChar, same, Char.ofNat_toNat] at lowered
  · have target := code_of_made caseless lowered
    simp only [isCaseless, Bool.and_eq_true, List.all_eq_true, Bool.or_eq_true,
      decide_eq_true_eq] at caseless
    simp only [CaseRun.holds, Bool.and_eq_true, decide_eq_true_eq] at holds
    have outside := (caseless.2 run member).2
    omega

theorem fold_of_caseless (caseless : isCaseless c.toNat = true) : foldCase c = c := by
  have lower := lowercase_of_caseless caseless
  simp only [isCaseless, Bool.and_eq_true, List.all_eq_true, bne_iff_ne] at caseless
  have plain : foldExceptions.lookup c.toNat = none := by
    rw [List.lookup_eq_none_iff]
    intro entry member
    simpa using (caseless.1.2 entry member).1.symm
  simp only [foldCase, plain, lower, ite_self]

theorem caseless_of_fold (caseless : isCaseless c.toNat = true) (folded : foldCase d = c) :
    d = c := by
  unfold foldCase at folded
  cases found : foldExceptions.lookup d.toNat with
  | some code =>
    simp only [found] at folded
    have target := code_of_made caseless folded
    have entry : (d.toNat, code) ∈ foldExceptions := by
      obtain ⟨_, _, listed⟩ := List.lookup_eq_some_iff.mp found
      simp [listed.1]
    simp only [isCaseless, Bool.and_eq_true, List.all_eq_true, bne_iff_ne] at caseless
    exact absurd target (caseless.1.2 _ entry).2
  | none =>
    simp only [found] at folded
    split at folded
    · exact folded
    · exact caseless_of_lowercase caseless folded

end Caseless

theorem same_of_caseless {c d : Char} (caseless : isCaseless c.toNat = true) :
    sameLetter c d = true ↔ d = c := by
  rw [sameLetter, beq_iff_eq, fold_of_caseless caseless]
  constructor
  · intro folded
    exact caseless_of_fold caseless folded.symm
  · rintro rfl
    exact (fold_of_caseless caseless).symm

theorem separators_caseless :
    (blankCodes ++ "?!.,;:".toList.map Char.toNat).all isCaseless = true := by
  decide +kernel

theorem blank_caseless {c : Char} (blank : isBlank c = true) : isCaseless c.toNat = true := by
  apply List.all_eq_true.mp separators_caseless
  exact List.mem_append_left _ (code_of_blank blank)

theorem punctuation_caseless {c : Char} (mark : Pattern.isPunctuation c = true) :
    isCaseless c.toNat = true := by
  apply List.all_eq_true.mp separators_caseless
  apply List.mem_append_right
  exact List.mem_map_of_mem (by simpa [Pattern.isPunctuation] using mark)

/-- A test that passes only characters without letter case passes the same letter alike. -/
theorem same_letter_tested {test : Char → Bool}
    (caseless : ∀ c, test c = true → isCaseless c.toNat = true) {c d : Char}
    (same : sameLetter c d = true) : test c = test d := by
  have back : sameLetter d c = true := by
    rw [sameLetter, beq_iff_eq] at same ⊢
    exact same.symm
  cases first : test c with
  | true => rw [(same_of_caseless (caseless c first)).mp same, first]
  | false =>
    cases second : test d with
    | true => rw [(same_of_caseless (caseless d second)).mp back, second] at first; cases first
    | false => rfl

def SameLetters (text other : List Char) : Prop :=
  List.Forall₂ (fun c d => sameLetter c d = true) text other

theorem sameLetters_refl (text : List Char) : SameLetters text text := by
  apply List.forall₂_same.mpr
  intro c _
  exact beq_self_eq_true (foldCase c)

theorem sameLetters_append {first second text : List Char}
    (same : SameLetters (first ++ second) text) :
    ∃ front back, text = front ++ back ∧ SameLetters first front ∧ SameLetters second back := by
  induction first generalizing text with
  | nil => exact ⟨[], text, rfl, .nil, same⟩
  | cons c rest ih =>
    obtain ⟨d, others, letter, follows, rfl⟩ := List.forall₂_cons_left_iff.mp same
    obtain ⟨front, back, rfl, here, behind⟩ := ih follows
    exact ⟨d :: front, back, rfl, .cons letter here, behind⟩

end DialogueScript.Text
