import DialogueScript.Proofs.PatternExpressions
import Mathlib.Computability.Language

/- What an expression matches, as a language. The matcher keeps sets of positions and stops its
   rounds when they change nothing. It finds a text exactly if the text is in the language. -/
namespace DialogueScript.Regex

def copies (language : Language Char) (least : Nat) (most : Option Nat) : Language Char :=
  {text | ∃ count, least ≤ count ∧ (∀ bound ∈ most, count ≤ bound) ∧ text ∈ language ^ count}

/-- The texts that an expression matches. Anchors are left to what stands around them. -/
def language : Regex CharTest → Language Char
  | .empty => 1
  | .one test => {text | ∃ c, text = [c] ∧ test.accepts c = true}
  | .atStart | .atEnd => 0
  | .seq first second => first.language * second.language
  | .alt left right => left.language + right.language
  | .repeated body least most _ => copies body.language least most
  | .group _ body => body.language

def isUnanchored : Regex CharTest → Bool
  | .empty | .one _ => true
  | .atStart | .atEnd => false
  | .seq first second => first.isUnanchored && second.isUnanchored
  | .alt left right => left.isUnanchored && right.isUnanchored
  | .repeated body _ _ _ => body.isUnanchored
  | .group _ body => body.isUnanchored

/-- A step on sets of positions of a text goes over the members of a language. A position is the
length of what stands before it. -/
def GoesOver (text : List Char) (step : Nat → Nat) (members : Language Char) : Prop :=
  ∀ (set : Nat) (before : List Char), before <+: text →
    ((step set).testBit before.length = true ↔
      ∃ start middle, start ++ middle = before ∧ set.testBit start.length = true ∧
        middle ∈ members)

theorem positions_testBit (test : CharTest) (text : List Char) (index : Nat) :
    (test.positions text).testBit index = text[index]?.any test.accepts := by
  induction text generalizing index with
  | nil => simp [CharTest.positions]
  | cons c rest ih =>
    cases index with
    | zero =>
      simp only [CharTest.positions, Nat.testBit_zero, List.getElem?_cons_zero, Option.any_some]
      cases test.accepts c <;> simp
    | succ index =>
      have half : (2 * test.positions rest + (test.accepts c).toNat) / 2 = test.positions rest := by
        have small := Bool.toNat_le (test.accepts c)
        omega
      rw [CharTest.positions, Nat.testBit_succ, half, ih, List.getElem?_cons_succ]

section Steps

variable {text : List Char} {step next : Nat → Nat} {members others : Language Char}

theorem GoesOver.nothing : GoesOver text id 1 := by
  intro set before _
  constructor
  · intro here
    exact ⟨before, [], List.append_nil before, here, rfl⟩
  · rintro ⟨start, middle, rfl, here, empty⟩
    rw [(Language.mem_one middle).mp empty, List.append_nil]
    exact here

theorem GoesOver.one (test : CharTest) :
    GoesOver text (fun set => (set &&& test.positions text) <<< 1) (language (.one test)) := by
  intro set before within
  rw [Nat.testBit_shiftLeft, Nat.testBit_and, positions_testBit]
  rcases List.eq_nil_or_concat' before with rfl | ⟨start, c, rfl⟩
  · constructor
    · simp
    · rintro ⟨start, middle, nothing, _, c, rfl, _⟩
      simp at nothing
  · have found : text[start.length]? = some c := by
      obtain ⟨rest, rfl⟩ := within
      simp
    simp only [List.length_append, List.length_singleton, Nat.le_add_left, decide_true,
      Nat.add_sub_cancel, found, Option.any_some, Bool.true_and, Bool.and_eq_true]
    constructor
    · rintro ⟨here, accepted⟩
      exact ⟨start, [c], rfl, here, c, rfl, accepted⟩
    · rintro ⟨other, _, same, here, d, rfl, accepted⟩
      obtain ⟨rfl, rfl⟩ := List.append_singleton_inj.mp same
      exact ⟨here, accepted⟩

theorem GoesOver.seq (first : GoesOver text step members) (second : GoesOver text next others) :
    GoesOver text (fun set => next (step set)) (members * others) := by
  intro set before within
  rw [second (step set) before within]
  constructor
  · rintro ⟨start, right, rfl, here, matched⟩
    obtain ⟨start, left, rfl, from_here, matches_left⟩ :=
      (first set start ((List.prefix_append _ _).trans within)).mp here
    exact ⟨start, left ++ right, by rw [List.append_assoc], from_here,
      Language.append_mem_mul matches_left matched⟩
  · rintro ⟨start, middle, rfl, here, matched⟩
    obtain ⟨left, matches_left, right, matches_right, rfl⟩ := Language.mem_mul.mp matched
    rw [← List.append_assoc] at within ⊢
    have between := (first set (start ++ left) ((List.prefix_append _ _).trans within)).mpr
      ⟨start, left, rfl, here, matches_left⟩
    exact ⟨start ++ left, right, rfl, between, matches_right⟩

theorem GoesOver.either (first : GoesOver text step members) (second : GoesOver text next others) :
    GoesOver text (fun set => step set ||| next set) (members + others) := by
  intro set before within
  rw [Nat.testBit_or, Bool.or_eq_true, first set before within, second set before within]
  constructor
  · rintro (⟨start, middle, whole, here, matched⟩ | ⟨start, middle, whole, here, matched⟩)
    · exact ⟨start, middle, whole, here, .inl matched⟩
    · exact ⟨start, middle, whole, here, .inr matched⟩
  · rintro ⟨start, middle, whole, here, matched | matched⟩
    · exact .inl ⟨start, middle, whole, here, matched⟩
    · exact .inr ⟨start, middle, whole, here, matched⟩

theorem walk_of_fixed {set : Nat} (fixed : step set = set) (steps : Nat) :
    walk step steps set = set := by
  cases steps with
  | zero => rfl
  | succ steps => simp [walk, fixed]

theorem walk_succ (step : Nat → Nat) (steps set : Nat) :
    walk step (steps + 1) set = walk step steps (step set) := by
  simp only [walk]
  split
  · rename_i fixed
    rw [fixed, walk_of_fixed fixed]
  · rfl

theorem GoesOver.walk (body : GoesOver text step members) (count : Nat) :
    GoesOver text (Regex.walk step count) (members ^ count) := by
  induction count with
  | zero => exact GoesOver.nothing
  | succ count ih =>
    have steps : Regex.walk step (count + 1) = fun set => Regex.walk step count (step set) :=
      funext (walk_succ step count)
    rw [steps, pow_succ']
    exact body.seq ih

theorem reach_of_closed {set : Nat} (closed : set ||| step set = set) (rounds : Nat) :
    reach step rounds set = set := by
  cases rounds with
  | zero => rfl
  | succ rounds => simp [reach, closed]

theorem reach_succ (step : Nat → Nat) (rounds set : Nat) :
    reach step (rounds + 1) set = reach step rounds (set ||| step set) := by
  simp only [reach]
  split
  · rename_i closed
    rw [closed, reach_of_closed closed]
  · rfl

theorem GoesOver.reach (body : GoesOver text step members) (rounds : Nat) :
    GoesOver text (Regex.reach step rounds) ((1 + members) ^ rounds) := by
  induction rounds with
  | zero => exact GoesOver.nothing
  | succ rounds ih =>
    have wider : Regex.reach step (rounds + 1) =
        fun set => Regex.reach step rounds (id set ||| step set) :=
      funext (reach_succ step rounds)
    rw [wider, pow_succ']
    exact (GoesOver.nothing.either body).seq ih

theorem GoesOver.congr (body : GoesOver text step members)
    (same : ∀ middle : List Char, middle.length ≤ text.length →
      (middle ∈ members ↔ middle ∈ others)) : GoesOver text step others := by
  intro set before within
  rw [body set before within]
  apply exists_congr
  intro start
  apply exists_congr
  intro middle
  apply and_congr_right
  rintro rfl
  apply and_congr_right
  intro _
  apply same
  have short := within.length_le
  rw [List.length_append] at short
  omega

end Steps

section Powers

variable {members : Language Char} {text : List Char}

theorem mem_pow_add {first second : Nat} : text ∈ members ^ (first + second) ↔
    ∃ left ∈ members ^ first, ∃ right ∈ members ^ second, left ++ right = text := by
  rw [pow_add, Language.mem_mul]

theorem mem_upTo {rounds : Nat} :
    text ∈ (1 + members) ^ rounds ↔ ∃ count ≤ rounds, text ∈ members ^ count := by
  induction rounds generalizing text with
  | zero => simp
  | succ rounds ih =>
    rw [pow_succ', Language.mem_mul]
    constructor
    · rintro ⟨first, empty | member, rest, others, rfl⟩
      · obtain ⟨count, few, matched⟩ := ih.mp others
        rw [(Language.mem_one first).mp empty]
        exact ⟨count, by omega, matched⟩
      · obtain ⟨count, few, matched⟩ := ih.mp others
        refine ⟨count + 1, by omega, ?_⟩
        rw [pow_succ']
        exact Language.append_mem_mul member matched
    · rintro ⟨count, few, matched⟩
      cases count with
      | zero => exact ⟨[], .inl rfl, text, ih.mpr ⟨0, by omega, matched⟩, rfl⟩
      | succ count =>
        rw [pow_succ', Language.mem_mul] at matched
        obtain ⟨first, member, rest, others, rfl⟩ := matched
        exact ⟨first, .inr member, rest, ih.mpr ⟨count, by omega, others⟩, rfl⟩

/-- Copies that are empty can be left out, and there are no more others than characters. -/
theorem few_copies {count : Nat} (matched : text ∈ members ^ count) :
    ∃ few ≤ text.length, text ∈ members ^ few := by
  obtain ⟨parts, rfl, _, each⟩ := Language.mem_pow.mp matched
  induction parts generalizing count with
  | nil => exact ⟨0, Nat.zero_le _, rfl⟩
  | cons part parts ih =>
    simp only [List.forall_mem_cons] at each
    obtain ⟨few, bound, rest⟩ := ih (Language.mem_pow.mpr ⟨parts, rfl, rfl, each.2⟩) rfl each.2
    cases part with
    | nil => exact ⟨few, by simpa using bound, by simpa using rest⟩
    | cons c others =>
      rw [List.flatten_cons]
      refine ⟨few + 1, ?_, ?_⟩
      · rw [List.length_append, List.length_cons]
        omega
      · rw [pow_succ']
        exact Language.append_mem_mul each.1 rest

theorem mem_copies_least {least rounds : Nat} (enough : text.length ≤ rounds) :
    text ∈ members ^ least * (1 + members) ^ rounds ↔ text ∈ copies members least none := by
  rw [Language.mem_mul]
  constructor
  · rintro ⟨left, first, right, second, rfl⟩
    obtain ⟨count, _, matched⟩ := mem_upTo.mp second
    exact ⟨least + count, by omega, by simp, mem_pow_add.mpr ⟨left, first, right, matched, rfl⟩⟩
  · rintro ⟨count, bound, _, matched⟩
    obtain ⟨more, rfl⟩ := Nat.exists_eq_add_of_le bound
    obtain ⟨left, first, right, second, rfl⟩ := mem_pow_add.mp matched
    obtain ⟨few, short, again⟩ := few_copies second
    rw [List.length_append] at enough
    exact ⟨left, first, right, mem_upTo.mpr ⟨few, by omega, again⟩, rfl⟩

theorem mem_copies_most {least most : Nat} (ordered : least ≤ most) :
    text ∈ members ^ least * (1 + members) ^ (most - least) ↔
      text ∈ copies members least (some most) := by
  rw [Language.mem_mul]
  constructor
  · rintro ⟨left, first, right, second, rfl⟩
    obtain ⟨count, few, matched⟩ := mem_upTo.mp second
    refine ⟨least + count, by omega, ?_, mem_pow_add.mpr ⟨left, first, right, matched, rfl⟩⟩
    intro bound given
    cases given
    omega
  · rintro ⟨count, bound, limit, matched⟩
    have below := limit most rfl
    obtain ⟨more, rfl⟩ := Nat.exists_eq_add_of_le bound
    obtain ⟨left, first, right, second, rfl⟩ := mem_pow_add.mp matched
    exact ⟨left, first, right, mem_upTo.mpr ⟨more, by omega, second⟩, rfl⟩

end Powers

/-- The matcher goes over the language of an expression. -/
theorem advance_goesOver (text : List Char) {regex : Regex CharTest}
    (unanchored : regex.isUnanchored = true) :
    GoesOver text (advance text.length (regex.map (CharTest.positions · text)))
      regex.language := by
  induction regex with
  | empty => exact GoesOver.nothing
  | one test => exact GoesOver.one test
  | atStart => cases unanchored
  | atEnd => cases unanchored
  | seq first second left right =>
    simp only [isUnanchored, Bool.and_eq_true] at unanchored
    exact (left unanchored.1).seq (right unanchored.2)
  | alt first second left right =>
    simp only [isUnanchored, Bool.and_eq_true] at unanchored
    exact (left unanchored.1).either (right unanchored.2)
  | repeated body least most eager ih =>
    have required := (ih unanchored).walk least
    cases most with
    | none =>
      apply (required.seq ((ih unanchored).reach (text.length + 1))).congr
      intro middle short
      exact mem_copies_least (by omega)
    | some most =>
      by_cases ordered : least ≤ most
      · have rest := required.seq ((ih unanchored).reach (most - least))
        have same : advance text.length
            ((Regex.repeated body least (some most) eager).map (CharTest.positions · text)) =
            fun set => Regex.reach (advance text.length (body.map (CharTest.positions · text)))
              (most - least) (Regex.walk (advance text.length
                (body.map (CharTest.positions · text))) least set) := by
          funext set
          simp only [Regex.map, advance, ordered, ↓reduceIte]
        rw [same]
        exact rest.congr fun _ _ => mem_copies_most ordered
      · intro set before _
        simp only [Regex.map, advance, ordered, ↓reduceIte, Nat.zero_testBit, Bool.false_eq_true,
          false_iff]
        rintro ⟨_, _, _, _, count, bound, limit, _⟩
        have below := limit most rfl
        omega
  | group captured body ih => exact ih unanchored

theorem matchesWhole_iff {regex : Regex CharTest} (unanchored : regex.isUnanchored = true)
    (text : List Char) : regex.matchesWhole text = true ↔ text ∈ regex.language := by
  rw [matchesWhole, advance_goesOver text unanchored 1 text (List.prefix_refl text)]
  constructor
  · rintro ⟨start, middle, rfl, here, matched⟩
    have nothing : start = [] := by
      rw [Nat.testBit_one_eq_true_iff_self_eq_zero] at here
      exact List.length_eq_zero_iff.mp here
    rwa [nothing]
  · intro matched
    exact ⟨[], text, rfl, rfl, matched⟩

section Rows

theorem sequence_unanchored (items : List (Regex CharTest)) :
    (sequence items).isUnanchored = items.all isUnanchored := by
  induction items with
  | nil => rfl
  | cons item items ih => rw [List.all_cons, ← ih]; rfl

theorem language_append (items others : List (Regex CharTest)) :
    (sequence (items ++ others)).language =
      (sequence items).language * (sequence others).language := by
  induction items with
  | nil => exact (one_mul _).symm
  | cons item items ih =>
    change item.language * (sequence (items ++ others)).language = _
    rw [ih, ← mul_assoc]
    rfl

theorem language_single (item : Regex CharTest) : (sequence [item]).language = item.language :=
  mul_one item.language

theorem mem_literals {pattern text : List Char} :
    text ∈ (sequence (literals pattern)).language ↔
      List.Forall₂ (fun c d => Text.sameLetter c d = true) pattern text := by
  induction pattern generalizing text with
  | nil => exact (Language.mem_one text).trans List.forall₂_nil_left_iff.symm
  | cons c rest ih =>
    change text ∈ language (.one (.literal c)) * (sequence (literals rest)).language ↔ _
    rw [Language.mem_mul, List.forall₂_cons_left_iff]
    constructor
    · rintro ⟨_, ⟨d, rfl, same⟩, others, matched, rfl⟩
      exact ⟨d, others, same, ih.mp matched, rfl⟩
    · rintro ⟨d, others, same, matched, rfl⟩
      exact ⟨[d], ⟨d, rfl, same⟩, others, ih.mpr matched, rfl⟩

theorem mem_run {test : CharTest} {eager : Bool} {text : List Char} :
    text ∈ (Regex.repeated (.one test) 0 none eager).language ↔
      ∀ c ∈ text, test.accepts c = true := by
  constructor
  · rintro ⟨_, _, _, matched⟩
    obtain ⟨parts, rfl, _, each⟩ := Language.mem_pow.mp matched
    intro c member
    obtain ⟨part, listed, inside⟩ := List.mem_flatten.mp member
    obtain ⟨d, rfl, accepted⟩ := each part listed
    rwa [List.mem_singleton.mp inside]
  · intro accepted
    have single : text = (text.map fun c => [c]).flatten := by
      rw [← List.flatMap_def, List.flatMap_singleton']
    refine ⟨text.length, Nat.zero_le _, by simp, Language.mem_pow.mpr ?_⟩
    refine ⟨text.map fun c => [c], single, List.length_map _, ?_⟩
    intro part listed
    obtain ⟨c, member, rfl⟩ := List.mem_map.mp listed
    exact ⟨c, rfl, accepted c member⟩

theorem mem_some_run {test : CharTest} {eager : Bool} {text : List Char} :
    text ∈ (Regex.repeated (.one test) 1 none eager).language ↔
      text ≠ [] ∧ ∀ c ∈ text, test.accepts c = true := by
  constructor
  · rintro ⟨count, positive, _, matched⟩
    have inRun : text ∈ (Regex.repeated (.one test) 0 none eager).language :=
      ⟨count, Nat.zero_le count, by simp, matched⟩
    refine ⟨?_, mem_run.mp inRun⟩
    rintro rfl
    obtain ⟨more, rfl⟩ := Nat.exists_eq_add_of_le positive
    obtain ⟨_, first, _, _, nothing⟩ := mem_pow_add.mp matched
    rw [pow_one] at first
    obtain ⟨c, rfl, _⟩ := first
    cases nothing
  · rintro ⟨nonempty, accepted⟩
    have inRun : text ∈ (Regex.repeated (.one test) 0 none eager).language := mem_run.mpr accepted
    obtain ⟨count, _, _, matched⟩ := inRun
    refine ⟨count, ?_, by simp, matched⟩
    rw [Nat.one_le_iff_ne_zero]
    rintro rfl
    exact nonempty matched

end Rows

section FullMatches

def fullMatch (expression text : List Char) : Bool :=
  (parse? expression).any (·.matchesWhole text)

mutual
theorem IsAtom.unanchored {text : List Char} {regex : Regex CharTest} :
    IsAtom text regex → regex.isUnanchored = true
  | .literal _ => rfl
  | .escaped _ => rfl
  | .notLineFeed => rfl
  | .blank => rfl
  | .notBlank => rfl
  | .group _ choice => choice.unanchored
theorem IsItem.unanchored {text : List Char} {regex : Regex CharTest} :
    IsItem text regex → regex.isUnanchored = true
  | .once atom => atom.unanchored
  | .repeated atom _ => atom.unanchored
theorem IsSequence.unanchored {text : List Char} {items : List (Regex CharTest)} :
    IsSequence text items → (sequence items).isUnanchored = true
  | .nil => rfl
  | .cons item later => (Bool.and_eq_true _ _).mpr ⟨item.unanchored, later.unanchored⟩
theorem IsChoice.unanchored {text : List Char} {regex : Regex CharTest} :
    IsChoice text regex → regex.isUnanchored = true
  | .branch only _ => only.unanchored
  | .either before last _ => (Bool.and_eq_true _ _).mpr ⟨before.unanchored, last.unanchored⟩
end

theorem IsSequence.parse_eq {text : List Char} {items : List (Regex CharTest)}
    (written : IsSequence text items) : parse? text = some (sequence items) := by
  obtain ⟨tokens, tokenizes, pushes⟩ := written.parses
  have read : tokens? (text ++ []) = some (tokens ++ []) := tokenizes [] (by simp [EndsItem])
  rw [List.append_nil] at read
  rw [parse?, read, Option.bind_some, pushes, parseTokens?, List.append_nil, Level.toRegex,
    branch_eq_sequence, List.reverse_reverse]
  rfl

theorem fullMatch_iff {expression text : List Char} {items : List (Regex CharTest)}
    (written : IsSequence expression items) :
    fullMatch expression text = true ↔ text ∈ (sequence items).language := by
  rw [fullMatch, written.parse_eq, Option.any_some, matchesWhole_iff written.unanchored]

end FullMatches

end DialogueScript.Regex
