import DialogueScript.Proofs.Runs
import DialogueScript.Regex.Parser

/- The syntax of expressions, apart from anchors and sets. A text is related to the expression that
   it denotes: brackets pair, a repetition stands behind the one thing that it repeats, the bounds
   of a count are in order, a bar occurs in groups only, and no branch of a group is empty. The
   parser takes every such text for what it denotes. -/
namespace DialogueScript.Regex

def operators : List Char := "\\.+*?()|[]\x7b\x7d^$".toList

def isOperator (c : Char) : Bool := operators.contains c

theorem plain_of_test (test : Char → Bool) (apart : operators.all (!test ·) = true) {c : Char}
    (passes : test c = true) : isOperator c = false := by
  cases operator : isOperator c with
  | false => rfl
  | true =>
    have fails := List.all_eq_true.mp apart c (List.contains_iff_mem.mp operator)
    simp [passes] at fails

def sequence (items : List (Regex CharTest)) : Regex CharTest := items.foldr .seq .empty

inductive IsQuantifier : List Char → Counts → (eager : Bool) → Prop where
  | star : IsQuantifier ['*'] ⟨0, none⟩ true
  | lazyStar : IsQuantifier ['*', '?'] ⟨0, none⟩ false
  | plus : IsQuantifier ['+'] ⟨1, none⟩ true
  | optional : IsQuantifier ['?'] ⟨0, some 1⟩ true
  | exactly (n : Nat) : IsQuantifier ('{' :: (Nat.toDigits 10 n ++ ['}'])) ⟨n, some n⟩ true
  | between {least most : Nat} (ordered : least ≤ most) :
      IsQuantifier ('{' :: (Nat.toDigits 10 least ++ ',' :: Nat.toDigits 10 most ++ ['}']))
        ⟨least, some most⟩ true

def opening (captured : Bool) : List Char := if captured then ['('] else ['(', '?', ':']

mutual
inductive IsAtom : List Char → Regex CharTest → Prop where
  | literal {c : Char} (plain : isOperator c = false) : IsAtom [c] (.one (.literal c))
  | escaped {c : Char} (special : isMeta c = true) : IsAtom ['\\', c] (.one (.literal c))
  | notLineFeed : IsAtom ['.'] (.one .notLineFeed)
  | blank : IsAtom ['\\', 's'] (.one .blank)
  | notBlank : IsAtom ['\\', 'S'] (.one .notBlank)
  | group (captured : Bool) {body : List Char} {regex : Regex CharTest}
      (choice : IsChoice body regex) :
      IsAtom (opening captured ++ body ++ [')']) (.group captured regex)
inductive IsItem : List Char → Regex CharTest → Prop where
  | once {text : List Char} {regex : Regex CharTest} (atom : IsAtom text regex) : IsItem text regex
  | repeated {text suffix : List Char} {regex : Regex CharTest} {counts : Counts} {eager : Bool}
      (atom : IsAtom text regex) (quantifier : IsQuantifier suffix counts eager) :
      IsItem (text ++ suffix) (.repeated regex counts.least counts.most eager)
inductive IsSequence : List Char → List (Regex CharTest) → Prop where
  | nil : IsSequence [] []
  | cons {text rest : List Char} {regex : Regex CharTest} {items : List (Regex CharTest)}
      (item : IsItem text regex) (later : IsSequence rest items) :
      IsSequence (text ++ rest) (regex :: items)
inductive IsChoice : List Char → Regex CharTest → Prop where
  | branch {text : List Char} {items : List (Regex CharTest)} (branch : IsSequence text items)
      (nonempty : items ≠ []) : IsChoice text (sequence items)
  | either {left right : List Char} {first : Regex CharTest} {items : List (Regex CharTest)}
      (before : IsChoice left first) (branch : IsSequence right items) (nonempty : items ≠ []) :
      IsChoice (left ++ '|' :: right) (.alt first (sequence items))
end

/- Tokens. -/

theorem tokensAfter_eq (pending : Nat) (text : List Char) :
    tokensAfter? pending text = tokens? (text.drop pending) := by
  induction text generalizing pending with
  | nil => cases pending <;> rfl
  | cons c rest ih =>
    cases pending with
    | zero => rfl
    | succ pending => exact ih pending

/-- The tokens of a text in front of whatever may follow it. -/
def Tokenizes (follows : List Char → Prop) (text : List Char) (tokens : List Token) : Prop :=
  ∀ rest, follows rest → tokens? (text ++ rest) = (tokens? rest).map (tokens ++ ·)

/-- What stands here does not change the meaning of a repetition in front of it. -/
def EndsItem (rest : List Char) : Prop := rest.head? ≠ some '?'

theorem tokens_cons {c : Char} {rest : List Char} {token : Token} {taken : Nat}
    (step : readToken? c rest = some (token, taken)) :
    tokens? (c :: rest) = (tokens? (rest.drop taken)).map (token :: ·) := by
  rw [← tokensAfter_eq]
  simp only [tokens?, tokensAfter?, step, Option.bind_eq_bind, Option.bind_some]
  cases tokensAfter? taken rest <;> rfl

theorem tokenizes_one {follows : List Char → Prop} {c : Char} {taken : List Char} {token : Token}
    (step : ∀ rest, follows rest → readToken? c (taken ++ rest) = some (token, taken.length)) :
    Tokenizes follows (c :: taken) [token] := by
  intro rest allowed
  rw [List.cons_append, tokens_cons (step rest allowed), List.drop_left]
  rfl

theorem Tokenizes.append {between follows : List Char → Prop} {text more : List Char}
    {tokens others : List Token} (first : Tokenizes between text tokens)
    (second : Tokenizes follows more others)
    (fits : ∀ rest, follows rest → between (more ++ rest)) :
    Tokenizes follows (text ++ more) (tokens ++ others) := by
  intro rest allowed
  rw [List.append_assoc, first _ (fits rest allowed), second rest allowed, Option.map_map]
  congr 1
  funext later
  simp

theorem Tokenizes.restrict {follows : List Char → Prop} {text : List Char} {tokens : List Token}
    (anywhere : Tokenizes (fun _ => True) text tokens) : Tokenizes follows text tokens :=
  fun rest _ => anywhere rest trivial

theorem readToken_literal {c : Char} (plain : isOperator c = false) (rest : List Char) :
    readToken? c rest = some (.test (.literal c), 0) := by
  unfold readToken?
  split <;> first | exact absurd plain (by decide) | rfl

theorem readToken_escaped {c : Char} (special : isMeta c = true) (rest : List Char) :
    readToken? '\\' (c :: rest) = some (.test (.literal c), 1) := by
  have each : metaCharacters.all (fun other => other != 's' && other != 'S' && isEscapable other) =
      true := rfl
  have found := List.all_eq_true.mp each c (List.contains_iff_mem.mp special)
  simp only [Bool.and_eq_true, bne_iff_ne] at found
  simp [readToken?, found]

theorem readNumber_toDigits (n : Nat) : readNumber? (Nat.toDigits 10 n) = some n := by
  have digits : (Nat.toDigits 10 n).all Char.isDigit = true :=
    List.all_eq_true.mpr fun _ member => Nat.isDigit_of_mem_toDigits (by decide) (by decide) member
  have value := @Nat.ofDigitChars_ten_toDigits n
  rw [Nat.ofDigitChars_eq_foldl] at value
  simp only [readNumber?, digits, value]
  simp

theorem toDigits_without (mark : Char) (other : mark.isDigit = false) (n : Nat) :
    mark ∉ Nat.toDigits 10 n := by
  intro member
  simp [Nat.isDigit_of_mem_toDigits (by decide) (by decide) member] at other

theorem readCounts_exactly (n : Nat) : readCounts? (Nat.toDigits 10 n) = some ⟨n, some n⟩ := by
  have one := List.splitOn_eq_singleton (toDigits_without ',' (by decide) n)
  simp [readCounts?, one, readNumber_toDigits]

theorem readCounts_between {least most : Nat} (ordered : least ≤ most) :
    readCounts? (Nat.toDigits 10 least ++ ',' :: Nat.toDigits 10 most) =
      some ⟨least, some most⟩ := by
  have comma : ∀ n, ',' ∉ Nat.toDigits 10 n := toDigits_without _ (by decide)
  have two := List.splitOn_append_cons_self_of_not_mem (comma least) (Nat.toDigits 10 most)
  rw [List.splitOn_eq_singleton (comma most)] at two
  simp [readCounts?, two, readNumber_toDigits, ordered]

theorem readToken_counts {body : List Char} {counts : Counts} (inside : '}' ∉ body)
    (read : readCounts? body = some counts) {rest : List Char} (ends : EndsItem rest) :
    readToken? '{' (body ++ '}' :: rest) =
      some (.times counts.least counts.most true, body.length + 1) := by
  have ended : ¬ rest.head? = some '?' := ends
  simp [readToken?, (cut_at_mark inside rest).1, read, repetition, ended]

theorem quantifier_tokenizes {text : List Char} {counts : Counts} {eager : Bool}
    (quantifier : IsQuantifier text counts eager) :
    Tokenizes EndsItem text [.times counts.least counts.most eager] := by
  have brace : ∀ n, '}' ∉ Nat.toDigits 10 n := toDigits_without _ (by decide)
  cases quantifier with
  | star => exact tokenizes_one fun rest ends => by simp_all [readToken?, repetition, EndsItem]
  | lazyStar => exact tokenizes_one fun rest _ => by simp [readToken?, repetition]
  | plus => exact tokenizes_one fun rest ends => by simp_all [readToken?, repetition, EndsItem]
  | optional => exact tokenizes_one fun rest ends => by simp_all [readToken?, repetition, EndsItem]
  | exactly n =>
    refine tokenizes_one fun rest ends => ?_
    simpa using readToken_counts (brace n) (readCounts_exactly n) ends
  | @between least most ordered =>
    have inside : '}' ∉ Nat.toDigits 10 least ++ ',' :: Nat.toDigits 10 most := by
      simp [brace]
    refine tokenizes_one fun rest ends => ?_
    simpa [Nat.add_assoc] using readToken_counts inside (readCounts_between ordered) ends

theorem opening_tokenizes (captured : Bool) :
    Tokenizes EndsItem (opening captured) [.groupOpen captured] := by
  cases captured with
  | false => exact tokenizes_one fun rest _ => by simp [readToken?]
  | true =>
    refine tokenizes_one fun rest ends => ?_
    cases rest with
    | nil => rfl
    | cons c rest =>
      have other : c ≠ '?' := by simpa [EndsItem] using ends
      simp only [List.nil_append, List.length_nil]
      unfold readToken?
      simp [other]

theorem close_tokenizes : Tokenizes (fun _ => True) [')'] [.groupClose] :=
  tokenizes_one fun _ _ => rfl

theorem bar_tokenizes : Tokenizes (fun _ => True) ['|'] [.bar] := tokenizes_one fun _ _ => rfl

/- No repetition stands at the head of anything. -/

theorem IsAtom.starts {text : List Char} {regex : Regex CharTest} (atom : IsAtom text regex)
    (rest : List Char) : EndsItem (text ++ rest) := by
  cases atom with
  | literal plain =>
    rintro ⟨⟩
    exact absurd plain (by decide)
  | group captured _ => cases captured <;> simp [EndsItem, opening]
  | _ => simp [EndsItem]

theorem IsItem.starts {text : List Char} {regex : Regex CharTest} (item : IsItem text regex)
    (rest : List Char) : EndsItem (text ++ rest) := by
  cases item with
  | once atom => exact atom.starts rest
  | repeated atom _ =>
    rw [List.append_assoc]
    exact atom.starts _

theorem IsSequence.starts {text : List Char} {items : List (Regex CharTest)}
    (sequence : IsSequence text items) (nonempty : items ≠ []) (rest : List Char) :
    EndsItem (text ++ rest) := by
  cases sequence with
  | nil => exact absurd rfl nonempty
  | cons item _ =>
    rw [List.append_assoc]
    exact item.starts _

theorem IsSequence.keeps_end {text : List Char} {items : List (Regex CharTest)}
    (sequence : IsSequence text items) {rest : List Char} (ends : EndsItem rest) :
    EndsItem (text ++ rest) := by
  by_cases empty : items = []
  · subst empty
    cases sequence
    exact ends
  · exact sequence.starts empty rest

theorem IsChoice.starts {text : List Char} {regex : Regex CharTest} :
    IsChoice text regex → ∀ rest, EndsItem (text ++ rest)
  | .branch only nonempty, rest => only.starts nonempty rest
  | .either before _ _, rest => by
    rw [List.append_assoc]
    exact before.starts _

/- Parsing. -/

theorem branch_eq_sequence (level : Level) : level.branch = sequence level.items.reverse := by
  simp [Level.branch, sequence]

/-- The tokens add these items to whatever level they are met at. -/
def Pushes (tokens : List Token) (items : List (Regex CharTest)) : Prop :=
  ∀ level outer more, parseTokens? level outer (tokens ++ more) =
    parseTokens? { level with items := items.reverse ++ level.items } outer more

/-- The tokens turn a fresh level into one that stands for this expression. -/
def Fills (tokens : List Token) (regex : Regex CharTest) : Prop :=
  ∀ captured outer more, ∃ level : Level, level.captured = captured ∧ level.toRegex = regex ∧
    parseTokens? { captured } outer (tokens ++ more) = parseTokens? level outer more

theorem Pushes.append {tokens others : List Token} {items later : List (Regex CharTest)}
    (first : Pushes tokens items) (second : Pushes others later) :
    Pushes (tokens ++ others) (items ++ later) := by
  intro level outer more
  rw [List.append_assoc, first, second]
  simp

theorem test_pushes (test : CharTest) : Pushes [.test test] [.one test] := fun _ _ _ => rfl

theorem Pushes.repeat {tokens : List Token} {regex : Regex CharTest}
    (pushes : Pushes tokens [regex]) (least : Nat) (most : Option Nat) (eager : Bool) :
    Pushes (tokens ++ [.times least most eager]) [.repeated regex least most eager] := by
  intro level outer more
  rw [List.append_assoc, pushes]
  rfl

theorem Fills.group {tokens : List Token} {regex : Regex CharTest} (fills : Fills tokens regex)
    (captured : Bool) :
    Pushes ([.groupOpen captured] ++ tokens ++ [.groupClose]) [.group captured regex] := by
  intro level outer more
  obtain ⟨inner, sameCaptured, sameRegex, parses⟩ :=
    fills captured (level :: outer) (.groupClose :: more)
  simp only [List.append_assoc, List.cons_append, List.nil_append, parseTokens?]
  rw [parses, parseTokens?, sameCaptured, sameRegex]
  rfl

theorem Pushes.fills {tokens : List Token} {items : List (Regex CharTest)}
    (pushes : Pushes tokens items) : Fills tokens (sequence items) := by
  intro captured outer more
  refine ⟨{ captured, items := items.reverse }, rfl, ?_, ?_⟩
  · simp [Level.toRegex, branch_eq_sequence]
  · rw [pushes, List.append_nil]

theorem Fills.either {tokens others : List Token} {first : Regex CharTest}
    {items : List (Regex CharTest)} (fills : Fills tokens first) (pushes : Pushes others items) :
    Fills (tokens ++ [.bar] ++ others) (.alt first (sequence items)) := by
  intro captured outer more
  obtain ⟨left, sameCaptured, sameRegex, parses⟩ :=
    fills captured outer (.bar :: (others ++ more))
  refine ⟨{ captured, branches := some first, items := items.reverse }, rfl, ?_, ?_⟩
  · simp [Level.toRegex, branch_eq_sequence]
  · simp only [List.append_assoc, List.cons_append, List.nil_append]
    rw [parses, parseTokens?, pushes, sameRegex, ← sameCaptured, List.append_nil]

mutual
theorem IsAtom.parses {text : List Char} {regex : Regex CharTest} :
    IsAtom text regex → ∃ tokens, Tokenizes (fun _ => True) text tokens ∧ Pushes tokens [regex]
  | .literal plain => ⟨_, tokenizes_one fun _ _ => readToken_literal plain _, test_pushes _⟩
  | .escaped special => ⟨_, tokenizes_one fun _ _ => readToken_escaped special _, test_pushes _⟩
  | .notLineFeed => ⟨_, tokenizes_one fun _ _ => rfl, test_pushes _⟩
  | .blank => ⟨_, tokenizes_one fun _ _ => rfl, test_pushes _⟩
  | .notBlank => ⟨_, tokenizes_one fun _ _ => rfl, test_pushes _⟩
  | .group captured choice => by
    obtain ⟨tokens, tokenizes, fills⟩ := choice.parses
    have opened := (opening_tokenizes captured).append tokenizes fun rest _ => choice.starts rest
    exact ⟨_, opened.append close_tokenizes fun _ _ => by simp [EndsItem], fills.group captured⟩
theorem IsItem.parses {text : List Char} {regex : Regex CharTest} :
    IsItem text regex → ∃ tokens, Tokenizes EndsItem text tokens ∧ Pushes tokens [regex]
  | .once atom => by
    obtain ⟨tokens, tokenizes, pushes⟩ := atom.parses
    exact ⟨tokens, tokenizes.restrict, pushes⟩
  | .repeated atom quantifier => by
    obtain ⟨tokens, tokenizes, pushes⟩ := atom.parses
    exact ⟨_, tokenizes.append (quantifier_tokenizes quantifier) fun _ _ => trivial,
      pushes.repeat _ _ _⟩
theorem IsSequence.parses {text : List Char} {items : List (Regex CharTest)} :
    IsSequence text items → ∃ tokens, Tokenizes EndsItem text tokens ∧ Pushes tokens items
  | .nil => ⟨[], fun rest _ => by simp, fun _ _ _ => rfl⟩
  | .cons item later => by
    obtain ⟨tokens, tokenizes, pushes⟩ := item.parses
    obtain ⟨others, tokenizesLater, pushesLater⟩ := later.parses
    exact ⟨_, tokenizes.append tokenizesLater fun _ ends => later.keeps_end ends,
      pushes.append pushesLater⟩
theorem IsChoice.parses {text : List Char} {regex : Regex CharTest} :
    IsChoice text regex → ∃ tokens, Tokenizes EndsItem text tokens ∧ Fills tokens regex
  | .branch only _ => by
    obtain ⟨tokens, tokenizes, pushes⟩ := only.parses
    exact ⟨tokens, tokenizes, pushes.fills⟩
  | .either before last _ => by
    obtain ⟨tokens, tokenizes, fills⟩ := before.parses
    obtain ⟨others, tokenizesLater, pushes⟩ := last.parses
    have barred := tokenizes.append bar_tokenizes fun _ _ => by simp [EndsItem]
    have whole := barred.append tokenizesLater fun _ _ => trivial
    exact ⟨_, by simpa using whole, fills.either pushes⟩
end

def parse? (text : List Char) : Option (Regex CharTest) := (tokens? text).bind (parseTokens? {} [])

theorem build_of_parse {text : List Char} {regex : Regex CharTest}
    (parses : parse? text = some regex) :
    build text = if regex.fits then .ok regex else .error .tooLarge := by
  unfold parse? at parses
  simp [build, parses]

/-- An engine does with every expression of this syntax what the built-in one does. -/
def Engine.Standard (engine : Engine) : Prop :=
  ∀ text, (parse? text).isSome = true → engine text = Regex.engine text

theorem engine_standard : engine.Standard := fun _ _ => rfl

theorem Engine.Standard.of_parse {engine : Engine} {text : List Char} {regex : Regex CharTest}
    (standard : engine.Standard) (parses : parse? text = some regex) :
    engine text =
      if regex.fits then .ok regex.matchesIn else .error BuildFault.tooLarge.message := by
  rw [standard text (by rw [parses]; rfl), Regex.engine, build_of_parse parses]
  cases regex.fits <;> rfl

/- Writing. -/

theorem IsSequence.append {text rest : List Char} {items others : List (Regex CharTest)} :
    IsSequence text items → IsSequence rest others → IsSequence (text ++ rest) (items ++ others)
  | .nil, later => later
  | .cons item more, later => by
    rw [List.append_assoc]
    exact .cons item (more.append later)

theorem IsItem.alone {text : List Char} {regex : Regex CharTest} (item : IsItem text regex) :
    IsSequence text [regex] := by
  simpa using IsSequence.cons item .nil

def literals (text : List Char) : List (Regex CharTest) := text.map fun c => .one (.literal c)

theorem literals_isSequence {text : List Char} (plain : ∀ c ∈ text, isOperator c = false) :
    IsSequence text (literals text) := by
  induction text with
  | nil => exact .nil
  | cons c rest ih =>
    simp only [List.mem_cons, forall_eq_or_imp] at plain
    exact .cons (.once (.literal plain.1)) (ih plain.2)

theorem escape_isSequence (text : List Char) : IsSequence (escape text) (literals text) := by
  induction text with
  | nil => exact .nil
  | cons c rest ih =>
    simp only [escape, List.flatMap_cons] at ih ⊢
    refine .cons (.once ?_) ih
    cases special : isMeta c with
    | true => simpa [escapeChar, special] using IsAtom.escaped special
    | false =>
      have plain : isOperator c = false := plain_of_test (!isMeta ·) rfl (by simp [special])
      simpa [escapeChar, special] using IsAtom.literal plain

theorem escape_intercalate {separator : Char} (plain : isMeta separator = false)
    (words : List (List Char)) :
    escape ([separator].intercalate words) = [separator].intercalate (words.map escape) := by
  induction words with
  | nil => rfl
  | cons word others ih =>
    cases others with
    | nil => simp
    | cons next others =>
      simp only [List.map_cons, List.intercalate_cons_cons] at ih ⊢
      rw [← ih]
      simp [escape, escapeChar, plain]

def choiceOf : List (List (Regex CharTest)) → Regex CharTest
  | [] => .empty
  | first :: others => others.foldl (fun left items => .alt left (sequence items)) (sequence first)

theorem intercalate_cons (separator : Char) (text : List Char) (others : List (List Char)) :
    [separator].intercalate (text :: others) = text ++ others.flatMap (separator :: ·) := by
  induction others generalizing text with
  | nil => simp
  | cons next others ih =>
    rw [List.intercalate_cons_cons, ih]
    simp

section Branches

variable {α : Type} (text : α → List Char) (items : α → List (Regex CharTest))

theorem more_branches {left : List Char} {first : Regex CharTest} (before : IsChoice left first)
    {others : List α}
    (each : ∀ item ∈ others, IsSequence (text item) (items item) ∧ items item ≠ []) :
    IsChoice (left ++ (others.map text).flatMap ('|' :: ·))
      ((others.map items).foldl (fun left items => .alt left (sequence items)) first) := by
  induction others generalizing left first with
  | nil => simpa using before
  | cons next others ih =>
    simp only [List.mem_cons, forall_eq_or_imp] at each
    have whole := ih (.either before each.1.1 each.1.2) each.2
    simpa using whole

theorem choiceOf_isChoice {branches : List α} (some : branches ≠ [])
    (each : ∀ item ∈ branches, IsSequence (text item) (items item) ∧ items item ≠ []) :
    IsChoice (['|'].intercalate (branches.map text)) (choiceOf (branches.map items)) := by
  cases branches with
  | nil => exact absurd rfl some
  | cons first others =>
    simp only [List.mem_cons, forall_eq_or_imp] at each
    rw [List.map_cons, List.map_cons, intercalate_cons, choiceOf]
    exact more_branches text items (.branch each.1.1 each.1.2) each.2

end Branches

end DialogueScript.Regex
