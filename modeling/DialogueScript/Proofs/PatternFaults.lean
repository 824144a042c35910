import DialogueScript.Proofs.LiteralConversations
import DialogueScript.Proofs.WrittenPatterns

/- Where the faults of a pattern lie. Patterns are read by characters, and faults are placed by
   bytes. Reading by bytes with cuts that can fail comes to the same, and no cut fails. A fault lies
   at a mark of the syntax, and what stands before it is a pattern, as no piece before the mark
   depends on the mark or on what follows it. -/
namespace DialogueScript.Pattern

section Bytes

variable {text front back : List Char} {place : Nat}

@[simp]
theorem bytes_append (front back : List Char) :
    bytes (front ++ back) = bytes front + bytes back := by
  simp [bytes]

/-- A text in two parts, if a character begins at this byte or the text ends there. -/
def cutAtByte? : Nat → List Char → Option (List Char × List Char)
  | 0, text => some ([], text)
  | _ + 1, [] => none
  | place + 1, c :: rest =>
    if c.utf8Size ≤ place + 1 then
      (cutAtByte? (place + 1 - c.utf8Size) rest).map (Prod.map (c :: ·) id)
    else none

theorem cutAtByte?_bytes (front back : List Char) :
    cutAtByte? (bytes front) (front ++ back) = some (front, back) := by
  induction front with
  | nil => rw [bytes_nil, List.nil_append, cutAtByte?]
  | cons c front ih =>
    have positive := c.utf8Size_pos
    obtain ⟨place, size⟩ := Nat.exists_eq_add_one_of_ne_zero
      (by rw [bytes_cons]; omega : bytes (c :: front) ≠ 0)
    rw [bytes_cons] at size
    rw [bytes_cons, List.cons_append, size, cutAtByte?, if_pos (by omega), ← size,
      Nat.add_sub_cancel_left, ih]
    rfl

theorem cutAtByte?_eq_some_iff :
    cutAtByte? place text = some (front, back) ↔ front ++ back = text ∧ bytes front = place := by
  constructor
  · intro cut
    induction text generalizing place front with
    | nil =>
      cases place with
      | zero => simp_all [cutAtByte?]
      | succ place => cases cut
    | cons c rest ih =>
      cases place with
      | zero =>
        simp only [cutAtByte?, Option.some.injEq, Prod.mk.injEq] at cut
        obtain ⟨rfl, rfl⟩ := cut
        exact ⟨rfl, rfl⟩
      | succ place =>
        simp only [cutAtByte?, Option.ite_none_right_eq_some, Option.map_eq_some_iff] at cut
        obtain ⟨fits, ⟨first, last⟩, earlier, same⟩ := cut
        simp only [Prod.map_apply, id_eq, Prod.mk.injEq] at same
        obtain ⟨rfl, rfl⟩ := same
        obtain ⟨rfl, size⟩ := ih earlier
        refine ⟨rfl, ?_⟩
        rw [bytes_cons]
        omega
  · rintro ⟨rfl, rfl⟩
    exact cutAtByte?_bytes front back

def slice? (text : List Char) (start stop : Nat) : Option (List Char) := do
  let (front, _) ← cutAtByte? stop text
  let (_, body) ← cutAtByte? start front
  return body

theorem slice?_eq_some_iff {start stop : Nat} {body : List Char} :
    slice? text start stop = some body ↔ ∃ before after, before ++ body ++ after = text ∧
      bytes before = start ∧ bytes (before ++ body) = stop := by
  simp only [slice?, Option.bind_eq_bind, Option.bind_eq_some_iff, Prod.exists,
    cutAtByte?_eq_some_iff, Option.pure_def, Option.some.injEq]
  constructor
  · rintro ⟨_, after, ⟨whole, size⟩, before, _, ⟨rfl, start⟩, rfl⟩
    exact ⟨before, after, whole, start, size⟩
  · rintro ⟨before, after, whole, start, size⟩
    exact ⟨_, after, ⟨whole, size⟩, before, _, ⟨rfl, start⟩, rfl⟩

def placed (offset : Nat) : List Char → List (Nat × Char)
  | [] => []
  | c :: rest => (offset, c) :: placed (offset + c.utf8Size) rest

@[simp]
theorem placed_characters (offset : Nat) (text : List Char) :
    (placed offset text).map Prod.snd = text := by
  induction text generalizing offset with
  | nil => rfl
  | cons c rest ih => rw [placed, List.map_cons, ih]

def findByte? (mark : Char) (characters : List (Nat × Char)) : Option Nat :=
  (characters.find? (·.2 == mark)).map Prod.fst

theorem findByte?_present {mark : Char} (inside : mark ∉ front) (offset : Nat) :
    findByte? mark (placed offset (front ++ mark :: back)) = some (offset + bytes front) := by
  induction front generalizing offset with
  | nil => simp [findByte?, placed]
  | cons c front ih =>
    rw [List.mem_cons, not_or] at inside
    have other : (c == mark) = false := by simpa using Ne.symm inside.1
    rw [bytes_cons, ← Nat.add_assoc, ← ih inside.2]
    simp [findByte?, placed, other]

theorem findByte?_absent {mark : Char} (absent : mark ∉ text) (offset : Nat) :
    findByte? mark (placed offset text) = none := by
  induction text generalizing offset with
  | nil => rfl
  | cons c rest ih =>
    rw [List.mem_cons, not_or] at absent
    have other : (c == mark) = false := by simpa using Ne.symm absent.1
    rw [← ih absent.2 (offset + c.utf8Size)]
    simp [findByte?, placed, other]

def countUntil (stop : Nat) (characters : List (Nat × Char)) : Nat :=
  (characters.takeWhile (·.1 ≤ stop)).length

theorem countUntil_placed (c : Char) (offset : Nat) :
    countUntil (offset + bytes front) (placed offset (front ++ c :: back)) = front.length + 1 := by
  induction front generalizing offset with
  | nil =>
    cases back with
    | nil => simp [countUntil, placed]
    | cons d back =>
      have positive := c.utf8Size_pos
      have beyond : ¬ offset + c.utf8Size ≤ offset := by omega
      simp only [countUntil, placed, bytes_nil, Nat.add_zero, List.nil_append, List.takeWhile_cons,
        Nat.le_refl, beyond, decide_true, decide_false, Bool.false_eq_true, ↓reduceIte,
        List.length_cons, List.length_nil]
  | cons d front ih =>
    rw [bytes_cons, ← Nat.add_assoc, List.length_cons, ← ih (offset + d.utf8Size)]
    have before : offset ≤ offset + d.utf8Size + bytes front := by omega
    simp [countUntil, placed, before]

end Bytes

/- Reading by bytes. -/

section Slices

def sliceGroup (text : List Char) (offset : Nat) (bracket close : Char)
    (make : List (List (List Char)) → Piece) (rest : List (Nat × Char)) :
    Option (Except Cause Reading) :=
  match findByte? close rest with
  | none => some (.error (.unterminatedGroup bracket))
  | some stop => do
    let body ← slice? text (offset + 1) stop
    let alternatives := readAlternatives body
    if alternatives.isEmpty then return .error .emptyGroup
    else return .ok ⟨some (make alternatives), countUntil stop rest⟩

def sliceRange (text : List Char) (offset : Nat) (rest : List (Nat × Char)) :
    Option (Except Cause Reading) := do
  let (_, behind) ← cutAtByte? (offset + 1) text
  match findByte? ')' (placed 0 behind) with
  | none => return .error .unterminatedRange
  | some stop =>
    let body ← slice? behind 1 stop
    match readRange? body with
    | none => return .ok ⟨some .anyText, 0⟩
    | some (least, most) =>
      if least ≤ most then
        return .ok ⟨some (.between least most), countUntil (offset + 1 + stop) rest⟩
      else return .error (.descendingRange body)

def slicePiece (text : List Char) (offset : Nat) (c : Char) (rest : List (Nat × Char)) :
    Option (Except Cause Reading) :=
  match c, rest with
  | '*', (_, '(') :: _ => sliceRange text offset rest
  | '(', _ => sliceGroup text offset '(' ')' .choice rest
  | '[', _ => sliceGroup text offset '[' ']' .optional rest
  | _, _ => some (readPiece c (rest.map Prod.snd))

/-- Reads on from a place in a text. Nothing comes of it if a cut fails. -/
def sliceFrom (text : List Char) :
    (pending : Nat) → List (Nat × Char) → Option (Except Fault (List Piece))
  | _, [] => some (.ok [])
  | pending + 1, _ :: rest => sliceFrom text pending rest
  | 0, (offset, c) :: rest => do
    match ← slicePiece text offset c rest with
    | .error cause => return .error ⟨cause, offset⟩
    | .ok reading =>
      match ← sliceFrom text reading.taken rest with
      | .error fault => return .error fault
      | .ok pieces => return .ok (reading.piece.toList ++ pieces)

variable {text before rest : List Char}

theorem takeWhile_without {close : Char} (absent : close ∉ rest) :
    rest.takeWhile (· != close) = rest :=
  List.takeWhile_eq_self_iff.mpr (other_than_mark absent)

theorem readGroup_unclosed {bracket close : Char} {make : List (List (List Char)) → Piece}
    (absent : close ∉ rest) :
    readGroup bracket close make rest = .error (.unterminatedGroup bracket) := by
  simp only [readGroup, takeWhile_without absent, ↓reduceIte]

theorem readWildcard_unclosed (absent : ')' ∉ rest) :
    readWildcard ('(' :: rest) = .error .unterminatedRange := by
  simp only [readWildcard, takeWhile_without absent, ↓reduceIte]

theorem sliceGroup_eq {bracket close : Char} {make : List (List (List Char)) → Piece}
    (whole : text = before ++ bracket :: rest) (narrow : bracket.utf8Size = 1) :
    sliceGroup text (bytes before) bracket close make (placed (bytes before + 1) rest) =
      some (readGroup bracket close make rest) := by
  by_cases closed : close ∈ rest
  · obtain ⟨body, after, rfl, inside⟩ := List.eq_append_cons_of_mem closed
    have cut : slice? text (bytes before + 1) (bytes before + 1 + bytes body) = some body := by
      rw [slice?_eq_some_iff]
      exact ⟨before ++ [bracket], close :: after, by simp [whole], by simp [narrow],
        by simp [narrow]; omega⟩
    simp only [sliceGroup, findByte?_present inside, cut, countUntil_placed,
      readGroup_to_close inside]
    split <;> simp_all
  · simp only [sliceGroup, findByte?_absent closed, readGroup_unclosed closed]

theorem sliceRange_eq (whole : text = before ++ '*' :: '(' :: rest) :
    sliceRange text (bytes before) (placed (bytes before + 1) ('(' :: rest)) =
      some (readWildcard ('(' :: rest)) := by
  have behind : cutAtByte? (bytes before + 1) text = some (before ++ ['*'], '(' :: rest) := by
    rw [cutAtByte?_eq_some_iff, whole, bytes_append]
    exact ⟨List.append_assoc _ _ _, rfl⟩
  by_cases closed : ')' ∈ rest
  · obtain ⟨body, after, rfl, inside⟩ := List.eq_append_cons_of_mem closed
    have found := @findByte?_present ('(' :: body) after ')' (by simpa using inside) 0
    have cut : slice? ('(' :: (body ++ ')' :: after)) 1 (0 + bytes ('(' :: body)) = some body := by
      rw [slice?_eq_some_iff]
      exact ⟨['('], ')' :: after, by simp, rfl, by simp⟩
    have taken := @countUntil_placed ('(' :: body) after ')' (bytes before + 1)
    rw [List.cons_append] at found taken
    rw [readWildcard_to_close inside, rangeReading]
    simp only [sliceRange, behind, Option.bind_eq_bind, Option.bind_some, found, cut]
    cases readRange? body with
    | none => rfl
    | some range =>
      simp only [Nat.zero_add, taken, List.length_cons]
      split <;> simp_all
  · have absent : ')' ∉ '(' :: rest := by simpa using closed
    simp only [sliceRange, behind, Option.bind_eq_bind, Option.bind_some, findByte?_absent absent,
      readWildcard_unclosed closed]
    rfl

theorem slicePiece_eq {c : Char} (whole : text = before ++ c :: rest) :
    slicePiece text (bytes before) c (placed (bytes before + c.utf8Size) rest) =
      some (readPiece c rest) := by
  unfold slicePiece
  split
  · rename_i place tail head
    cases rest with
    | nil => cases head
    | cons d rest =>
      rw [placed, List.cons.injEq, Prod.mk.injEq] at head
      obtain ⟨⟨_, rfl⟩, _⟩ := head
      exact sliceRange_eq whole
  · exact sliceGroup_eq whole rfl
  · exact sliceGroup_eq whole rfl
  · rw [placed_characters]

/-- No cut fails, and reading by bytes is reading by characters. -/
theorem sliceFrom_eq {pending : Nat} (whole : text = before ++ rest) :
    sliceFrom text pending (placed (bytes before) rest) =
      some (readFrom (bytes before) pending rest) := by
  induction rest generalizing before pending with
  | nil => rw [placed, sliceFrom, readFrom]
  | cons c rest ih =>
    have later : ∀ pending, sliceFrom text pending (placed (bytes before + c.utf8Size) rest) =
        some (readFrom (bytes before + c.utf8Size) pending rest) := by
      intro pending
      have next := @ih (before ++ [c]) pending (by simp [whole])
      simpa using next
    rw [placed]
    cases pending with
    | succ pending => exact later pending
    | zero =>
      rw [sliceFrom, readFrom, slicePiece_eq whole]
      cases readPiece c rest with
      | error cause => rfl
      | ok reading =>
        simp only [Option.bind_eq_bind, Option.bind_some, later reading.taken]
        cases readFrom (bytes before + c.utf8Size) reading.taken rest with
        | error fault => rfl
        | ok pieces => rfl

end Slices

/- What stands before a fault. -/

section Before

variable {c mark close : Char} {front after : List Char} {reading : Reading}

theorem isBoundary_eq (c : Char) : isBoundary c = (Text.isBlank c || isSyntax c) := rfl

set_option maxRecDepth 4000 in
theorem syntax_in_no_name (syntactic : isSyntax mark = true) :
    isNameCharacter mark = false ∧ mark.isDigit = false := by
  have each : ['*', '(', ')', '[', ']', '~', '|'].all
      (fun c => !isNameCharacter c && !c.isDigit) = true := rfl
  have listed := List.all_eq_true.mp each mark (by simpa [isSyntax] using syntactic)
  simpa using listed

theorem readPiece_refuses_syntax {rest : List Char} {cause : Cause}
    (refused : readPiece c rest = .error cause) : isSyntax c = true := by
  by_contra plain
  rw [Bool.not_eq_true] at plain
  cases blank : Text.isBlank c with
  | true =>
    rw [readPiece_blank blank] at refused
    cases refused
  | false =>
    have inside : isBoundary c = false := by rw [isBoundary_eq, blank, plain, Bool.or_false]
    rw [readPiece_word inside] at refused
    cases refused

theorem close_lies_behind {back body behind : List Char} (absent : close ∉ front)
    (whole : front ++ back = body ++ close :: behind) : front.length ≤ body.length := by
  rcases List.append_eq_append_iff.mp whole with ⟨more, rfl, _⟩ | ⟨more, rfl, rest⟩
  · simp
  · cases more with
    | nil => simp
    | cons d more =>
      rw [List.cons_append, List.cons.injEq] at rest
      simp [rest.1] at absent

theorem readGroup_before {bracket : Char} {make : List (List (List Char)) → Piece}
    (ok : readGroup bracket close make (front ++ after) = .ok reading)
    (room : reading.taken ≤ front.length) : readGroup bracket close make front = .ok reading := by
  by_cases closed : close ∈ front
  · obtain ⟨body, behind, rfl, inside⟩ := List.eq_append_cons_of_mem closed
    rw [List.append_assoc, List.cons_append, readGroup_to_close inside] at ok
    rw [readGroup_to_close inside, ok]
  · exfalso
    by_cases later : close ∈ front ++ after
    · obtain ⟨body, behind, whole, inside⟩ := List.eq_append_cons_of_mem later
      have long := close_lies_behind closed whole
      rw [whole, readGroup_to_close inside] at ok
      split at ok
      · cases ok
      · cases ok
        exact absurd room (by dsimp only; omega)
    · rw [readGroup_unclosed later] at ok
      cases ok

theorem star_alone {rest : List Char} (ok : readWildcard rest = .ok reading)
    (alone : reading.taken = 0) : reading = ⟨some .anyText, 0⟩ := by
  obtain ⟨taken, _, _, length, spells⟩ := readWildcard_spells ok
  obtain ⟨piece, count⟩ := reading
  obtain rfl : taken = [] := List.eq_nil_of_length_eq_zero (length ▸ alone)
  obtain rfl : count = 0 := alone
  suffices piece = some .anyText by rw [this]
  generalize whole : ['*'] = text at spells
  cases spells with
  | blank blank =>
    cases whole
    cases blank
  | word inside _ | punctuation inside _ =>
    subst whole
    cases inside '*' List.mem_cons_self
  | exactly counts _ =>
    cases whole
    cases counts
  | anyText => rfl
  | _ => simp at whole

theorem readWildcard_digit_before (tilde : c ≠ '~') (bracket : c ≠ '(')
    (stops : mark.isDigit = false) :
    readWildcard (c :: (front ++ mark :: after)) = readWildcard (c :: front) := by
  have run := takeWhile_before stops (c :: front) after
  rw [List.cons_append] at run
  rw [readWildcard, readWildcard, run]
  all_goals simp [tilde, bracket]

/-- A bracket behind a star is read alike if the star alone is read and the bracket can follow. -/
theorem readWildcard_bracket_before (ok : readWildcard ('(' :: (front ++ after)) = .ok reading)
    (room : reading.taken ≤ front.length + 1) {offset : Nat} {pieces : List Piece}
    (later : readFrom offset reading.taken ('(' :: front) = .ok pieces) :
    readWildcard ('(' :: front) = .ok reading := by
  by_cases closed : ')' ∈ front
  · obtain ⟨body, behind, rfl, inside⟩ := List.eq_append_cons_of_mem closed
    rw [List.append_assoc, List.cons_append, readWildcard_to_close inside] at ok
    rw [readWildcard_to_close inside, ok]
  · exfalso
    by_cases present : ')' ∈ front ++ after
    · obtain ⟨body, behind, whole, inside⟩ := List.eq_append_cons_of_mem present
      have long := close_lies_behind closed whole
      rw [whole, readWildcard_to_close inside, rangeReading] at ok
      split at ok
      · -- The bracket is left for the next piece, and that piece is not closed.
        cases ok
        have refused : readPiece '(' front = .error (.unterminatedGroup '(') :=
          readGroup_unclosed closed
        simp only [readFrom, refused] at later
        cases later
      · split at ok
        · cases ok
          exact absurd room (by dsimp only; omega)
        · cases ok
    · rw [readWildcard_unclosed present] at ok
      cases ok

theorem readWildcard_before (syntactic : isSyntax mark = true)
    (ok : readWildcard (front ++ mark :: after) = .ok reading)
    (room : reading.taken ≤ front.length) {offset : Nat} {pieces : List Piece}
    (later : readFrom offset reading.taken front = .ok pieces) :
    readWildcard front = .ok reading := by
  have noDigit := (syntax_in_no_name syntactic).2
  cases front with
  | nil => rw [star_alone ok (Nat.le_zero.mp room), readWildcard]
  | cons d front =>
    rw [List.cons_append] at ok
    by_cases bracket : d = '('
    · subst bracket
      exact readWildcard_bracket_before ok room later
    · by_cases tilde : d = '~'
      · subst tilde
        rw [readWildcard, takeWhile_before noDigit] at ok
        rw [readWildcard, ok]
      · rw [← ok, readWildcard_digit_before tilde bracket noDigit]

theorem readPiece_before (syntactic : isSyntax mark = true)
    (ok : readPiece c (front ++ mark :: after) = .ok reading)
    (room : reading.taken ≤ front.length) {offset : Nat} {pieces : List Piece}
    (later : readFrom offset reading.taken front = .ok pieces) :
    readPiece c front = .ok reading := by
  cases blank : Text.isBlank c with
  | true =>
    rw [readPiece_blank blank] at ok ⊢
    exact ok
  | false =>
    cases marks : isSyntax c with
    | false =>
      have inside : isBoundary c = false := by rw [isBoundary_eq, blank, marks, Bool.or_false]
      have stops : (!isBoundary mark) = false := by
        rw [isBoundary_eq, syntactic, Bool.or_true, Bool.not_true]
      have run := @takeWhile_before _ (!isBoundary ·) mark stops front after
      rw [readPiece_word inside, run] at ok
      rw [readPiece_word inside, ok]
    | true =>
      simp only [isSyntax, List.contains_eq_mem, List.mem_cons, List.not_mem_nil, or_false,
        decide_eq_true_eq] at marks
      rcases marks with rfl | rfl | rfl | rfl | rfl | rfl | rfl
      · exact readWildcard_before syntactic ok room later
      · exact readGroup_before ok room
      · cases ok
      · exact readGroup_before ok room
      · cases ok
      · have run := takeWhile_before (syntax_in_no_name syntactic).1 front after
        change (if ((front ++ mark :: after).takeWhile isNameCharacter).isEmpty then _ else _) = _
          at ok
        rw [run] at ok
        exact ok
      · cases ok

/-- A fault lies at a mark of the syntax, and reading works as far as the mark. -/
theorem readFrom_before {offset pending : Nat} {text : List Char} {fault : Fault}
    (failed : readFrom offset pending text = .error fault) : ∃ front mark after,
      text = front ++ mark :: after ∧ fault.offset = offset + bytes front ∧
        isSyntax mark = true ∧ pending ≤ front.length ∧
          ∃ pieces, readFrom offset pending front = .ok pieces := by
  induction text generalizing offset pending with
  | nil => cases failed
  | cons c rest ih =>
    cases pending with
    | succ pending =>
      obtain ⟨front, mark, after, rfl, place, syntactic, passed, pieces, ok⟩ := ih failed
      refine ⟨c :: front, mark, after, rfl, ?_, syntactic, Nat.succ_le_succ passed, pieces, ok⟩
      rw [place, bytes_cons, Nat.add_assoc]
    | zero =>
      rw [readFrom] at failed
      split at failed
      · rename_i cause refused
        cases failed
        exact ⟨[], c, rest, rfl, rfl, readPiece_refuses_syntax refused, Nat.le_refl 0, [], rfl⟩
      · rename_i reading head
        split at failed
        · rename_i later tail
          cases failed
          obtain ⟨front, mark, after, rfl, place, syntactic, passed, pieces, ok⟩ := ih tail
          refine ⟨c :: front, mark, after, rfl, ?_, syntactic, Nat.zero_le _,
            reading.piece.toList ++ pieces, ?_⟩
          · rw [place, bytes_cons, Nat.add_assoc]
          · simp only [readFrom, readPiece_before syntactic head passed ok, ok]
        · cases failed

end Before

theorem Spells.positive_count {taken : List Char} {piece : Piece}
    (spells : Spells taken (some piece)) : ∀ count, piece = .exactly count → 0 < count := by
  intro count same
  subst same
  cases spells with
  | exactly _ positive => exact Nat.pos_of_ne_zero positive

/-- Reading by bytes cuts no text but between characters, and an exact count has a predecessor. A
fault lies at the byte of a mark of the syntax, and what stands before the mark is a pattern. -/
theorem faults_point_at_syntax (text : String) :
    sliceFrom text.toList 0 (placed 0 text.toList) = some (read text.toList) ∧
      (∀ pieces, read text.toList = .ok pieces → ∀ count, .exactly count ∈ pieces → 0 < count) ∧
      ∀ refusal, grammar text = .error refusal → ∃ before mark after,
        text.toList = before ++ mark :: after ∧ refusal.offset = bytes before ∧
          isSyntax mark = true ∧ ∃ clean, grammar (String.ofList before) = .ok clean := by
  refine ⟨@sliceFrom_eq _ [] _ _ rfl, ?_, ?_⟩
  · intro pieces ok count member
    exact (read_readsAs ok).forall Spells.positive_count _ member count rfl
  · intro refusal refused
    rw [grammar] at refused
    split at refused
    · cases refused
    · rename_i fault failed
      cases refused
      obtain ⟨before, mark, after, whole, place, syntactic, _, pieces, ok⟩ := readFrom_before failed
      rw [Nat.zero_add] at place
      have accepted : read (String.ofList before).toList = .ok pieces := by
        rw [String.toList_ofList]
        exact ok
      exact ⟨before, mark, after, whole, place, syntactic, _, grammar_of_read accepted⟩

theorem fault_behind_accent :
    grammar "né *(3-1)" = .error ⟨"invalid word range '3-1'", 4⟩ ∧
      ∃ before mark after, "né *(3-1)".toList = before ++ mark :: after ∧ bytes before = 4 ∧
        isSyntax mark = true ∧ ∃ clean, grammar (String.ofList before) = .ok clean := by
  have refused : grammar "né *(3-1)" = .error ⟨"invalid word range '3-1'", 4⟩ := rfl
  obtain ⟨_, _, points⟩ := faults_point_at_syntax "né *(3-1)"
  obtain ⟨before, mark, after, whole, place, accepted⟩ := points _ refused
  exact ⟨refused, before, mark, after, whole, place.symm, accepted⟩

end DialogueScript.Pattern
