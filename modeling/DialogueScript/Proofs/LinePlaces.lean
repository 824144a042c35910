import DialogueScript.Proofs.LineSteps
import DialogueScript.Proofs.Runs
import DialogueScript.Proofs.TopicHeaders
import Mathlib.Data.List.Forall2

/- Where the lines of a script end up. The reader goes from line to line and keeps a gambit and a
   topic in progress; here each line is given its place by the lines around it alone, and a text
   that is read is read that way. -/
namespace DialogueScript.Script

def Entry.endsGambit (entry : Entry) : Bool := ['+', '>', '<'].contains entry.sigil

structure Place where
  before : List Entry
  line : Entry
  after : List Entry

def placesFrom (before : List Entry) : List Entry → List Place
  | [] => []
  | line :: after => ⟨before, line, after⟩ :: placesFrom (before ++ [line]) after

def placesOf (sigil : Char) (lines : List Entry) : List Place :=
  (placesFrom [] lines).filter (·.line.sigil = sigil)

/-- The lines between a trigger and the next line that ends a gambit, or the end. -/
def Place.stretch (place : Place) : List Entry := place.after.takeWhile (!·.endsGambit)

/-- The places between the header of a topic and the next footer, or the end. -/
def Place.section (place : Place) : List Place :=
  placesFrom (place.before ++ [place.line]) (place.after.takeWhile (·.sigil ≠ '<'))

def endInTopic (lines : List Entry) : Bool :=
  (lines.reverse.takeWhile (·.sigil ≠ '<')).any (·.sigil = '>')

def additions (lines : List Entry) : List Char :=
  (lines.filter fun line => line.sigil = '^' ∧ line.text ≠ []).flatMap (' ' :: ·.text)

def Place.reply (place : Place) : String :=
  String.ofList (place.line.text ++ additions (place.after.takeWhile (·.sigil ≠ '-')))

def repliesIn (stretch : List Entry) : List String := (placesOf '-' stretch).map Place.reply

/-- What a trigger and the lines of its stretch say. There is at most one conversation; of several
redirects the last one holds. -/
structure Gambit.Reads (gambit : Gambit) (trigger : Entry) (stretch : List Entry) : Prop where
  trigger : gambit.trigger = some (String.ofList trigger.text)
  replies : gambit.replies = repliesIn stretch
  conversation : gambit.conversation.toList =
    (stretch.filter (·.sigil = '%')).map (String.ofList ·.text)
  redirect : gambit.redirect = (stretch.filter (·.sigil = '@')).getLast?.map (String.ofList ·.text)

def Gambit.ReadAt (gambit : Gambit) (place : Place) : Prop := gambit.Reads place.line place.stretch

structure Topic.ReadAt (topic : Topic) (place : Place) : Prop where
  header : readHeader? place.line.text = some { topic with gambits := [] }
  gambits : List.Forall₂ Gambit.ReadAt topic.gambits (place.section.filter (·.line.sigil = '+'))

def Place.StandsIn (place opening : Place) : Prop :=
  ∃ between after, place.before = opening.before ++ opening.line :: between ∧
    opening.stretch = between ++ place.line :: after ∧
    (place.line.sigil = '^' → ∃ reply ∈ between, reply.sigil = '-')

/-- A script has the lines of a text where they were written: the topics are those of the headers,
the gambits outside of topics those of the triggers there, and each line of a gambit stands in the
stretch of a trigger. -/
structure ReadFrom (lines : List Entry) (script : Script) : Prop where
  topics : List.Forall₂ Topic.ReadAt script.topics (placesOf '>' lines)
  gambits : List.Forall₂ Gambit.ReadAt script.gambits
    ((placesOf '+' lines).filter (endInTopic ·.before = false))
  stretches : ∀ place ∈ placesFrom [] lines, place.line.sigil ∈ ['-', '^', '%', '@'] →
    ∃ opening ∈ placesOf '+' lines, place.StandsIn opening

/-! The lines of a stretch, one more at a time. -/

section Stretch

variable {line : Entry} {stretch : List Entry}

theorem replies_anywhere (rest before : List Entry) :
    ((placesFrom before rest).filter (·.line.sigil = '-')).map Place.reply = repliesIn rest := by
  have moved : ∀ other : List Entry,
      ((placesFrom before rest).filter (·.line.sigil = '-')).map Place.reply =
        ((placesFrom other rest).filter (·.line.sigil = '-')).map Place.reply := by
    induction rest generalizing before with
    | nil => simp [placesFrom]
    | cons next later ih =>
      intro other
      simp only [placesFrom, List.filter_cons]
      split
      · simp only [List.map_cons, ih (before ++ [next]) (other ++ [next])]
        rfl
      · exact ih _ _
  exact moved []

theorem repliesIn_cons (line : Entry) (rest : List Entry) :
    repliesIn (line :: rest) =
      (if line.sigil = '-' then
        [String.ofList (line.text ++ additions (rest.takeWhile (·.sigil ≠ '-')))] else []) ++
        repliesIn rest := by
  rw [← replies_anywhere rest [line]]
  simp only [repliesIn, placesOf, placesFrom, List.filter_cons]
  split
  · simp_all [Place.reply]
  · simp_all

theorem repliesIn_nil : repliesIn [] = [] := rfl

theorem repliesIn_eq_nil : repliesIn stretch = [] ↔ ∀ line ∈ stretch, line.sigil ≠ '-' := by
  induction stretch with
  | nil => simp [repliesIn_nil]
  | cons line rest ih =>
    rw [repliesIn_cons, List.append_eq_nil_iff, ih, List.forall_mem_cons]
    simp

theorem additions_append (lines more : List Entry) :
    additions (lines ++ more) = additions lines ++ additions more := by
  simp [additions]

theorem repliesIn_reply (reply : line.sigil = '-') (stretch : List Entry) :
    repliesIn (stretch ++ [line]) = repliesIn stretch ++ [String.ofList line.text] := by
  induction stretch with
  | nil =>
    rw [List.nil_append, repliesIn_cons, if_pos reply]
    simp [additions, repliesIn_nil]
  | cons first rest ih =>
    rw [List.cons_append, repliesIn_cons, repliesIn_cons, ih,
      takeWhile_before (by simp [reply]), List.append_assoc]

theorem additions_further (other : line.sigil ≠ '-') (stretch : List Entry) :
    additions ((stretch ++ [line]).takeWhile (·.sigil ≠ '-')) =
      additions (stretch.takeWhile (·.sigil ≠ '-')) ++
        if repliesIn stretch = [] then additions [line] else [] := by
  induction stretch with
  | nil => simp [repliesIn_nil, other, additions]
  | cons first rest ih =>
    rw [List.cons_append, List.takeWhile_cons, List.takeWhile_cons, repliesIn_cons]
    by_cases reply : first.sigil = '-'
    · simp [reply]
    · simp only [reply, ne_eq, not_false_eq_true, decide_true, if_true, if_false,
        List.nil_append]
      rw [← List.singleton_append, additions_append, ih, ← List.append_assoc, ← additions_append]
      rfl

theorem repliesIn_silent (other : line.sigil ≠ '-') (silent : additions [line] = [])
    (stretch : List Entry) : repliesIn (stretch ++ [line]) = repliesIn stretch := by
  induction stretch with
  | nil => simp [repliesIn_cons, repliesIn_nil, other]
  | cons first rest ih =>
    rw [List.cons_append, repliesIn_cons, repliesIn_cons, ih, additions_further other, silent,
      ite_self, List.append_nil]

theorem continueLast_cons (addition reply : String) {replies : List String}
    (more : replies ≠ []) :
    continueLast addition (reply :: replies) = reply :: continueLast addition replies := by
  cases replies with
  | nil => exact absurd rfl more
  | cons next rest => rfl

theorem repliesIn_continuation (further : line.sigil = '^') (nonempty : line.text ≠ [])
    (stretch : List Entry) :
    repliesIn (stretch ++ [line]) = continueLast (String.ofList line.text) (repliesIn stretch) := by
  have other : line.sigil ≠ '-' := by simp [further]
  have added : additions [line] = ' ' :: line.text := by simp [additions, further, nonempty]
  induction stretch with
  | nil => simp [repliesIn_cons, repliesIn_nil, other, continueLast]
  | cons first rest ih =>
    rw [List.cons_append, repliesIn_cons, repliesIn_cons, ih, additions_further other, added]
    by_cases last : repliesIn rest = []
    · split
      · simp [last, continueLast, String.append_assoc, String.ofList_append]
      · simp
    · split
      · simp [last, continueLast_cons]
      · simp

theorem Gambit.Takes.lasts {gambit changed : Gambit} {line : Entry}
    (takes : gambit.Takes line changed) : line.endsGambit = false := by
  cases takes <;> simp [Entry.endsGambit]

theorem reads_trigger (text : List Char) :
    Gambit.Reads { trigger := some (String.ofList text) } ⟨'+', text⟩ [] :=
  ⟨rfl, rfl, rfl, rfl⟩

/-- What a gambit has read is kept as its stretch grows by a line. -/
theorem Gambit.Reads.takes {gambit changed : Gambit} {trigger : Entry}
    (reads : gambit.Reads trigger stretch) (takes : gambit.Takes line changed) :
    changed.Reads trigger (stretch ++ [line]) := by
  obtain ⟨same, replies, conversation, redirect⟩ := reads
  cases takes with
  | reply text _ =>
    refine ⟨same, ?_, by simpa using conversation, by simpa using redirect⟩
    rw [repliesIn_reply rfl, replies]
  | blank replied =>
    refine ⟨same, ?_, by simpa using conversation, by simpa using redirect⟩
    rw [repliesIn_silent (by simp) rfl, replies]
  | continuation text replied nonempty =>
    refine ⟨same, ?_, by simpa using conversation, by simpa using redirect⟩
    rw [repliesIn_continuation rfl nonempty, replies]
  | conversation text first _ =>
    refine ⟨same, ?_, ?_, by simpa using redirect⟩
    · rw [repliesIn_silent (by simp) rfl, replies]
    · rw [List.filter_append, List.map_append, ← conversation, first]
      rfl
  | redirect text _ =>
    refine ⟨same, ?_, by simpa using conversation, by simp⟩
    rw [repliesIn_silent (by simp) rfl, replies]

end Stretch

/-! What becomes of a draft. It is told from the lines that remain, not from those that were read:
how far the gambit in progress and the open topic reach is known only from what follows. -/

section Completes

variable {draft next last : Draft} {line : Entry} {before rest : List Entry} {script : Script}

theorem endInTopic_concat (before : List Entry) (line : Entry) :
    endInTopic (before ++ [line]) =
      (decide (line.sigil ≠ '<') && (decide (line.sigil = '>') || endInTopic before)) := by
  unfold endInTopic
  rw [List.reverse_concat, List.takeWhile_cons]
  by_cases footer : line.sigil = '<' <;> simp [footer]

theorem settle_outside (outside : draft.openTopic = none) :
    draft.settle =
      { draft with gambits := draft.gambits ++ draft.current.toList, current := none } := by
  obtain ⟨topics, gambits, openTopic, current⟩ := draft
  cases outside
  cases current <;> simp [Draft.settle]

theorem settle_inside {topic : Topic} (inside : draft.openTopic = some topic) :
    draft.settle =
      { draft with
        openTopic := some { topic with gambits := topic.gambits ++ draft.current.toList }
        current := none } := by
  obtain ⟨topics, gambits, openTopic, current⟩ := draft
  cases inside
  cases current <;> simp [Draft.settle]

theorem Draft.Steps.known (step : draft.Steps line next)
    (known : endInTopic before = draft.openTopic.isSome) :
    endInTopic (before ++ [line]) = next.openTopic.isSome := by
  rw [endInTopic_concat]
  cases step with
  | opens => simp
  | closes => simp [Draft.close]
  | starts text _ =>
    cases opened : draft.openTopic with
    | none => simp [known, settle_outside opened, opened]
    | some topic => simp [known, settle_inside opened, opened]
  | amends _ takes => cases takes <;> simp [known]

def Finishes (rest : List Entry) (gambit finished : Gambit) : Prop :=
  ∀ trigger done, gambit.Reads trigger done →
    finished.Reads trigger (done ++ rest.takeWhile (!·.endsGambit))

structure Adds (before rest : List Entry) (topics : List Topic) (gambits : List Gambit) :
    Prop where
  topics : List.Forall₂ Topic.ReadAt topics
    ((placesFrom before rest).filter (·.line.sigil = '>'))
  gambits : List.Forall₂ Gambit.ReadAt gambits
    ((placesFrom before rest).filter fun place =>
      place.line.sigil = '+' ∧ endInTopic place.before = false)

inductive Draft.Completes (draft : Draft) (before rest : List Entry) : Script → Prop where
  | outside {topics : List Topic} {kept gambits : List Gambit} : draft.openTopic = none →
      List.Forall₂ (Finishes rest) draft.current.toList kept → Adds before rest topics gambits →
      Completes draft before rest ⟨draft.topics ++ topics, draft.gambits ++ kept ++ gambits⟩
  | inside {topic : Topic} {topics : List Topic} {kept here gambits : List Gambit} :
      draft.openTopic = some topic →
      List.Forall₂ (Finishes rest) draft.current.toList kept → Adds before rest topics gambits →
      List.Forall₂ Gambit.ReadAt here
        ((placesFrom before (rest.takeWhile (·.sigil ≠ '<'))).filter (·.line.sigil = '+')) →
      Completes draft before rest
        ⟨draft.topics ++ { topic with gambits := topic.gambits ++ kept ++ here } :: topics,
          draft.gambits ++ gambits⟩

theorem current_finishes (done : rest.takeWhile (!·.endsGambit) = [])
    (current : Option Gambit) :
    List.Forall₂ (Finishes rest) current.toList current.toList := by
  refine List.forall₂_same.mpr fun gambit _ trigger stretch reads => ?_
  rwa [done, List.append_nil]

theorem finished_alone {gambit : Gambit} {kept : List Gambit}
    (finishes : List.Forall₂ (Finishes rest) (some gambit).toList kept) :
    ∃ finished, Finishes rest gambit finished ∧ kept = [finished] := by
  obtain ⟨finished, _, first, nothing, rfl⟩ := List.forall₂_cons_left_iff.mp finishes
  cases nothing
  exact ⟨finished, first, rfl⟩

theorem Draft.completes_now (draft : Draft) (before : List Entry) :
    draft.Completes before [] draft.finish := by
  have kept : List.Forall₂ (Finishes []) draft.current.toList draft.current.toList :=
    current_finishes rfl _
  have nothing : Adds before [] [] [] := ⟨.nil, .nil⟩
  cases opened : draft.openTopic with
  | none =>
    have same := Completes.outside opened kept nothing
    simpa [Draft.finish, Draft.close, settle_outside opened, opened] using same
  | some topic =>
    have same := Completes.inside opened kept nothing .nil
    simpa [Draft.finish, Draft.close, settle_inside opened] using same

section Adds

variable {topics : List Topic} {gambits : List Gambit}
  (added : Adds (before ++ [line]) rest topics gambits)

include added

theorem Adds.topic {topic : Topic} (header : line.sigil = '>')
    (read : topic.ReadAt ⟨before, line, rest⟩) :
    Adds before (line :: rest) (topic :: topics) gambits := by
  constructor
  · simpa [placesFrom, header] using List.Forall₂.cons read added.topics
  · simpa [placesFrom, header] using added.gambits

theorem Adds.gambit {gambit : Gambit} (trigger : line.sigil = '+')
    (outside : endInTopic before = false) (read : gambit.ReadAt ⟨before, line, rest⟩) :
    Adds before (line :: rest) topics (gambit :: gambits) := by
  constructor
  · simpa [placesFrom, trigger] using added.topics
  · simpa [placesFrom, trigger, outside] using List.Forall₂.cons read added.gambits

theorem Adds.skip (no_header : line.sigil ≠ '>')
    (inside : line.sigil = '+' → endInTopic before = true) :
    Adds before (line :: rest) topics gambits := by
  constructor
  · simpa [placesFrom, no_header] using added.topics
  · have skipped : ¬(line.sigil = '+' ∧ endInTopic before = false) := by
      rintro ⟨trigger, outside⟩
      simp [inside trigger] at outside
    simpa [placesFrom, skipped] using added.gambits

end Adds

theorem header_gambits {header : List Char} {topic : Topic}
    (read : readHeader? header = some topic) : topic.gambits = [] := by
  obtain ⟨_, _, _, _, _, _, _, _, _, _, _, rfl⟩ := readHeader_eq_some_iff.mp read
  rfl

theorem stretch_in_section (before : List Entry) (line : Entry) (rest : List Entry) :
    Place.stretch ⟨before, line, rest.takeWhile (·.sigil ≠ '<')⟩ =
      Place.stretch ⟨before, line, rest⟩ := by
  unfold Place.stretch
  rw [List.takeWhile_takeWhile]
  congr 1
  funext entry
  by_cases footer : entry.sigil = '<' <;> simp [Entry.endsGambit, footer]

theorem completes_opens {header : List Char} {topic : Topic} (outside : draft.openTopic = none)
    (read : readHeader? header = some topic)
    (later : Draft.Completes { draft.settle with openTopic := some topic }
      (before ++ [⟨'>', header⟩]) rest script) :
    draft.Completes before (⟨'>', header⟩ :: rest) script := by
  rw [settle_outside outside] at later
  cases later with
  | outside none _ _ => cases none
  | inside opened finished added here =>
    cases opened
    cases finished
    have bare := header_gambits read
    refine .outside outside (current_finishes rfl _) (added.topic rfl ⟨?_, ?_⟩)
    · rw [read, ← bare]
    · simpa [bare, Place.section] using here

theorem completes_closes {text : List Char} {topic : Topic}
    (inside : draft.openTopic = some topic)
    (later : draft.close.Completes (before ++ [⟨'<', text⟩]) rest script) :
    draft.Completes before (⟨'<', text⟩ :: rest) script := by
  simp only [Draft.close, settle_inside inside] at later
  cases later with
  | outside _ finished added =>
    cases finished
    have same := Draft.Completes.inside inside (current_finishes rfl _)
      (added.skip (by simp) (by simp)) .nil
    simpa using same
  | inside opened _ _ _ => cases opened

theorem completes_starts {text : List Char}
    (known : endInTopic before = draft.openTopic.isSome)
    (later : Draft.Completes
      { draft.settle with current := some { trigger := some (String.ofList text) } }
      (before ++ [⟨'+', text⟩]) rest script) :
    draft.Completes before (⟨'+', text⟩ :: rest) script := by
  have start : ∀ finished, Finishes rest { trigger := some (String.ofList text) } finished →
      finished.ReadAt ⟨before, ⟨'+', text⟩, rest⟩ :=
    fun finished finishes => finishes _ _ (reads_trigger text)
  cases inside : draft.openTopic with
  | none =>
    rw [settle_outside inside] at later
    cases later with
    | inside opened _ _ _ => simp [inside] at opened
    | outside _ finished added =>
      obtain ⟨gambit, finishes, rfl⟩ := finished_alone finished
      have same := Draft.Completes.outside inside (current_finishes rfl _)
        (added.gambit rfl (by simp [known, inside]) (start _ finishes))
      simpa using same
  | some topic =>
    rw [settle_inside inside] at later
    cases later with
    | outside none _ _ => cases none
    | inside opened finished added here =>
      cases opened
      obtain ⟨gambit, finishes, rfl⟩ := finished_alone finished
      have first : gambit.ReadAt ⟨before, ⟨'+', text⟩, rest.takeWhile (·.sigil ≠ '<')⟩ := by
        unfold Gambit.ReadAt
        rw [stretch_in_section]
        exact start _ finishes
      have same := Draft.Completes.inside inside (current_finishes rfl _)
        (added.skip (by simp) (by simp [known, inside])) (.cons first here)
      simpa using same

theorem completes_amends {gambit changed : Gambit} (current : draft.current = some gambit)
    (takes : gambit.Takes line changed)
    (later : Draft.Completes { draft with current := some changed } (before ++ [line]) rest
      script) :
    draft.Completes before (line :: rest) script := by
  have further : ∀ finished, Finishes rest changed finished →
      Finishes (line :: rest) gambit finished := by
    intro finished finishes trigger done reads
    simpa [takes.lasts] using finishes trigger _ (reads.takes takes)
  obtain ⟨no_trigger, no_header, no_footer⟩ :
      line.sigil ≠ '+' ∧ line.sigil ≠ '>' ∧ line.sigil ≠ '<' := by
    simpa [Entry.endsGambit] using takes.lasts
  cases later with
  | outside outside finished added =>
    obtain ⟨finished, finishes, rfl⟩ := finished_alone finished
    refine .outside outside ?_ (added.skip no_header (by simp [no_trigger]))
    rw [current]
    exact .cons (further _ finishes) .nil
  | inside inside finished added here =>
    obtain ⟨finished, finishes, rfl⟩ := finished_alone finished
    refine .inside inside ?_ (added.skip no_header (by simp [no_trigger])) ?_
    · rw [current]
      exact .cons (further _ finishes) .nil
    · simpa [no_footer, placesFrom, no_trigger] using here

theorem Draft.Steps.completes (step : draft.Steps line next)
    (known : endInTopic before = draft.openTopic.isSome)
    (later : next.Completes (before ++ [line]) rest script) :
    draft.Completes before (line :: rest) script := by
  cases step with
  | opens outside read => exact completes_opens outside read later
  | closes inside => exact completes_closes inside later
  | starts text _ => exact completes_starts known later
  | amends current takes => exact completes_amends current takes later

theorem Draft.Runs.completes (runs : draft.Runs rest last)
    (known : endInTopic before = draft.openTopic.isSome) :
    draft.Completes before rest last.finish := by
  -- The step goes back from the next draft to this one; only what is open is carried forward.
  induction runs generalizing before with
  | nil draft => exact draft.completes_now before
  | cons step _ ih => exact step.completes known (ih (step.known known))

theorem Draft.Completes.adds_all (completes : Draft.Completes {} [] rest script) :
    Adds [] rest script.topics script.gambits := by
  cases completes with
  | outside _ finished added =>
    cases finished
    exact added
  | inside opened => cases opened

end Completes

/-! The gambit in progress, told from the lines before. -/

section Held

variable {draft next last : Draft} {line : Entry} {before rest : List Entry}

/-- The gambit in progress is the one of the last trigger, and nothing has ended it since. -/
def Draft.Holds (draft : Draft) (before : List Entry) : Prop :=
  ∀ gambit, draft.current = some gambit →
    ∃ front trigger between, before = front ++ trigger :: between ∧ trigger.sigil = '+' ∧
      (∀ line ∈ between, line.endsGambit = false) ∧ gambit.Reads trigger between

theorem Draft.Steps.holds (step : draft.Steps line next) (held : draft.Holds before) :
    next.Holds (before ++ [line]) := by
  intro gambit current
  cases step with
  | opens => simp [settle_current] at current
  | closes => simp [Draft.close, settle_current] at current
  | starts text _ =>
    cases current
    exact ⟨before, _, [], rfl, rfl, by simp, reads_trigger text⟩
  | amends was takes =>
    cases current
    obtain ⟨front, trigger, between, rfl, opens, lasts, reads⟩ := held _ was
    refine ⟨front, trigger, between ++ [line], by simp, opens, ?_, reads.takes takes⟩
    simpa [or_imp, forall_and] using ⟨lasts, takes.lasts⟩

theorem Draft.Runs.holds (runs : draft.Runs rest last) (held : draft.Holds before) :
    last.Holds (before ++ rest) := by
  induction runs generalizing before with
  | nil => simpa using held
  | cons step _ ih => simpa using ih (step.holds held)

theorem Draft.Runs.split {front : List Entry} (runs : draft.Runs (front ++ line :: rest) last) :
    ∃ middle next, draft.Runs front middle ∧ middle.Steps line next := by
  induction front generalizing draft with
  | nil =>
    cases runs with
    | cons step _ => exact ⟨draft, _, .nil draft, step⟩
  | cons first front ih =>
    cases runs with
    | cons step later =>
      obtain ⟨middle, next, reached, taken⟩ := ih later
      exact ⟨middle, next, .cons step reached, taken⟩

theorem mem_placesFrom {place : Place} {lines : List Entry} :
    place ∈ placesFrom before lines ↔
      ∃ front, place.before = before ++ front ∧ lines = front ++ place.line :: place.after := by
  induction lines generalizing before with
  | nil => simp [placesFrom]
  | cons first rest ih =>
    rw [placesFrom, List.mem_cons, ih]
    constructor
    · rintro (rfl | ⟨front, same, rfl⟩)
      · exact ⟨[], by simp, rfl⟩
      · exact ⟨first :: front, by simp [same], rfl⟩
    · rintro ⟨_ | ⟨_, front⟩, same, split⟩
      · cases split
        exact .inl (by rw [← List.append_nil before, ← same])
      · cases split
        exact .inr ⟨front, by simp [same], rfl⟩

/-- A line of a gambit stands in the stretch of a trigger. -/
theorem Draft.Runs.has_stretch {lines : List Entry} (runs : Draft.Runs {} lines last)
    {place : Place} (among : place ∈ placesFrom [] lines)
    (inner : place.line.sigil ∈ ['-', '^', '%', '@']) :
    ∃ opening ∈ placesOf '+' lines, place.StandsIn opening := by
  obtain ⟨before, line, after⟩ := place
  obtain ⟨front, same, rfl⟩ := mem_placesFrom.mp among
  cases same
  obtain ⟨middle, next, reached, step⟩ := runs.split
  have start : Draft.Holds {} [] := by simp [Draft.Holds]
  have held : middle.Holds before := reached.holds start
  cases step with
  | opens | closes | starts => simp at inner
  | amends current takes =>
    obtain ⟨early, trigger, between, rfl, opens, lasts, reads⟩ := held _ current
    refine ⟨⟨early, trigger, between ++ line :: after⟩, ?_, between,
      after.takeWhile (!·.endsGambit), rfl, ?_, ?_⟩
    · exact List.mem_filter.mpr ⟨mem_placesFrom.mpr ⟨early, rfl, by simp⟩, by simp [opens]⟩
    · unfold Place.stretch
      rw [List.takeWhile_append_of_pos (by simpa using lasts), List.takeWhile_cons]
      simp [takes.lasts]
    · intro continues
      cases takes with
      | blank replied | continuation _ replied _ =>
        rw [reads.replies, ne_eq, repliesIn_eq_nil] at replied
        simpa using replied
      | _ => simp at continues

end Held

/-- Every line of a text that is read ends up where it was written. -/
theorem lines_end_up_where_written {text : String} {script : Script}
    (ok : read text = .ok script) : ReadFrom (entriesIn text) script := by
  obtain ⟨last, runs, rfl⟩ := read_runs ok
  have completes : Draft.Completes {} [] (entriesIn text) last.finish := runs.completes rfl
  have added := completes.adds_all
  refine ⟨added.topics, ?_, fun place => runs.has_stretch⟩
  simpa [placesOf, List.filter_filter, Bool.and_comm] using added.gambits

def interleavedText : String :=
  "+ hello\n- hi\n^ there\n// aside\n> topic rest\n+ bye\n- so\n% later\n^\n  ^ long \n- ok\n" ++
  "@ one\n@ two\n< topic\n+ again\n- yes\n> topic last\n+ end\n- it\n"

def interleavedScript : Script where
  gambits := [
    { trigger := some "hello", replies := ["hi there"] },
    { trigger := some "again", replies := ["yes"] }]
  topics := [
    { name := "rest"
      gambits := [
        { trigger := some "bye", replies := ["so long", "ok"], conversation := some "later"
          redirect := some "two" }] },
    { name := "last", gambits := [{ trigger := some "end", replies := ["it"] }] }]

theorem interleavedText_read : read interleavedText = .ok interleavedScript := by
  decide +kernel

theorem interleaved_lines_end_up_where_written :
    read interleavedText = .ok interleavedScript ∧
      ReadFrom (entriesIn interleavedText) interleavedScript :=
  ⟨interleavedText_read, lines_end_up_where_written interleavedText_read⟩

end DialogueScript.Script
