import DialogueScript.Proofs.LineSteps
import DialogueScript.Proofs.TopicHeaders

/- Scripts written out and read back. The reader gives printable scripts only, and it gives every
   one of them: a script that is written line by line is taken in line by line. -/
namespace DialogueScript.Script
open Text

@[mk_iff]
structure Gambit.Printable (gambit : Gambit) : Prop where
  triggered : gambit.trigger ≠ none
  trigger : ∀ text ∈ gambit.trigger, FitsLine text.toList
  replies : ∀ text ∈ gambit.replies, FitsLine text.toList
  conversation : ∀ text ∈ gambit.conversation, FitsLine text.toList
  redirect : ∀ text ∈ gambit.redirect, FitsLine text.toList

@[mk_iff]
structure Topic.Printable (topic : Topic) : Prop where
  header : FitsHeader topic
  gambits : ∀ gambit ∈ topic.gambits, gambit.Printable

@[mk_iff]
structure Printable (script : Script) : Prop where
  topics : ∀ topic ∈ script.topics, topic.Printable
  gambits : ∀ gambit ∈ script.gambits, gambit.Printable

instance (gambit : Gambit) : Decidable gambit.Printable :=
  decidable_of_iff _ (Gambit.printable_iff gambit).symm

instance (topic : Topic) : Decidable topic.Printable :=
  decidable_of_iff _ (Topic.printable_iff topic).symm

instance (script : Script) : Decidable script.Printable :=
  decidable_of_iff _ (printable_iff script).symm

def Entry.write (entry : Entry) : List Char := entry.sigil :: ' ' :: entry.text

def entryOf (sigil : Char) (text : String) : Entry := ⟨sigil, text.toList⟩

def Gambit.entries (gambit : Gambit) : List Entry :=
  gambit.trigger.toList.map (entryOf '+') ++ (gambit.replies.map (entryOf '-') ++
    (gambit.conversation.toList.map (entryOf '%') ++ gambit.redirect.toList.map (entryOf '@')))

def footer : Entry := entryOf '<' "topic"

def Topic.entries (topic : Topic) : List Entry :=
  ⟨'>', writeHeader topic⟩ :: (topic.gambits.flatMap Gambit.entries ++ [footer])

def entries (script : Script) : List Entry :=
  script.gambits.flatMap Gambit.entries ++ script.topics.flatMap Topic.entries

def written (script : Script) : String :=
  String.ofList ((script.entries.map Entry.write).flatMap (· ++ ['\n']))

/-! A written line is found again as it was written. -/

def sigils : List Char := ['>', '<', '+', '-', '%', '@']

structure Entry.Fits (entry : Entry) : Prop where
  sigil : entry.sigil ∈ sigils
  text : FitsLine entry.text

theorem Entry.Fits.solid {entry : Entry} (fits : entry.Fits) : SolidEnds entry.write := by
  have solid : sigils.all (!isBlank ·) = true := rfl
  refine ⟨?_, ?_⟩
  · intro c head
    cases head
    simpa using List.all_eq_true.mp solid _ fits.sigil
  · change ∀ c ∈ ([entry.sigil, ' '] ++ entry.text).getLast?, isBlank c = false
    rw [List.getLast?_append_of_ne_nil _ fits.text.nonempty]
    exact (trim_eq_self_iff.mp fits.text.trimmed).last

theorem Entry.Fits.one_line {entry : Entry} (fits : entry.Fits) : '\n' ∉ entry.write := by
  have feed : '\n' ≠ entry.sigil := by
    intro same
    exact absurd fits.sigil (same ▸ by decide)
  simp [Entry.write, feed, fits.text.one_line]

theorem Entry.not_idle (entry : Entry) : isIdle entry.write = false := by
  unfold isIdle Entry.write
  split
  · cases ‹_›
  · rename_i same
    simp only [List.cons.injEq] at same
    exact absurd same.2.1 (by decide)
  · rfl

theorem takeLine_written {draft next : Draft} {entry : Entry} (fits : entry.Fits)
    (taken : draft.take entry.sigil entry.text = .ok next) (number : Nat) :
    draft.takeLine number (trim entry.write) = .ok next := by
  rw [trim_eq_self_iff.mpr fits.solid]
  have text : trim (' ' :: entry.text) = entry.text :=
    trim_after_space (trim_eq_self_iff.mp fits.text.trimmed)
  have awake := entry.not_idle
  unfold Entry.write at awake ⊢
  simp only [Draft.takeLine, awake, Bool.false_eq_true, ↓reduceIte, text, taken]

structure Takes (draft : Draft) (entries : List Entry) (next : Draft) : Prop where
  fits : ∀ entry ∈ entries, entry.Fits
  run : ∀ number, draft.takeLines number (entries.map Entry.write) = .ok next

section Takes

variable {draft middle next : Draft}

theorem Takes.nil (draft : Draft) : Takes draft [] draft := ⟨by simp, fun _ => rfl⟩

theorem Takes.cons {entry : Entry} {entries : List Entry} (fits : entry.Fits)
    (taken : draft.take entry.sigil entry.text = .ok middle) (later : Takes middle entries next) :
    Takes draft (entry :: entries) next := by
  refine ⟨List.forall_mem_cons.mpr ⟨fits, later.fits⟩, ?_⟩
  intro number
  rw [List.map_cons, Draft.takeLines, takeLine_written fits taken]
  exact later.run (number + 1)

theorem takeLines_append {first second : List (List Char)} {number : Nat}
    (taken : draft.takeLines number first = .ok middle) :
    draft.takeLines number (first ++ second) = middle.takeLines (number + first.length) second := by
  induction first generalizing draft number with
  | nil =>
    cases taken
    rfl
  | cons line rest ih =>
    rw [Draft.takeLines] at taken
    rw [List.cons_append, Draft.takeLines, List.length_cons]
    split at taken
    · rw [ih taken, Nat.add_assoc, Nat.add_comm 1]
    · cases taken

theorem Takes.append {first second : List Entry} (before : Takes draft first middle)
    (after : Takes middle second next) : Takes draft (first ++ second) next := by
  refine ⟨List.forall_mem_append.mpr ⟨before.fits, after.fits⟩, ?_⟩
  intro number
  rw [List.map_append, takeLines_append (before.run number)]
  exact after.run _

end Takes

/-! What the draft does with the lines of a gambit, of a topic and of a script. -/

section Reading

theorem FitsLine.entry {text : String} (fits : FitsLine text.toList) {sigil : Char}
    (known : sigil ∈ sigils) : (entryOf sigil text).Fits := ⟨known, fits⟩

def Draft.hold (draft : Draft) (gambit : Gambit) : Draft := { draft with current := some gambit }

theorem takes_replies (draft : Draft) (gambit : Gambit) {replies : List String}
    (fits : ∀ text ∈ replies, FitsLine text.toList) :
    Takes (draft.hold gambit) (replies.map (entryOf '-'))
      (draft.hold { gambit with replies := gambit.replies ++ replies }) := by
  induction replies generalizing gambit with
  | nil =>
    rw [List.append_nil]
    exact .nil _
  | cons reply rest ih =>
    simp only [List.mem_cons, forall_eq_or_imp] at fits
    have later := ih { gambit with replies := gambit.replies ++ [reply] } fits.2
    rw [List.append_assoc, List.singleton_append] at later
    refine .cons (fits.1.entry (by decide)) ?_ later
    simp [entryOf, Draft.take, Draft.amend, Draft.hold, fits.1.nonempty, Except.map]

theorem takes_optional (draft : Draft) (gambit : Option String → Gambit) {sigil : Char}
    (known : sigil ∈ sigils)
    (filled : ∀ text : String, text.toList ≠ [] →
      (draft.hold (gambit none)).take sigil text.toList = .ok (draft.hold (gambit (some text))))
    {part : Option String} (fits : ∀ text ∈ part, FitsLine text.toList) :
    Takes (draft.hold (gambit none)) (part.toList.map (entryOf sigil))
      (draft.hold (gambit part)) := by
  cases part with
  | none => exact .nil _
  | some text =>
    have line := fits text rfl
    exact .cons (line.entry known) (filled text line.nonempty) (.nil _)

def Draft.add (draft : Draft) (gambit : Gambit) : Draft := draft.settle.hold gambit

theorem takes_gambit (draft : Draft) {gambit : Gambit} (printable : gambit.Printable) :
    Takes draft gambit.entries (draft.add gambit) := by
  obtain ⟨trigger, replies, conversation, redirect⟩ := gambit
  obtain ⟨triggered, trigger_fits, replies_fit, conversation_fits, redirect_fits⟩ := printable
  cases trigger with
  | none => exact absurd rfl triggered
  | some trigger =>
    have fits := trigger_fits trigger rfl
    have started : draft.take '+' trigger.toList =
        .ok (draft.settle.hold { trigger := some trigger }) := by
      simp [Draft.take, Draft.hold, fits.nonempty]
    have replied := takes_replies draft.settle { trigger := some trigger } replies_fit
    have remembered : Takes (draft.settle.hold ⟨trigger, replies, none, none⟩)
        (conversation.toList.map (entryOf '%'))
        (draft.settle.hold ⟨trigger, replies, conversation, none⟩) := by
      refine takes_optional draft.settle (⟨trigger, replies, ·, none⟩) (by decide) ?_
        conversation_fits
      intro text nonempty
      simp [Draft.take, Draft.amend, Draft.hold, Gambit.addConversation, nonempty, Except.map]
    have redirected : Takes (draft.settle.hold ⟨trigger, replies, conversation, none⟩)
        (redirect.toList.map (entryOf '@'))
        (draft.settle.hold ⟨trigger, replies, conversation, redirect⟩) := by
      refine takes_optional draft.settle (⟨trigger, replies, conversation, ·⟩) (by decide) ?_
        redirect_fits
      intro text nonempty
      simp [Draft.take, Draft.amend, Draft.hold, Gambit.addRedirect, nonempty, Except.map]
    exact .cons (fits.entry (by decide)) started (replied.append (remembered.append redirected))

theorem takes_gambits (draft : Draft) {gambits : List Gambit}
    (printable : ∀ gambit ∈ gambits, gambit.Printable) :
    Takes draft (gambits.flatMap Gambit.entries) (gambits.foldl Draft.add draft) := by
  induction gambits generalizing draft with
  | nil => exact .nil _
  | cons gambit rest ih =>
    simp only [List.mem_cons, forall_eq_or_imp] at printable
    exact (takes_gambit draft printable.1).append (ih _ printable.2)

def Draft.place (draft : Draft) (gambits : List Gambit) : Draft :=
  match draft.openTopic with
  | none => { draft with gambits := draft.gambits ++ gambits }
  | some topic =>
    { draft with openTopic := some { topic with gambits := topic.gambits ++ gambits } }

theorem settle_add (draft : Draft) (gambit : Gambit) :
    (draft.add gambit).settle = draft.settle.place [gambit] := by
  have idle := settle_current draft
  unfold Draft.add Draft.hold Draft.place
  generalize draft.settle = settled at idle ⊢
  obtain ⟨topics, gambits, openTopic, current⟩ := settled
  cases idle
  cases openTopic <;> rfl

theorem place_nil (draft : Draft) : draft.place [] = draft := by
  obtain ⟨topics, gambits, openTopic, current⟩ := draft
  cases openTopic <;> simp [Draft.place]

theorem place_place (draft : Draft) (first second : List Gambit) :
    (draft.place first).place second = draft.place (first ++ second) := by
  obtain ⟨topics, gambits, openTopic, current⟩ := draft
  cases openTopic <;> simp [Draft.place]

theorem settle_added (draft : Draft) (gambits : List Gambit) :
    (gambits.foldl Draft.add draft).settle = draft.settle.place gambits := by
  induction gambits generalizing draft with
  | nil => exact (place_nil draft.settle).symm
  | cons gambit rest ih => rw [List.foldl_cons, ih, settle_add, place_place, List.singleton_append]

theorem settle_openTopic (draft : Draft) :
    draft.settle.openTopic.isNone = draft.openTopic.isNone := by
  unfold Draft.settle
  split <;> simp_all

theorem added_openTopic (draft : Draft) (gambits : List Gambit) :
    (gambits.foldl Draft.add draft).openTopic.isNone = draft.openTopic.isNone := by
  rw [← settle_openTopic, settle_added, ← settle_openTopic draft]
  unfold Draft.place
  split <;> simp_all

theorem settle_of_settled {draft : Draft} (idle : draft.current = none) : draft.settle = draft := by
  unfold Draft.settle
  rw [idle]

theorem footer_fits : footer.Fits := by
  refine ⟨by decide, ?_⟩
  have text : footer.text = ['t', 'o', 'p', 'i', 'c'] := by simp [footer, entryOf]
  rw [text]
  exact ⟨by decide, by decide, by decide⟩

theorem takes_topic {draft : Draft} (outside : draft.openTopic = none) {topic : Topic}
    (printable : topic.Printable) :
    Takes draft topic.entries
      { topics := draft.settle.topics ++ [topic], gambits := draft.settle.gambits } := by
  -- The topic is opened without gambits, and they are all in it when it is closed.
  let opened : Draft := { draft.settle with openTopic := some { topic with gambits := [] } }
  have header : draft.take '>' (writeHeader topic) = .ok opened := by
    simp [Draft.take, Draft.openHeader, readHeader_written printable.header, outside, opened]
  have settled : opened.settle = opened := settle_of_settled (settle_current draft)
  have inside : (topic.gambits.foldl Draft.add opened).openTopic.isNone = false := by
    rw [added_openTopic]
    rfl
  have closed : (topic.gambits.foldl Draft.add opened).take '<' footer.text =
      .ok { topics := draft.settle.topics ++ [topic], gambits := draft.settle.gambits } := by
    have closing : (topic.gambits.foldl Draft.add opened).close =
        { topics := draft.settle.topics ++ [topic], gambits := draft.settle.gambits } := by
      unfold Draft.close
      rw [settle_added, settled]
      simp [Draft.place, opened, settle_current draft]
    simp [Draft.take, Draft.closeTopic, inside, closing, footer, entryOf]
  exact .cons ⟨List.mem_cons_self, writeHeader_fits printable.header⟩ header
    ((takes_gambits opened printable.gambits).append (.cons footer_fits closed (.nil _)))

theorem takes_topics {draft : Draft} (outside : draft.openTopic = none) {topics : List Topic}
    (printable : ∀ topic ∈ topics, topic.Printable) :
    ∃ next, Takes draft (topics.flatMap Topic.entries) next ∧
      next.finish = ⟨draft.settle.topics ++ topics, draft.settle.gambits⟩ := by
  induction topics generalizing draft with
  | nil =>
    refine ⟨draft, .nil _, ?_⟩
    have none : draft.settle.openTopic = none := by
      rw [← Option.isNone_iff_eq_none, settle_openTopic, outside]
      rfl
    simp [Draft.finish, Draft.close, none]
  | cons topic rest ih =>
    simp only [List.mem_cons, forall_eq_or_imp] at printable
    obtain ⟨next, later, finished⟩ := @ih
      { topics := draft.settle.topics ++ [topic], gambits := draft.settle.gambits } rfl printable.2
    refine ⟨next, (takes_topic outside printable.1).append later, ?_⟩
    rw [finished]
    simp [Draft.settle]

theorem takes_script {script : Script} (printable : script.Printable) :
    ∃ next, Takes {} script.entries next ∧ next.finish = script := by
  have outside : (script.gambits.foldl Draft.add {}).openTopic = none := by
    rw [← Option.isNone_iff_eq_none, added_openTopic]
    rfl
  obtain ⟨next, taken, finished⟩ := takes_topics outside printable.topics
  refine ⟨next, (takes_gambits {} printable.gambits).append taken, ?_⟩
  rw [finished, settle_added]
  rfl

theorem read_written {script : Script} (printable : script.Printable) :
    read script.written = .ok script := by
  obtain ⟨next, taken, finished⟩ := takes_script printable
  have rows : lines script.written.toList = script.entries.map Entry.write := by
    unfold written
    rw [String.toList_ofList]
    refine lines_of_ended ?_ ?_
    · rw [List.forall_mem_map]
      exact fun entry member => (taken.fits entry member).solid
    · rw [List.forall_mem_map]
      exact fun entry member => (taken.fits entry member).one_line
  unfold read
  rw [rows, taken.run 1, ← finished]
  rfl

end Reading

/-! What the draft holds can be written out, after every line. -/

structure Draft.Printable (draft : Draft) : Prop where
  topics : ∀ topic ∈ draft.topics, topic.Printable
  gambits : ∀ gambit ∈ draft.gambits, gambit.Printable
  openTopic : ∀ topic ∈ draft.openTopic, topic.Printable
  current : ∀ gambit ∈ draft.current, gambit.Printable

section Invariant

variable {draft next : Draft} {gambit changed : Gambit}

theorem Topic.Printable.add {topic : Topic} (printable : topic.Printable)
    (fits : gambit.Printable) :
    Topic.Printable { topic with gambits := topic.gambits ++ [gambit] } := by
  obtain ⟨named, name, flags, keywords, filter⟩ := printable.header
  refine ⟨⟨named, name, flags, keywords, filter⟩, ?_⟩
  exact List.forall_mem_append.mpr ⟨printable.gambits, by simpa using fits⟩

theorem Draft.Printable.settle (printable : draft.Printable) : draft.settle.Printable := by
  obtain ⟨topics, gambits, openTopic, current⟩ := draft
  cases current with
  | none => exact printable
  | some gambit =>
    have fits := printable.current gambit rfl
    cases openTopic with
    | none =>
      refine ⟨printable.topics, ?_, printable.openTopic, by simp [Draft.settle]⟩
      exact List.forall_mem_append.mpr ⟨printable.gambits, by simpa using fits⟩
    | some topic =>
      refine ⟨printable.topics, printable.gambits, ?_, by simp [Draft.settle]⟩
      intro grown same
      cases same
      exact (printable.openTopic topic rfl).add fits

theorem Draft.Printable.close (printable : draft.Printable) : draft.close.Printable := by
  have settled := printable.settle
  refine ⟨?_, settled.gambits, by simp [Draft.close], settled.current⟩
  refine List.forall_mem_append.mpr ⟨settled.topics, ?_⟩
  intro topic member
  exact settled.openTopic topic (Option.mem_toList.mp member)

theorem Draft.Printable.finish (printable : draft.Printable) : draft.finish.Printable :=
  ⟨printable.close.topics, printable.close.gambits⟩

theorem Draft.Printable.hold (printable : draft.Printable) (fits : gambit.Printable) :
    (draft.hold gambit).Printable := by
  refine ⟨printable.topics, printable.gambits, printable.openTopic, ?_⟩
  intro held same
  cases same
  exact fits

theorem FitsLine.joined {reply addition : List Char} (first : FitsLine reply)
    (second : FitsLine addition) : FitsLine (reply ++ ' ' :: addition) := by
  refine ⟨by simp, trim_eq_self_iff.mpr ⟨?_, ?_⟩, ?_⟩
  · rw [List.head?_append_of_ne_nil _ first.nonempty]
    exact (trim_eq_self_iff.mp first.trimmed).first
  · change ∀ c ∈ (reply ++ ([' '] ++ addition)).getLast?, isBlank c = false
    rw [← List.append_assoc, List.getLast?_append_of_ne_nil _ second.nonempty]
    exact (trim_eq_self_iff.mp second.trimmed).last
  · simp [first.one_line, second.one_line]

theorem continueLast_fits {addition : String} (fits : FitsLine addition.toList)
    {replies : List String} (each : ∀ reply ∈ replies, FitsLine reply.toList) :
    ∀ reply ∈ continueLast addition replies, FitsLine reply.toList := by
  fun_induction continueLast addition replies with
  | case1 => exact each
  | case2 reply =>
    have joined := (each reply (by simp)).joined fits
    simpa using joined
  | case3 reply rest _ ih =>
    simp only [List.mem_cons, forall_eq_or_imp] at each ⊢
    exact ⟨each.1, ih each.2⟩

theorem Gambit.Takes.printable {entry : Entry} (takes : gambit.Takes entry changed)
    (fits : entry.text ≠ [] → FitsLine entry.text) (printable : gambit.Printable) :
    changed.Printable := by
  obtain ⟨triggered, trigger, replies, conversation, redirect⟩ := printable
  cases takes with
  | reply text nonempty =>
    refine ⟨triggered, trigger, ?_, conversation, redirect⟩
    exact List.forall_mem_append.mpr ⟨replies, by simpa using fits nonempty⟩
  | blank => exact ⟨triggered, trigger, replies, conversation, redirect⟩
  | continuation text _ nonempty =>
    have line : FitsLine (String.ofList text).toList := by
      rw [String.toList_ofList]
      exact fits nonempty
    exact ⟨triggered, trigger, continueLast_fits line replies, conversation, redirect⟩
  | conversation text _ nonempty =>
    exact ⟨triggered, trigger, replies, by simpa using fits nonempty, redirect⟩
  | redirect text nonempty =>
    exact ⟨triggered, trigger, replies, conversation, by simpa using fits nonempty⟩

theorem Draft.Steps.printable {entry : Entry} (step : draft.Steps entry next)
    (trimmed : trim entry.text = entry.text) (one_line : '\n' ∉ entry.text)
    (printable : draft.Printable) : next.Printable := by
  have settled := printable.settle
  have fits : entry.text ≠ [] → FitsLine entry.text := fun nonempty => ⟨nonempty, trimmed, one_line⟩
  cases step with
  | opens _ read =>
    obtain ⟨header, bare⟩ := readHeader_fits (trim_eq_self_iff.mp trimmed).last one_line read
    refine ⟨settled.topics, settled.gambits, ?_, settled.current⟩
    intro opened same
    cases same
    exact ⟨header, by simp [bare]⟩
  | closes _ => exact printable.close
  | starts text nonempty =>
    refine settled.hold ⟨by simp, ?_, by simp, by simp, by simp⟩
    simpa using fits nonempty
  | amends current takes =>
    exact printable.hold (takes.printable fits (printable.current _ current))

theorem ofLine_fits {line : List Char} {entry : Entry} (one_line : '\n' ∉ line)
    (read : Entry.ofLine? line = some entry) :
    trim entry.text = entry.text ∧ '\n' ∉ entry.text := by
  unfold Entry.ofLine? at read
  split at read
  · cases read
  · rename_i sigil rest shape
    split at read
    · cases read
    · cases read
      refine ⟨trim_trim rest, ?_⟩
      intro feed
      have inside : '\n' ∈ trim line := by
        rw [shape]
        exact List.mem_cons_of_mem sigil (trim_subset rest feed)
      exact one_line (trim_subset line inside)

theorem Draft.Runs.printable {entries : List Entry} (run : draft.Runs entries next)
    (each : ∀ entry ∈ entries, trim entry.text = entry.text ∧ '\n' ∉ entry.text)
    (printable : draft.Printable) : next.Printable := by
  induction run with
  | nil => exact printable
  | cons step _ ih =>
    simp only [List.mem_cons, forall_eq_or_imp] at each
    exact ih each.2 (step.printable each.1.1 each.1.2 printable)

theorem read_printable {text : String} {script : Script} (ok : read text = .ok script) :
    script.Printable := by
  obtain ⟨last, run, rfl⟩ := read_runs ok
  have start : Draft.Printable {} := ⟨by simp, by simp, by simp, by simp⟩
  refine (run.printable ?_ start).finish
  intro entry member
  obtain ⟨line, listed, read⟩ := List.mem_filterMap.mp member
  exact ofLine_fits (line_in_one listed) read

end Invariant

/-- What can be read is printable, and what is printable is read as it was written. -/
theorem reading_inverts_printing :
    (∀ (text : String) (script : Script), read text = .ok script → script.Printable) ∧
      ∀ script : Script, script.Printable → read script.written = .ok script := by
  constructor
  · intro text script ok
    exact read_printable ok
  · intro script printable
    exact read_written printable

def travelScript : Script where
  gambits := [{ trigger := some "hello", replies := ["hi", "good day"] }]
  topics := [
    { name := "~travel-plans"
      flags := (∅ : Flags).insert "keep" "keep" |>.insert "system" "no"
      keywords := ["trip", "hotel"]
      filter := some "ready(user)"
      gambits := [
        { trigger := some "where to *", replies := ["Rome"], conversation := some "hi"
          redirect := some "hello" }] },
    { name := "rest" }]

theorem travelScript_printable : travelScript.Printable := by decide

set_option maxRecDepth 4000 in
theorem travel_script_is_read_back :
    travelScript.Printable ∧
      travelScript.written =
        "+ hello\n- hi\n- good day\n" ++
        "> topic ~travel-plans \x7bkeep=keep, system=no\x7d (trip hotel) ^ready(user)\n" ++
        "+ where to *\n- Rome\n% hi\n@ hello\n< topic\n" ++
        "> topic rest\n< topic\n" ∧
      read travelScript.written = .ok travelScript := by
  refine ⟨travelScript_printable, ?_, reading_inverts_printing.2 _ travelScript_printable⟩
  rfl

end DialogueScript.Script
