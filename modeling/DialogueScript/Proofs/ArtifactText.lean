import DialogueScript.Artifact.Reader
import DialogueScript.Artifact.Writer
import DialogueScript.Proofs.JsonText
import DialogueScript.Proofs.Tables

/- Persisted artifacts. Each record has a JSON form that is shallow enough to be read and that gives
   the record back, with any of its optional parts absent or present. -/
namespace DialogueScript

namespace Json
open Std

theorem mapM_inverse {f : α → β} {g : β → Option α} (inverse : ∀ x, g (f x) = some x)
    (xs : List α) : (xs.map f).mapM g = some xs := by
  induction xs with
  | nil => rfl
  | cons x xs ih => simp [inverse, ih]

section Parts

variable {f : α → Json} {value? : Json → Option α}

theorem list_ofList (inverse : ∀ value, value? (f value) = some value) (values : List α) :
    list? value? (ofList f values) = some values :=
  mapM_inverse inverse values

theorem table_ofTable (inverse : ∀ value, value? (f value) = some value)
    (table : ExtTreeMap String α) : table? value? (ofTable f table) = some table := by
  have back : (table.toList.map fun entry => (entry.1, f entry.2)).mapM
      (fun entry => (value? entry.2).map (entry.1, ·)) = some table.toList := by
    apply mapM_inverse
    intro entry
    simp [inverse]
  simp only [table?, ofTable, back]
  exact congrArg some (table_of_entries table)

theorem optional_ofOption (inverse : ∀ value, value? (f value) = some value)
    (solid : ∀ value, f value ≠ .null) (value : Option α) :
    optional? value? (some (ofOption f value)) = some value := by
  cases value with
  | none => rfl
  | some value =>
    simp only [optional?, ofOption, nullable?]
    split
    · exact absurd (by assumption) (solid value)
    · simp [inverse]

/- Shallow values. -/

theorem readable_list {depth : Nat} (each : ∀ value, Readable depth (f value)) (values : List α) :
    Readable (depth + 1) (ofList f values) := by
  apply Readable.array
  intro element member
  obtain ⟨value, _, rfl⟩ := List.mem_map.mp member
  exact each value

theorem readable_table {depth : Nat} (each : ∀ value, Readable depth (f value))
    (table : ExtTreeMap String α) : Readable (depth + 1) (ofTable f table) := by
  apply Readable.object
  intro member held
  obtain ⟨entry, _, rfl⟩ := List.mem_map.mp held
  exact each entry.2

theorem readable_option {depth : Nat} (each : ∀ value, Readable depth (f value))
    (value : Option α) : Readable depth (ofOption f value) := by
  cases value with
  | none => exact .null
  | some value => exact each value

theorem readable_present {depth : Nat} (name : String) (each : ∀ value, Readable depth (f value))
    (value : Option α) : ∀ member ∈ present name f value, Readable depth member.2 := by
  cases value with
  | none => simp [present]
  | some value => simpa [present] using each value

end Parts

end Json

namespace Graph
open Json

theorem trigger_readable (depth : Nat) (trigger : Trigger) :
    Readable (depth + 1) trigger.toJson := by
  apply Readable.object
  simp only [List.mem_cons, forall_eq_or_imp]
  exact ⟨.string _, readable_present _ .string _⟩

theorem reply_readable (depth : Nat) (reply : Reply) : Readable (depth + 1) reply.toJson := by
  apply Readable.object
  simp only [List.mem_cons, List.not_mem_nil, forall_eq_or_imp, false_imp_iff, implies_true,
    and_true]
  exact ⟨.string _, .string _⟩

theorem topic_readable (depth : Nat) (topic : Topic) : Readable (depth + 2) topic.toJson := by
  apply Readable.object
  simp only [List.mem_cons, List.not_mem_nil, forall_eq_or_imp, false_imp_iff, implies_true,
    and_true]
  exact ⟨.string _, readable_table .string _, readable_list .string _, readable_option .string _,
    readable_list .string _⟩

theorem gambit_readable (depth : Nat) (gambit : Gambit) : Readable (depth + 2) gambit.toJson := by
  apply Readable.object
  simp only [List.mem_append, List.mem_cons, List.not_mem_nil, or_false, or_imp, forall_and,
    forall_eq]
  refine ⟨⟨⟨.string _, .string _, ?_, readable_list .string _, ?_⟩, ?_⟩, ?_⟩
  · exact readable_option (trigger_readable depth) _
  · exact readable_option (readable_list .string) _
  · exact readable_present _ (trigger_readable depth) _
  · exact readable_present _ .string _

theorem members_readable (depth : Nat) (graph : Graph) :
    ∀ member ∈ graph.members, Readable (depth + 3) member.2 := by
  simp only [members, List.mem_cons, List.not_mem_nil, forall_eq_or_imp, false_imp_iff,
    implies_true, and_true]
  exact ⟨readable_table (topic_readable depth) _, readable_table (gambit_readable depth) _,
    readable_table (reply_readable (depth + 1)) _⟩

/- Reading each record back. -/

theorem string_back (text : String) : string? (.string text) = some text := rfl

theorem trigger_back (trigger : Trigger) : Trigger.ofJson? trigger.toJson = some trigger := by
  obtain ⟨raw, clean⟩ := trigger
  cases clean with
  | none => rfl
  | some clean => rfl

theorem reply_back (reply : Reply) : Reply.ofJson? reply.toJson = some reply := rfl

theorem topic_back (topic : Topic) : Topic.ofJson? topic.toJson = some topic := by
  have flags := table_ofTable string_back topic.flags
  have keywords := list_ofList string_back topic.keywords
  have gambits := list_ofList string_back topic.gambits
  have filter := optional_ofOption string_back (by simp) topic.filter
  have fields : topic.toJson.record? ["name", "flags", "keywords", "filter", "gambits"] 5 =
      some [some (.string topic.name), some (ofTable .string topic.flags),
        some (ofList .string topic.keywords), some (ofOption .string topic.filter),
        some (ofList .string topic.gambits)] := rfl
  simp only [Topic.ofJson?, fields, required?, Option.bind_some, string_back, flags, keywords,
    filter, gambits, Option.bind_eq_bind, Option.pure_def]

theorem conversation_of_parts (conversation : Option Conversation) :
    Conversation.ofParts (conversation.map (·.replies)) (conversation.map Conversation.pattern) =
      conversation := by
  cases conversation with
  | none => rfl
  | some conversation => rfl

theorem gambit_fields (gambit : Gambit) :
    gambit.toJson.record? ["id", "topic", "trigger", "replies", "conversation",
        "conversation_pattern", "redirect"] 5 =
      some [some (.string gambit.id), some (.string gambit.topic),
        some (ofOption Trigger.toJson gambit.trigger), some (ofList .string gambit.replies),
        some (ofOption (ofList .string) (gambit.conversation.map (·.replies))),
        (gambit.conversation.map Conversation.pattern).map Trigger.toJson,
        gambit.redirect.map .string] := by
  obtain ⟨id, topic, trigger, replies, conversation, redirect⟩ := gambit
  cases conversation with
  | none =>
    cases redirect with
    | none => rfl
    | some redirect => rfl
  | some conversation =>
    cases redirect with
    | none => rfl
    | some redirect => rfl

theorem optional_present {α : Type} {f : α → Json} {value? : Json → Option α}
    (inverse : ∀ value, value? (f value) = some value) (solid : ∀ value, f value ≠ .null)
    (value : Option α) : optional? value? (value.map f) = some value := by
  cases value with
  | none => rfl
  | some value => exact optional_ofOption inverse solid (some value)

theorem gambit_back (gambit : Gambit) : Gambit.ofJson? gambit.toJson = some gambit := by
  have triggers : ∀ trigger : Trigger, trigger.toJson ≠ .null := by simp [Trigger.toJson]
  have trigger := optional_ofOption trigger_back triggers gambit.trigger
  have replies := list_ofList string_back gambit.replies
  have conversation := optional_ofOption (list_ofList string_back) (by simp [ofList])
    (gambit.conversation.map (·.replies))
  have pattern := optional_present trigger_back triggers
    (gambit.conversation.map Conversation.pattern)
  have redirect := optional_present string_back (by simp) gambit.redirect
  simp only [Gambit.ofJson?, gambit_fields, required?, Option.bind_some, string_back, trigger,
    replies, conversation, pattern, redirect, conversation_of_parts, Option.bind_eq_bind,
    Option.pure_def]

end Graph

theorem version_back (version : UInt32) : version? (Json.ofNat version.toNat) = some version := by
  have digits : (Nat.toDigits 10 version.toNat).all Char.isDigit = true :=
    List.all_eq_true.mpr fun _ member =>
      Nat.isDigit_of_mem_toDigits (by decide) (by decide) member
  have small : version.toNat < UInt32.size := version.toNat_lt_size
  simp [version?, Json.ofNat, digits, Json.digitsValue_toDigits, small]

theorem graph_back {graph : Graph} {members : List (String × Json)}
    (topics : Json.field? members "topics" =
      some (some (Json.ofTable Graph.Topic.toJson graph.topics)))
    (gambits : Json.field? members "gambits" =
      some (some (Json.ofTable Graph.Gambit.toJson graph.gambits)))
    (replies : Json.field? members "replies" =
      some (some (Json.ofTable Graph.Reply.toJson graph.replies))) :
    Graph.ofMembers? members = some graph := by
  have topicTable := Json.table_ofTable Graph.topic_back graph.topics
  have gambitTable := Json.table_ofTable Graph.gambit_back graph.gambits
  have replyTable := Json.table_ofTable Graph.reply_back graph.replies
  simp only [Graph.ofMembers?, topics, gambits, replies, Json.required?, Option.bind_some,
    topicTable, gambitTable, replyTable, Option.bind_eq_bind, Option.pure_def]

theorem base_back (base : KnowledgeBase) : KnowledgeBase.ofJson? base.toJson = some base := by
  have held : Json.members? base.toJson = some (base.graph.members ++
      [("checksums", Json.ofTable .string base.checksums),
        ("version", Json.ofNat base.version.toNat)]) := rfl
  have graph : Graph.ofMembers? (base.graph.members ++
      [("checksums", Json.ofTable .string base.checksums),
        ("version", Json.ofNat base.version.toNat)]) = some base.graph :=
    graph_back rfl rfl rfl
  have checksums := Json.table_ofTable Graph.string_back base.checksums
  have version := version_back base.version
  simp only [KnowledgeBase.ofJson?, held, graph, Option.bind_eq_bind, Option.bind_some,
    Option.pure_def]
  simp [Json.field?, Graph.members, Json.required?, checksums, version]

theorem script_back (script : CompiledScript) :
    CompiledScript.ofJson? script.toJson = some { script with diagnostics := [] } := by
  have held : Json.members? script.toJson =
      some (("version", Json.ofNat script.version.toNat) :: script.graph.members) := rfl
  have graph : Graph.ofMembers?
      (("version", Json.ofNat script.version.toNat) :: script.graph.members) =
      some script.graph :=
    graph_back rfl rfl rfl
  have version := version_back script.version
  simp only [CompiledScript.ofJson?, held, graph, Option.bind_eq_bind, Option.bind_some,
    Option.pure_def]
  simp [Json.field?, Graph.members, Json.required?, version]

theorem version_readable (depth : Nat) (version : UInt32) :
    Json.Readable depth (Json.ofNat version.toNat) :=
  .number version.toNat_lt_size

theorem base_readable (depth : Nat) (base : KnowledgeBase) :
    Json.Readable (depth + 4) base.toJson := by
  apply Json.Readable.object
  simp only [List.mem_append, List.mem_cons, List.not_mem_nil, or_false, or_imp, forall_and,
    forall_eq]
  exact ⟨Graph.members_readable depth base.graph, Json.readable_table .string _,
    version_readable _ _⟩

theorem script_readable (depth : Nat) (script : CompiledScript) :
    Json.Readable (depth + 4) script.toJson := by
  apply Json.Readable.object
  simp only [List.mem_cons, forall_eq_or_imp]
  exact ⟨version_readable _ _, Graph.members_readable depth script.graph⟩

/-- What is persisted is read back as it was, from either way of writing it. Only the diagnostics of
a script are not persisted. -/
theorem artifacts_read_back :
    (∀ base : KnowledgeBase, KnowledgeBase.read? base.toJson.compact = some base ∧
      KnowledgeBase.read? base.toJson.pretty = some base) ∧
    ∀ script : CompiledScript,
      CompiledScript.read? script.toJson.compact = some { script with diagnostics := [] } ∧
      CompiledScript.read? script.toJson.pretty = some { script with diagnostics := [] } := by
  constructor
  · intro base
    obtain ⟨compact, pretty⟩ := Json.read_written (base_readable 123 base)
    simp only [KnowledgeBase.read?, compact, pretty, Option.bind_some, base_back, and_self]
  · intro script
    obtain ⟨compact, pretty⟩ := Json.read_written (script_readable 123 script)
    simp only [CompiledScript.read?, compact, pretty, Option.bind_some, script_back, and_self]

end DialogueScript
