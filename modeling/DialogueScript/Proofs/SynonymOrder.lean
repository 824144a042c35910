import DialogueScript.Compile.Directory
import DialogueScript.Concept.Load
import DialogueScript.Proofs.Tables
import Mathlib.Data.List.Induction

/- Loading synonyms in an order that nobody chooses. A parsed table is a set of entries, and the
   later of two entries for one word holds. The order stays hidden just if no word is spelled in two
   ways with different synonyms. -/
namespace DialogueScript
open Std

namespace Concept

/-- A table that is filled with the entries of a parsed one, in some order. -/
def Table.LoadedFrom (parsed : ExtTreeMap String (List String)) (table : Table) : Prop :=
  ∃ entries : List (String × List String), entries.Perm parsed.toList ∧ table = Table.ofList entries

/-- All spellings of a word have the same synonyms. -/
def SpellingsAgree (parsed : ExtTreeMap String (List String)) : Prop :=
  ∀ (first second : String) (words others : List String), parsed[first]? = some words →
    parsed[second]? = some others → lowercase first = lowercase second → words = others

theorem ofList_concat (entries : List (String × List String)) (entry : String × List String) :
    Table.ofList (entries ++ [entry]) = (Table.ofList entries).insert entry.1 entry.2 := by
  simp only [Table.ofList, List.foldl_append, List.foldl_cons, List.foldl_nil]

theorem lookup_after_insert (table : Table) (key word : String) (words : List String) :
    (table.insert key words).lookup word =
      if lowercase key = lowercase word then words else table.lookup word := by
  simp only [Table.lookup, Table.insert, lookup_insert]
  split <;> rfl

theorem lookup_ofList (entries : List (String × List String)) (word : String) :
    (∃ entry ∈ entries, lowercase entry.1 = lowercase word ∧
        (Table.ofList entries).lookup word = entry.2) ∨
      ((∀ entry ∈ entries, lowercase entry.1 ≠ lowercase word) ∧
        (Table.ofList entries).lookup word = []) := by
  induction entries using List.reverseRecOn with
  | nil => exact .inr ⟨by simp, by simp [Table.ofList, Table.lookup]⟩
  | append_singleton entries last ih =>
    rw [ofList_concat, lookup_after_insert]
    by_cases same : lowercase last.1 = lowercase word
    · rw [if_pos same]
      exact .inl ⟨last, by simp, same, rfl⟩
    · rw [if_neg same]
      rcases ih with ⟨entry, member, spelled, found⟩ | ⟨none, nothing⟩
      · exact .inl ⟨entry, List.mem_append_left _ member, spelled, found⟩
      · refine .inr ⟨?_, nothing⟩
        intro entry member
        rcases List.mem_append.mp member with early | late
        · exact none entry early
        · rw [List.mem_singleton.mp late]
          exact same

section Loaded

variable {parsed : ExtTreeMap String (List String)}

theorem mem_entries_iff {entries : List (String × List String)}
    (order : entries.Perm parsed.toList) {key : String} {words : List String} :
    (key, words) ∈ entries ↔ parsed[key]? = some words :=
  order.mem_iff.trans ExtTreeMap.mem_toList_iff_getElem?_eq_some

theorem Table.LoadedFrom.lookup {table : Table} (loaded : table.LoadedFrom parsed) (word : String) :
    (∃ key words, parsed[key]? = some words ∧ lowercase key = lowercase word ∧
        table.lookup word = words) ∨
      ((∀ key words, parsed[key]? = some words → lowercase key ≠ lowercase word) ∧
        table.lookup word = []) := by
  obtain ⟨entries, order, rfl⟩ := loaded
  rcases lookup_ofList entries word with ⟨entry, member, spelled, found⟩ | ⟨none, nothing⟩
  · exact .inl ⟨entry.1, entry.2, (mem_entries_iff order).mp member, spelled, found⟩
  · refine .inr ⟨?_, nothing⟩
    intro key words stored
    exact none (key, words) ((mem_entries_iff order).mpr stored)

/-- Any entry may be the one that holds. -/
theorem loaded_with_last {key : String} {words : List String} (stored : parsed[key]? = some words) :
    ∃ table : Table, table.LoadedFrom parsed ∧ table.lookup key = words := by
  have listed := ExtTreeMap.mem_toList_iff_getElem?_eq_some.mpr stored
  refine ⟨Table.ofList (parsed.toList.erase (key, words) ++ [(key, words)]), ⟨_, ?_, rfl⟩, ?_⟩
  · exact (List.perm_append_singleton _ _).trans (List.perm_cons_erase listed).symm
  · rw [ofList_concat, lookup_after_insert, if_pos rfl]

theorem SpellingsAgree.same_lookup (agree : SpellingsAgree parsed) (first second : Table)
    (one : first.LoadedFrom parsed) (other : second.LoadedFrom parsed) (word : String) :
    first.lookup word = second.lookup word := by
  rcases one.lookup word with ⟨key, words, stored, spelled, found⟩ | ⟨none, nothing⟩
  · rcases other.lookup word with ⟨key', words', stored', spelled', found'⟩ | ⟨none', _⟩
    · rw [found, found']
      exact agree key key' words words' stored stored' (spelled.trans spelled'.symm)
    · exact absurd spelled (none' key words stored)
  · rcases other.lookup word with ⟨key', words', stored', spelled', _⟩ | ⟨_, nothing'⟩
    · exact absurd spelled' (none key' words' stored')
    · rw [nothing, nothing']

end Loaded

end Concept

def Options.withSynonyms (options : Options) (table : Concept.Table) : Options :=
  { options with sources := { options.sources with dictionary := some table.source } }

theorem withSynonyms_congr {first second : Concept.Table}
    (same : ∀ word, first.lookup word = second.lookup word) (options : Options) :
    options.withSynonyms first = options.withSynonyms second := by
  have sources : first.source = second.source := by
    funext word
    simp only [Concept.Table.source, same]
  rw [Options.withSynonyms, Options.withSynonyms, sources]

/-- The order in which a synonym table is loaded shows in no lookup just if all spellings of a word
have the same synonyms. A directory is then compiled alike with every order, and the order of the
keys is one of them. -/
theorem load_order_is_hidden_iff (parsed : ExtTreeMap String (List String)) :
    ((∀ first second : Concept.Table, first.LoadedFrom parsed → second.LoadedFrom parsed →
        ∀ word, first.lookup word = second.lookup word) ↔ Concept.SpellingsAgree parsed) ∧
    (Concept.SpellingsAgree parsed → ∀ first second : Concept.Table, first.LoadedFrom parsed →
      second.LoadedFrom parsed → ∀ (options : Options) (tree : FileTree) (root : String),
        compileDirectory (options.withSynonyms first) tree root =
          compileDirectory (options.withSynonyms second) tree root) ∧
    (Concept.Table.ofParsed parsed).LoadedFrom parsed := by
  refine ⟨⟨?_, Concept.SpellingsAgree.same_lookup⟩, ?_, ⟨_, List.Perm.refl _, rfl⟩⟩
  · intro same key other words others stored stored' spelled
    obtain ⟨first, loaded, found⟩ := Concept.loaded_with_last stored
    obtain ⟨second, loaded', found'⟩ := Concept.loaded_with_last stored'
    have lower : second.lookup key = second.lookup other := by
      simp only [Concept.Table.lookup, spelled]
    rw [← found, ← found', ← lower]
    exact same first second loaded loaded' key
  · intro agree first second one other options tree root
    rw [withSynonyms_congr (agree.same_lookup first second one other) options]

def agreeingSpellings : ExtTreeMap String (List String) :=
  ExtTreeMap.ofList [("Greeting", ["hi"]), ("greeting", ["hi"])]

def agreeingBackwards : Concept.Table :=
  Concept.Table.ofList [("greeting", ["hi"]), ("Greeting", ["hi"])]

theorem agreeing_spellings_hide_the_order :
    Concept.SpellingsAgree agreeingSpellings ∧ agreeingBackwards.LoadedFrom agreeingSpellings ∧
      agreeingBackwards.lookup "GREETING" =
        (Concept.Table.ofParsed agreeingSpellings).lookup "GREETING" := by
  have listed : agreeingSpellings.toList = [("Greeting", ["hi"]), ("greeting", ["hi"])] := rfl
  have agree : Concept.SpellingsAgree agreeingSpellings := by
    intro first second words others stored stored' _
    rw [← ExtTreeMap.mem_toList_iff_getElem?_eq_some, listed] at stored stored'
    simp only [List.mem_cons, Prod.mk.injEq, List.not_mem_nil, or_false, ← or_and_right]
      at stored stored'
    rw [stored.2, stored'.2]
  have backwards : agreeingBackwards.LoadedFrom agreeingSpellings :=
    ⟨_, listed ▸ List.Perm.swap _ _ _, rfl⟩
  have hidden := load_order_is_hidden_iff agreeingSpellings
  exact ⟨agree, backwards, hidden.1.mpr agree _ _ backwards hidden.2.2 "GREETING"⟩

def disagreeingSpellings : ExtTreeMap String (List String) :=
  ExtTreeMap.ofList [("PET", ["cat"]), ("pet", ["dog"])]

def capitalsFirst : Concept.Table := Concept.Table.ofList [("PET", ["cat"]), ("pet", ["dog"])]

def capitalsLast : Concept.Table := Concept.Table.ofList [("pet", ["dog"]), ("PET", ["cat"])]

-- Loaded in two orders, the same synonyms make two patterns of one trigger.
set_option maxRecDepth 4000 in
theorem disagreeing_spellings_show_the_order :
    capitalsFirst.LoadedFrom disagreeingSpellings ∧ capitalsLast.LoadedFrom disagreeingSpellings ∧
      capitalsFirst.lookup "pet" = ["dog"] ∧ capitalsLast.lookup "pet" = ["cat"] ∧
      normalizeTrigger (Options.withSynonyms {} capitalsFirst) "~pet" =
        .ok "(?=^|\\s)\\s*(dog|pet)(?=\\s|$)\\s*" ∧
      normalizeTrigger (Options.withSynonyms {} capitalsLast) "~pet" =
        .ok "(?=^|\\s)\\s*(cat|pet)(?=\\s|$)\\s*" := by
  have listed : disagreeingSpellings.toList = [("PET", ["cat"]), ("pet", ["dog"])] := rfl
  refine ⟨⟨_, ?_, rfl⟩, ⟨_, ?_, rfl⟩, by rfl, by rfl, by rfl, by rfl⟩
  · rw [listed]
  · rw [listed]
    exact List.Perm.swap _ _ _

end DialogueScript
