import Std.Data.ExtTreeMap

/- Tables keyed by text, seen through their lookups. Values come in the order of their keys, and
   names that agree with the keys therefore come in ascending order. -/
namespace DialogueScript
open Std

theorem compare_text_lt_iff {a b : String} : compare a b = .lt ↔ a < b :=
  compareOfLessAndEq_eq_lt

theorem lookup_insert (table : ExtTreeMap String β) (key other : String) (value : β) :
    (table.insert key value)[other]? = if key = other then some value else table[other]? := by
  rw [ExtTreeMap.getElem?_insert]
  simp only [Std.compare_eq_iff_eq]

theorem mem_iff_lookup {table : ExtTreeMap String β} {key : String} :
    key ∈ table ↔ ∃ value, table[key]? = some value := by
  rw [ExtTreeMap.mem_iff_isSome_getElem?, Option.isSome_iff_exists]

theorem not_mem_iff_lookup {table : ExtTreeMap String β} {key : String} :
    key ∉ table ↔ table[key]? = none := by
  rw [ExtTreeMap.mem_iff_isSome_getElem?, Option.not_isSome_iff_eq_none]

theorem values_eq_map_toList (table : ExtTreeMap String β) :
    table.values = table.toList.map Prod.snd := by
  obtain ⟨⟨inner⟩⟩ := table
  induction inner using Quotient.ind with
  | _ tree =>
    change DTreeMap.Internal.Impl.values tree.inner =
      (DTreeMap.Internal.Impl.Const.toList tree.inner).map Prod.snd
    rw [DTreeMap.Internal.Impl.values_eq_map_snd,
      DTreeMap.Internal.Impl.Const.toList_eq_toListModel_map]
    simp [Function.comp_def]

theorem mem_values_iff {table : ExtTreeMap String β} {value : β} :
    value ∈ table.values ↔ ∃ key : String, table[key]? = some value := by
  rw [values_eq_map_toList, List.mem_map]
  constructor
  · rintro ⟨⟨key, held⟩, member, rfl⟩
    exact ⟨key, ExtTreeMap.mem_toList_iff_getElem?_eq_some.mp member⟩
  · rintro ⟨key, found⟩
    exact ⟨(key, value), ExtTreeMap.mem_toList_iff_getElem?_eq_some.mpr found, rfl⟩

theorem keys_ascending (table : ExtTreeMap String β) : table.keys.Pairwise (· < ·) :=
  table.ordered_keys.imp compare_text_lt_iff.mp

theorem names_of_values {table : ExtTreeMap String β} {name : β → String}
    (agree : ∀ key value, table[key]? = some value → name value = key) :
    table.values.map name = table.keys := by
  rw [values_eq_map_toList, ← ExtTreeMap.map_fst_toList_eq_keys, List.map_map]
  apply List.map_congr_left
  rintro ⟨key, value⟩ member
  exact agree key value (ExtTreeMap.mem_toList_iff_getElem?_eq_some.mp member)

theorem names_of_filtered_values_ascending {table : ExtTreeMap String β} {name : β → String}
    (agree : ∀ key value, table[key]? = some value → name value = key) (test : β → Bool) :
    ((table.values.filter test).map name).Pairwise (· < ·) := by
  have sublist : ((table.values.filter test).map name).Sublist (table.values.map name) :=
    List.filter_sublist.map name
  rw [names_of_values agree] at sublist
  exact (keys_ascending table).sublist sublist

theorem name_of_filtered_value_known {table : ExtTreeMap String β} {name : β → String}
    (agree : ∀ key value, table[key]? = some value → name value = key) (test : β → Bool)
    {id : String} (member : id ∈ (table.values.filter test).map name) : id ∈ table := by
  obtain ⟨value, filtered, rfl⟩ := List.mem_map.mp member
  obtain ⟨key, found⟩ := mem_values_iff.mp (List.mem_filter.mp filtered).1
  rw [agree key value found]
  exact mem_iff_lookup.mpr ⟨value, found⟩

theorem values_map (table : ExtTreeMap String α) (f : α → β) :
    (table.map fun _ value => f value).values = table.values.map f := by
  rw [values_eq_map_toList, values_eq_map_toList, ExtTreeMap.toList_map, List.map_map, List.map_map]
  rfl

theorem flatMap_values_agree {table : ExtTreeMap String α} {other : ExtTreeMap String β}
    {f : α → List γ} {g : β → List γ}
    (agree : ∀ key : String, table[key]?.map f = other[key]?.map g) :
    table.values.flatMap f = other.values.flatMap g := by
  have same : (table.map fun _ value => f value) = other.map fun _ value => g value := by
    apply ExtTreeMap.ext_getElem?
    intro key
    rw [ExtTreeMap.getElem?_map, ExtTreeMap.getElem?_map]
    exact agree key
  rw [List.flatMap_def, List.flatMap_def, ← values_map, ← values_map, same]

/-- What is found first among the values stands under the least key where it is found. -/
theorem findSome_values_iff {table : ExtTreeMap String α} {f : α → Option β} {result : β} :
    table.values.findSome? f = some result ↔
      ∃ (key : String) (value : α), table[key]? = some value ∧ f value = some result ∧
        ∀ other < key, ∀ earlier, table[other]? = some earlier → f earlier = none := by
  have ordered : table.toList.Pairwise fun first second => first.1 < second.1 :=
    ExtTreeMap.ordered_keys_toList.imp compare_text_lt_iff.mp
  rw [values_eq_map_toList, List.findSome?_map, List.findSome?_eq_some_iff]
  constructor
  · rintro ⟨before, ⟨key, value⟩, after, split, found, nothing⟩
    have there : (key, value) ∈ table.toList := by simp [split]
    refine ⟨key, value, ExtTreeMap.mem_toList_iff_getElem?_eq_some.mp there, found, ?_⟩
    intro other less earlier stored
    have listed := ExtTreeMap.mem_toList_iff_getElem?_eq_some.mpr stored
    rw [split] at listed ordered
    rcases List.mem_append.mp listed with early | late
    · exact nothing _ early
    · rcases List.mem_cons.mp late with same | late
      · rw [(Prod.mk.inj same).1] at less
        exact absurd less (String.lt_irrefl key)
      · have greater := (List.pairwise_cons.mp (List.pairwise_append.mp ordered).2.1).1 _ late
        exact absurd less (String.lt_asymm greater)
  · rintro ⟨key, value, stored, found, least⟩
    obtain ⟨before, after, split⟩ :=
      List.append_of_mem (ExtTreeMap.mem_toList_iff_getElem?_eq_some.mpr stored)
    refine ⟨before, (key, value), after, split, found, ?_⟩
    rintro ⟨other, earlier⟩ early
    have listed : (other, earlier) ∈ table.toList := by simp [split, early]
    rw [split] at ordered
    have less := (List.pairwise_append.mp ordered).2.2 _ early _ List.mem_cons_self
    exact least other less earlier (ExtTreeMap.mem_toList_iff_getElem?_eq_some.mp listed)

theorem table_of_entries (table : ExtTreeMap String α) :
    table.toList.foldl (fun table entry => table.insert entry.1 entry.2) ∅ = table := by
  have filled : ∀ (entries : List (String × α)) (start : ExtTreeMap String α),
      entries.foldl (fun table entry => table.insert entry.1 entry.2) start =
        start.insertMany entries := by
    intro entries
    induction entries with
    | nil => intro start; rw [List.foldl_nil, ExtTreeMap.insertMany_nil]
    | cons entry rest ih =>
      intro start
      rw [List.foldl_cons, ih, ExtTreeMap.insertMany_cons]
  rw [filled]
  apply ExtTreeMap.ext_getElem?
  intro key
  cases found : table[key]? with
  | none =>
    rw [ExtTreeMap.getElem?_insertMany_list_of_contains_eq_false]
    · simp
    · rw [ExtTreeMap.map_fst_toList_eq_keys, Bool.eq_false_iff]
      intro held
      exact not_mem_iff_lookup.mpr found (ExtTreeMap.mem_keys.mp (List.contains_iff_mem.mp held))
  | some value =>
    exact ExtTreeMap.getElem?_insertMany_list_of_mem (Std.compare_eq_iff_eq.mpr rfl)
      ExtTreeMap.distinct_keys_toList (ExtTreeMap.mem_toList_iff_getElem?_eq_some.mpr found)

end DialogueScript
