import Mathlib.Order.Defs.LinearOrder
import Mathlib.Tactic

/-! Finite maps that are kept in the order of their keys, so that two maps with the same entries are
iterated the same way. A lookup after an insertion, and the entries as a relation between keys and
values, are all a user needs to know. -/
namespace Nmux.Lib

variable {κ ν μ : Type} [LinearOrder κ]

@[ext]
structure OrderedMap (κ ν : Type) [LinearOrder κ] where
  entries : List (κ × ν)
  sorted : (entries.map Prod.fst).Pairwise (· < ·)

namespace OrderedMap

/-- The entries with one more, in place of that of the same key. -/
def insertEntry (key : κ) (value : ν) : List (κ × ν) → List (κ × ν)
  | [] => [(key, value)]
  | entry :: rest =>
    if key < entry.1 then (key, value) :: entry :: rest
    else if key = entry.1 then (key, value) :: rest
    else entry :: insertEntry key value rest

theorem mem_insertEntry_key {key : κ} {value : ν} {entries : List (κ × ν)} {k : κ}
    (h : k ∈ (insertEntry key value entries).map Prod.fst) : k = key ∨ k ∈ entries.map Prod.fst := by
  induction entries with
  | nil => exact .inl (by simpa [insertEntry] using h)
  | cons entry rest ih =>
    rw [insertEntry] at h
    split at h
    · simpa using h
    · split at h
      · rcases List.mem_cons.mp h with hk | hk
        · exact .inl hk
        · exact .inr (List.mem_cons_of_mem _ hk)
      · rcases List.mem_cons.mp h with hk | hk
        · exact .inr (hk ▸ List.mem_cons_self)
        · exact (ih hk).imp_right (List.mem_cons_of_mem _)

theorem insertEntry_sorted {key : κ} {value : ν} {entries : List (κ × ν)}
    (h : (entries.map Prod.fst).Pairwise (· < ·)) :
    ((insertEntry key value entries).map Prod.fst).Pairwise (· < ·) := by
  induction entries with
  | nil => simp [insertEntry]
  | cons entry rest ih =>
    obtain ⟨hfirst, hrest⟩ := List.pairwise_cons.mp h
    rw [insertEntry]
    split
    case isTrue hlt =>
      refine List.pairwise_cons.mpr ⟨fun k hk => ?_, h⟩
      rcases List.mem_cons.mp hk with rfl | hk
      · exact hlt
      · exact hlt.trans (hfirst k hk)
    case isFalse hlt =>
      split
      case isTrue heq => exact List.pairwise_cons.mpr ⟨heq ▸ hfirst, hrest⟩
      case isFalse hne =>
        refine List.pairwise_cons.mpr ⟨fun k hk => ?_, ih hrest⟩
        rcases mem_insertEntry_key hk with rfl | hk
        · exact lt_of_le_of_ne (not_lt.mp hlt) (Ne.symm hne)
        · exact hfirst k hk

def empty : OrderedMap κ ν := ⟨[], List.Pairwise.nil⟩

def get? (map : OrderedMap κ ν) (key : κ) : Option ν :=
  (map.entries.find? (·.1 == key)).map (·.2)

def insert (map : OrderedMap κ ν) (key : κ) (value : ν) : OrderedMap κ ν :=
  ⟨insertEntry key value map.entries, insertEntry_sorted map.sorted⟩

/-- The map without a key. -/
def erase (map : OrderedMap κ ν) (key : κ) : OrderedMap κ ν where
  entries := map.entries.filter (·.1 != key)
  sorted := map.sorted.sublist (List.filter_sublist.map _)

/-- Every value changed. -/
def mapValues (f : ν → μ) (map : OrderedMap κ ν) : OrderedMap κ μ where
  entries := map.entries.map fun entry => (entry.1, f entry.2)
  sorted := by simpa [Function.comp_def] using map.sorted

/-- The values in the order of their keys. -/
def values (map : OrderedMap κ ν) : List ν := map.entries.map (·.2)

/-- The keys in order. -/
def keys (map : OrderedMap κ ν) : List κ := map.entries.map (·.1)

/-! ### Lookups -/

variable {map : OrderedMap κ ν} {key k : κ} {value v : ν}

@[simp] theorem get?_empty : (empty : OrderedMap κ ν).get? k = none := rfl

theorem find?_insertEntry {entries : List (κ × ν)} :
    (insertEntry key value entries).find? (·.1 == k) =
      if k = key then some (key, value) else entries.find? (·.1 == k) := by
  induction entries with
  | nil =>
    by_cases h : k = key
    · simp [insertEntry, h]
    · simp [insertEntry, h, Ne.symm h]
  | cons entry rest ih =>
    rw [insertEntry]
    by_cases hk : k = key
    · subst hk
      split
      · simp
      · split
        · simp
        case isFalse hne =>
          rw [List.find?_cons_of_neg (by simpa using Ne.symm hne), ih, if_pos rfl, if_pos rfl]
    · have hne : ¬ key = k := fun h => hk h.symm
      rw [if_neg hk] at ih ⊢
      split
      · exact List.find?_cons_of_neg (by simpa using hne)
      · split
        case isTrue heq =>
          rw [List.find?_cons_of_neg (by simpa using hne),
            List.find?_cons_of_neg (by simpa [← heq] using hne)]
        case isFalse => rw [List.find?_cons, List.find?_cons, ih]

theorem get?_insert :
    (map.insert key value).get? k = if k = key then some value else map.get? k := by
  rw [get?, get?, insert, find?_insertEntry]
  split <;> rfl

@[simp] theorem get?_insert_self : (map.insert key value).get? key = some value := by
  rw [get?_insert, if_pos rfl]

theorem get?_insert_of_ne (h : k ≠ key) : (map.insert key value).get? k = map.get? k := by
  rw [get?_insert, if_neg h]

@[simp] theorem get?_mapValues (f : ν → μ) : (map.mapValues f).get? k = (map.get? k).map f := by
  simp only [get?, mapValues, List.find?_map, Option.map_map, Function.comp_def]

/-- The entries are the pairs the lookup relates. -/
theorem mem_entries : (k, v) ∈ map.entries ↔ map.get? k = some v := by
  obtain ⟨entries, sorted⟩ := map
  rw [get?]
  induction entries with
  | nil => simp
  | cons entry rest ih =>
    obtain ⟨hfirst, hrest⟩ := List.pairwise_cons.mp sorted
    have ih := ih hrest
    by_cases hk : entry.1 = k
    · have hother : (k, v) ∉ rest := fun hmem =>
        lt_irrefl k (hk ▸ hfirst k (List.mem_map.mpr ⟨_, hmem, rfl⟩))
      rw [List.find?_cons_of_pos (by simpa using hk), List.mem_cons, or_iff_left hother]
      constructor
      · intro h
        rw [← h]
        rfl
      · intro h
        rw [← hk, ← Option.some.inj h]
    · rw [List.find?_cons_of_neg (by simpa using hk), List.mem_cons, ← ih]
      exact or_iff_right fun h => hk (h ▸ rfl)

theorem mem_values : v ∈ map.values ↔ ∃ k, map.get? k = some v := by
  simp only [values, List.mem_map, Prod.exists, exists_eq_right, mem_entries]

theorem mem_keys : k ∈ map.keys ↔ (map.get? k).isSome := by
  simp only [keys, List.mem_map, Prod.exists, exists_and_right, exists_eq_right, mem_entries,
    Option.isSome_iff_exists]

theorem keys_nodup : map.keys.Nodup := map.sorted.imp ne_of_lt

theorem mem_keys_insert : k ∈ (map.insert key value).keys ↔ k = key ∨ k ∈ map.keys := by
  rw [mem_keys, mem_keys, get?_insert]
  by_cases h : k = key <;> simp [h]

theorem mem_keys_erase : k ∈ (map.erase key).keys ↔ k ≠ key ∧ k ∈ map.keys := by
  simp only [keys, erase, List.mem_map, List.mem_filter, bne_iff_ne]
  constructor
  · rintro ⟨entry, ⟨hmem, hne⟩, rfl⟩
    exact ⟨hne, entry, hmem, rfl⟩
  · rintro ⟨hne, entry, hmem, rfl⟩
    exact ⟨entry, ⟨hmem, hne⟩, rfl⟩

end OrderedMap

end Nmux.Lib
