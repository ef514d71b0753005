import Mathlib.Data.List.Basic
import Mathlib.Order.Lattice

/-! Maps kept as the list of their entries in the order of the keys. -/

structure SortedMap (α β : Type*) [LinearOrder α] where
  entries : List (α × β)
  sorted : entries.Pairwise fun a b => a.1 < b.1

namespace SortedMap

variable {α β γ σ : Type*} [LinearOrder α]

/-! ### Lists of entries -/

/-- The entry takes the place of the one with its key, or its place in the order. -/
def insertEntry (key : α) (value : β) : List (α × β) → List (α × β)
  | [] => [(key, value)]
  | entry :: rest =>
    if key < entry.1 then (key, value) :: entry :: rest
    else if key = entry.1 then (key, value) :: rest
    else entry :: insertEntry key value rest

variable (key : α) {entries : List (α × β)}

theorem lookup_cons_eq (entry : α × β) (rest : List (α × β)) :
    (entry :: rest).lookup key = if key = entry.1 then some entry.2 else rest.lookup key := by
  rw [List.lookup_cons]
  by_cases h : key = entry.1
  · rw [if_pos h, h, beq_self_eq_true]
  · rw [if_neg h, beq_eq_false_iff_ne.mpr h]

theorem lookup_insertEntry (other : α) (value : β) (entries : List (α × β)) :
    (insertEntry key value entries).lookup other = if other = key then some value else entries.lookup other := by
  induction entries with
  | nil => rw [insertEntry, lookup_cons_eq]
  | cons entry rest ih =>
    unfold insertEntry
    by_cases hlt : key < entry.1
    · rw [if_pos hlt, lookup_cons_eq]
    · rw [if_neg hlt]
      by_cases heq : key = entry.1
      · rw [if_pos heq, lookup_cons_eq, lookup_cons_eq, ← heq]
        split_ifs <;> rfl
      · rw [if_neg heq, lookup_cons_eq, ih, lookup_cons_eq]
        by_cases hother : other = entry.1
        · rw [if_pos hother, if_pos hother, if_neg fun h => heq (h.symm.trans hother)]
        · rw [if_neg hother, if_neg hother]

theorem mem_insertEntry {key : α} {value : β} {entry : α × β} (h : entry ∈ insertEntry key value entries) :
    entry = (key, value) ∨ entry ∈ entries := by
  induction entries with
  | nil => exact Or.inl (List.mem_singleton.mp h)
  | cons first rest ih =>
    unfold insertEntry at h
    split_ifs at h
    · exact List.mem_cons.mp h
    · exact (List.mem_cons.mp h).imp_right (List.mem_cons_of_mem _)
    · rcases List.mem_cons.mp h with rfl | h
      · exact Or.inr List.mem_cons_self
      · exact (ih h).imp_right (List.mem_cons_of_mem _)

theorem sorted_insertEntry (value : β) (h : entries.Pairwise fun a b => a.1 < b.1) :
    (insertEntry key value entries).Pairwise fun a b => a.1 < b.1 := by
  induction entries with
  | nil => exact List.pairwise_singleton _ _
  | cons first rest ih =>
    obtain ⟨hfirst, hrest⟩ := List.pairwise_cons.mp h
    unfold insertEntry
    split_ifs with hlt heq
    · refine List.pairwise_cons.mpr ⟨fun entry hmem => ?_, h⟩
      rcases List.mem_cons.mp hmem with rfl | hmem
      · exact hlt
      · exact hlt.trans (hfirst entry hmem)
    · refine List.pairwise_cons.mpr ⟨fun entry hmem => ?_, hrest⟩
      rw [heq]
      exact hfirst entry hmem
    · refine List.pairwise_cons.mpr ⟨fun entry hmem => ?_, ih hrest⟩
      rcases mem_insertEntry hmem with rfl | hmem
      · exact lt_of_le_of_ne (not_lt.mp hlt) (Ne.symm heq)
      · exact hfirst entry hmem

theorem lookup_filter_ne (other : α) (entries : List (α × β)) :
    (entries.filter fun entry => entry.1 ≠ key).lookup other = if other = key then none else entries.lookup other := by
  induction entries with
  | nil =>
    split_ifs <;> rfl
  | cons entry rest ih =>
    by_cases hkey : entry.1 = key
    · rw [List.filter_cons_of_neg (by simp [hkey]), ih, lookup_cons_eq, hkey]
      split_ifs <;> rfl
    · rw [List.filter_cons_of_pos (by simp [hkey]), lookup_cons_eq, ih, lookup_cons_eq]
      by_cases hother : other = entry.1
      · rw [if_pos hother, if_pos hother, if_neg fun h => hkey (hother.symm.trans h)]
      · rw [if_neg hother, if_neg hother]

/-! ### Maps -/

theorem nodup_keys (m : SortedMap α β) : (m.entries.map Prod.fst).Nodup :=
  (List.pairwise_map.mpr m.sorted).imp ne_of_lt

def empty : SortedMap α β := ⟨[], List.Pairwise.nil⟩

def value (m : SortedMap α β) (key : α) : Option β := m.entries.lookup key

def insert (m : SortedMap α β) (key : α) (value : β) : SortedMap α β :=
  ⟨insertEntry key value m.entries, sorted_insertEntry key value m.sorted⟩

def remove (m : SortedMap α β) (key : α) : SortedMap α β :=
  ⟨m.entries.filter fun entry => entry.1 ≠ key, m.sorted.sublist List.filter_sublist⟩

@[simp] theorem value_empty (key : α) : (empty : SortedMap α β).value key = none := rfl

theorem value_insert (m : SortedMap α β) (key other : α) (value : β) :
    (m.insert key value).value other = if other = key then some value else m.value other :=
  lookup_insertEntry key other value m.entries

theorem value_remove (m : SortedMap α β) (key other : α) :
    (m.remove key).value other = if other = key then none else m.value other :=
  lookup_filter_ne key other m.entries

/-! ### Loops over the entries -/

/-- A loop whose step changes what is read at one key: each key is read through the entry that has it. -/
theorem read_foldl {step : σ → α × β → σ} (read : σ → α → γ) (update : β → γ → γ)
    (hstep : ∀ s entry key, read (step s entry) key = if key = entry.1 then update entry.2 (read s key) else read s key)
    (hnodup : (entries.map Prod.fst).Nodup) (s : σ) (key : α) :
    read (entries.foldl step s) key =
      (entries.lookup key).elim (read s key) fun value => update value (read s key) := by
  induction entries generalizing s with
  | nil => rfl
  | cons entry rest ih =>
    obtain ⟨hnotMem, hrest⟩ := List.nodup_cons.mp hnodup
    rw [List.foldl_cons, ih hrest, lookup_cons_eq, hstep]
    by_cases hkey : key = entry.1
    · have hnone : rest.lookup key = none := by
        rw [List.lookup_eq_none_iff]
        intro other hmem
        rw [hkey, bne_iff_ne]
        intro heq
        exact hnotMem (heq ▸ List.mem_map_of_mem hmem)
      rw [if_pos hkey, if_pos hkey, hnone, Option.elim_none, Option.elim_some]
    · rw [if_neg hkey, if_neg hkey]

end SortedMap
