import Mathlib.Data.List.AList

/-! Tables of reference counts. A key is in the table as long as somebody holds it, together with the number of its
holders, so that no entry has the count zero. -/

variable {α : Type*} [DecidableEq α]

structure Counts (α : Type*) [DecidableEq α] where
  entries : AList fun _ : α => ℕ
  positive : ∀ a n, entries.lookup a = some n → 0 < n

namespace Counts

def empty : Counts α where
  entries := ∅
  positive a n h := by cases h

def count (t : Counts α) (a : α) : ℕ := (t.entries.lookup a).getD 0

/-- The entry of one key is replaced, or removed if the count is zero. -/
def set (t : Counts α) (a : α) (n : ℕ) : Counts α where
  entries := if n = 0 then t.entries.erase a else t.entries.insert a n
  positive b m h := by
    by_cases hb : b = a
    · subst hb
      split at h
      · cases (AList.lookup_erase b t.entries).symm.trans h
      · cases (AList.lookup_insert t.entries).symm.trans h
        omega
    · refine t.positive b m ?_
      split at h
      · rwa [AList.lookup_erase_ne hb] at h
      · rwa [AList.lookup_insert_ne hb] at h

def take (t : Counts α) (a : α) : Counts α := t.set a (t.count a + 1)

def release (t : Counts α) (a : α) : Counts α := t.set a (t.count a - 1)

/-! ### What the table holds -/

variable (t : Counts α) (a b : α)

@[simp] theorem count_empty : (empty : Counts α).count a = 0 := rfl

theorem count_set (n : ℕ) : (t.set a n).count b = if b = a then n else t.count b := by
  unfold count set
  by_cases hb : b = a
  · subst hb
    rw [if_pos rfl]
    split
    · rename_i hn
      rw [AList.lookup_erase, hn]
      rfl
    · rw [AList.lookup_insert]
      rfl
  · split
    · rw [AList.lookup_erase_ne hb]
    · rw [AList.lookup_insert_ne hb]

theorem count_take : (t.take a).count b = t.count b + [a].count b := by
  rw [take, count_set, List.count_singleton]
  by_cases hb : b = a
  · subst hb
    simp
  · simp [hb, Ne.symm hb]

theorem count_release : (t.release a).count b = t.count b - [a].count b := by
  rw [release, count_set, List.count_singleton]
  by_cases hb : b = a
  · subst hb
    simp
  · simp [hb, Ne.symm hb]

theorem mem_keys_iff : a ∈ t.entries.keys ↔ 0 < t.count a := by
  rw [← AList.mem_keys, ← AList.lookup_isSome, count]
  cases h : t.entries.lookup a with
  | none => simp
  | some n => simpa using t.positive a n h

theorem lookup_eq_of_count_eq {t : Counts α} {l : List α} (h : ∀ a, t.count a = l.count a) (a : α) :
    t.entries.lookup a = if a ∈ l then some (l.count a) else none := by
  have hmem : a ∈ t.entries ↔ a ∈ l := by
    rw [AList.mem_keys, mem_keys_iff, h, List.count_pos_iff]
  split
  · rename_i hl
    obtain ⟨n, hn⟩ := Option.isSome_iff_exists.mp (AList.lookup_isSome.mpr (hmem.mpr hl))
    rw [hn, ← h, count, hn]
    rfl
  · rename_i hl
    exact AList.lookup_eq_none.mpr fun ha => hl (hmem.mp ha)

end Counts
