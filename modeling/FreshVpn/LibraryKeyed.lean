import Mathlib.Data.List.Nodup
import Mathlib.Tactic.SplitIfs

/-! Hash tables whose items carry their own key: a list of items with different keys. The order of the list stands for
the order in which such a table happens to be walked. -/

structure Keyed {α β : Type*} (key : β → α) where
  items : List β
  nodup : (items.map key).Nodup

namespace Keyed

variable {α β : Type*} {key : β → α}

def empty : Keyed key := ⟨[], List.nodup_nil⟩

@[simp] theorem items_empty : (empty : Keyed key).items = [] := rfl

theorem eq_of_key_eq (t : Keyed key) {b c : β} (hb : b ∈ t.items) (hc : c ∈ t.items) (h : key b = key c) : b = c :=
  List.inj_on_of_nodup_map t.nodup hb hc h

/-- The items that are kept, each changed as it is kept, under the key it had. -/
def filterMap (t : Keyed key) (f : β → Option β) (hkey : ∀ b c, f b = some c → key c = key b) : Keyed key where
  items := t.items.filterMap f
  nodup := by
    have hsub : ∀ bs : List β, ((bs.filterMap f).map key).Sublist (bs.map key) := by
      intro bs
      induction bs with
      | nil => exact List.Sublist.refl []
      | cons b bs ih =>
        cases hb : f b with
        | none =>
          rw [List.filterMap_cons_none hb]
          exact ih.cons (key b)
        | some c =>
          rw [List.filterMap_cons_some hb, List.map_cons, List.map_cons, hkey b c hb]
          exact ih.cons_cons (key b)
    exact t.nodup.sublist (hsub t.items)

variable [DecidableEq α]

def value (t : Keyed key) (k : α) : Option β := t.items.find? fun b => key b = k

def contains (t : Keyed key) (k : α) : Bool := t.items.any fun b => key b = k

def remove (t : Keyed key) (k : α) : Keyed key where
  items := t.items.filter fun b => key b ≠ k
  nodup := t.nodup.sublist (List.Sublist.map key List.filter_sublist)

/-- The item takes the place of the one under its key, if there is one. -/
def insert (t : Keyed key) (b : β) : Keyed key where
  items := b :: (t.remove (key b)).items
  nodup := by
    rw [List.map_cons, List.nodup_cons]
    refine ⟨fun hmem => ?_, (t.remove (key b)).nodup⟩
    obtain ⟨c, hc, hkey⟩ := List.mem_map.mp hmem
    exact of_decide_eq_true (List.mem_filter.mp hc).2 hkey

variable {t : Keyed key} {k : α} {b : β}

theorem mem_remove : b ∈ (t.remove k).items ↔ b ∈ t.items ∧ key b ≠ k := by
  simp [remove]

theorem mem_insert {c : β} : c ∈ (t.insert b).items ↔ c = b ∨ (c ∈ t.items ∧ key c ≠ key b) := by
  rw [← mem_remove]
  exact List.mem_cons

theorem mem_keys_remove {l : α} : l ∈ (t.remove k).items.map key ↔ l ∈ t.items.map key ∧ l ≠ k := by
  simp only [List.mem_map, mem_remove]
  constructor
  · rintro ⟨b, ⟨hb, hne⟩, rfl⟩
    exact ⟨⟨b, hb, rfl⟩, hne⟩
  · rintro ⟨⟨b, hb, rfl⟩, hne⟩
    exact ⟨b, ⟨hb, hne⟩, rfl⟩

theorem mem_keys_insert {l : α} : l ∈ (t.insert b).items.map key ↔ l = key b ∨ l ∈ t.items.map key := by
  show l ∈ key b :: (t.remove (key b)).items.map key ↔ _
  rw [List.mem_cons, mem_keys_remove]
  exact or_congr_right' fun hne => and_iff_left hne

theorem value_eq_some_iff : t.value k = some b ↔ b ∈ t.items ∧ key b = k := by
  constructor
  · intro h
    have hkey := List.find?_some h
    exact ⟨List.mem_of_find?_eq_some h, by simpa using hkey⟩
  · rintro ⟨hmem, rfl⟩
    cases hfound : t.value (key b) with
    | none =>
      have hnot := List.find?_eq_none.mp hfound b hmem
      simp at hnot
    | some c =>
      have hc : c ∈ t.items := List.mem_of_find?_eq_some hfound
      have hkey := List.find?_some hfound
      rw [t.eq_of_key_eq hc hmem (by simpa using hkey)]

theorem contains_iff : t.contains k = true ↔ ∃ b ∈ t.items, key b = k := by
  simp [contains]

end Keyed
