import Mathlib.Data.List.Basic

/-! The first element of a list that has a property. -/

namespace FirstMatch

variable {α : Type*} (before : List α) (found : α) {p : α → Bool}

theorem split_of_findIdx? {list : List α} {index : ℕ} (h : list.findIdx? p = some index) :
    ∃ before found after, list = before ++ found :: after ∧ before.length = index ∧ p found = true ∧
      ∀ element ∈ before, p element = false := by
  induction list generalizing index with
  | nil => cases h
  | cons head tail ih =>
    rw [List.findIdx?_cons] at h
    by_cases hhead : p head = true
    · rw [if_pos hhead] at h
      cases h
      exact ⟨[], head, tail, rfl, rfl, hhead, fun element hmem => absurd hmem List.not_mem_nil⟩
    · rw [if_neg hhead] at h
      obtain ⟨index', hindex', rfl⟩ := Option.map_eq_some_iff.mp h
      obtain ⟨before, found, after, rfl, rfl, hfound, hbefore⟩ := ih hindex'
      refine ⟨head :: before, found, after, rfl, rfl, hfound, fun element hmem => ?_⟩
      rcases List.mem_cons.mp hmem with rfl | hmem
      · exact Bool.eq_false_iff.mpr hhead
      · exact hbefore element hmem

theorem set_append_cons (new : α) (after : List α) :
    (before ++ found :: after).set before.length new = before ++ new :: after := by
  rw [List.set_append_right _ _ (Nat.le_refl _), Nat.sub_self, List.set_cons_zero]

theorem filter_append_cons {before : List α} {found : α} (after : List α)
    (hbefore : ∀ element ∈ before, p element = false) (hfound : p found = true) :
    (before ++ found :: after).filter p = found :: after.filter p := by
  have hnone : before.filter p = [] :=
    List.filter_eq_nil_iff.mpr fun element hmem => Bool.eq_false_iff.mp (hbefore element hmem)
  rw [List.filter_append, hnone, List.nil_append, List.filter_cons_of_pos hfound]

theorem getElem?_append_cons (after : List α) : (before ++ found :: after)[before.length]? = some found := by
  rw [List.getElem?_append_right (Nat.le_refl _), Nat.sub_self, List.getElem?_cons_zero]

theorem findIdx?_append_cons {before : List α} {found : α} (after : List α)
    (hbefore : ∀ element ∈ before, p element = false) (hfound : p found = true) :
    (before ++ found :: after).findIdx? p = some before.length := by
  induction before with
  | nil => rw [List.nil_append, List.findIdx?_cons, if_pos hfound, List.length_nil]
  | cons head tail ih =>
    have hhead := hbefore head List.mem_cons_self
    rw [List.cons_append, List.findIdx?_cons, if_neg (Bool.eq_false_iff.mp hhead),
      ih fun element hmem => hbefore element (List.mem_cons_of_mem _ hmem), List.length_cons]
    rfl

theorem eraseIdx_append_cons (after : List α) :
    (before ++ found :: after).eraseIdx before.length = before ++ after := by
  rw [List.eraseIdx_append_of_length_le (Nat.le_refl _), Nat.sub_self, List.eraseIdx_cons_zero]

end FirstMatch
