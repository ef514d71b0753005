import Mathlib.Data.List.Basic

/-! Dropping the later elements of a list that share a key with an earlier one. An element without a key
(`none`) is always kept; `seen` accumulates the keys already met. -/

namespace KeepFirst

variable {α κ : Type*} [DecidableEq κ]

def keepFirst (key : α → Option κ) : List κ → List α → List α
  | _, [] => []
  | seen, a :: as =>
    if ∃ k ∈ seen, key a = some k then keepFirst key seen as
    else a :: keepFirst key (seen ++ (key a).toList) as

theorem keepFirst_sublist (key : α → Option κ) (seen : List κ) (as : List α) : (keepFirst key seen as).Sublist as := by
  induction as generalizing seen with
  | nil =>
    exact List.Sublist.refl []
  | cons a as ih =>
    unfold keepFirst
    split_ifs
    · exact (ih seen).cons a
    · exact (ih _).cons_cons a

omit [DecidableEq κ] in
private theorem exists_split_cons_iff (c a : α) (as : List α) (P : List α → Prop) :
    (∃ before after, c :: as = before ++ a :: after ∧ P before) ↔
      (c = a ∧ P []) ∨ ∃ before after, as = before ++ a :: after ∧ P (c :: before) := by
  constructor
  · rintro ⟨before, after, heq, hp⟩
    cases before with
    | nil => exact Or.inl ⟨(List.cons.inj heq).1, hp⟩
    | cons b before =>
      obtain ⟨rfl, htail⟩ := List.cons.inj heq
      exact Or.inr ⟨before, after, htail, hp⟩
  · rintro (⟨rfl, hp⟩ | ⟨before, after, rfl, hp⟩)
    · exact ⟨[], as, rfl, hp⟩
    · exact ⟨c :: before, after, rfl, hp⟩

theorem mem_keepFirst_iff (key : α → Option κ) (seen : List κ) (as : List α) (a : α) :
    a ∈ keepFirst key seen as ↔
      ∃ before after, as = before ++ a :: after ∧
        ∀ k, key a = some k → k ∉ seen ∧ ∀ b ∈ before, key b ≠ some k := by
  induction as generalizing seen with
  | nil =>
    simp [keepFirst]
  | cons c as ih =>
    rw [exists_split_cons_iff c a as fun before => ∀ k, key a = some k → k ∉ seen ∧ ∀ b ∈ before, key b ≠ some k]
    unfold keepFirst
    split_ifs with hc
    · -- `c` itself is dropped, and its key was seen already: it rules out nothing new.
      obtain ⟨k₀, hseen, hk₀⟩ := hc
      rw [ih]
      constructor
      · rintro ⟨before, after, heq, hp⟩
        refine Or.inr ⟨before, after, heq, fun k hk => ⟨(hp k hk).1, fun b hb => ?_⟩⟩
        rcases List.mem_cons.mp hb with rfl | hb
        · intro hkb
          rw [hk₀] at hkb
          exact (hp k hk).1 (Option.some.inj hkb ▸ hseen)
        · exact (hp k hk).2 b hb
      · rintro (⟨rfl, hp⟩ | ⟨before, after, heq, hp⟩)
        · exact absurd hseen (hp k₀ hk₀).1
        · exact ⟨before, after, heq, fun k hk =>
            ⟨(hp k hk).1, fun b hb => (hp k hk).2 b (List.mem_cons_of_mem c hb)⟩⟩
    · rw [List.mem_cons, ih]
      constructor
      · rintro (rfl | ⟨before, after, heq, hp⟩)
        · exact Or.inl ⟨rfl, fun k hk => ⟨fun hseen => hc ⟨k, hseen, hk⟩, by simp⟩⟩
        · refine Or.inr ⟨before, after, heq, fun k hk => ?_⟩
          obtain ⟨hnew, hbefore⟩ := hp k hk
          rw [List.mem_append, not_or, Option.mem_toList] at hnew
          exact ⟨hnew.1, List.forall_mem_cons.mpr ⟨hnew.2, hbefore⟩⟩
      · rintro (⟨rfl, -⟩ | ⟨before, after, heq, hp⟩)
        · exact Or.inl rfl
        · refine Or.inr ⟨before, after, heq, fun k hk => ?_⟩
          obtain ⟨hnew, hbefore⟩ := hp k hk
          rw [List.forall_mem_cons] at hbefore
          rw [List.mem_append, not_or, Option.mem_toList]
          exact ⟨⟨hnew, hbefore.1⟩, hbefore.2⟩

end KeepFirst
