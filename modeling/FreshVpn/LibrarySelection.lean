import Mathlib.Data.List.Induction
import Mathlib.Order.Defs.Unbundled
import Mathlib.Tactic.SplitIfs

/-! Choosing the best element of a list in one pass: an element takes the place of the best one so far only if it is
better, so that the first of several equally good ones is kept. -/

namespace Selection

variable {α : Type*} (better : α → α → Prop) [DecidableRel better]

/-- The better one of the best element so far and the next one. -/
def improve : Option α → α → Option α
  | none, a => some a
  | some b, a => if better a b then some a else some b

def best (as : List α) : Option α := as.foldl (improve better) none

@[simp] theorem best_nil : best better ([] : List α) = none := rfl

theorem best_concat (as : List α) (a : α) : best better (as ++ [a]) = improve better (best better as) a := by
  simp [best, List.foldl_append]

theorem improve_ne_none (b : Option α) (a : α) : improve better b a ≠ none := by
  cases b with
  | none => simp [improve]
  | some b =>
    simp only [improve]
    split_ifs <;> simp

theorem best_eq_none_iff (as : List α) : best better as = none ↔ as = [] := by
  induction as using List.reverseRecOn with
  | nil => simp
  | append_singleton as a _ =>
    rw [best_concat]
    simp [improve_ne_none]

/-- **The element chosen is in the list, and none of the list is better.** -/
theorem best_spec [Std.Irrefl better] [IsTrans α better] {as : List α} {b : α} (h : best better as = some b) :
    b ∈ as ∧ ∀ a ∈ as, ¬ better a b := by
  induction as using List.reverseRecOn generalizing b with
  | nil => simp at h
  | append_singleton as a ih =>
    rw [best_concat] at h
    cases hbest : best better as with
    | none =>
      obtain rfl : as = [] := (best_eq_none_iff better as).mp hbest
      obtain rfl : a = b := by simpa [improve] using h
      simpa using irrefl_of better a
    | some c =>
      obtain ⟨hmem, hall⟩ := ih hbest
      rw [hbest, improve] at h
      split_ifs at h with hbetter
      · -- What beats the new element beats the one before it too.
        obtain rfl : a = b := Option.some.inj h
        refine ⟨by simp, fun d hd hlt => ?_⟩
        rcases List.mem_append.mp hd with hd | hd
        · exact hall d hd (trans_of better hlt hbetter)
        · rw [List.mem_singleton.mp hd] at hlt
          exact irrefl_of better a hlt
      · obtain rfl : c = b := Option.some.inj h
        refine ⟨by simp [hmem], fun d hd => ?_⟩
        rcases List.mem_append.mp hd with hd | hd
        · exact hall d hd
        · rwa [List.mem_singleton.mp hd]

end Selection
