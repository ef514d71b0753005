import Mathlib.Data.List.Basic
import Mathlib.Data.Nat.Basic
import Mathlib.Tactic.SplitIfs

/-! Rules of which one decides: the first one that applies, or the one of highest rank. -/

namespace Filter

section
variable {ρ π ν : Type*} (applies : ρ → π → Bool) (target : ρ → ν)

/-- What the first rule that applies says, if one does. -/
def first (rules : List ρ) (p : π) : Option ν := (rules.find? fun r => applies r p).map target

@[simp] theorem first_nil (p : π) : first applies target [] p = none := rfl

theorem first_append (rules rest : List ρ) (p : π) :
    first applies target (rules ++ rest) p = (first applies target rules p).or (first applies target rest p) := by
  cases h : rules.find? fun r => applies r p with
  | none =>
    simp [first, h]
  | some r =>
    simp [first, h]

theorem first_flatMap {α : Type*} (groups : List α) (rules : α → List ρ) (p : π) :
    first applies target (groups.flatMap rules) p = groups.findSome? fun g => first applies target (rules g) p := by
  induction groups with
  | nil =>
    rfl
  | cons g groups ih =>
    rw [List.flatMap_cons, first_append, ih, List.findSome?_cons]
    cases first applies target (rules g) p with
    | none => rfl
    | some v => rfl

theorem first_eq_none {rules : List ρ} {p : π} (h : ∀ r ∈ rules, applies r p = false) :
    first applies target rules p = none := by
  have hfind : (rules.find? fun r => applies r p) = none := by
    rw [List.find?_eq_none]
    intro r hr
    rw [h r hr]
    exact Bool.false_ne_true
  rw [first, hfind]
  rfl

theorem first_of_forall_target {rules : List ρ} {v : ν} (h : ∀ r ∈ rules, target r = v) (p : π) :
    first applies target rules p = if rules.any (fun r => applies r p) then some v else none := by
  rw [first]
  cases hfind : rules.find? fun r => applies r p with
  | none =>
    have hany : rules.any (fun r => applies r p) = false := by simpa using hfind
    rw [hany]
    rfl
  | some r =>
    have hmem := List.mem_of_find?_eq_some hfind
    have happlies : applies r p = true := List.find?_some (p := fun r => applies r p) hfind
    have hany : rules.any (fun r => applies r p) = true := List.any_eq_true.mpr ⟨r, hmem, happlies⟩
    rw [hany, Option.map_some, h r hmem]
    rfl

end

section
variable {ρ π : Type*} (applies : ρ → π → Bool) (rank : ρ → ℕ)

def highest : List ρ → π → Option ρ
  | [], _ => none
  | r :: rest, p =>
    match highest rest p with
    | none => if applies r p then some r else none
    | some s => if applies r p ∧ rank s < rank r then some r else some s

theorem highest_eq_none_iff (rules : List ρ) (p : π) :
    highest applies rank rules p = none ↔ ∀ r ∈ rules, applies r p = false := by
  induction rules with
  | nil => simp [highest]
  | cons r rest ih =>
    rw [List.forall_mem_cons, ← ih, highest]
    cases highest applies rank rest p with
    | none => simp
    | some s =>
      dsimp only
      split_ifs
      · simp
      · simp

/-- The rule that decides applies, none before it is of higher rank, and those after it are of lower rank. -/
theorem exists_of_highest {rules : List ρ} {p : π} {r : ρ} (h : highest applies rank rules p = some r) :
    ∃ before after, rules = before ++ r :: after ∧ applies r p = true ∧
      (∀ s ∈ before, applies s p = true → rank s ≤ rank r) ∧ ∀ s ∈ after, applies s p = true → rank s < rank r := by
  induction rules generalizing r with
  | nil => cases h
  | cons q rest ih =>
    rw [highest] at h
    cases hrest : highest applies rank rest p with
    | none =>
      rw [hrest] at h
      obtain ⟨hq, hr⟩ := Option.ite_none_right_eq_some.mp h
      cases hr
      refine ⟨[], rest, rfl, hq, List.forall_mem_nil _, fun s hs happlies => ?_⟩
      rw [(highest_eq_none_iff applies rank rest p).mp hrest s hs] at happlies
      cases happlies
    | some t =>
      obtain ⟨before, after, hsplit, ht, hbefore, hafter⟩ := ih hrest
      rw [hrest] at h
      dsimp only at h
      split_ifs at h with hq
      · cases h
        refine ⟨[], rest, rfl, hq.1, List.forall_mem_nil _, fun s hs happlies => lt_of_le_of_lt ?_ hq.2⟩
        rw [hsplit, List.mem_append, List.mem_cons] at hs
        rcases hs with hs | rfl | hs
        · exact hbefore s hs happlies
        · exact le_refl _
        · exact le_of_lt (hafter s hs happlies)
      · cases h
        refine ⟨q :: before, after, by rw [hsplit]; rfl, ht, List.forall_mem_cons.mpr ⟨fun happlies => ?_, hbefore⟩,
          hafter⟩
        exact not_lt.mp fun hlt => hq ⟨happlies, hlt⟩

/-- A rule that those of one kind do not outrank: the rule that decides is of the other kind. -/
theorem highest_of_not_outranked {bad : ρ → Prop} {before after : List ρ} {r : ρ} {p : π} (hr : applies r p = true)
    (hgood : ¬ bad r) (hbefore : ∀ s ∈ before, bad s → applies s p = true → rank s ≤ rank r)
    (hafter : ∀ s ∈ after, bad s → applies s p = true → rank s < rank r) :
    ∃ s, highest applies rank (before ++ r :: after) p = some s ∧ ¬ bad s ∧ rank r ≤ rank s := by
  induction before with
  | nil =>
    rw [List.nil_append, highest]
    cases hrest : highest applies rank after p with
    | none => exact ⟨r, if_pos hr, hgood, le_refl _⟩
    | some t =>
      dsimp only
      split_ifs with hlt
      · exact ⟨r, rfl, hgood, le_refl _⟩
      · have hle : rank r ≤ rank t := not_lt.mp fun h => hlt ⟨hr, h⟩
        refine ⟨t, rfl, fun hbad => ?_, hle⟩
        obtain ⟨_, _, rfl, ht, -, -⟩ := exists_of_highest applies rank hrest
        exact absurd (hafter t (List.mem_append_right _ List.mem_cons_self) hbad ht) (not_lt.mpr hle)
  | cons q rest ih =>
    obtain ⟨hq, hrest⟩ := List.forall_mem_cons.mp hbefore
    obtain ⟨s, hs, hsgood, hle⟩ := ih hrest
    rw [List.cons_append, highest, hs]
    dsimp only
    split_ifs with hlt
    · exact ⟨q, rfl, fun hbad => absurd (hq hbad hlt.1) (not_le.mpr (lt_of_le_of_lt hle hlt.2)),
        le_trans hle (le_of_lt hlt.2)⟩
    · exact ⟨s, rfl, hsgood, hle⟩

end

end Filter
