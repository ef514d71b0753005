import Mathlib.Data.List.Basic
import Mathlib.Data.List.Nodup
import Mathlib.Data.Int.Init
import Mathlib.Tactic.SplitIfs

/-! Sets kept as lists: in the order of a comparison, or in the order of insertion. -/

namespace OrderedSet

variable {α β : Type*}

/-- Insertion into a list sorted by a comparison; an element that compares equal to one of the list is not added. -/
def insertSorted (compareTo : α → α → ℤ) (a : α) : List α → List α
  | [] => [a]
  | b :: rest =>
    if compareTo a b < 0 then a :: b :: rest
    else if compareTo a b = 0 then b :: rest
    else b :: insertSorted compareTo a rest

theorem map_insertSorted {compareTo : α → α → ℤ} {compareTo' : β → β → ℤ} (f : α → β)
    (hlt : ∀ a b, compareTo a b < 0 ↔ compareTo' (f a) (f b) < 0)
    (heq : ∀ a b, compareTo a b = 0 ↔ compareTo' (f a) (f b) = 0) (a : α) (l : List α) :
    (insertSorted compareTo a l).map f = insertSorted compareTo' (f a) (l.map f) := by
  induction l with
  | nil => rfl
  | cons b rest ih =>
    simp only [insertSorted, List.map_cons, ← hlt, ← heq]
    split_ifs
    · rfl
    · rfl
    · rw [List.map_cons, ih]

end OrderedSet

/-- A set in the order of insertion. -/
structure LinkedSet (α : Type*) where
  toList : List α
  nodup : toList.Nodup

namespace LinkedSet

variable {α : Type*} [DecidableEq α]

def empty : LinkedSet α := ⟨[], List.nodup_nil⟩

def add (s : LinkedSet α) (a : α) : LinkedSet α :=
  if h : a ∈ s.toList then s
  else ⟨s.toList ++ [a], List.nodup_append.mpr ⟨s.nodup, List.nodup_singleton a, by
    rintro b hb c hc rfl
    rw [List.mem_singleton] at hc
    exact h (hc ▸ hb)⟩⟩

def addAll (s : LinkedSet α) (as : List α) : LinkedSet α := as.foldl add s

def ofList (as : List α) : LinkedSet α := empty.addAll as

variable {s : LinkedSet α}

omit [DecidableEq α] in
theorem ext {t : LinkedSet α} (h : s.toList = t.toList) : s = t := by
  cases s
  cases t
  cases h
  rfl

def removeIf (s : LinkedSet α) (p : α → Bool) : LinkedSet α :=
  ⟨s.toList.filter fun a => !p a, s.nodup.filter _⟩

theorem mem_add {a b : α} : b ∈ (s.add a).toList ↔ b ∈ s.toList ∨ b = a := by
  unfold add
  split_ifs with h
  · constructor
    · exact Or.inl
    · rintro (hb | rfl)
      · exact hb
      · exact h
  · simp

theorem mem_addAll {as : List α} {b : α} : b ∈ (s.addAll as).toList ↔ b ∈ s.toList ∨ b ∈ as := by
  induction as generalizing s with
  | nil => simp [addAll]
  | cons a as ih =>
    change b ∈ ((s.add a).addAll as).toList ↔ _
    rw [ih, mem_add, List.mem_cons, or_assoc]

theorem addAll_sublist (s : LinkedSet α) (as : List α) : (s.addAll as).toList.Sublist (s.toList ++ as) := by
  induction as generalizing s with
  | nil =>
    rw [List.append_nil]
    exact List.Sublist.refl _
  | cons a as ih =>
    refine (ih (s.add a)).trans ?_
    unfold add
    split_ifs
    · exact (List.sublist_cons_self a as).append_left s.toList
    · rw [List.append_assoc]
      exact List.Sublist.refl _

end LinkedSet
