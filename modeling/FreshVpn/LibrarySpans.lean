import FreshVpn.LibraryOrderedSet
import Mathlib.Data.List.Pairwise
import Mathlib.Data.List.Sort
import Mathlib.Data.Set.Lattice
import Mathlib.Order.Interval.Set.Basic

/-! Sets of numbers kept as sorted lists of spans that neither meet nor touch. A span is added by one pass that joins
it with every span it meets or touches, and removed by one pass that cuts every span it meets. -/

structure Span where
  lo : ℕ
  hi : ℕ
  le : lo ≤ hi
deriving DecidableEq

namespace Span

variable {s : Span} {l : List Span}

open OrderedSet

def points (s : Span) : Set ℕ := Set.Icc s.lo s.hi

def covered (l : List Span) : Set ℕ := {x | ∃ s ∈ l, x ∈ s.points}

/-- There is a number between them. -/
def Apart (s t : Span) : Prop := s.hi + 1 < t.lo ∨ t.hi + 1 < s.lo

/-- Sorted, with a number between any two. -/
def Separated (l : List Span) : Prop := l.Pairwise fun s t => s.hi + 1 < t.lo

/-- The one span that holds both, if they meet or touch. -/
def join (s t : Span) : Option Span :=
  if s.lo ≤ t.hi + 1 ∧ t.lo ≤ s.hi + 1 then
    some ⟨min s.lo t.lo, max s.hi t.hi, (min_le_left _ _).trans (s.le.trans (le_max_left _ _))⟩
  else none

def before (s t : Span) : List Span :=
  if h : s.lo < t.lo then [⟨s.lo, t.lo - 1, Nat.le_sub_one_of_lt h⟩] else []

def after (s t : Span) : List Span := if h : t.hi < s.hi then [⟨t.hi + 1, s.hi, h⟩] else []

/-- What is left of a span without another, if they meet. -/
def cut (s t : Span) : Option (List Span) :=
  if t.lo ≤ s.lo ∧ s.hi ≤ t.hi then some []
  else if s.lo ≤ t.hi ∧ t.lo ≤ s.hi then some (s.before t ++ s.after t)
  else none

def compareTo (s t : Span) : ℤ := if (s.lo : ℤ) - t.lo = 0 then (s.hi : ℤ) - t.hi else (s.lo : ℤ) - t.lo

theorem compareTo_neg_iff (s t : Span) : compareTo s t < 0 ↔ s.lo < t.lo ∨ s.lo = t.lo ∧ s.hi < t.hi := by
  unfold compareTo
  split_ifs <;> omega

theorem compareTo_eq_zero_iff (s t : Span) : compareTo s t = 0 ↔ s.lo = t.lo ∧ s.hi = t.hi := by
  unfold compareTo
  split_ifs <;> omega

theorem mem_points {x : ℕ} : x ∈ s.points ↔ s.lo ≤ x ∧ x ≤ s.hi := Iff.rfl

theorem mem_covered {x : ℕ} : x ∈ covered l ↔ ∃ s ∈ l, x ∈ s.points := Iff.rfl

@[simp] theorem covered_nil : covered [] = ∅ := by
  ext x
  simp [covered]

@[simp] theorem covered_cons (s : Span) (l : List Span) : covered (s :: l) = s.points ∪ covered l := by
  ext x
  simp [covered]

@[simp] theorem covered_append (l l' : List Span) : covered (l ++ l') = covered l ∪ covered l' := by
  ext x
  simp [covered, or_and_right, exists_or]

variable {t u : Span}

theorem points_join (h : s.join t = some u) : u.points = s.points ∪ t.points := by
  unfold join at h
  split_ifs at h with hmeet
  cases h
  ext x
  simp only [mem_points, Set.mem_union]
  omega

theorem apart_of_join_eq_none (h : s.join t = none) : s.Apart t := by
  unfold join at h
  split_ifs at h with hmeet
  unfold Apart
  omega

theorem lo_join (h : s.join t = some u) : u.lo = min s.lo t.lo := by
  unfold join at h
  split_ifs at h
  cases h
  rfl

theorem Apart.symm (h : s.Apart t) : t.Apart s := Or.symm h

instance : Std.Symm Apart := ⟨fun _ _ h => h.symm⟩

theorem Separated.apart (h : Separated l) : l.Pairwise Apart := h.imp Or.inl

/-! ### Insertion -/

theorem mem_insertSorted_of_apart (h : ∀ t ∈ l, s.Apart t) (u : Span) :
    u ∈ insertSorted compareTo s l ↔ u = s ∨ u ∈ l := by
  induction l with
  | nil => simp [insertSorted]
  | cons t rest ih =>
    have ht := t.le
    have hne : compareTo s t ≠ 0 := by
      have hapart := h t List.mem_cons_self
      unfold Apart at hapart
      rw [Ne, compareTo_eq_zero_iff]
      omega
    unfold insertSorted
    split_ifs
    · simp
    · rw [List.mem_cons, ih fun t' ht' => h t' (List.mem_cons_of_mem _ ht'), List.mem_cons]
      tauto

theorem Separated.insertSorted (hsep : Separated l) (h : ∀ t ∈ l, s.Apart t) :
    Separated (insertSorted compareTo s l) := by
  induction l with
  | nil => exact List.pairwise_singleton _ _
  | cons t rest ih =>
    obtain ⟨hhead, htail⟩ := List.pairwise_cons.mp hsep
    have hapart := h t List.mem_cons_self
    have hs := s.le
    have ht := t.le
    have hrest : ∀ t' ∈ rest, s.Apart t' := fun t' ht' => h t' (List.mem_cons_of_mem _ ht')
    unfold Apart at hapart
    unfold OrderedSet.insertSorted
    split_ifs with hlt
    · -- `s` comes first, and ends before `t`.
      refine List.pairwise_cons.mpr ⟨fun t' ht' => ?_, hsep⟩
      have hbefore : s.hi + 1 < t.lo := by
        rw [compareTo_neg_iff] at hlt
        omega
      rcases List.mem_cons.mp ht' with rfl | ht'
      · exact hbefore
      · have hnext := hhead t' ht'
        omega
    · exact hsep
    · refine List.pairwise_cons.mpr ⟨fun t' ht' => ?_, ih htail hrest⟩
      rcases (mem_insertSorted_of_apart hrest t').mp ht' with rfl | ht'
      · rw [compareTo_neg_iff] at hlt
        omega
      · exact hhead t' ht'

theorem covered_insertSorted (h : ∀ t ∈ l, s.Apart t) :
    covered (insertSorted compareTo s l) = covered l ∪ s.points := by
  ext x
  simp only [mem_covered, Set.mem_union, mem_insertSorted_of_apart h]
  constructor
  · rintro ⟨t, rfl | ht, hx⟩
    · exact Or.inr hx
    · exact Or.inl ⟨t, ht, hx⟩
  · rintro (⟨t, ht, hx⟩ | hx)
    · exact ⟨t, Or.inr ht, hx⟩
    · exact ⟨s, Or.inl rfl, hx⟩

theorem Separated.exists_span (hsep : Separated l) (lo hi : ℕ) (hle : lo ≤ hi)
    (h : ∀ x, lo ≤ x → x ≤ hi → x ∈ covered l) : ∃ s ∈ l, s.lo ≤ lo ∧ hi ≤ s.hi := by
  obtain ⟨s, hs, hlo, hhi⟩ := h lo (le_refl _) hle
  refine ⟨s, hs, hlo, ?_⟩
  by_contra hshort
  -- The number after the span would be in another one, which would touch it.
  obtain ⟨t, ht, htlo, hthi⟩ := h (s.hi + 1) (by omega) (by omega)
  by_cases hst : s = t
  · subst hst
    omega
  · rcases hsep.apart.forall hs ht hst with hbefore | hafter <;> omega

section
variable {l' : List Span} (hsep : Separated l) (hsep' : Separated l') (h : covered l = covered l')
include hsep hsep' h

theorem Separated.mem_of_covered_eq (hs : s ∈ l) : s ∈ l' := by
  obtain ⟨t, ht, hlo, hhi⟩ := hsep'.exists_span s.lo s.hi s.le fun x hx hx' => h ▸ ⟨s, hs, hx, hx'⟩
  obtain ⟨u, hu, hlo', hhi'⟩ := hsep.exists_span t.lo t.hi t.le fun x hx hx' => h ▸ ⟨t, ht, hx, hx'⟩
  obtain rfl : s = u := by
    by_contra hne
    have hle := s.le
    rcases hsep.apart.forall hs hu hne with hbefore | hafter <;> omega
  obtain ⟨lo, hi, hle⟩ := s
  obtain rfl : lo = t.lo := le_antisymm hlo' hlo
  obtain rfl : hi = t.hi := le_antisymm hhi hhi'
  exact ht

/-- **Spans with a number between any two are determined by the numbers in them.** -/
theorem Separated.eq_of_covered_eq : l = l' := by
  have : Std.Irrefl fun s t : Span => s.hi + 1 < t.lo := ⟨fun s hlt => by have hle := s.le; omega⟩
  have : Std.Antisymm fun s t : Span => s.hi + 1 < t.lo :=
    ⟨fun s t hst hts => by have hle := s.le; have hle' := t.le; omega⟩
  apply hsep.eq_of_mem_iff hsep'
  exact fun s => ⟨hsep.mem_of_covered_eq hsep' h, hsep'.mem_of_covered_eq hsep h.symm⟩

end

/-! ### Adding a span -/

/-- One pass of an addition: the spans kept, and the span to insert unless one of the list holds it. The numbers in
`isTop` have no successor to compare with, and the pass does not stop early at them. -/
def absorb (isTop : ℕ → Bool) (s : Span) : List Span → List Span × Option Span
  | [] => ([], some s)
  | t :: rest =>
    if s.hi < t.lo ∧ isTop s.hi = false ∧ s.hi + 1 ≠ t.lo then (t :: rest, some s)
    else
      match t.join s with
      | none => (t :: (absorb isTop s rest).1, (absorb isTop s rest).2)
      | some u => if u = t then (t :: rest, none) else absorb isTop u rest

def addTo (isTop : ℕ → Bool) (s : Span) (l : List Span) : List Span :=
  (absorb isTop s l).2.elim (absorb isTop s l).1 fun u => insertSorted compareTo u (absorb isTop s l).1

/-- What a pass of an addition leaves. -/
structure Absorbed (s : Span) (l : List Span) (x : List Span × Option Span) : Prop where
  kept : x.1.Sublist l
  covers : covered x.1 ∪ covered x.2.toList = covered l ∪ s.points
  apart : ∀ u ∈ x.2, ∀ t ∈ x.1, u.Apart t
  above : ∀ u ∈ x.2, ∀ b < s.lo, (∀ t ∈ l, b < t.lo) → b < u.lo

theorem Absorbed.before (h : ∀ t ∈ l, s.hi + 1 < t.lo) : Absorbed s l (l, some s) := by
  refine ⟨List.Sublist.refl l, by simp, fun u hu t ht => ?_, fun u hu b hb _ => ?_⟩
  · cases hu
    exact Or.inl (h t ht)
  · cases hu
    exact hb

theorem absorb_of_before (isTop : ℕ → Bool) (h : ∀ t ∈ l, s.hi + 1 < t.lo) : absorb isTop s l = (l, some s) := by
  induction l with
  | nil => rfl
  | cons t rest ih =>
    have hbefore := h t List.mem_cons_self
    have hnone : t.join s = none := by
      exact if_neg (by omega)
    unfold absorb
    split_ifs
    · rfl
    · rw [hnone, ih fun t' ht' => h t' (List.mem_cons_of_mem _ ht')]

theorem absorb_spec (isTop : ℕ → Bool) (s : Span) (hsep : Separated l) : Absorbed s l (absorb isTop s l) := by
  induction l generalizing s with
  | nil => exact Absorbed.before fun t ht => absurd ht List.not_mem_nil
  | cons t rest ih =>
    obtain ⟨hhead, htail⟩ := List.pairwise_cons.mp hsep
    have ht := t.le
    have hbeyond : s.hi + 1 < t.lo → ∀ t' ∈ t :: rest, s.hi + 1 < t'.lo := by
      intro hlt t' ht'
      rcases List.mem_cons.mp ht' with rfl | ht'
      · exact hlt
      · have hnext := hhead t' ht'
        omega
    unfold absorb
    split_ifs with hstop
    · exact Absorbed.before (hbeyond (by omega))
    · cases hjoin : t.join s with
      | none =>
        dsimp only
        rcases apart_of_join_eq_none hjoin with hbelow | habove
        · -- `t` ends before `s` begins, and stays there whatever `s` grows to.
          obtain ⟨hkept, hcovers, hapart, hmin⟩ := ih s htail
          refine ⟨hkept.cons_cons t, ?_, fun u hu t' ht' => ?_, fun u hu b hb hall => ?_⟩
          · rw [covered_cons, covered_cons, Set.union_assoc, hcovers, Set.union_assoc]
          · rcases List.mem_cons.mp ht' with rfl | ht'
            · exact Or.inr (hmin u hu _ hbelow hhead)
            · exact hapart u hu t' ht'
          · exact hmin u hu b hb fun t' ht' => hall t' (List.mem_cons_of_mem _ ht')
        · have hrest : ∀ t' ∈ rest, s.hi + 1 < t'.lo :=
            fun t' ht' => hbeyond habove t' (List.mem_cons_of_mem _ ht')
          rw [absorb_of_before isTop hrest]
          exact Absorbed.before (hbeyond habove)
      | some u =>
        have hpoints := points_join hjoin
        dsimp only
        split_ifs with hsame
        · refine ⟨List.Sublist.refl _, ?_, fun u hu => ?_, fun u hu => ?_⟩
          · rw [hsame] at hpoints
            rw [covered_cons, Set.union_right_comm t.points (covered rest) s.points, ← hpoints]
            simp
          · cases hu
          · cases hu
        · obtain ⟨hkept, hcovers, hapart, hmin⟩ := ih u htail
          refine ⟨hkept.cons t, ?_, hapart, fun v hv b hb hall => ?_⟩
          · rw [hcovers, hpoints, covered_cons, Set.union_comm (t.points) (covered rest), Set.union_assoc]
          · refine hmin v hv b ?_ fun t' ht' => hall t' (List.mem_cons_of_mem _ ht')
            rw [lo_join hjoin]
            exact lt_min (hall t List.mem_cons_self) hb

theorem addTo_spec (isTop : ℕ → Bool) (s : Span) (hsep : Separated l) :
    Separated (addTo isTop s l) ∧ covered (addTo isTop s l) = covered l ∪ s.points := by
  obtain ⟨hkept, hcovers, hapart, -⟩ := absorb_spec isTop s hsep
  unfold addTo
  have hkeptSep : Separated (absorb isTop s l).1 := hsep.sublist hkept
  cases hres : (absorb isTop s l).2 with
  | none =>
    rw [hres] at hcovers
    exact ⟨hkeptSep, by simpa using hcovers⟩
  | some u =>
    rw [hres] at hcovers hapart
    have hu : ∀ t ∈ (absorb isTop s l).1, u.Apart t := hapart u rfl
    refine ⟨hkeptSep.insertSorted hu, ?_⟩
    rw [Option.elim_some, covered_insertSorted hu, ← hcovers]
    simp

/-! ### Removing a span -/

/-- One pass of a removal: the spans kept, and the pieces of those that were cut. -/
def carve (s : Span) : List Span → List Span × List Span
  | [] => ([], [])
  | t :: rest =>
    if s.hi < t.lo then (t :: rest, [])
    else
      match t.cut s with
      | none => (t :: (carve s rest).1, (carve s rest).2)
      | some parts => ((carve s rest).1, parts ++ (carve s rest).2)

def removeFrom (s : Span) (l : List Span) : List Span :=
  (carve s l).2.foldl (fun l u => insertSorted compareTo u l) (carve s l).1

/-- What is left of `t` without `s`: separated spans inside `t`. -/
structure Left (t s : Span) (parts : List Span) : Prop where
  covers : covered parts = t.points \ s.points
  apart : parts.Pairwise Apart
  inside : ∀ u ∈ parts, t.lo ≤ u.lo ∧ u.hi ≤ t.hi

theorem left_of_disjoint (h : t.hi < s.lo ∨ s.hi < t.lo) : Left t s [t] := by
  refine ⟨?_, List.pairwise_singleton _ _, fun u hu => ?_⟩
  · ext x
    simp only [covered_cons, covered_nil, Set.union_empty, mem_points, Set.mem_sdiff]
    omega
  · rw [List.mem_singleton.mp hu]
    exact ⟨le_refl _, le_refl _⟩

theorem mem_before (h : u ∈ s.before t) : u.lo = s.lo ∧ u.hi + 1 = t.lo := by
  unfold before at h
  split_ifs at h with hlt
  · rw [List.mem_singleton.mp h]
    exact ⟨rfl, Nat.sub_add_cancel (by omega)⟩
  · exact absurd h List.not_mem_nil

theorem mem_after (h : u ∈ s.after t) : u.lo = t.hi + 1 ∧ u.hi = s.hi := by
  unfold after at h
  split_ifs at h
  · rw [List.mem_singleton.mp h]
    exact ⟨rfl, rfl⟩
  · exact absurd h List.not_mem_nil

theorem covered_before (s t : Span) : covered (s.before t) = Set.Ico s.lo t.lo := by
  unfold before
  split_ifs with hlt
  · ext x
    simp only [covered_cons, covered_nil, Set.union_empty, mem_points, Set.mem_Ico]
    omega
  · rw [covered_nil, Set.Ico_eq_empty hlt]

theorem covered_after (s t : Span) : covered (s.after t) = Set.Ioc t.hi s.hi := by
  unfold after
  split_ifs with hlt
  · ext x
    simp only [covered_cons, covered_nil, Set.union_empty, mem_points, Set.mem_Ioc]
    omega
  · rw [covered_nil, Set.Ioc_eq_empty hlt]

theorem left_of_cut {parts : List Span} (h : t.cut s = some parts) : Left t s parts := by
  have hs := s.le
  unfold cut at h
  split_ifs at h with hin hmeet
  · cases h
    refine ⟨?_, List.Pairwise.nil, fun u hu => absurd hu List.not_mem_nil⟩
    rw [covered_nil, eq_comm, Set.sdiff_eq_empty]
    exact Set.Icc_subset_Icc hin.1 hin.2
  · cases h
    have hbefore : (t.before s).Pairwise Apart := by
      unfold before
      split_ifs <;> simp
    have hafter : (t.after s).Pairwise Apart := by
      unfold after
      split_ifs <;> simp
    refine ⟨?_, List.pairwise_append.mpr ⟨hbefore, hafter, fun u hu v hv => ?_⟩, fun u hu => ?_⟩
    · ext x
      simp only [covered_append, covered_before, covered_after, Set.mem_union, Set.mem_Ico, Set.mem_Ioc, mem_points,
        Set.mem_sdiff]
      omega
    · have hu' := mem_before hu
      have hv' := mem_after hv
      exact Or.inl (by omega)
    · rcases List.mem_append.mp hu with hu | hu
      · have hu' := mem_before hu
        omega
      · have hu' := mem_after hu
        omega

theorem disjoint_of_cut_eq_none (h : t.cut s = none) : t.hi < s.lo ∨ s.hi < t.lo := by
  unfold cut at h
  split_ifs at h with hin hmeet
  omega

/-- What a pass of a removal leaves. -/
structure Carved (s : Span) (l : List Span) (x : List Span × List Span) : Prop where
  kept : x.1.Sublist l
  covers : covered (x.1 ++ x.2) = covered l \ s.points
  apart : (x.1 ++ x.2).Pairwise Apart
  inside : ∀ u ∈ x.1 ++ x.2, ∃ t ∈ l, t.lo ≤ u.lo ∧ u.hi ≤ t.hi

theorem Carved.cons {rest parts : List Span} {x y : List Span × List Span} (hrest : Carved s rest x)
    (hsep : ∀ t' ∈ rest, t.hi + 1 < t'.lo) (hparts : Left t s parts) (hkept : y.1.Sublist (t :: rest))
    (hperm : (y.1 ++ y.2).Perm (parts ++ (x.1 ++ x.2))) : Carved s (t :: rest) y := by
  have hmem : ∀ u, u ∈ y.1 ++ y.2 ↔ u ∈ parts ∨ u ∈ x.1 ++ x.2 := by
    intro u
    rw [hperm.mem_iff, List.mem_append]
  have hinside : ∀ u ∈ y.1 ++ y.2, ∃ t' ∈ t :: rest, t'.lo ≤ u.lo ∧ u.hi ≤ t'.hi := by
    intro u hu
    rcases (hmem u).mp hu with hu | hu
    · exact ⟨t, List.mem_cons_self, hparts.inside u hu⟩
    · obtain ⟨t', ht', hin⟩ := hrest.inside u hu
      exact ⟨t', List.mem_cons_of_mem _ ht', hin⟩
  refine ⟨hkept, ?_, ?_, hinside⟩
  · have hcovers : covered (y.1 ++ y.2) = covered parts ∪ covered (x.1 ++ x.2) := by
      ext a
      simp only [mem_covered, hmem, Set.mem_union, or_and_right, exists_or]
    rw [hcovers, hparts.covers, hrest.covers, covered_cons, Set.union_sdiff_distrib]
  · rw [hperm.pairwise_iff Apart.symm]
    refine List.pairwise_append.mpr ⟨hparts.apart, hrest.apart, fun u hu v hv => Or.inl ?_⟩
    obtain ⟨t', ht', hlo, -⟩ := hrest.inside v hv
    have hhi := (hparts.inside u hu).2
    have hnext := hsep t' ht'
    omega

theorem carve_spec (s : Span) (hsep : Separated l) : Carved s l (carve s l) := by
  induction l with
  | nil => exact ⟨List.Sublist.refl _, by simp [carve], List.Pairwise.nil, fun u hu => absurd hu List.not_mem_nil⟩
  | cons t rest ih =>
    obtain ⟨hhead, htail⟩ := List.pairwise_cons.mp hsep
    have ht := t.le
    unfold carve
    split_ifs with hstop
    · -- The spans are sorted: none of the others meets `s`.
      refine ⟨List.Sublist.refl _, ?_, by simpa using hsep.apart, fun u hu => ?_⟩
      · rw [List.append_nil, eq_comm, sdiff_eq_left, Set.disjoint_left]
        rintro x ⟨u, hu, hx⟩ hxs
        rw [mem_points] at hx hxs
        rcases List.mem_cons.mp hu with rfl | hu
        · omega
        · have hnext := hhead u hu
          omega
      · rw [List.append_nil] at hu
        exact ⟨u, hu, le_refl _, le_refl _⟩
    · have hrest := ih htail
      cases hcut : t.cut s with
      | none =>
        exact hrest.cons hhead (left_of_disjoint (disjoint_of_cut_eq_none hcut)) (hrest.kept.cons_cons t)
          (List.Perm.refl _)
      | some parts =>
        refine hrest.cons hhead (left_of_cut hcut) (hrest.kept.cons t) ?_
        exact List.perm_append_comm_assoc _ _ _

theorem foldl_insertSorted_spec {us : List Span} (hsep : Separated l) (hus : us.Pairwise Apart)
    (hcross : ∀ u ∈ us, ∀ t ∈ l, u.Apart t) :
    Separated (us.foldl (fun l u => insertSorted compareTo u l) l) ∧
      covered (us.foldl (fun l u => insertSorted compareTo u l) l) = covered (l ++ us) := by
  induction us generalizing l with
  | nil => simpa using hsep
  | cons u us ih =>
    obtain ⟨hu, hus'⟩ := List.pairwise_cons.mp hus
    have hl := hcross u List.mem_cons_self
    have hcross' : ∀ v ∈ us, ∀ t ∈ insertSorted compareTo u l, v.Apart t := by
      intro v hv t ht
      rcases (mem_insertSorted_of_apart hl t).mp ht with rfl | ht
      · exact (hu v hv).symm
      · exact hcross v (List.mem_cons_of_mem _ hv) t ht
    obtain ⟨hsep', hcovered⟩ := ih (hsep.insertSorted hl) hus' hcross'
    refine ⟨hsep', hcovered.trans ?_⟩
    rw [covered_append, covered_insertSorted hl, covered_append, covered_cons, Set.union_assoc]

theorem removeFrom_spec (s : Span) (hsep : Separated l) :
    Separated (removeFrom s l) ∧ covered (removeFrom s l) = covered l \ s.points := by
  obtain ⟨hkept, hcovers, hapart, -⟩ := carve_spec s hsep
  obtain ⟨-, hpieces, hcross⟩ := List.pairwise_append.mp hapart
  have hfold := foldl_insertSorted_spec (hsep.sublist hkept) hpieces fun u hu t ht => (hcross t ht u hu).symm
  exact ⟨hfold.1, hfold.2.trans hcovers⟩

end Span
