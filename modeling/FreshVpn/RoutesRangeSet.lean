import FreshVpn.RoutesRange
import FreshVpn.LibraryBlocks

/-! Sets of ranges. The set is a tree set iterated in order; what its loops do to the ranges is what the passes over
a list of spans do. -/

namespace FreshVpn

open OrderedSet Blocks IpRange IpAddress

namespace IpRangeSet

/-- The loop of `add`: the ranges kept, and the range to add unless one of the set holds it. -/
def addLoop (rangeToAdd : IpRange) : List IpRange → Except RangeException (List IpRange × Option IpRange)
  | [] => .ok ([], some rangeToAdd)
  | curRange :: rest =>
    if rangeToAdd.last < curRange.start ∧ rangeToAdd.last.isMaxIp = false ∧
        rangeToAdd.last.inc ≠ .ok curRange.start then .ok (curRange :: rest, some rangeToAdd)
    else do
      match ← curRange.plus rangeToAdd with
      | none => do
        let (kept, toAdd) ← addLoop rangeToAdd rest
        pure (curRange :: kept, toAdd)
      | some resultRange =>
        if resultRange = curRange then pure (curRange :: rest, none) else addLoop resultRange rest

def add (ranges : List IpRange) (ipRange : IpRange) : Except RangeException (List IpRange) := do
  let (kept, toAdd) ← addLoop ipRange ranges
  match toAdd with
  | none => pure kept
  | some rangeToAdd => pure (insertSorted IpRange.compareTo rangeToAdd kept)

/-- The loop of `remove`: the ranges kept, and the `splitRanges`. -/
def removeLoop (ipRange : IpRange) : List IpRange → Except RangeException (List IpRange × List IpRange)
  | [] => .ok ([], [])
  | curRange :: rest =>
    if ipRange.last < curRange.start then .ok (curRange :: rest, [])
    else do
      match ← curRange.minus ipRange with
      | none => do
        let (kept, splitRanges) ← removeLoop ipRange rest
        pure (curRange :: kept, splitRanges)
      | some resultRanges => do
        let (kept, splitRanges) ← removeLoop ipRange rest
        pure (kept, resultRanges ++ splitRanges)

def remove (ranges : List IpRange) (ipRange : IpRange) : Except RangeException (List IpRange) := do
  let (kept, splitRanges) ← removeLoop ipRange ranges
  pure (splitRanges.foldl (fun ranges range => insertSorted IpRange.compareTo range ranges) kept)

/-! ### The passes over the spans -/

variable (range : IpRange) (ranges : List IpRange) (ipRange : IpRange)

theorem map_span_insertSorted :
    (insertSorted IpRange.compareTo range ranges).map IpRange.span =
      insertSorted Span.compareTo range.span (ranges.map IpRange.span) :=
  map_insertSorted span (fun a b => (compareTo_iff a b).1) (fun a b => (compareTo_iff a b).2)
    range ranges

theorem last_lt_start_iff (other : IpRange) : range.last < other.start ↔ range.span.hi < other.span.lo :=
  lt_iff _ _

theorem stop_iff (other : IpRange) :
    (range.last < other.start ∧ range.last.isMaxIp = false ∧ range.last.inc ≠ .ok other.start) ↔
      (range.span.hi < other.span.lo ∧ IpAddress.isTop range.span.hi = false ∧
        range.span.hi + 1 ≠ other.span.lo) := by
  rw [last_lt_start_iff, show isTop range.span.hi = _ from (isMaxIp_eq_isTop range.last).symm]
  cases hmax : range.last.isMaxIp with
  | false =>
    rw [Ne, inc_eq_ok_iff hmax]
    rfl
  | true => simp

theorem addLoop_spec (rangeToAdd : IpRange) (ranges : List IpRange) :
    ∃ kept toAdd, addLoop rangeToAdd ranges = .ok (kept, toAdd) ∧
      (kept.map IpRange.span, toAdd.map IpRange.span) =
        Span.absorb IpAddress.isTop rangeToAdd.span (ranges.map IpRange.span) := by
  induction ranges generalizing rangeToAdd with
  | nil => exact ⟨[], some rangeToAdd, rfl, rfl⟩
  | cons curRange rest ih =>
    unfold addLoop
    rw [List.map_cons, Span.absorb]
    simp only [stop_iff]
    by_cases hstop : rangeToAdd.span.hi < curRange.span.lo ∧ isTop rangeToAdd.span.hi = false ∧
        rangeToAdd.span.hi + 1 ≠ curRange.span.lo
    · rw [if_pos hstop, if_pos hstop]
      exact ⟨curRange :: rest, some rangeToAdd, rfl, rfl⟩
    · rw [if_neg hstop, if_neg hstop]
      obtain ⟨res, hplus, hjoin⟩ := curRange.plus_spec rangeToAdd
      rw [hplus, ← hjoin]
      cases res with
      | none =>
        obtain ⟨kept, toAdd, hloop, hspans⟩ := ih rangeToAdd
        refine ⟨curRange :: kept, toAdd, ?_, ?_⟩
        · rw [hloop]
          rfl
        · rw [Option.map_none, ← hspans]
          rfl
      | some resultRange =>
        rw [Option.map_some]
        change ∃ kept toAdd, (if resultRange = curRange then _ else _) = _ ∧ _
        by_cases hsame : resultRange = curRange
        · rw [if_pos hsame]
          refine ⟨curRange :: rest, none, rfl, ?_⟩
          dsimp only
          rw [if_pos (congrArg span hsame)]
          rfl
        · rw [if_neg hsame]
          obtain ⟨kept, toAdd, hloop, hspans⟩ := ih resultRange
          refine ⟨kept, toAdd, hloop, ?_⟩
          dsimp only
          rw [if_neg (mt span_inj hsame)]
          exact hspans

theorem add_spec :
    ∃ ranges', add ranges ipRange = .ok ranges' ∧
      ranges'.map IpRange.span = Span.addTo IpAddress.isTop ipRange.span (ranges.map IpRange.span) := by
  obtain ⟨kept, toAdd, hloop, hspans⟩ := addLoop_spec ipRange ranges
  unfold add Span.addTo
  rw [hloop, ← hspans]
  cases toAdd with
  | none => exact ⟨kept, rfl, rfl⟩
  | some rangeToAdd => exact ⟨_, rfl, map_span_insertSorted rangeToAdd kept⟩

theorem removeLoop_spec (ranges : List IpRange) :
    ∃ kept splitRanges, removeLoop ipRange ranges = .ok (kept, splitRanges) ∧
      (kept.map IpRange.span, splitRanges.map IpRange.span) =
        Span.carve ipRange.span (ranges.map IpRange.span) := by
  induction ranges with
  | nil => exact ⟨[], [], rfl, rfl⟩
  | cons curRange rest ih =>
    obtain ⟨kept, splitRanges, hloop, hspans⟩ := ih
    unfold removeLoop
    rw [List.map_cons, Span.carve, ← hspans]
    simp only [last_lt_start_iff]
    by_cases hstop : ipRange.span.hi < curRange.span.lo
    · rw [if_pos hstop, if_pos hstop]
      exact ⟨curRange :: rest, [], rfl, rfl⟩
    · rw [if_neg hstop, if_neg hstop]
      obtain ⟨res, hminus, hcut⟩ := curRange.minus_spec ipRange
      rw [hminus, ← hcut, hloop]
      cases res with
      | none => exact ⟨curRange :: kept, splitRanges, rfl, rfl⟩
      | some resultRanges =>
        refine ⟨kept, resultRanges ++ splitRanges, rfl, ?_⟩
        rw [Option.map_some, List.map_append]

theorem remove_spec :
    ∃ ranges', remove ranges ipRange = .ok ranges' ∧
      ranges'.map IpRange.span = Span.removeFrom ipRange.span (ranges.map IpRange.span) := by
  obtain ⟨kept, splitRanges, hloop, hspans⟩ := removeLoop_spec ipRange ranges
  unfold remove Span.removeFrom
  rw [hloop, ← hspans]
  refine ⟨_, rfl, ?_⟩
  rw [List.foldl_map]
  exact (List.foldl_hom (List.map span) fun ranges range => (map_span_insertSorted range ranges).symm).symm

end IpRangeSet

end FreshVpn
