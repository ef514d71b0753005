import FreshVpn.RoutesCoverage

/-! The normal form of a set of ranges. Whatever is added and removed, in whatever order, the set holds the one sorted
list of ranges with a gap between any two that has the addresses left. -/

namespace FreshVpn

open Span IpAddress IpRange

inductive RangeCall where
  | add (ipRange : IpRange)
  | remove (ipRange : IpRange)

def RangeCall.ipRange : RangeCall → IpRange
  | .add ipRange | .remove ipRange => ipRange

def IpRange.isIpv4 (range : IpRange) : Bool := range.start.isIpv4

namespace IpRangeSet

def call (ranges : List IpRange) : RangeCall → Except RangeException (List IpRange)
  | .add ipRange => add ranges ipRange
  | .remove ipRange => remove ranges ipRange

def addressSet (ranges : List IpRange) : Set IpAddress := {ip | ∃ range ∈ ranges, ip ∈ range.addressSet}

/-- Sorted and disjoint, and no range ends right before another. -/
structure NormalForm (ranges : List IpRange) : Prop where
  sorted : ranges.Pairwise fun range other => range.compareTo other < 0
  disjoint : ranges.Pairwise fun range other => ∀ ip ∈ range.addressSet, ip ∉ other.addressSet
  notAdjacent : ∀ range ∈ ranges, ∀ other ∈ ranges, range.last.inc ≠ .ok other.start

/-- The addresses left after a call. -/
def leftAfter (left : Set IpAddress) : RangeCall → Set IpAddress
  | .add ipRange => left ∪ ipRange.addressSet
  | .remove ipRange => left \ ipRange.addressSet

end IpRangeSet

open IpRangeSet

/-! ### One list for a set of addresses -/

theorem IpRange.exists_address {range : IpRange} {x : ℕ} (h : x ∈ range.span.points) :
    ∃ ip : IpAddress, ip.point = x := by
  have hlo : range.start.point ≤ x := h.1
  have hhi : x ≤ range.last.point := h.2
  have hsame := range.sameSize
  apply exists_point_eq
  rcases range.start.point_cases with ⟨hsize, hpoint, hlt⟩ | ⟨hsize, hpoint, hlt⟩ <;>
    rcases range.last.point_cases with ⟨hsize', hpoint', hlt'⟩ | ⟨hsize', hpoint', hlt'⟩ <;> omega

theorem IpRange.isIpv4_of_mem {range : IpRange} {ip : IpAddress} (h : ip.point ∈ range.span.points) :
    ip.isIpv4 = range.isIpv4 := by
  rw [IpRange.isIpv4, IpAddress.isIpv4, IpAddress.isIpv4, size_eq_of_mem h, range.sameSize]

namespace Represents

variable {ranges ranges' : List IpRange} {left : Set IpAddress} (h : Represents ranges left)
include h

theorem covered_eq : covered (ranges.map span) = point '' left := by
  apply Set.Subset.antisymm
  · intro x hx
    obtain ⟨s, hs, hmem⟩ := hx
    obtain ⟨range, hrange, rfl⟩ := List.mem_map.mp hs
    obtain ⟨ip, rfl⟩ := exists_address hmem
    exact ⟨ip, (h.covers ip).mp ⟨_, hs, hmem⟩, rfl⟩
  · rintro _ ⟨ip, hip, rfl⟩
    exact (h.covers ip).mpr hip

theorem unique (h' : Represents ranges' left) : ranges = ranges' := by
  apply List.map_injective_iff.mpr fun _ _ => span_inj
  apply h.separated.eq_of_covered_eq h'.separated
  rw [h.covered_eq, h'.covered_eq]

theorem addressSet_eq : addressSet ranges = left := by
  ext ip
  rw [← h.covers, mem_covered]
  simp [IpRangeSet.addressSet, mem_addressSet]

theorem normalForm : NormalForm ranges := by
  have hsep : ranges.Pairwise fun range other => range.last.point + 1 < other.start.point :=
    List.pairwise_map.mp h.separated
  have hle : ∀ range : IpRange, range.start.point ≤ range.last.point := fun range => range.span.le
  refine ⟨hsep.imp fun {range other} hlt => ?_, hsep.imp fun {range other} hlt => ?_, ?_⟩
  · rw [(compareTo_iff range other).1, compareTo_neg_iff]
    exact Or.inl (lt_of_le_of_lt (hle range) (Nat.lt_of_succ_lt hlt))
  · intro ip hip hip'
    have hhi := (le_iff _ _).mp hip.2
    have hlo := (le_iff _ _).mp hip'.1
    omega
  · intro range hrange other hother hinc
    have hmax : range.last.isMaxIp = false := by
      rw [← Bool.not_eq_true]
      intro hmax
      rw [inc, if_pos (show range.last.address.all _ = true from hmax)] at hinc
      cases hinc
    have htouch := (inc_eq_ok_iff hmax _).mp hinc
    have hrangeLe := hle range
    have hotherLe := hle other
    by_cases hsame : range.span = other.span
    · have hlo : range.start.point = other.start.point := congrArg lo hsame
      omega
    · rcases h.separated.apart.forall (List.mem_map_of_mem hrange) (List.mem_map_of_mem hother) hsame with
        (hlt : range.last.point + 1 < other.start.point) | (hlt : other.last.point + 1 < range.start.point) <;> omega

/-! ### The two families -/

theorem filter (ipv4 : Bool) : Represents (ranges.filter (·.isIpv4 = ipv4)) {ip ∈ left | ip.isIpv4 = ipv4} := by
  refine ⟨h.separated.sublist (List.filter_sublist.map span), fun ip => ?_⟩
  simp only [Set.mem_ofPred_eq, ← h.covers, mem_covered, List.mem_map, List.mem_filter, decide_eq_true_eq]
  constructor
  · rintro ⟨_, ⟨range, ⟨hrange, hfamily⟩, rfl⟩, hmem⟩
    exact ⟨⟨_, ⟨range, hrange, rfl⟩, hmem⟩, (isIpv4_of_mem hmem).trans hfamily⟩
  · rintro ⟨⟨_, ⟨range, hrange, rfl⟩, hmem⟩, hfamily⟩
    exact ⟨_, ⟨range, ⟨hrange, (isIpv4_of_mem hmem).symm.trans hfamily⟩, rfl⟩, hmem⟩

/-! ### Runs -/

theorem call (c : RangeCall) : ∃ ranges', IpRangeSet.call ranges c = .ok ranges' ∧ Represents ranges' (leftAfter left c) := by
  cases c with
  | add ipRange => exact h.add rfl
  | remove ipRange => exact h.remove rfl

theorem calls (cs : List RangeCall) :
    ∃ ranges', cs.foldlM IpRangeSet.call ranges = .ok ranges' ∧ Represents ranges' (cs.foldl leftAfter left) := by
  induction cs generalizing ranges left with
  | nil => exact ⟨ranges, rfl, h⟩
  | cons c cs ih =>
    obtain ⟨ranges', hcall, hrep⟩ := h.call c
    rw [List.foldlM_cons, hcall]
    exact ih hrep

end Represents

namespace IpRangeSet

theorem leftAfter_family (left : Set IpAddress) (c : RangeCall) (ipv4 : Bool) :
    {ip ∈ leftAfter left c | ip.isIpv4 = ipv4} =
      if c.ipRange.isIpv4 = ipv4 then leftAfter {ip ∈ left | ip.isIpv4 = ipv4} c else {ip ∈ left | ip.isIpv4 = ipv4} := by
  have hfamily : ∀ ip ∈ c.ipRange.addressSet, ip.isIpv4 = c.ipRange.isIpv4 :=
    fun ip hip => isIpv4_of_mem ((mem_addressSet _ _).mp hip)
  ext ip
  have hip := hfamily ip
  cases c with
  | add ipRange | remove ipRange =>
    change ip ∈ ipRange.addressSet → ip.isIpv4 = ipRange.isIpv4 at hip
    change _ ↔ ip ∈ if ipRange.isIpv4 = ipv4 then _ else _
    split_ifs with hsame <;> simp only [leftAfter, Set.mem_ofPred_eq, Set.mem_union, Set.mem_sdiff] <;> grind

theorem foldl_leftAfter_family (cs : List RangeCall) (left : Set IpAddress) (ipv4 : Bool) :
    (cs.filter (·.ipRange.isIpv4 = ipv4)).foldl leftAfter {ip ∈ left | ip.isIpv4 = ipv4} =
      {ip ∈ cs.foldl leftAfter left | ip.isIpv4 = ipv4} := by
  induction cs generalizing left with
  | nil => rfl
  | cons c cs ih =>
    rw [List.foldl_cons, ← ih, leftAfter_family]
    by_cases hsame : c.ipRange.isIpv4 = ipv4
    · simp [hsame]
    · simp [hsame]

/-- **The set of ranges is in normal form after any calls.** The part of each family is what the calls with ranges of that
family alone leave, and two runs that leave the same addresses leave the same ranges. -/
theorem normal_form_of_calls (cs : List RangeCall) :
    ∃ ranges, cs.foldlM call [] = .ok ranges ∧ NormalForm ranges ∧
      (∀ ipv4, (cs.filter (·.ipRange.isIpv4 = ipv4)).foldlM call [] = .ok (ranges.filter (·.isIpv4 = ipv4))) ∧
      ∀ (cs' : List RangeCall) (ranges' : List IpRange),
        cs'.foldlM call [] = .ok ranges' → addressSet ranges' = addressSet ranges → ranges' = ranges := by
  obtain ⟨ranges, hcalls, hrep⟩ := Represents.empty.calls cs
  refine ⟨ranges, hcalls, hrep.normalForm, fun ipv4 => ?_, fun cs' ranges' hcalls' hsame => ?_⟩
  · obtain ⟨part, hpart, hrepPart⟩ := Represents.empty.calls (cs.filter (·.ipRange.isIpv4 = ipv4))
    have hempty : (∅ : Set IpAddress) = {ip ∈ (∅ : Set IpAddress) | ip.isIpv4 = ipv4} := by simp
    rw [hempty, foldl_leftAfter_family] at hrepPart
    rw [hpart, hrepPart.unique (hrep.filter ipv4)]
  · obtain ⟨other, hother, hrep'⟩ := Represents.empty.calls cs'
    rw [hcalls'] at hother
    cases hother
    rw [hrep.addressSet_eq, hrep'.addressSet_eq] at hsame
    exact hrep'.unique (hsame ▸ hrep)

/-- **The set of ranges stands for the addresses that the calls leave**: it has these addresses, and two series of calls
leave the same ranges exactly if they leave the same addresses. -/
theorem calls_eq_iff (cs cs' : List RangeCall) :
    (∃ ranges, cs.foldlM call [] = .ok ranges ∧ addressSet ranges = cs.foldl leftAfter ∅) ∧
      (cs.foldlM call [] = cs'.foldlM call [] ↔ cs.foldl leftAfter ∅ = cs'.foldl leftAfter ∅) := by
  obtain ⟨ranges, hcalls, hrep⟩ := Represents.empty.calls cs
  obtain ⟨ranges', hcalls', hrep'⟩ := Represents.empty.calls cs'
  refine ⟨⟨ranges, hcalls, hrep.addressSet_eq⟩, ?_⟩
  rw [hcalls, hcalls']
  constructor
  · intro h
    cases h
    rw [← hrep.addressSet_eq, hrep'.addressSet_eq]
  · intro h
    rw [hrep.unique (h ▸ hrep')]

end IpRangeSet

end FreshVpn
