import FreshVpn.RoutesMask
import FreshVpn.LibrarySpans

/-! Ranges of addresses of one family, and what joins and splits them. -/

namespace FreshVpn

open OrderedSet IpAddress Span

namespace IpAddress

theorem not_lt {ip other : IpAddress} : ¬ ip < other ↔ other ≤ ip := by
  rw [lt_iff, le_iff, Nat.not_lt]

def minOf (ip other : IpAddress) : IpAddress := if ip ≤ other then ip else other

def maxOf (ip other : IpAddress) : IpAddress := if other ≤ ip then ip else other

variable (ip other : IpAddress)

theorem minOf_point : (minOf ip other).point = min ip.point other.point := by
  unfold minOf
  split_ifs with h <;> rw [le_iff] at h <;> omega

theorem maxOf_point : (maxOf ip other).point = max ip.point other.point := by
  unfold maxOf
  split_ifs with h <;> rw [le_iff] at h <;> omega

theorem size_le_of_point_le {ip other : IpAddress} (h : ip.point ≤ other.point + 1) : ip.size ≤ other.size := by
  rcases ip.point_cases with ⟨hsize, hpoint, hlt⟩ | ⟨hsize, hpoint, hlt⟩ <;>
    rcases other.point_cases with ⟨hsize', hpoint', hlt'⟩ | ⟨hsize', hpoint', hlt'⟩ <;> omega

/-- The points of the last addresses of the two families. -/
def isTop (point : ℕ) : Bool := point = 2 ^ 32 - 1 || point = 2 ^ 129 - 1

theorem isMaxIp_eq_isTop : ip.isMaxIp = isTop ip.point := by
  rw [Bool.eq_iff_iff, isMaxIp_iff, isTop, Bool.or_eq_true, decide_eq_true_eq, decide_eq_true_eq, maxMask]
  rcases ip.point_cases with ⟨hsize, hpoint, hlt⟩ | ⟨hsize, hpoint, hlt⟩ <;> rw [hsize, hpoint] <;> omega

theorem dec_touches_iff : (other < ip ∧ ip.isMinIp = false ∧ ip.dec = .ok other) ↔ other.point + 1 = ip.point := by
  rw [lt_iff]
  cases hmin : ip.isMinIp with
  | false =>
    rw [dec_eq_ok_iff hmin, eq_self, true_and]
    omega
  | true =>
    have hvalue := (isMinIp_iff ip).mp hmin
    simp only [Bool.true_eq_false, false_and, and_false, false_iff]
    rcases ip.point_cases with ⟨hsize, hpoint, hlt⟩ | ⟨hsize, hpoint, hlt⟩ <;>
      rcases other.point_cases with ⟨hsize', hpoint', hlt'⟩ | ⟨hsize', hpoint', hlt'⟩ <;> omega

theorem inc_touches_iff : (ip < other ∧ ip.isMaxIp = false ∧ ip.inc = .ok other) ↔ ip.point + 1 = other.point := by
  rw [lt_iff]
  cases hmax : ip.isMaxIp with
  | false =>
    rw [inc_eq_ok_iff hmax, eq_self, true_and]
    omega
  | true =>
    have hvalue := (isMaxIp_iff ip).mp hmax
    unfold maxMask at hvalue
    simp only [Bool.true_eq_false, false_and, and_false, false_iff]
    rcases ip.point_cases with ⟨hsize, hpoint, hlt⟩ | ⟨hsize, hpoint, hlt⟩ <;>
      rcases other.point_cases with ⟨hsize', hpoint', hlt'⟩ | ⟨hsize', hpoint', hlt'⟩ <;>
        rw [hsize] at hvalue <;> omega

end IpAddress

structure IpRange where
  start : IpAddress
  last : IpAddress
  sameSize : start.size = last.size
  le : start ≤ last
deriving DecidableEq

namespace IpRange

variable (range other : IpRange)

def make (start last : IpAddress) : Except RangeException IpRange :=
  if hsize : start.size = last.size then
    if hlt : last < start then .error (.startAfterEnd start last)
    else .ok ⟨start, last, hsize, IpAddress.not_lt.mp hlt⟩
  else .error (.mixedFamilies start last)

def ofNetwork (inetNetwork : InetNetwork) : Except RangeException IpRange :=
  make (fromMask inetNetwork.address inetNetwork.mask).1 (fromMask inetNetwork.address inetNetwork.mask).2

def contains : Bool := range.start ≤ other.start && other.last ≤ range.last

def isIntersect : Bool := range.start ≤ other.last && other.start ≤ range.last

def plus : Except RangeException (Option IpRange) :=
  if other.last < range.start ∧ range.start.isMinIp = false ∧ range.start.dec = .ok other.last then
    some <$> make other.start range.last
  else if range.last < other.start ∧ range.last.isMaxIp = false ∧ range.last.inc = .ok other.start then
    some <$> make range.start other.last
  else if range.isIntersect other = false then .ok none
  else some <$> make (.minOf range.start other.start) (.maxOf range.last other.last)

def minusBefore : Except RangeException (List IpRange) :=
  if range.start < other.start then do
    let last ← other.start.dec
    let piece ← make range.start last
    pure [piece]
  else pure []

def minusAfter : Except RangeException (List IpRange) :=
  if other.last < range.last then do
    let start ← other.last.inc
    let piece ← make start range.last
    pure [piece]
  else pure []

def minus : Except RangeException (Option (List IpRange)) :=
  if other.contains range then .ok (some [])
  else if range.isIntersect other = false then .ok none
  else do
    let before ← range.minusBefore other
    let after ← range.minusAfter other
    pure (some (before ++ after))

def compareTo : ℤ :=
  let d := range.start.compareTo other.start
  if d = 0 then range.last.compareTo other.last else d

/-- The place of a range on the line of all addresses. -/
def span : Span := ⟨range.start.point, range.last.point, (IpAddress.le_iff _ _).mp range.le⟩

variable {range other}

theorem span_inj (h : range.span = other.span) : range = other := by
  obtain ⟨start, last, hsize, hle⟩ := range
  obtain ⟨start', last', hsize', hle'⟩ := other
  obtain rfl : start = start' := point_inj (congrArg lo h)
  obtain rfl : last = last' := point_inj (congrArg hi h)
  rfl

theorem make_eq_ok {start last : IpAddress} (hsize : start.size = last.size) (h : start.point ≤ last.point) :
    make start last = .ok ⟨start, last, hsize, (IpAddress.le_iff _ _).mpr h⟩ := by
  unfold make
  rw [dif_pos hsize, dif_neg (not_lt.mpr ((le_iff _ _).mpr h))]

theorem compareTo_iff (range other : IpRange) :
    (range.compareTo other < 0 ↔ range.span.compareTo other.span < 0) ∧
      (range.compareTo other = 0 ↔ range.span.compareTo other.span = 0) := by
  rw [compareTo_neg_iff, compareTo_eq_zero_iff]
  simp only [compareTo, span]
  rcases range.start.compareTo_cases other.start with ⟨hd, hlt⟩ | ⟨hd, heq⟩ | ⟨hd, hgt⟩
  · omega
  · rw [if_pos hd, heq]
    rcases range.last.compareTo_cases other.last with ⟨hd', hlt⟩ | ⟨hd', heq'⟩ | ⟨hd', hgt⟩
    · omega
    · rw [hd', heq']
      omega
    · omega
  · omega

theorem contains_iff (range other : IpRange) :
    range.contains other = true ↔ range.span.lo ≤ other.span.lo ∧ other.span.hi ≤ range.span.hi := by
  rw [contains, Bool.and_eq_true, decide_eq_true_eq, decide_eq_true_eq, le_iff, le_iff]
  rfl

theorem isIntersect_iff (range other : IpRange) :
    range.isIntersect other = true ↔ range.span.lo ≤ other.span.hi ∧ other.span.lo ≤ range.span.hi := by
  rw [isIntersect, Bool.and_eq_true, decide_eq_true_eq, decide_eq_true_eq, le_iff, le_iff]
  rfl

theorem size_eq_of_meets (h : range.start.point ≤ other.last.point + 1)
    (h' : other.start.point ≤ range.last.point + 1) : range.start.size = other.start.size := by
  have hle := size_le_of_point_le h
  have hle' := size_le_of_point_le h'
  have hrange := range.sameSize
  have hother := other.sameSize
  omega

theorem span_eq {s : Span} (hlo : range.start.point = s.lo) (hhi : range.last.point = s.hi) : range.span = s := by
  obtain ⟨lo, hi, hle⟩ := s
  cases hlo
  cases hhi
  rfl

theorem make_join {start last : IpAddress} (h : range.start.point ≤ other.last.point + 1)
    (h' : other.start.point ≤ range.last.point + 1) (hstart : start.point = min range.start.point other.start.point)
    (hlast : last.point = max range.last.point other.last.point) :
    ∃ res, some <$> make start last = .ok res ∧ res.map span = range.span.join other.span := by
  have hsize := size_eq_of_meets h h'
  have hrange := range.sameSize
  have hother := other.sameSize
  have hle : start.point ≤ last.point := by
    have hspan := range.span.le
    change range.start.point ≤ range.last.point at hspan
    omega
  have hsizes : start.size = last.size := by
    have hstart' : start = range.start ∨ start = other.start := by
      rcases min_choice range.start.point other.start.point with hmin | hmin
      · exact Or.inl (point_inj (hstart.trans hmin))
      · exact Or.inr (point_inj (hstart.trans hmin))
    have hlast' : last = range.last ∨ last = other.last := by
      rcases max_choice range.last.point other.last.point with hmax | hmax
      · exact Or.inl (point_inj (hlast.trans hmax))
      · exact Or.inr (point_inj (hlast.trans hmax))
    rcases hstart' with rfl | rfl <;> rcases hlast' with rfl | rfl <;> omega
  rw [make_eq_ok hsizes hle]
  refine ⟨_, rfl, ?_⟩
  rw [join, if_pos ⟨h, h'⟩, Option.map_some, Option.some_inj]
  exact span_eq hstart hlast

theorem plus_spec (range other : IpRange) :
    ∃ res, range.plus other = .ok res ∧ res.map span = range.span.join other.span := by
  have hrange : range.start.point ≤ range.last.point := range.span.le
  have hother : other.start.point ≤ other.last.point := other.span.le
  unfold plus
  simp only [dec_touches_iff, inc_touches_iff]
  split_ifs with hbefore hafter hmeet
  · exact make_join (by omega) (by omega) (by omega) (by omega)
  · exact make_join (by omega) (by omega) (by omega) (by omega)
  · refine ⟨none, rfl, ?_⟩
    rw [← Bool.not_eq_true, isIntersect_iff] at hmeet
    rw [join, if_neg]
    · rfl
    · simp only [span] at hmeet ⊢
      omega
  · rw [Bool.not_eq_false, isIntersect_iff] at hmeet
    simp only [span] at hmeet
    exact make_join (by omega) (by omega) (minOf_point _ _) (maxOf_point _ _)

theorem minusBefore_spec (hsize : range.start.size = other.start.size) :
    ∃ pieces, range.minusBefore other = .ok pieces ∧ pieces.map span = range.span.before other.span := by
  unfold minusBefore before
  by_cases hlt : range.span.lo < other.span.lo
  · have hpoint : range.start.point < other.start.point := hlt
    have hmin : other.start.isMinIp = false := by
      rw [← Bool.not_eq_true, isMinIp_iff]
      have hpoints := point_of_size_eq hsize
      omega
    obtain ⟨last, hdec, hlastSize, -⟩ := dec_of_not_min hmin
    have hlast := (dec_eq_ok_iff hmin last).mp hdec
    rw [if_pos ((lt_iff _ _).mpr hlt), hdec, dif_pos hlt]
    refine ⟨[⟨range.start, last, hsize.trans hlastSize.symm, (le_iff _ _).mpr (by omega)⟩], ?_, ?_⟩
    · change (make range.start last).bind (fun piece => .ok [piece]) = _
      rw [make_eq_ok (hsize.trans hlastSize.symm) (by omega)]
      rfl
    · rw [List.map_singleton]
      congr 1
      exact span_eq rfl (by change last.point = other.start.point - 1; omega)
  · rw [if_neg (mt (lt_iff _ _).mp hlt), dif_neg hlt]
    exact ⟨[], rfl, rfl⟩

theorem minusAfter_spec (hsize : range.last.size = other.last.size) :
    ∃ pieces, range.minusAfter other = .ok pieces ∧ pieces.map span = range.span.after other.span := by
  unfold minusAfter after
  by_cases hlt : other.span.hi < range.span.hi
  · have hpoint : other.last.point < range.last.point := hlt
    have hmax : other.last.isMaxIp = false := by
      rw [← Bool.not_eq_true, isMaxIp_iff]
      have hpoints := point_of_size_eq hsize
      have hvalue := range.last.value_lt
      rw [maxMask, hsize] at hvalue
      rw [maxMask]
      omega
    obtain ⟨start, hinc, hstartSize, -⟩ := inc_of_not_max hmax
    have hstart := (inc_eq_ok_iff hmax start).mp hinc
    rw [if_pos ((lt_iff _ _).mpr hlt), hinc, dif_pos hlt]
    refine ⟨[⟨start, range.last, hstartSize.trans hsize.symm, (le_iff _ _).mpr (by omega)⟩], ?_, ?_⟩
    · change (make start range.last).bind (fun piece => .ok [piece]) = _
      rw [make_eq_ok (hstartSize.trans hsize.symm) (by omega)]
      rfl
    · rw [List.map_singleton]
      congr 1
      exact span_eq hstart.symm rfl
  · rw [if_neg (mt (lt_iff _ _).mp hlt), dif_neg hlt]
    exact ⟨[], rfl, rfl⟩

theorem minus_spec (range other : IpRange) :
    ∃ res, range.minus other = .ok res ∧ res.map (List.map span) = range.span.cut other.span := by
  unfold minus cut
  simp only [← contains_iff, ← isIntersect_iff]
  split_ifs with hin hout hmeet hmeet
  · exact ⟨some [], rfl, rfl⟩
  · rw [hout] at hmeet
    cases hmeet
  · exact ⟨none, rfl, rfl⟩
  · obtain ⟨hlo, hhi⟩ := (isIntersect_iff _ _).mp hmeet
    have hsize := size_eq_of_meets (Nat.le_succ_of_le hlo) (Nat.le_succ_of_le hhi)
    obtain ⟨before, hbefore, hbeforeSpan⟩ := minusBefore_spec hsize
    obtain ⟨after, hafter, hafterSpan⟩ :=
      minusAfter_spec (range.sameSize.symm.trans (hsize.trans other.sameSize))
    rw [hbefore, hafter, ← hbeforeSpan, ← hafterSpan, ← List.map_append]
    exact ⟨some (before ++ after), rfl, rfl⟩
  · rw [Bool.not_eq_false] at hout
    exact absurd hout hmeet

theorem ofNetwork_spec (inetNetwork : InetNetwork) :
    ∃ range, ofNetwork inetNetwork = .ok range ∧
      range.start = (fromMask inetNetwork.address inetNetwork.mask).1 ∧
      range.last = (fromMask inetNetwork.address inetNetwork.mask).2 := by
  obtain ⟨⟨hstart, hlast⟩, hstartValue, hlastValue⟩ := fromMask_spec inetNetwork.address inetNetwork.mask
  have hsize := hstart.trans hlast.symm
  have hpoints := point_of_size_eq hsize
  unfold ofNetwork
  rw [make_eq_ok hsize (by omega)]
  exact ⟨_, rfl, rfl, rfl⟩

end IpRange

end FreshVpn
