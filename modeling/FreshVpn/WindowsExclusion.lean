import FreshVpn.LibrarySelection
import FreshVpn.WindowsRoutes

/-! The exclusion routes leave by the best route of the system. -/

namespace FreshVpn

open Selection AddressFamily

def WindowsHost.Obeys (host : WindowsHost) : Prop := ∀ key, host.accepts key = true ∧ host.releases key = true

namespace WindowsHost

variable {host : WindowsHost} (hobeys : host.Obeys)

include hobeys

theorem mem_deleteIpForwardEntry2 {system : List RouteKey} {row : ForwardRow} {key : RouteKey} :
    key ∈ host.deleteIpForwardEntry2 system row ↔ key ∈ system ∧ key ≠ row.routeKey := by
  rw [deleteIpForwardEntry2, if_pos (hobeys row.routeKey).2]
  simp

theorem createIpForwardEntry2_eq (system : List RouteKey) (row : ForwardRow) :
    host.createIpForwardEntry2 system row = some (row.routeKey :: system.filter (· ≠ row.routeKey)) :=
  if_pos (hobeys row.routeKey).1

end WindowsHost

namespace RouteMonitor

/-! ### The search -/

/-- A row that the loop may choose, with its metric. -/
def candidate (m : RouteMonitor) (data row : ForwardRow) : Option (ForwardRow × UInt32) :=
  if row.interfaceLuid ≠ m.luid ∧ ¬ (row.protocol = data.protocol ∧ row.metric = data.metric) ∧
      routeContainsDest row.destinationPrefix data.destinationPrefix = true then
    ((m.interfaceMetrics data.destinationPrefix.family).value row.interfaceLuid).map fun interfaceMetric =>
      (row, routeMetric row.metric interfaceMetric)
  else none

/-- A longer prefix is better, and for the same length a lower metric. -/
def Better (c b : ForwardRow × UInt32) : Prop :=
  b.1.destinationPrefix.length < c.1.destinationPrefix.length ∨
    (b.1.destinationPrefix.length = c.1.destinationPrefix.length ∧ c.2 < b.2)

instance : DecidableRel Better := fun _ _ => inferInstanceAs (Decidable (_ ∨ _))

instance : Std.Irrefl Better := ⟨by
  rintro b (hlt | ⟨-, hlt⟩)
  · exact lt_irrefl _ hlt
  · exact UInt32.lt_irrefl _ hlt⟩

instance : IsTrans (ForwardRow × UInt32) Better := ⟨by
  rintro a b c (hab | ⟨hab, hmetric⟩) (hbc | ⟨hbc, hmetric'⟩)
  · exact Or.inl (hbc.trans hab)
  · exact Or.inl (hbc ▸ hab)
  · exact Or.inl (hab ▸ hbc)
  · exact Or.inr ⟨hbc.trans hab, UInt32.lt_trans hmetric hmetric'⟩⟩

/-- The variables of the loop when a row has been chosen, or none yet. -/
def Search.of (data : ForwardRow) : Option (ForwardRow × UInt32) → Search
  | none => .start data
  | some (row, metric) =>
    { nexthop := row.nextHop
      bestMatch := row.destinationPrefix.length
      bestMetric := metric
      bestLuid := if row.destinationPrefix.length = data.destinationPrefix.length then 0 else row.interfaceLuid }

/-- The choice after one more row. -/
def choose (m : RouteMonitor) (data : ForwardRow) (b : Option (ForwardRow × UInt32)) (row : ForwardRow) :
    Option (ForwardRow × UInt32) :=
  match m.candidate data row with
  | none => b
  | some c => Selection.improve Better b c

variable {data : ForwardRow} {asked : AddressFamily}

theorem considerRow_of_eq_none {m : RouteMonitor} {row : ForwardRow} (h : m.candidate data row = none) (s : Search) :
    m.considerRow data s row = s := by
  unfold candidate at h
  unfold considerRow
  split_ifs at h with hrow
  · rw [Option.map_eq_none_iff] at h
    simp only [h, ite_self]
  · refine ite_eq_left_iff.mpr fun hvpn => ite_eq_left_iff.mpr fun _ => ite_eq_left_iff.mpr fun hown => ?_
    refine ite_eq_left_iff.mpr fun hcontains => ?_
    exact absurd ⟨hvpn, hown, by simpa using hcontains⟩ hrow

theorem considerRow_of_eq_some {m : RouteMonitor} {row : ForwardRow} {c : ForwardRow × UInt32}
    (h : m.candidate data row = some c) (s : Search) :
    m.considerRow data s row =
      if (row.destinationPrefix.length : ℤ) < s.bestMatch ∨
          (row.destinationPrefix.length = s.bestMatch ∧ s.bestMetric ≤ c.2) then s
      else Search.of data (some c) := by
  unfold candidate at h
  split_ifs at h with hrow
  obtain ⟨hvpn, hown, hcontains⟩ := hrow
  obtain ⟨interfaceMetric, hmetric, rfl⟩ := Option.map_eq_some_iff.mp h
  unfold considerRow
  rw [if_neg hvpn, if_neg hown, hcontains, hmetric]
  by_cases hmatch : (row.destinationPrefix.length : ℤ) < s.bestMatch
  · rw [if_pos hmatch, if_pos (Or.inl hmatch)]
  · simp [hmatch, Search.of]

variable (m : RouteMonitor) (interfaces : List InterfaceRow) (row : InterfaceRow) {family : AddressFamily}

theorem considerRow_of (data row : ForwardRow) (b : Option (ForwardRow × UInt32)) :
    m.considerRow data (Search.of data b) row = Search.of data (m.choose data b row) := by
  unfold choose
  cases hc : m.candidate data row with
  | none => exact considerRow_of_eq_none hc _
  | some c =>
    have hrow : c.1 = row := by
      unfold candidate at hc
      split_ifs at hc
      obtain ⟨metric, -, rfl⟩ := Option.map_eq_some_iff.mp hc
      rfl
    rw [considerRow_of_eq_some hc]
    cases b with
    | none =>
      rw [if_neg]
      · rfl
      · show ¬ ((row.destinationPrefix.length : ℤ) < -1 ∨ (row.destinationPrefix.length : ℤ) = -1 ∧ _)
        omega
    | some b =>
      have hiff : ((row.destinationPrefix.length : ℤ) < (Search.of data (some b)).bestMatch ∨
          ((row.destinationPrefix.length : ℤ) = (Search.of data (some b)).bestMatch ∧
            (Search.of data (some b)).bestMetric ≤ c.2)) ↔ ¬ Better c b := by
        show ((row.destinationPrefix.length : ℤ) < b.1.destinationPrefix.length ∨
          ((row.destinationPrefix.length : ℤ) = b.1.destinationPrefix.length ∧ b.2 ≤ c.2)) ↔ _
        rw [Better, hrow, ← UInt32.not_lt]
        by_cases hmetric : c.2 < b.2 <;>
          simp only [hmetric, not_true, not_false_eq_true, and_true, and_false, or_false] <;> omega
      simp only [improve]
      by_cases hbetter : Better c b
      · rw [if_neg fun h => hiff.mp h hbetter, if_pos hbetter]
      · rw [if_pos (hiff.mpr hbetter), if_neg hbetter]

/-- **The loop chooses the best candidate.** -/
theorem search_eq (data : ForwardRow) (rows : List ForwardRow) :
    m.search data rows = Search.of data (Selection.best Better (rows.filterMap (m.candidate data))) := by
  have hloop : rows.foldl (m.considerRow data) (Search.of data none) =
      Search.of data (rows.foldl (m.choose data) none) :=
    List.foldl_hom (Search.of data) fun b row => m.considerRow_of data row b
  have hchoose : rows.foldl (m.choose data) none = best Better (rows.filterMap (m.candidate data)) := by
    rw [best, List.foldl_filterMap]
    congr 1
    funext b row
    unfold choose
    cases m.candidate data row <;> rfl
  rw [← hchoose]
  exact hloop

/-! ### Metrics -/

theorem toNat_routeMetric (metric interfaceMetric : UInt32) :
    (routeMetric metric interfaceMetric).toNat = min (metric.toNat + interfaceMetric.toNat) (2 ^ 32 - 1) := by
  have hinterface := interfaceMetric.toNat_lt
  have hsum : (metric + interfaceMetric).toNat = (metric.toNat + interfaceMetric.toNat) % 2 ^ 32 :=
    UInt32.toNat_add metric interfaceMetric
  unfold routeMetric
  split_ifs with hwrap <;> rw [UInt32.lt_iff_toNat_lt] at hwrap
  · rw [show (0xffffffff : UInt32).toNat = 2 ^ 32 - 1 from rfl]
    omega
  · omega

/-- What a table of interfaces gives as the metric of an interface: that of its last connected row. -/
def interfaceMetric (interfaces : List InterfaceRow) (family : AddressFamily) (luid : ℕ) : Option UInt32 :=
  (interfaces.filter fun row => row.interfaceLuid = luid && row.connected && row.family = family).getLast?.map
    InterfaceRow.metric

theorem interfaceMetric_concat (family : AddressFamily) (luid : ℕ) :
    interfaceMetric (interfaces ++ [row]) family luid =
      if row.interfaceLuid = luid ∧ row.connected = true ∧ row.family = family then some row.metric
      else interfaceMetric interfaces family luid := by
  unfold interfaceMetric
  rw [List.filter_append]
  split_ifs with h
  · simp [h]
  · rw [List.filter_cons_of_neg (by simpa [and_assoc] using h), List.filter_nil, List.append_nil]

theorem luid_noteInterface : (m.noteInterface row).luid = m.luid := by
  unfold noteInterface
  split_ifs
  · rfl
  · rfl
  · cases row.family <;> rfl

theorem value_noteInterface (hfamily : family ≠ .unspec) (luid : ℕ) :
    ((m.noteInterface row).interfaceMetrics family).value luid =
      if luid ≠ m.luid ∧ row.interfaceLuid = luid ∧ row.connected = true ∧ row.family = family then some row.metric
      else (m.interfaceMetrics family).value luid := by
  unfold noteInterface
  by_cases hvpn : row.interfaceLuid = m.luid
  · rw [if_pos hvpn, if_neg]
    rintro ⟨hne, heq, -⟩
    exact hne (heq.symm.trans hvpn)
  rw [if_neg hvpn]
  by_cases hconnected : row.connected = true
  · have hluid : (luid ≠ m.luid ∧ row.interfaceLuid = luid ∧ row.connected = true ∧ row.family = family) ↔
        (luid = row.interfaceLuid ∧ row.family = family) := by
      constructor
      · rintro ⟨-, heq, -, hrow⟩
        exact ⟨heq.symm, hrow⟩
      · rintro ⟨rfl, hrow⟩
        exact ⟨hvpn, rfl, hconnected, hrow⟩
    cases hrow : row.family <;> cases family <;> simp_all [interfaceMetrics, SortedMap.value_insert]
  · rw [if_pos (by simpa using hconnected), if_neg fun h => hconnected h.2.2.1]

theorem foldl_noteInterface (hfamily : family ≠ .unspec) (luid : ℕ) :
    (interfaces.foldl noteInterface m).luid = m.luid ∧
      ((interfaces.foldl noteInterface m).interfaceMetrics family).value luid =
        if luid = m.luid then (m.interfaceMetrics family).value luid
        else (interfaceMetric interfaces family luid).or ((m.interfaceMetrics family).value luid) := by
  induction interfaces using List.reverseRecOn with
  | nil => simp [interfaceMetric]
  | append_singleton interfaces row ih =>
    obtain ⟨hluid, hvalue⟩ := ih
    rw [List.foldl_concat, luid_noteInterface, value_noteInterface _ _ hfamily, hluid, hvalue, interfaceMetric_concat]
    refine ⟨rfl, ?_⟩
    split_ifs with h₁ h₂ h₃ h₄ h₅ <;> simp_all

/-- **The interfaces listed are the connected ones of the table, apart from the tunnel.** -/
theorem value_updateInterfaceMetrics (hfamily : family ≠ .unspec) (hcovers : asked.covers family = true)
    (interfaces : List InterfaceRow) (luid : ℕ) :
    ((m.updateInterfaceMetrics asked (some interfaces)).interfaceMetrics family).value luid =
      if luid = m.luid then none else interfaceMetric interfaces family luid := by
  have hfilter : interfaceMetric (interfaces.filter fun row => asked.covers row.family) family luid =
      interfaceMetric interfaces family luid := by
    unfold interfaceMetric
    rw [List.filter_filter]
    congr 2
    apply List.filter_congr
    intro row _
    by_cases hrow : row.family = family
    · rw [hrow, hcovers, Bool.and_true]
    · simp [hrow]
  unfold updateInterfaceMetrics
  rw [(foldl_noteInterface _ _ hfamily luid).2, hfilter]
  cases family <;> cases asked <;> simp_all [interfaceMetrics, covers]

theorem luid_updateInterfaceMetrics (family : AddressFamily) (interfaces : Option (List InterfaceRow)) :
    (m.updateInterfaceMetrics family interfaces).luid = m.luid := by
  cases interfaces with
  | none => rfl
  | some interfaces => exact (foldl_noteInterface _ _ (by decide : inet ≠ .unspec) 0).1

/-! ### The best row -/

/-- The rows that an exclusion may leave by, for a tunnel and the metrics of the connected interfaces. -/
structure Eligible (vpn : ℕ) (metrics : ℕ → Option UInt32) (p : IpPrefix) (row : ForwardRow) : Prop where
  physical : row.interfaceLuid ≠ vpn
  connected : (metrics row.interfaceLuid).isSome = true
  foreign : row.isOwn = false
  contains : p.block ⊆ row.destinationPrefix.block

/-- The metric of a row and of its interface together, at most the largest number of 32 bits. -/
def combinedMetric (metrics : ℕ → Option UInt32) (row : ForwardRow) : ℕ :=
  min (row.metric.toNat + ((metrics row.interfaceLuid).getD 0).toNat) (2 ^ 32 - 1)

/-- Among the eligible rows, one with the longest prefix, and among those with the lowest metric. -/
structure BestRow (vpn : ℕ) (metrics : ℕ → Option UInt32) (p : IpPrefix) (rows : List ForwardRow)
    (row : ForwardRow) : Prop where
  mem : row ∈ rows
  eligible : Eligible vpn metrics p row
  best : ∀ other ∈ rows, Eligible vpn metrics p other →
    other.destinationPrefix.length < row.destinationPrefix.length ∨
      (other.destinationPrefix.length = row.destinationPrefix.length ∧
        combinedMetric metrics row ≤ combinedMetric metrics other)

/-- The metrics listed for a family, apart from the tunnel's. -/
def Knows (m : RouteMonitor) (metrics : ℕ → Option UInt32) (family : AddressFamily) : Prop :=
  ∀ luid, luid ≠ m.luid → (m.interfaceMetrics family).value luid = metrics luid

section Best

variable {m : RouteMonitor} {metrics : ℕ → Option UInt32} {data : ForwardRow}
  (hmarked : data.protocol = .netmgmt ∧ data.metric = exclusionRouteMetric)
  (hknows : m.Knows metrics data.destinationPrefix.family)

include hmarked hknows

theorem candidate_eq_some_iff (row : ForwardRow) (c : ForwardRow × UInt32) :
    m.candidate data row = some c ↔
      c.1 = row ∧ Eligible m.luid metrics data.destinationPrefix row ∧
        c.2.toNat = combinedMetric metrics row := by
  have hown : (row.protocol = data.protocol ∧ row.metric = data.metric) ↔ row.isOwn = true := by
    rw [hmarked.1, hmarked.2, ForwardRow.isOwn, Bool.and_eq_true, decide_eq_true_iff, decide_eq_true_iff]
  unfold candidate
  by_cases hvpn : row.interfaceLuid = m.luid
  · rw [if_neg fun h => h.1 hvpn]
    exact iff_of_false nofun fun h => h.2.1.physical hvpn
  rw [hknows _ hvpn]
  constructor
  · intro h
    split_ifs at h with hrow
    obtain ⟨metric, hmetric, rfl⟩ := Option.map_eq_some_iff.mp h
    have hconnected : (metrics row.interfaceLuid).isSome = true := by
      rw [hmetric]
      rfl
    have hforeign : row.isOwn = false := Bool.eq_false_iff.mpr fun h => hrow.2.1 (hown.mpr h)
    refine ⟨rfl, ⟨hvpn, hconnected, hforeign, (routeContainsDest_iff _ _).mp hrow.2.2⟩, ?_⟩
    rw [toNat_routeMetric, combinedMetric, hmetric, Option.getD_some]
  · rintro ⟨rfl, heligible, hmetric⟩
    obtain ⟨metric, hsome⟩ := Option.isSome_iff_exists.mp heligible.connected
    have hforeign : ¬ (c.1.protocol = data.protocol ∧ c.1.metric = data.metric) :=
      fun h => Bool.eq_false_iff.mp heligible.foreign (hown.mp h)
    rw [if_pos ⟨hvpn, hforeign, (routeContainsDest_iff _ _).mpr heligible.contains⟩,
      hsome, Option.map_some, Option.some.injEq]
    rw [combinedMetric, hsome, Option.getD_some, ← toNat_routeMetric] at hmetric
    exact Prod.ext rfl (UInt32.toNat_inj.mp hmetric).symm

theorem search_cases (rows : List ForwardRow) :
    (∃ row, BestRow m.luid metrics data.destinationPrefix rows row ∧
        (m.search data rows).nexthop = row.nextHop ∧
        (m.search data rows).bestLuid =
          if row.destinationPrefix.length = data.destinationPrefix.length then 0 else row.interfaceLuid) ∨
      ((∀ row ∈ rows, ¬ Eligible m.luid metrics data.destinationPrefix row) ∧
        (m.search data rows).nexthop = .zero data.destinationPrefix.family ∧ (m.search data rows).bestLuid = 0) := by
  rw [search_eq]
  have hcandidate := candidate_eq_some_iff hmarked hknows
  -- Every eligible row is a candidate, with the metric that it should have.
  have heligible : ∀ row, Eligible m.luid metrics data.destinationPrefix row →
      ∃ c, m.candidate data row = some c := by
    intro row hrow
    by_contra hnone
    rw [← Option.isSome_iff_exists, Option.not_isSome_iff_eq_none] at hnone
    have hmetric : ∃ metric : UInt32, metric.toNat = combinedMetric metrics row :=
      ⟨.ofNat (combinedMetric metrics row),
        UInt32.toNat_ofNat_of_lt' (lt_of_le_of_lt (Nat.min_le_right _ _) (by norm_num))⟩
    obtain ⟨metric, hmetric⟩ := hmetric
    rw [(hcandidate row (row, metric)).mpr ⟨rfl, hrow, hmetric⟩] at hnone
    cases hnone
  cases hbest : best Better (rows.filterMap (m.candidate data)) with
  | none =>
    refine Or.inr ⟨fun row hmem hrow => ?_, rfl, rfl⟩
    obtain ⟨c, hc⟩ := heligible row hrow
    have hmemc : c ∈ rows.filterMap (m.candidate data) := List.mem_filterMap.mpr ⟨row, hmem, hc⟩
    rw [(best_eq_none_iff Better _).mp hbest] at hmemc
    cases hmemc
  | some c =>
    obtain ⟨hmem, hall⟩ := best_spec Better hbest
    obtain ⟨row, hrow, hc⟩ := List.mem_filterMap.mp hmem
    obtain ⟨rfl, hrowEligible, hmetric⟩ := (hcandidate row c).mp hc
    refine Or.inl ⟨c.1, ⟨hrow, hrowEligible, fun other hother hotherEligible => ?_⟩, rfl, rfl⟩
    obtain ⟨d, hd⟩ := heligible other hotherEligible
    have hworse := hall d (List.mem_filterMap.mpr ⟨other, hother, hd⟩)
    obtain ⟨rfl, -, hmetric'⟩ := (hcandidate other d).mp hd
    rw [Better, not_or, not_and, UInt32.not_lt, UInt32.le_iff_toNat_le] at hworse
    rw [← hmetric, ← hmetric']
    by_cases hlength : c.1.destinationPrefix.length = d.1.destinationPrefix.length
    · exact Or.inr ⟨hlength.symm, hworse.2 hlength⟩
    · exact Or.inl (by omega)

end Best

/-! ### What the system holds -/

/-- Of the routes to its prefix outside the tunnel, the system holds the one that an exclusion has recorded. -/
def HeldFor (vpn : ℕ) (system : List RouteKey) (data : ForwardRow) : Prop :=
  ∀ key : RouteKey, key.destinationPrefix = data.destinationPrefix → key.interfaceLuid ≠ vpn →
    (key ∈ system ↔ data.interfaceLuid ≠ 0 ∧ key = data.routeKey)

theorem updateExclusionRoute_fst (host : WindowsHost) (m : RouteMonitor) (rows : List ForwardRow) (data : ForwardRow) :
    (updateExclusionRoute host m rows data).1 =
      { data with interfaceLuid := (m.search data rows).bestLuid, nextHop := (m.search data rows).nexthop } := by
  unfold updateExclusionRoute
  by_cases hsame : data.interfaceLuid = (m.search data rows).bestLuid ∧ (m.search data rows).nexthop = data.nextHop
  · rw [if_pos hsame, ← hsame.1, hsame.2]
  · rw [if_neg hsame]

theorem mem_updateExclusionRoute {host : WindowsHost} (hobeys : host.Obeys) (m : RouteMonitor)
    (rows : List ForwardRow) (data : ForwardRow) (key : RouteKey) :
    key ∈ (updateExclusionRoute host m rows data).2 ↔
      if data.interfaceLuid = (m.search data rows).bestLuid ∧ (m.search data rows).nexthop = data.nextHop then
        key ∈ m.system
      else
        ((m.search data rows).bestLuid ≠ 0 ∧
            key = ⟨(m.search data rows).bestLuid, data.destinationPrefix, (m.search data rows).nexthop⟩) ∨
          (key ∈ m.system ∧ ¬ (data.interfaceLuid ≠ 0 ∧ key = data.routeKey)) := by
  have hdelete : key ∈ (if data.interfaceLuid ≠ 0 then host.deleteIpForwardEntry2 m.system data else m.system) ↔
      key ∈ m.system ∧ ¬ (data.interfaceLuid ≠ 0 ∧ key = data.routeKey) := by
    by_cases hold : data.interfaceLuid = 0
    · simp [hold]
    · rw [if_pos hold, WindowsHost.mem_deleteIpForwardEntry2 hobeys]
      simp [hold]
  unfold updateExclusionRoute
  dsimp only
  by_cases hsame : data.interfaceLuid = (m.search data rows).bestLuid ∧ (m.search data rows).nexthop = data.nextHop
  · rw [if_pos hsame, if_pos hsame]
  · rw [if_neg hsame, if_neg hsame, ← hdelete]
    by_cases hnew : (m.search data rows).bestLuid = 0
    · simp [hnew]
    · rw [if_pos hnew, WindowsHost.createIpForwardEntry2_eq hobeys, Option.getD_some, List.mem_cons, List.mem_filter,
        decide_eq_true_iff]
      constructor
      · rintro (heq | ⟨hmem, -⟩)
        · exact Or.inl ⟨hnew, heq⟩
        · exact Or.inr hmem
      · rintro (⟨-, heq⟩ | hmem)
        · exact Or.inl heq
        · exact or_iff_not_imp_left.mpr fun hne => ⟨hmem, hne⟩

theorem heldFor_updateExclusionRoute {host : WindowsHost} (hobeys : host.Obeys) {m : RouteMonitor}
    (hheld : HeldFor m.luid m.system data) (rows : List ForwardRow) :
    HeldFor m.luid (updateExclusionRoute host m rows data).2 (updateExclusionRoute host m rows data).1 := by
  intro key hdest hluid
  rw [updateExclusionRoute_fst] at hdest ⊢
  rw [mem_updateExclusionRoute hobeys]
  split_ifs with hsame
  · rw [← hsame.1, hsame.2]
    exact hheld key hdest hluid
  · rw [hheld key hdest hluid]
    simp [ForwardRow.routeKey]

/-! ### The way out -/

/-- What an exclusion should have recorded: the next hop of a best row, with the interface of that row unless the row is
for the very prefix; and no interface if there is no row to leave by. -/
def LeavesByBest (vpn : ℕ) (metrics : ℕ → Option UInt32) (rows : List ForwardRow) (data : ForwardRow) : Prop :=
  (∃ row, BestRow vpn metrics data.destinationPrefix rows row ∧ data.nextHop = row.nextHop ∧
      (row.destinationPrefix.block ≠ data.destinationPrefix.block →
        data.interfaceLuid = row.interfaceLuid ∧ data.interfaceLuid ≠ 0) ∧
      (row.destinationPrefix.block = data.destinationPrefix.block → data.interfaceLuid = 0)) ∨
    ((∀ row ∈ rows, ¬ Eligible vpn metrics data.destinationPrefix row) ∧ data.interfaceLuid = 0)

/-- The metrics of the connected interfaces of a family: those of the table fetched, or the last ones if it could not be
had. -/
def metricsFor (m : RouteMonitor) (family : AddressFamily) : Option (List InterfaceRow) → ℕ → Option UInt32
  | none => (m.interfaceMetrics family).value
  | some interfaces => interfaceMetric interfaces family

theorem knows_updateInterfaceMetrics (hfamily : family ≠ .unspec) (hcovers : asked.covers family = true)
    (interfaces : Option (List InterfaceRow)) (m : RouteMonitor) :
    (m.updateInterfaceMetrics asked interfaces).Knows (m.metricsFor family interfaces) family := by
  intro luid hluid
  rw [luid_updateInterfaceMetrics] at hluid
  cases interfaces with
  | none => rfl
  | some interfaces => rw [value_updateInterfaceMetrics m hfamily hcovers, if_neg hluid, metricsFor]

def recordedRow (p : IpPrefix) (luid : ℕ) (hop : SocketAddress) : ForwardRow :=
  { exclusionRow p with interfaceLuid := luid, nextHop := hop }

/-- **An exclusion leaves by the best physical route**, whatever it had recorded before and whatever the tables of routes
and of interfaces. A best row is one that contains the prefix, on a connected interface other than the tunnel and not of
the monitor's own making, with the longest prefix and then the lowest metric. If the system does what it is asked, then
it goes on to hold, of the monitor's routes to the prefix outside the tunnel, the one recorded, and none if none is. -/
theorem leaves_by_best_route (host : WindowsHost) (m : RouteMonitor) (p : IpPrefix) (luid : ℕ) (hop : SocketAddress)
    {family : AddressFamily} (hfamily : family.covers p.family = true) (table : RoutingTable)
    (interfaces : Option (List InterfaceRow)) :
    let before := m.updateInterfaceMetrics family interfaces
    let after := updateExclusionRoute host before (table.ofFamily family) (recordedRow p luid hop)
    after.1.destinationPrefix = p ∧
      LeavesByBest m.luid (m.metricsFor p.family interfaces) (table.ofFamily family) after.1 ∧
      (host.Obeys → HeldFor m.luid before.system (recordedRow p luid hop) → HeldFor m.luid after.2 after.1) := by
  intro before after
  have hluid : before.luid = m.luid := m.luid_updateInterfaceMetrics family interfaces
  have hafter : after.1 = _ := updateExclusionRoute_fst host before (table.ofFamily family) (recordedRow p luid hop)
  refine ⟨congrArg ForwardRow.destinationPrefix hafter, ?_, fun hobeys hheld => ?_⟩
  · have hknows : before.Knows (m.metricsFor p.family interfaces) (recordedRow p luid hop).destinationPrefix.family :=
      knows_updateInterfaceMetrics p.family_ne_unspec hfamily interfaces m
    rw [hafter, ← hluid]
    rcases search_cases ⟨rfl, rfl⟩ hknows (table.ofFamily family) with ⟨row, hbest, hhop, hout⟩ | ⟨hnone, -, hout⟩
    · refine Or.inl ⟨row, hbest, hhop, fun hblock => ?_, fun hblock => ?_⟩
      · have hlength := mt (IpPrefix.block_eq_iff hbest.eligible.contains).mpr hblock
        rw [if_neg hlength] at hout
        exact ⟨hout, hout.trans_ne (table.luid_ne_zero row (List.mem_filter.mp hbest.mem).1)⟩
      · have hlength := (IpPrefix.block_eq_iff hbest.eligible.contains).mp hblock
        rw [if_pos hlength] at hout
        exact hout
    · exact Or.inr ⟨hnone, hout⟩
  · rw [← hluid] at hheld ⊢
    exact heldFor_updateExclusionRoute hobeys hheld _

def sampleHost : WindowsHost := ⟨fun _ => false, fun _ => true, fun _ => true⟩

def sampleServer : IpPrefix := ⟨⟨[203, 0, 113, 7], inet_length⟩, 32, by decide⟩

def sampleGateway : SocketAddress := ⟨⟨[192, 168, 1, 1], Or.inl rfl⟩, 0⟩

/-- The default route by the physical interface 3, a better one into the tunnel, and one by an interface that is down. -/
def sampleRoutes : RoutingTable where
  rows :=
    [⟨9, ⟨⟨[128, 0, 0, 0], Or.inl rfl⟩, 1, by decide⟩, .zero .inet, 0, .netmgmt, 0⟩,
      ⟨3, ⟨⟨[0, 0, 0, 0], inet_length⟩, 0, by decide⟩, sampleGateway, 25, .other 2, 0⟩,
      ⟨4, ⟨⟨[203, 0, 0, 0], Or.inl rfl⟩, 8, by decide⟩, .zero .inet, 1, .other 2, 0⟩]
  luid_ne_zero := by decide

def sampleInterfaces : List InterfaceRow := [⟨3, .inet, true, 25⟩, ⟨4, .inet, false, 5⟩, ⟨9, .inet, true, 5⟩]

theorem server_leaves_by_gateway :
    let before := (start 9).updateInterfaceMetrics .inet (some sampleInterfaces)
    let after := updateExclusionRoute sampleHost before (sampleRoutes.ofFamily .inet) (exclusionRow sampleServer)
    after.1.routeKey = ⟨3, sampleServer, sampleGateway⟩ ∧
      LeavesByBest 9 ((start 9).metricsFor sampleServer.family (some sampleInterfaces)) (sampleRoutes.ofFamily .inet)
        after.1 ∧
      HeldFor 9 after.2 after.1 := by
  have h := leaves_by_best_route sampleHost (start 9) sampleServer 0 (.zero .inet)
    (by decide : inet.covers _ = true) sampleRoutes (some sampleInterfaces)
  refine ⟨by decide +kernel, h.2.1, h.2.2 (fun _ => ⟨rfl, rfl⟩) fun key _ _ => ?_⟩
  exact iff_of_false List.not_mem_nil fun hkey => hkey.1 rfl

end RouteMonitor

end FreshVpn
