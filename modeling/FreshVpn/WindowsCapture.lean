import FreshVpn.LibraryRun
import FreshVpn.WindowsExclusion

/-! The cloned routes follow the routing table. A capture counts, for each clone, the rows that it stands for, and then
gives up the clones that stand for none. -/

namespace FreshVpn

open Keyed ForwardRow

namespace RouteMonitor

variable {host : WindowsHost} {m m' : RouteMonitor} {rows : List ForwardRow}

/-! ### One capture -/

def Captures (host : WindowsHost) (m : RouteMonitor) (row : ForwardRow) : Prop :=
  row.interfaceLuid ≠ m.luid ∧ row.destinationPrefix.length ≠ 0 ∧ row.isOwn = false ∧
    m.isRouteExcluded row.destinationPrefix = false ∧ host.special row.destinationPrefix.address = false

theorem captureRow_of_not {row : ForwardRow} (h : ¬ Captures host m row) : captureRow host m row = m := by
  refine ite_eq_left_iff.mpr fun hvpn => ite_eq_left_iff.mpr fun hdefault => ite_eq_left_iff.mpr fun hown => ?_
  refine ite_eq_left_iff.mpr fun hexcluded => ite_eq_left_iff.mpr fun hspecial => absurd ?_ h
  exact ⟨hvpn, hdefault, Bool.eq_false_iff.mpr hown, Bool.eq_false_iff.mpr hexcluded, Bool.eq_false_iff.mpr hspecial⟩

theorem captureRow_of_captures (hobeys : host.Obeys) {row : ForwardRow} (h : Captures host m row) :
    ∃ system, captureRow host m row =
      { m with
        clonedRoutes := m.clonedRoutes.insert
          (((m.clonedRoutes.value row.destinationPrefix).map fun data => { data with age := data.age + 1 }).getD
            { m.clone row.destinationPrefix with age := 1 })
        system := system } := by
  obtain ⟨hvpn, hdefault, hown, hexcluded, hspecial⟩ := h
  rw [captureRow, if_neg hvpn, if_neg hdefault, if_neg (Bool.eq_false_iff.mp hown),
    if_neg (Bool.eq_false_iff.mp hexcluded), if_neg (Bool.eq_false_iff.mp hspecial)]
  cases m.clonedRoutes.value row.destinationPrefix with
  | some data => exact ⟨m.system, rfl⟩
  | none =>
    dsimp only
    rw [WindowsHost.createIpForwardEntry2_eq hobeys]
    exact ⟨_, rfl⟩

def Hit (host : WindowsHost) (m : RouteMonitor) (rows : List ForwardRow) (p : IpPrefix) : Prop :=
  ∃ row ∈ rows, Captures host m row ∧ row.destinationPrefix = p

theorem hit_concat (row : ForwardRow) (p : IpPrefix) :
    Hit host m (rows ++ [row]) p ↔ Hit host m rows p ∨ (Captures host m row ∧ row.destinationPrefix = p) := by
  simp [Hit, or_and_right, exists_or]

def HasClone (m : RouteMonitor) (p : IpPrefix) : Prop := ∃ data ∈ m.clonedRoutes.items, data.destinationPrefix = p

/-- The clones in the middle of a capture, after some rows: the age of a clone tells whether one of them is for it. -/
structure Counted (host : WindowsHost) (m m' : RouteMonitor) (rows : List ForwardRow) : Prop where
  same : ∃ clones system, m' = { m with clonedRoutes := clones, system := system }
  present : ∀ p, m'.HasClone p ↔ m.HasClone p ∨ Hit host m rows p
  age : ∀ data ∈ m'.clonedRoutes.items, 0 < data.age ↔ Hit host m rows data.destinationPrefix

theorem Counted.captureRow (hobeys : host.Obeys) (h : Counted host m m' rows) (row : ForwardRow) :
    Counted host m (RouteMonitor.captureRow host m' row) (rows ++ [row]) := by
  obtain ⟨⟨clones, system, rfl⟩, hpresent, hage⟩ := h
  by_cases hrow : Captures host m row
  swap
  · have hhit : ∀ p, Hit host m (rows ++ [row]) p ↔ Hit host m rows p :=
      fun p => (hit_concat row p).trans (or_iff_left fun hnot => hrow hnot.1)
    have hsame : RouteMonitor.captureRow host { m with clonedRoutes := clones, system := system } row = _ :=
      captureRow_of_not hrow
    rw [hsame]
    exact ⟨⟨clones, system, rfl⟩, fun p => by rw [hpresent, hhit], fun data hdata => by rw [hage data hdata, hhit]⟩
  have hhit : ∀ p, Hit host m (rows ++ [row]) p ↔ Hit host m rows p ∨ row.destinationPrefix = p :=
    fun p => (hit_concat row p).trans (or_congr_right (and_iff_right hrow))
  obtain ⟨system', heq⟩ := captureRow_of_captures (m := { m with clonedRoutes := clones, system := system }) hobeys hrow
  rw [heq]
  -- The clone that is put into the table has the prefix of the row and is older than nothing.
  generalize hclone : (((clones.value row.destinationPrefix).map fun data => { data with age := data.age + 1 }).getD
    { RouteMonitor.clone _ row.destinationPrefix with age := 1 }) = clone
  have hput : clone.destinationPrefix = row.destinationPrefix ∧ 0 < clone.age := by
    cases hvalue : clones.value row.destinationPrefix with
    | none =>
      rw [← hclone, hvalue]
      exact ⟨rfl, Nat.one_pos⟩
    | some data =>
      rw [← hclone, hvalue]
      exact ⟨(value_eq_some_iff.mp hvalue).2, Nat.succ_pos _⟩
  refine ⟨⟨_, _, rfl⟩, fun p => ?_, fun data hdata => ?_⟩
  · rw [hhit, ← or_assoc, ← hpresent]
    constructor
    · rintro ⟨data, hdata, rfl⟩
      rcases mem_insert.mp hdata with rfl | ⟨hdata, -⟩
      · exact Or.inr hput.1.symm
      · exact Or.inl ⟨data, hdata, rfl⟩
    · intro hp
      by_cases hsame : p = clone.destinationPrefix
      · exact ⟨clone, mem_insert.mpr (Or.inl rfl), hsame.symm⟩
      · obtain ⟨data, hdata, rfl⟩ := hp.resolve_right fun hrow => hsame (hrow.symm.trans hput.1.symm)
        exact ⟨data, mem_insert.mpr (Or.inr ⟨hdata, hsame⟩), rfl⟩
  · rw [hhit]
    rcases mem_insert.mp hdata with rfl | ⟨hdata, hother⟩
    · exact iff_of_true hput.2 (Or.inr hput.1.symm)
    · rw [hage data hdata, or_iff_left]
      exact fun hrow => hother (hrow.symm.trans hput.1.symm)

theorem counted_foldl_captureRow (hobeys : host.Obeys) (hage : ∀ data ∈ m.clonedRoutes.items, data.age = 0)
    (rows : List ForwardRow) : Counted host m (rows.foldl (RouteMonitor.captureRow host) m) rows := by
  induction rows using List.reverseRecOn with
  | nil =>
    refine ⟨⟨_, _, rfl⟩, fun p => (or_iff_left fun ⟨_, hrow, _⟩ => absurd hrow List.not_mem_nil).symm,
      fun data hdata => ?_⟩
    rw [hage data hdata]
    exact iff_of_false (lt_irrefl 0) fun ⟨_, hrow, _⟩ => absurd hrow List.not_mem_nil
  | append_singleton rows row ih =>
    rw [List.foldl_concat]
    exact ih.captureRow hobeys row

theorem sweepRow_cases (family : AddressFamily) (data : ForwardRow) :
    (sweepRow family data = some { data with age := 0 } ∧
        (0 < data.age ∨ family.covers data.destinationPrefix.family = false)) ∨
      (sweepRow family data = none ∧ data.age = 0 ∧ family.covers data.destinationPrefix.family = true) := by
  unfold sweepRow
  by_cases hage : 0 < data.age
  · exact Or.inl ⟨if_pos hage, Or.inl hage⟩
  · have hzero : data.age = 0 := Nat.eq_zero_of_not_pos hage
    rw [if_neg hage]
    by_cases hcovers : family.covers data.destinationPrefix.family = true
    · refine Or.inr ⟨if_neg fun h => ?_, hzero, hcovers⟩
      rw [AddressFamily.covers, Bool.or_eq_true, decide_eq_true_iff, decide_eq_true_iff] at hcovers
      exact hcovers.elim h.1 h.2
    · refine Or.inl ⟨?_, Or.inr (Bool.eq_false_iff.mpr hcovers)⟩
      rw [AddressFamily.covers, Bool.or_eq_true, decide_eq_true_iff, decide_eq_true_iff, not_or] at hcovers
      rw [if_pos hcovers, ← hzero]

/-- **After a capture the clones of the family are those of the rows captured.** -/
theorem updateCapturedRoutes_spec (hobeys : host.Obeys) (hcapture : m.defaultRouteCapture = true)
    (hage : ∀ data ∈ m.clonedRoutes.items, data.age = 0) (family : AddressFamily) (rows : List ForwardRow) :
    (∃ clones system, updateCapturedRoutes host family rows m = { m with clonedRoutes := clones, system := system }) ∧
      (∀ data ∈ (updateCapturedRoutes host family rows m).clonedRoutes.items, data.age = 0) ∧
      ∀ p, family.covers p.family = true →
        ((updateCapturedRoutes host family rows m).HasClone p ↔ Hit host m rows p) := by
  obtain ⟨⟨clones, system, heq⟩, hpresent, hcounted⟩ := counted_foldl_captureRow hobeys hage rows
  have hsweep : updateCapturedRoutes host family rows m =
      sweep host family (rows.foldl (RouteMonitor.captureRow host) m) := by
    rw [updateCapturedRoutes, hcapture]
    rfl
  rw [hsweep]
  generalize rows.foldl (RouteMonitor.captureRow host) m = m' at heq hpresent hcounted
  have hkept : ∀ d, d ∈ (sweep host family m').clonedRoutes.items ↔ ∃ data ∈ m'.clonedRoutes.items,
      d = { data with age := 0 } ∧ (0 < data.age ∨ family.covers data.destinationPrefix.family = false) := by
    intro d
    show d ∈ List.filterMap _ _ ↔ _
    rw [List.mem_filterMap]
    refine exists_congr fun data => and_congr_right fun _ => ?_
    rcases sweepRow_cases family data with ⟨hkept, hwhy⟩ | ⟨hnone, hzero, hcovers⟩
    · rw [hkept, Option.some.injEq, and_iff_left hwhy]
      exact eq_comm
    · rw [hnone]
      refine iff_of_false nofun fun h => ?_
      rw [hzero, hcovers] at h
      exact h.2.elim (lt_irrefl 0) Bool.noConfusion
  refine ⟨⟨_, _, by rw [sweep, heq]⟩, fun d hd => ?_, fun p hp => ⟨?_, fun hhit => ?_⟩⟩
  · obtain ⟨data, -, rfl, -⟩ := (hkept d).mp hd
    rfl
  · rintro ⟨d, hd, rfl⟩
    obtain ⟨data, hdata, rfl, hwhy⟩ := (hkept d).mp hd
    exact (hcounted data hdata).mp (hwhy.resolve_right fun h => Bool.noConfusion (h.symm.trans hp))
  · obtain ⟨data, hdata, rfl⟩ := (hpresent p).mpr (Or.inr hhit)
    exact ⟨_, (hkept _).mpr ⟨data, hdata, rfl, Or.inl ((hcounted data hdata).mpr hhit)⟩, rfl⟩

/-! ### Between the calls -/

def excluded (m : RouteMonitor) : List IpPrefix := m.exclusionRoutes.items.map ForwardRow.destinationPrefix

/-- The prefixes that a table asks to be captured: those of rows outside the tunnel that are neither default routes nor of
the monitor's own making nor special, and that no excluded prefix contains. -/
def Wanted (host : WindowsHost) (vpn : ℕ) (excluded : List IpPrefix) (rows : List ForwardRow) (p : IpPrefix) : Prop :=
  ∃ row ∈ rows, row.destinationPrefix = p ∧ row.interfaceLuid ≠ vpn ∧ p.length ≠ 0 ∧ row.isOwn = false ∧
    host.special p.address = false ∧ ∀ q ∈ excluded, ¬ p.block ⊆ q.block

theorem hit_iff_wanted (p : IpPrefix) : Hit host m rows p ↔ Wanted host m.luid m.excluded rows p := by
  have hexcluded : ∀ p, m.isRouteExcluded p = false ↔ ∀ q ∈ m.excluded, ¬ p.block ⊆ q.block := by
    intro p
    simp only [isRouteExcluded, excluded, List.any_eq_false, List.mem_map, forall_exists_index, and_imp,
      forall_apply_eq_imp_iff₂, routeContainsDest_iff]
  refine exists_congr fun row => and_congr_right fun _ => ?_
  constructor
  · rintro ⟨⟨hvpn, hdefault, hown, hnot, hspecial⟩, rfl⟩
    exact ⟨rfl, hvpn, hdefault, hown, hspecial, (hexcluded _).mp hnot⟩
  · rintro ⟨rfl, hvpn, hdefault, hown, hspecial, hnot⟩
    exact ⟨⟨hvpn, hdefault, hown, (hexcluded _).mpr hnot, hspecial⟩, rfl⟩

variable {p : IpPrefix}

theorem wanted_of_mem_iff {vpn : ℕ} {old new : List IpPrefix} (h : ∀ q, q ∈ new ↔ q = p ∨ q ∈ old) (q : IpPrefix) :
    Wanted host vpn new rows q ↔ Wanted host vpn old rows q ∧ ¬ q.block ⊆ p.block := by
  simp only [Wanted, h, forall_eq_or_imp]
  constructor
  · rintro ⟨row, hrow, hdest, hvpn, hdefault, hown, hspecial, hp, hold⟩
    exact ⟨⟨row, hrow, hdest, hvpn, hdefault, hown, hspecial, hold⟩, hp⟩
  · rintro ⟨⟨row, hrow, hdest, hvpn, hdefault, hown, hspecial, hold⟩, hp⟩
    exact ⟨row, hrow, hdest, hvpn, hdefault, hown, hspecial, hp, hold⟩

/-- The clones of a family are those that the rows ask for. -/
def Exact (host : WindowsHost) (m : RouteMonitor) (family : AddressFamily) (rows : List ForwardRow) : Prop :=
  ∀ p : IpPrefix, family.covers p.family = true → (m.HasClone p ↔ Wanted host m.luid m.excluded rows p)

/-- The monitor between two calls, with the capture on. -/
structure Settled (m : RouteMonitor) : Prop where
  capture : m.defaultRouteCapture = true
  fetched : m.readUnfetched = false
  age : ∀ data ∈ m.clonedRoutes.items, data.age = 0

theorem exists_updateInterfaceMetrics_eq (m : RouteMonitor) (family : AddressFamily)
    (interfaces : Option (List InterfaceRow)) :
    ∃ ipv4 ipv6, m.updateInterfaceMetrics family interfaces =
      { m with interfaceMetricsIpv4 := ipv4, interfaceMetricsIpv6 := ipv6 } := by
  have hloop : ∀ (interfaces : List InterfaceRow) (m : RouteMonitor), ∃ ipv4 ipv6,
      interfaces.foldl noteInterface m = { m with interfaceMetricsIpv4 := ipv4, interfaceMetricsIpv6 := ipv6 } := by
    intro interfaces
    induction interfaces with
    | nil => exact fun m => ⟨_, _, rfl⟩
    | cons row rest ih =>
      intro m
      have hnote : ∃ ipv4 ipv6, m.noteInterface row =
          { m with interfaceMetricsIpv4 := ipv4, interfaceMetricsIpv6 := ipv6 } := by
        unfold noteInterface
        split_ifs
        · exact ⟨_, _, rfl⟩
        · exact ⟨_, _, rfl⟩
        · cases row.family <;> exact ⟨_, _, rfl⟩
      obtain ⟨ipv4, ipv6, hnote⟩ := hnote
      rw [List.foldl_cons, hnote]
      obtain ⟨ipv4', ipv6', hrest⟩ := ih { m with interfaceMetricsIpv4 := ipv4, interfaceMetricsIpv6 := ipv6 }
      exact ⟨ipv4', ipv6', hrest⟩
  cases interfaces with
  | none => exact ⟨_, _, rfl⟩
  | some interfaces =>
    obtain ⟨ipv4, ipv6, h⟩ := hloop (interfaces.filter fun row => family.covers row.family) _
    exact ⟨ipv4, ipv6, h⟩

theorem Settled.prepare (hm : m.Settled) (hobeys : host.Obeys) (family : AddressFamily)
    (interfaces : Option (List InterfaceRow)) (rows : List ForwardRow) :
    ∃ ipv4 ipv6 clones system,
      updateCapturedRoutes host family rows (m.updateInterfaceMetrics family interfaces) =
        { m with
          interfaceMetricsIpv4 := ipv4, interfaceMetricsIpv6 := ipv6, clonedRoutes := clones, system := system } ∧
      (∀ data ∈ clones.items, data.age = 0) ∧
      ∀ p : IpPrefix, family.covers p.family = true →
        ((∃ data ∈ clones.items, data.destinationPrefix = p) ↔ Wanted host m.luid m.excluded rows p) := by
  obtain ⟨ipv4, ipv6, hmetrics⟩ := m.exists_updateInterfaceMetrics_eq family interfaces
  rw [hmetrics]
  obtain ⟨⟨clones, system, heq⟩, hage, hpresent⟩ := updateCapturedRoutes_spec
    (m := { m with interfaceMetricsIpv4 := ipv4, interfaceMetricsIpv6 := ipv6 }) hobeys hm.capture hm.age family rows
  rw [heq] at hage hpresent
  exact ⟨ipv4, ipv6, clones, system, heq, hage, fun p hp => (hpresent p hp).trans (hit_iff_wanted p)⟩

theorem foldl_refreshExclusion_eq (host : WindowsHost) (rows todo : List ForwardRow) (m : RouteMonitor) :
    ∃ exclusions system, todo.foldl (refreshExclusion host rows) m =
        { m with exclusionRoutes := exclusions, system := system } ∧
      ∀ q, q ∈ exclusions.items.map ForwardRow.destinationPrefix ↔
        q ∈ m.excluded ∨ q ∈ todo.map ForwardRow.destinationPrefix := by
  induction todo generalizing m with
  | nil => exact ⟨_, _, rfl, fun q => by simp [excluded]⟩
  | cons data todo ih =>
    obtain ⟨exclusions, system, heq, hkeys⟩ := ih (refreshExclusion host rows m data)
    refine ⟨exclusions, system, heq, fun q => ?_⟩
    have hdata : (updateExclusionRoute host m rows data).1.destinationPrefix = data.destinationPrefix := by
      rw [updateExclusionRoute_fst]
    have hrefresh : q ∈ (refreshExclusion host rows m data).excluded ↔ q = data.destinationPrefix ∨ q ∈ m.excluded := by
      rw [← hdata]
      exact mem_keys_insert
    rw [hkeys, hrefresh, List.map_cons, List.mem_cons, or_assoc, or_left_comm]

theorem covers_of_wanted {vpn : ℕ} {excluded : List IpPrefix} {table : RoutingTable} {family : AddressFamily}
    (h : Wanted host vpn excluded (table.ofFamily family) p) : family.covers p.family = true := by
  obtain ⟨row, hrow, rfl, -⟩ := h
  exact (List.mem_filter.mp hrow).2

theorem mem_excluded_iff : p ∈ m.excluded ↔ ∃ data, m.exclusionRoutes.value p = some data := by
  simp only [excluded, List.mem_map, value_eq_some_iff]

namespace Settled

variable (hm : m.Settled) (hobeys : host.Obeys)

include hm hobeys

theorem add {p : IpPrefix} (hspecial : host.special p.address = false) (hp : p ∉ m.excluded) (table : RoutingTable)
    (interfaces : Option (List InterfaceRow)) :
    (addExclusionRoute host p (.ok table) interfaces m).2.Settled ∧
      (Exact host (addExclusionRoute host p (.ok table) interfaces m).2 p.family (table.ofFamily p.family) ↔
        ∀ q, Wanted host m.luid m.excluded (table.ofFamily p.family) q → ¬ q.block ⊆ p.block) := by
  obtain ⟨ipv4, ipv6, clones, system, heq, hage, hpresent⟩ :=
    hm.prepare hobeys p.family interfaces (table.ofFamily p.family)
  have hcontains : ¬ m.exclusionRoutes.contains p = true := by
    rw [contains_iff]
    exact fun h => hp (List.mem_map.mpr h)
  rw [addExclusionRoute, if_neg (Bool.eq_false_iff.mp hspecial), if_neg hcontains]
  dsimp only
  rw [heq]
  have hdest : (updateExclusionRoute host
      { m with interfaceMetricsIpv4 := ipv4, interfaceMetricsIpv6 := ipv6, clonedRoutes := clones, system := system }
      (table.ofFamily p.family) (exclusionRow p)).1.destinationPrefix = p := by
    rw [updateExclusionRoute_fst]
    rfl
  generalize updateExclusionRoute host _ (table.ofFamily p.family) (exclusionRow p) = after at hdest ⊢
  have hnew : ∀ q, q ∈ (m.exclusionRoutes.insert after.1).items.map destinationPrefix ↔
      q = p ∨ q ∈ m.excluded := by
    intro q
    rw [mem_keys_insert, hdest]
    rfl
  refine ⟨⟨hm.capture, hm.fetched, hage⟩, fun h q hq => ?_, fun h q hq => ?_⟩
  · -- The clones were counted without the new prefix.
    have hcovers := covers_of_wanted hq
    exact ((wanted_of_mem_iff hnew q).mp ((h q hcovers).mp ((hpresent q hcovers).mpr hq))).2
  · refine (hpresent q hq).trans ⟨fun hold => ?_, fun hwanted => ((wanted_of_mem_iff hnew q).mp hwanted).1⟩
    exact (wanted_of_mem_iff hnew q).mpr ⟨hold, h q hold⟩

theorem change (table : RoutingTable) (interfaces : Option (List InterfaceRow)) :
    (routeChanged host (.ok table) interfaces m).Settled ∧
      Exact host (routeChanged host (.ok table) interfaces m) .unspec (table.ofFamily .unspec) := by
  obtain ⟨ipv4, ipv6, clones, system, heq, hage, hpresent⟩ := hm.prepare hobeys .unspec interfaces table.rows
  rw [routeChanged, heq, RoutingTable.ofFamily_unspec]
  obtain ⟨exclusions, system', hloop, hkeys⟩ := foldl_refreshExclusion_eq host table.rows m.exclusionRoutes.items
    { m with interfaceMetricsIpv4 := ipv4, interfaceMetricsIpv6 := ipv6, clonedRoutes := clones, system := system }
  rw [hloop]
  refine ⟨⟨hm.capture, hm.fetched, hage⟩, fun q hq => (hpresent q hq).trans ?_⟩
  have hsame : ∀ q, q ∈ exclusions.items.map destinationPrefix ↔ q ∈ m.excluded :=
    fun q => (hkeys q).trans (or_self_iff)
  show _ ↔ Wanted host m.luid (exclusions.items.map destinationPrefix) table.rows q
  simp only [Wanted, hsame]

omit hobeys in
theorem delete {p : IpPrefix} (hp : p ∈ m.excluded) (fetch : Fetch) :
    (∃ table, fetch = .ok table ∧ (deleteExclusionRoute host p fetch m).2.Settled ∧
        (Exact host (deleteExclusionRoute host p fetch m).2 p.family (table.ofFamily p.family) ↔
          ∀ q : IpPrefix, p.family.covers q.family = true →
            (m.HasClone q ↔ Wanted host m.luid (m.excluded.filter (· ≠ p)) (table.ofFamily p.family) q))) ∨
      ((∀ table, fetch ≠ .ok table) ∧ (deleteExclusionRoute host p fetch m).2.readUnfetched = true) := by
  obtain ⟨data, hvalue⟩ := mem_excluded_iff.mp hp
  rw [deleteExclusionRoute, hvalue]
  dsimp only
  unfold fetchCapturedRoutes
  rw [if_neg (by rw [hm.capture]; decide)]
  cases fetch with
  | failed memory => exact Or.inr ⟨nofun, rfl⟩
  | ok table =>
    refine Or.inl ⟨table, rfl, ⟨hm.capture, hm.fetched, hm.age⟩, forall₂_congr fun q _ => iff_congr Iff.rfl ?_⟩
    have hkeys : ∀ q, q ∈ (m.exclusionRoutes.remove p).items.map destinationPrefix ↔
        q ∈ m.excluded.filter (· ≠ p) := by
      intro q
      rw [mem_keys_remove, List.mem_filter, decide_eq_true_iff, excluded]
    show Wanted host m.luid ((m.exclusionRoutes.remove p).items.map destinationPrefix) _ q ↔ _
    simp only [Wanted, hkeys]

end Settled

/-! ### Runs -/

structure CaptureRun where
  monitor : RouteMonitor
  fetched : Option (AddressFamily × RoutingTable)

def fetchedBy (host : WindowsHost) (m : RouteMonitor) : Call → Option (AddressFamily × RoutingTable)
  | .addExclusionRoute p (.ok table) _ =>
    if host.special p.address = true ∨ p ∈ m.excluded then none else some (p.family, table)
  | .deleteExclusionRoute p (.ok table) => if p ∈ m.excluded then some (p.family, table) else none
  | .routeChanged (.ok table) _ => some (.unspec, table)
  | _ => none

namespace CaptureRun

/-- A call that adds or deletes an exclusion, or a change of the routes. -/
def step (host : WindowsHost) (s : CaptureRun) : Call → Option CaptureRun
  | .flushExclusionRoutes | .setDefaultRouteCapture _ => none
  | call => (RouteMonitor.step host s.monitor call).map fun m => ⟨m, fetchedBy host s.monitor call⟩

def start (luid : ℕ) : CaptureRun := ⟨{ RouteMonitor.start luid with defaultRouteCapture := true }, none⟩

/-- No table has been read that was not fetched, and the clones are those that the table just fetched asks for. -/
def Follows (host : WindowsHost) (s : CaptureRun) : Prop :=
  s.monitor.readUnfetched = false ∧
    ∀ family table, s.fetched = some (family, table) → Exact host s.monitor family (table.ofFamily family)

/-- The calls after which the clones still follow the table: a prefix is added only if it contains no prefix that the
table asks to be captured, and deleted only if its table is fetched and asks for the clones that there are. -/
def Fitting (host : WindowsHost) (s : CaptureRun) : Call → Prop
  | .addExclusionRoute p (.ok table) _ =>
    host.special p.address = false → p ∉ s.monitor.excluded →
      ∀ q, Wanted host s.monitor.luid s.monitor.excluded (table.ofFamily p.family) q → ¬ q.block ⊆ p.block
  | .deleteExclusionRoute p fetch =>
    p ∈ s.monitor.excluded → ∃ table, fetch = .ok table ∧ ∀ q : IpPrefix, p.family.covers q.family = true →
      (s.monitor.HasClone q ↔
        Wanted host s.monitor.luid (s.monitor.excluded.filter (· ≠ p)) (table.ofFamily p.family) q)
  | _ => True

theorem follows_cases {family : AddressFamily} {table : RoutingTable} {fits : Prop} (hm : m.Settled)
    (h : Exact host m family (table.ofFamily family) ↔ fits) :
    (m.Settled ∧ Follows host ⟨m, some (family, table)⟩ ∧ fits) ∨
      (¬ Follows host ⟨m, some (family, table)⟩ ∧ ¬ fits) := by
  have hfollows : Follows host ⟨m, some (family, table)⟩ ↔ fits := by
    rw [← h]
    refine ⟨fun hf => hf.2 family table rfl, fun hexact => ⟨hm.fetched, ?_⟩⟩
    rintro family' table' ⟨⟩
    exact hexact
  by_cases hfits : fits
  · exact Or.inl ⟨hm, hfollows.mpr hfits, hfits⟩
  · exact Or.inr ⟨fun hf => hfits (hfollows.mp hf), hfits⟩

/-- **One call**: the clones follow the table after it exactly if the call fits. -/
theorem step_spec (hobeys : host.Obeys) {s s' : CaptureRun} (hs : s.monitor.Settled) {call : Call}
    (h : step host s call = some s') :
    (s'.monitor.Settled ∧ s'.Follows host ∧ s.Fitting host call) ∨ (¬ s'.Follows host ∧ ¬ s.Fitting host call) := by
  have hidle : ∀ call, fetchedBy host s.monitor call = none → s.Fitting host call →
      RouteMonitor.step host s.monitor call = some s.monitor → step host s call = some s' →
      s'.monitor.Settled ∧ s'.Follows host ∧ s.Fitting host call := by
    intro call hfetched hfitting hstep h
    obtain ⟨m, hm, rfl⟩ : ∃ m, RouteMonitor.step host s.monitor call = some m ∧
        ⟨m, fetchedBy host s.monitor call⟩ = s' := by
      cases call <;> first | exact Option.map_eq_some_iff.mp h | cases h
    rw [hstep] at hm
    cases hm
    exact ⟨hs, ⟨hs.fetched, fun family table hlast => absurd (hfetched.symm.trans hlast) nofun⟩, hfitting⟩
  cases call with
  | flushExclusionRoutes => cases h
  | setDefaultRouteCapture enable => cases h
  | routeChanged fetch interfaces =>
    cases fetch with
    | failed memory => exact Or.inl (hidle _ rfl trivial rfl h)
    | ok table =>
      cases h
      obtain ⟨hsettled, hexact⟩ := hs.change hobeys table interfaces
      refine Or.inl ⟨hsettled, ⟨hsettled.fetched, ?_⟩, trivial⟩
      rintro family table' ⟨⟩
      exact hexact
  | addExclusionRoute p fetch interfaces =>
    cases fetch with
    | failed memory =>
      refine Or.inl (hidle _ rfl trivial ?_ h)
      show some (addExclusionRoute host p (.failed memory) interfaces s.monitor).2 = _
      unfold addExclusionRoute
      split_ifs <;> rfl
    | ok table =>
      by_cases hskip : host.special p.address = true ∨ p ∈ s.monitor.excluded
      · refine Or.inl (hidle _ (if_pos hskip) ?_ ?_ h)
        · intro hspecial hp
          rw [hspecial] at hskip
          exact absurd hskip (by simpa using hp)
        · have hcontains : p ∈ s.monitor.excluded → s.monitor.exclusionRoutes.contains p = true :=
            fun hp => contains_iff.mpr (List.mem_map.mp hp)
          show some (addExclusionRoute host p (.ok table) interfaces s.monitor).2 = _
          unfold addExclusionRoute
          rcases hskip with hspecial | hp
          · rw [if_pos hspecial]
          · rw [if_pos (hcontains hp)]
            split_ifs <;> rfl
      · obtain ⟨hspecial, hp⟩ := not_or.mp hskip
        rw [Bool.not_eq_true] at hspecial
        have hfetched : fetchedBy host s.monitor (.addExclusionRoute p (.ok table) interfaces) = some _ :=
          if_neg hskip
        obtain rfl : ⟨(addExclusionRoute host p (.ok table) interfaces s.monitor).2, some _⟩ = s' :=
          hfetched ▸ Option.some.inj h
        obtain ⟨hsettled, hexact⟩ := hs.add hobeys hspecial hp table interfaces
        exact follows_cases hsettled (hexact.trans ⟨fun h _ _ => h, fun h => h hspecial hp⟩)
  | deleteExclusionRoute p fetch =>
    by_cases hp : p ∈ s.monitor.excluded
    swap
    · refine Or.inl (hidle _ ?_ (fun h => absurd h hp) ?_ h)
      · cases fetch with
        | failed memory => rfl
        | ok table => exact if_neg hp
      · have hnone : s.monitor.exclusionRoutes.value p = none := by
          rw [Option.eq_none_iff_forall_ne_some]
          exact fun data hdata => hp (mem_excluded_iff.mpr ⟨data, hdata⟩)
        show some (deleteExclusionRoute host p fetch s.monitor).2 = _
        rw [deleteExclusionRoute, hnone]
    rcases hs.delete hp fetch with ⟨table, rfl, hsettled, hexact⟩ | ⟨hfailed, hread⟩
    · have hfetched : fetchedBy host s.monitor (.deleteExclusionRoute p (.ok table)) = some _ := if_pos hp
      obtain rfl : ⟨(deleteExclusionRoute host p (.ok table) s.monitor).2, some _⟩ = s' :=
        hfetched ▸ Option.some.inj h
      refine follows_cases hsettled (hexact.trans ⟨fun h _ => ⟨table, rfl, h⟩, fun h => ?_⟩)
      obtain ⟨table', htable, hfits⟩ := h hp
      cases htable
      exact hfits
    · cases h
      refine Or.inr ⟨fun hf => Bool.noConfusion (hread.symm.trans hf.1), fun hfits => ?_⟩
      obtain ⟨table, htable, -⟩ := hfits hp
      exact hfailed table htable

/-- **The clones follow the routing table in a run exactly if all its calls fit.** -/
theorem follows_iff_fitting {host : WindowsHost} (hobeys : host.Obeys) (luid : ℕ) (calls : List Call) :
    (∀ before s, before <+: calls → Run.run (step host) (start luid) before = some s → s.Follows host) ↔
      Run.Meets (step host) (Fitting host) (start luid) calls := by
  refine Run.forall_reached_iff_meets (I := fun s : CaptureRun => s.monitor.Settled ∧ s.Follows host) (fun s hs => hs.2)
    (fun s call t hs hfits ht => ?_) (fun s call hs hnot => ?_) ⟨⟨rfl, rfl, ?_⟩, rfl, ?_⟩ calls
  · rcases step_spec hobeys hs.1 ht with ⟨hsettled, hfollows, -⟩ | ⟨-, hnot⟩
    · exact ⟨hsettled, hfollows⟩
    · exact absurd hfits hnot
  · have hstep : ∃ t, step host s call = some t := by
      cases call <;> first | exact ⟨_, rfl⟩ | exact absurd trivial hnot
    obtain ⟨t, ht⟩ := hstep
    rcases step_spec hobeys hs.1 ht with ⟨-, -, hfits⟩ | ⟨hfollows, -⟩
    · exact absurd hfits hnot
    · exact ⟨t, ht, hfollows⟩
  · exact fun data hdata => absurd hdata List.not_mem_nil
  · exact fun _ _ hlast => absurd hlast nofun

theorem sampleNet_length : 8 ≤ 32 := by decide

def sampleNet : IpPrefix := ⟨⟨[203, 0, 0, 0], inet_length⟩, 8, sampleNet_length⟩

theorem eq_sampleNet_of_wanted {excluded : List IpPrefix} {p : IpPrefix}
    (h : Wanted sampleHost 9 excluded (sampleRoutes.ofFamily .inet) p) : p = sampleNet := by
  obtain ⟨row, hrow, rfl, hvpn, hdefault, -⟩ := h
  have hall : ∀ row ∈ sampleRoutes.ofFamily .inet, row.interfaceLuid = 9 ∨ row.destinationPrefix.length = 0 ∨
      row.destinationPrefix = sampleNet := by decide +kernel
  exact ((hall row hrow).resolve_left hvpn).resolve_left hdefault

theorem follows_with_server_excluded :
    ∃ s, Run.run (step sampleHost) (start 9) [.routeChanged (.ok sampleRoutes) none,
      .addExclusionRoute sampleServer (.ok sampleRoutes) none] = some s ∧ s.Follows sampleHost := by
  have hmeets : Run.Meets (step sampleHost) (Fitting sampleHost) (start 9)
      [.routeChanged (.ok sampleRoutes) none, .addExclusionRoute sampleServer (.ok sampleRoutes) none] := by
    refine ⟨trivial, fun t ht => ⟨fun _ _ q hq hsub => ?_, fun _ _ => trivial⟩⟩
    cases ht
    rw [eq_sampleNet_of_wanted hq, ← routeContainsDest_iff] at hsub
    revert hsub
    decide +kernel
  exact ⟨_, rfl, (follows_iff_fitting (fun _ => ⟨rfl, rfl⟩) 9 _).mpr hmeets _ _ (List.prefix_refl _) rfl⟩

/-- A prefix is excluded that the system has a route to: the clone of the route stays. The prefix is deleted again: the
route is not captured. And if the table cannot be fetched then, it is read all the same. -/
theorem exclusions_leave_clones_wrong :
    (∃ s, Run.run (step sampleHost) (start 9) [.addExclusionRoute sampleNet (.ok sampleRoutes) none] = some s ∧
        ¬ s.Follows sampleHost) ∧
      (∃ s, Run.run (step sampleHost) (start 9) [.addExclusionRoute sampleNet (.ok ⟨[], nofun⟩) none,
        .deleteExclusionRoute sampleNet (.ok sampleRoutes)] = some s ∧ ¬ s.Follows sampleHost) ∧
      ∃ s, Run.run (step sampleHost) (start 9) [.addExclusionRoute sampleNet (.ok ⟨[], nofun⟩) none,
        .deleteExclusionRoute sampleNet (.failed [])] = some s ∧ ¬ s.Follows sampleHost := by
  refine ⟨⟨_, rfl, fun h => ?_⟩, ⟨_, rfl, fun h => ?_⟩, ⟨_, rfl, fun h => Bool.noConfusion h.1⟩⟩
  · obtain ⟨row, -, -, -, -, -, -, hnot⟩ := (h.2 .inet sampleRoutes rfl sampleNet rfl).mp
      ⟨(start 9).monitor.clone sampleNet, List.mem_singleton.mpr rfl, rfl⟩
    exact hnot sampleNet (List.mem_singleton.mpr rfl) (Set.Subset.refl _)
  · have hwanted : Wanted sampleHost 9 [] (sampleRoutes.ofFamily .inet) sampleNet := by
      refine ⟨_, List.mem_of_getElem? (i := 2) rfl, rfl, ?_, ?_, rfl, rfl, nofun⟩
      · decide
      · decide
    obtain ⟨data, hdata, -⟩ := (h.2 .inet sampleRoutes rfl sampleNet rfl).mpr hwanted
    exact absurd hdata List.not_mem_nil

end CaptureRun

end RouteMonitor

end FreshVpn
