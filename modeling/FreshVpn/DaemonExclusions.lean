import FreshVpn.DaemonLinux

/-! The table of exclusions follows the active connections. -/

namespace FreshVpn

open Procedure Books

namespace Books

variable (qt : AddressReader)

def activeExclusions (b : Books) : List IPAddress := b.connections.toList.flatMap (·.excludedPrefixes qt)

/-- The table maps exactly the excluded prefixes to the number of times each of them is excluded. -/
def ExclusionsExact (b : Books) : Prop :=
  ∀ p, b.excludedAddrSet.entries.lookup p =
    if p ∈ b.activeExclusions qt then some ((b.activeExclusions qt).count p) else none

def Counted (further : List IPAddress) (b : Books) : Prop :=
  ∀ p, b.excludedAddrSet.count p = (b.activeExclusions qt).count p + further.count p

/-- What holds of the books at all times, unless the platform has refused a route: nothing was removed that was not
there, and the counts are right if every activation is recorded. -/
def Kept (b : Books) : Prop :=
  b.refused = [] → b.strays = [] ∧ (b.unrecorded = 0 → b.Counted qt [])

/-- The books between two calls that succeed. -/
def Settled (b : Books) : Prop := b.unrecorded = 0 ∧ b.Kept qt

def Counting (config : InterfaceConfig) (b : Books) : Prop :=
  b.unrecorded = 1 ∧ (b.refused = [] → b.strays = [] ∧ b.Counted qt (config.excludedPrefixes qt))

/-- The counts are right as soon as the configuration takes the place of the connection of its type of hop. -/
def Recordable (config : InterfaceConfig) (b : Books) : Prop :=
  b.unrecorded = 1 ∧ (b.refused = [] → b.strays = [] ∧
    ∀ p, b.excludedAddrSet.count p +
        ((b.connections.value config.hopType).map fun last => (last.excludedPrefixes qt).count p).getD 0 =
      (b.activeExclusions qt).count p + (config.excludedPrefixes qt).count p)

def SettledWith (hop : HopType) (connection : Option InterfaceConfig) (b : Books) : Prop :=
  b.Settled qt ∧ b.connections.value hop = connection

def CountingWith (config last : InterfaceConfig) (b : Books) : Prop :=
  b.Counting qt config ∧ b.connections.value config.hopType = some last

/-- What a loop that adds prefixes does to the books. -/
structure Adds (seen : List IPAddress) (b b' : Books) : Prop where
  connections : b'.connections = b.connections
  strays : b'.strays = b.strays
  unrecorded : b'.unrecorded = b.unrecorded
  refused : b'.refused = [] → b.refused = []
  count : b'.refused = [] → ∀ p, b'.excludedAddrSet.count p = b.excludedAddrSet.count p + seen.count p

/-- What a loop that gives prefixes back does to the books. -/
structure GivesBack (seen : List IPAddress) (b b' : Books) : Prop where
  connections : b'.connections = b.connections
  unrecorded : b'.unrecorded = b.unrecorded
  refused : b'.refused = b.refused
  count : ∀ p, b'.excludedAddrSet.count p = b.excludedAddrSet.count p - seen.count p
  strays : (∀ p, seen.count p ≤ b.excludedAddrSet.count p) → b'.strays = b.strays

variable {qt} {b : Books} {config : InterfaceConfig}

theorem activeExclusions_congr {b' : Books} (h : b'.connections = b.connections) :
    b'.activeExclusions qt = b.activeExclusions qt := by
  rw [activeExclusions, activeExclusions, h]

theorem Counted.exclusionsExact (h : b.Counted qt []) : b.ExclusionsExact qt :=
  Counts.lookup_eq_of_count_eq h

theorem count_excludedPrefixes_le {hop : HopType} {last : InterfaceConfig}
    (hlast : b.connections.value hop = some last) (p : IPAddress) :
    (last.excludedPrefixes qt).count p ≤ (b.activeExclusions qt).count p := by
  have hmem : last ∈ b.connections.toList := by
    rwa [Connections.mem_toList_iff, b.connections.keyed hop last hlast]
  exact (List.sublist_flatten_of_mem (List.mem_map_of_mem hmem)).count_le p

theorem kept_of_unrecorded (hone : b.unrecorded = 1) (hstrays : b.refused = [] → b.strays = []) : b.Kept qt := by
  intro hrefused
  refine ⟨hstrays hrefused, fun hunrecorded => ?_⟩
  rw [hone] at hunrecorded
  cases hunrecorded

theorem Counting.kept (h : b.Counting qt config) : b.Kept qt :=
  kept_of_unrecorded h.1 fun hrefused => (h.2 hrefused).1

theorem Recordable.kept (h : b.Recordable qt config) : b.Kept qt :=
  kept_of_unrecorded h.1 fun hrefused => (h.2 hrefused).1

theorem Counting.recordable (h : b.Counting qt config) (hnone : b.connections.value config.hopType = none) :
    b.Recordable qt config := by
  refine ⟨h.1, fun hrefused => ?_⟩
  obtain ⟨hstrays, hcounted⟩ := h.2 hrefused
  refine ⟨hstrays, fun p => ?_⟩
  rw [hnone]
  exact hcounted p

theorem count_activeExclusions_insert (b : Books) (config : InterfaceConfig) (p : IPAddress) :
    ({ b with connections := b.connections.insert config }.activeExclusions qt).count p +
        ((b.connections.value config.hopType).map fun last => (last.excludedPrefixes qt).count p).getD 0 =
      (b.activeExclusions qt).count p + (config.excludedPrefixes qt).count p :=
  Connections.count_flatMap_insert b.connections config _ p

end Books

namespace Daemon

variable {P E : Type*} {qt : AddressReader}

/-! ### The table in the loops -/

variable (wg : DaemonPlatform P)

theorem addExclusionRoute_books (p : IPAddress) (d : Daemon P) :
    (addExclusionRoute wg p d).2.toBooks = { d.toBooks with excludedAddrSet := d.excludedAddrSet.take p } ∨
      (addExclusionRoute wg p d).2.toBooks = { d.toBooks with refused := p :: d.refused } := by
  unfold addExclusionRoute
  split
  · exact Or.inl rfl
  · dsimp only
    split
    · exact Or.inl rfl
    · exact Or.inr rfl

theorem delExclusionRoute_books (p : IPAddress) (d : Daemon P) :
    (delExclusionRoute wg p d).2.toBooks =
      { d.toBooks with
        excludedAddrSet := d.excludedAddrSet.release p
        strays := if 0 < d.excludedAddrSet.count p then d.strays else p :: d.strays } := by
  unfold delExclusionRoute
  split
  · rename_i hcount
    rw [if_pos (by omega)]
  · rfl

theorem each_addExclusionRoute (prefixes : List IPAddress) (d : Daemon P) :
    Books.Adds prefixes d.toBooks (each (addExclusionRoute wg) prefixes d).toBooks := by
  refine each_rule (I := fun seen (s : Daemon P) => Books.Adds seen d.toBooks s.toBooks) ?_ ?_
  · intro seen a s _ h
    rcases addExclusionRoute_books wg a s with hbooks | hbooks
    · rw [hbooks]
      refine ⟨h.connections, h.strays, h.unrecorded, h.refused, fun hrefused p => ?_⟩
      rw [Counts.count_take, h.count hrefused, List.count_append, Nat.add_assoc]
    · rw [hbooks]
      refine ⟨h.connections, h.strays, h.unrecorded, fun hrefused => ?_, fun hrefused => ?_⟩
      · cases hrefused
      · cases hrefused
  · exact ⟨rfl, rfl, rfl, id, fun _ p => rfl⟩

theorem each_delExclusionRoute (prefixes : List IPAddress) (d : Daemon P) :
    Books.GivesBack prefixes d.toBooks (each (delExclusionRoute wg) prefixes d).toBooks := by
  refine each_rule (I := fun seen (s : Daemon P) => Books.GivesBack seen d.toBooks s.toBooks) ?_ ?_
  · intro seen a s _ h
    rw [delExclusionRoute_books]
    refine ⟨h.connections, h.unrecorded, h.refused, fun p => ?_, fun hle => ?_⟩
    · rw [Counts.count_release, h.count, List.count_append, Nat.sub_sub]
    · -- One more occurrence of the prefix is within its count, so it is still in the table.
      have hpos : 0 < s.excludedAddrSet.count a := by
        have hcount := h.count a
        have hbound := hle a
        rw [List.count_append, List.count_singleton_self] at hbound
        omega
      rw [if_pos hpos]
      refine h.strays fun p => le_trans ?_ (hle p)
      rw [List.count_append]
      exact Nat.le_add_right _ _
  · exact ⟨rfl, rfl, rfl, fun p => rfl, fun _ => rfl⟩

/-! ### What a call does to the books -/

variable (config : InterfaceConfig)

theorem keeps_updateRoutes : (updateRoutes wg config).Keeps toBooks :=
  keeps_untilFailure (fun _ => keeps_books _) _

theorem keeps_bringUp : (bringUp wg config).Keeps toBooks := by
  have hcreate : (createInterface wg config).Keeps toBooks := by
    intro d
    unfold createInterface
    split
    · rfl
    · rfl
  refine (keeps_books _).andThen (hcreate.andThen ?_)
  split
  · exact (keeps_books _).andThen (keeps_books _)
  · exact keeps_done _

theorem keeps_connect : (connect wg qt config).Keeps toBooks :=
  (keeps_books _).andThen ((keeps_maybeUpdateResolvers (fun _ => keeps_books _) qt config).andThen
    ((keeps_updateRoutes wg config).andThen (keeps_books _)))

theorem keeps_dropPeer (config last : InterfaceConfig) : (dropPeer wg config last).Keeps toBooks := by
  unfold dropPeer
  split
  · exact keeps_books _
  · exact keeps_done _

theorem keeps_announceDown : (announceDown wg).Keeps toBooks := by
  intro d
  unfold announceDown
  split
  · rfl
  · rfl

theorem keeps_removeConnection : (removeConnection wg config).Keeps toBooks :=
  fun d => each_keeps (fun _ => keeps_books _) config.allowedIPAddressRanges d

theorem cleanUp_books (d : Daemon P) : (cleanUp wg d).2.toBooks =
    { d.toBooks with connections := .empty, excludedAddrSet := .empty, unrecorded := 0 } := by
  have hremoved : (each (removeConnection wg) d.connections.toList (onPlatform wg.restoreResolvers d).2).toBooks =
      d.toBooks := each_keeps (keeps_removeConnection wg) _ _
  have hrouted : (each (fun p => onPlatform (wg.deleteExclusionRoute p)) d.excludedAddrSet.entries.keys
      (each (removeConnection wg) d.connections.toList (onPlatform wg.restoreResolvers d).2)).toBooks =
      d.toBooks := (each_keeps (fun _ => keeps_books _) _ _).trans hremoved
  exact congrArg (fun b : Books => { b with connections := .empty, excludedAddrSet := .empty, unrecorded := 0 })
    hrouted

variable {d : Daemon P} {last : InterfaceConfig}

theorem excludeAll_counting (h : d.toBooks.Settled qt) : (excludeAll wg qt config d).toBooks.Counting qt config := by
  have hadds := each_addExclusionRoute wg (config.excludedPrefixes qt) { d with unrecorded := d.unrecorded + 1 }
  refine ⟨hadds.unrecorded.trans (congrArg (· + 1) h.1), fun hrefused => ?_⟩
  obtain ⟨hstrays, hcounted⟩ := h.2 (hadds.refused hrefused)
  refine ⟨hadds.strays.trans hstrays, fun p => ?_⟩
  have hactive : (excludeAll wg qt config d).toBooks.activeExclusions qt = d.toBooks.activeExclusions qt :=
    activeExclusions_congr hadds.connections
  calc (excludeAll wg qt config d).excludedAddrSet.count p
      = d.excludedAddrSet.count p + (config.excludedPrefixes qt).count p := hadds.count hrefused p
    _ = (d.toBooks.activeExclusions qt).count p + (config.excludedPrefixes qt).count p :=
        congrArg (· + _) (hcounted h.1 p)
    _ = _ := by rw [hactive]

theorem excludeAll_connections (d : Daemon P) : (excludeAll wg qt config d).connections = d.connections :=
  (each_addExclusionRoute wg (config.excludedPrefixes qt) { d with unrecorded := d.unrecorded + 1 }).connections

/-- A switch gives back what the old connection has counted, if its addresses are read alike. -/
theorem record_settled {config : InterfaceConfig} (h : d.toBooks.Recordable qt config) :
    (record config d).toBooks.Settled qt := by
  obtain ⟨hone, hcounts⟩ := h
  have hzero : d.unrecorded - 1 = 0 := by
    omega
  refine ⟨hzero, fun hrefused => ⟨(hcounts hrefused).1, fun _ p => ?_⟩⟩
  have hcount := (hcounts hrefused).2 p
  exact Nat.add_right_cancel (hcount.trans (count_activeExclusions_insert d.toBooks config p).symm)

theorem activateNew_spec :
    SpecOn toBooks (SettledWith qt config.hopType none) (activateNew wg qt config) (Settled qt) (Kept qt) := by
  have hexclude : SpecOn toBooks (SettledWith qt config.hopType none) (perform (excludeAll wg qt config))
      (Recordable qt config) (Kept qt) := by
    refine spec_perform fun d h => (excludeAll_counting wg config h.1).recordable ?_
    rw [excludeAll_connections]
    exact h.2
  exact ((keeps_bringUp wg config).specOn fun _ h => h.1.2).andThen (hexclude.andThen
    (((keeps_connect wg config).specOn fun _ h => h.kept).andThen (spec_perform fun _ h => record_settled h)))

section
variable {config : InterfaceConfig} (hplain : last.releasedPrefixes qt = last.excludedPrefixes qt)
include hplain

theorem replaceRoutes_recordable (h : d.toBooks.Counting qt config)
    (hlast : d.connections.value config.hopType = some last) :
    (replaceRoutes wg qt config last d).toBooks.Recordable qt config := by
  have hback := each_delExclusionRoute wg (last.releasedPrefixes qt) (updateRoutes wg config d).2
  rw [keeps_updateRoutes wg config d, hplain] at hback
  have hbooks : (replaceRoutes wg qt config last d).toBooks =
      (each (delExclusionRoute wg) (last.excludedPrefixes qt) (updateRoutes wg config d).2).toBooks := by
    rw [← hplain]
    exact each_keeps (fun _ => keeps_books _) _ _
  rw [hbooks]
  refine ⟨hback.unrecorded.trans h.1, fun hrefused => ?_⟩
  rw [hback.refused] at hrefused
  obtain ⟨hstrays, hcounted⟩ := h.2 hrefused
  have hle : ∀ p, (last.excludedPrefixes qt).count p ≤ d.excludedAddrSet.count p := by
    intro p
    have hbound : (last.excludedPrefixes qt).count p ≤ (d.toBooks.activeExclusions qt).count p :=
      count_excludedPrefixes_le hlast p
    have hcount := hcounted p
    omega
  refine ⟨(hback.strays hle).trans hstrays, fun p => ?_⟩
  have hactive : activeExclusions qt (each (delExclusionRoute wg) (last.excludedPrefixes qt)
      (updateRoutes wg config d).2).toBooks = d.toBooks.activeExclusions qt :=
    activeExclusions_congr hback.connections
  rw [hactive, hback.connections, hback.count, hlast, ← hcounted p]
  exact Nat.sub_add_cancel (hle p)

theorem switchServer_spec :
    SpecOn toBooks (SettledWith qt config.hopType (some last)) (switchServer wg qt config last)
      (SettledWith qt config.hopType (some config)) (Kept qt) := by
  have hexclude : SpecOn toBooks (SettledWith qt config.hopType (some last)) (perform (excludeAll wg qt config))
      (CountingWith qt config last) (Kept qt) := by
    refine spec_perform fun d h => ⟨excludeAll_counting wg config h.1, ?_⟩
    rw [excludeAll_connections]
    exact h.2
  have hreplace : SpecOn toBooks (CountingWith qt config last) (perform (replaceRoutes wg qt config last))
      (Recordable qt config) (Kept qt) :=
    spec_perform fun _ h => replaceRoutes_recordable wg hplain h.1 h.2
  refine hexclude.andThen (((keeps_books _).specOn fun _ h => h.1.kept).andThen (hreplace.andThen
    (((keeps_dropPeer wg config last).specOn fun _ h => h.kept).andThen (spec_perform fun _ h => ?_))))
  exact ⟨record_settled h, if_pos rfl⟩

theorem activateSwitched_spec :
    SpecOn toBooks (SettledWith qt config.hopType (some last)) (activateSwitched wg qt config last) (Settled qt)
      (Kept qt) := by
  have hkeeps : ∀ f : Procedure (Daemon P), f.Keeps toBooks →
      SpecOn toBooks (SettledWith qt config.hopType (some config)) f (SettledWith qt config.hopType (some config))
        (Kept qt) :=
    fun f hf => hf.specOn fun _ h => h.1.2
  refine (switchServer_spec wg hplain).andThen ((hkeeps _ (keeps_books _)).andThen
    ((hkeeps _ (keeps_maybeUpdateResolvers (fun _ => keeps_books _) qt config)).andThen
      ((hkeeps _ (keeps_books _)).andThen ?_)))
  refine spec_perform fun d h => ?_
  -- The connection is recorded already.
  rw [Connections.insert_of_value h.2]
  exact h.1

end

theorem deactivate_spec :
    SpecOn toBooks (Kept qt) (deactivate wg) (fun b => b.Settled qt ∧ b.connections = .empty) (Kept qt) := by
  refine ((keeps_announceDown wg).specOn fun _ h => h).andThen fun d h => ?_
  have hforgotten : (cleanUp wg d).2.toBooks =
      { d.toBooks with connections := .empty, excludedAddrSet := .empty, unrecorded := 0 } := cleanUp_books wg d
  have hsettled : (cleanUp wg d).2.toBooks.Settled qt := by
    rw [hforgotten]
    exact ⟨rfl, fun hrefused => ⟨(h hrefused).1, fun _ p => rfl⟩⟩
  split
  · exact ⟨hsettled, congrArg connections hforgotten⟩
  · exact hsettled.2

theorem deactivate_empties {d' : Daemon P} (h : deactivate wg d = (true, d')) : d'.excludedAddrSet = .empty := by
  have hspec : Spec (fun _ : Daemon P => True) (deactivate wg) (fun d => d.excludedAddrSet = .empty)
      (fun _ => True) := by
    have hannounce : Spec (fun _ : Daemon P => True) (announceDown wg) (fun _ => True) (fun _ => True) := by
      intro d _
      split <;> trivial
    refine hannounce.andThen fun d _ => ?_
    split
    · exact congrArg excludedAddrSet (cleanUp_books wg d)
    · trivial
  have hend := hspec.of_success (s := d) trivial (congrArg Prod.fst h)
  rwa [h] at hend

/-! ### Runs -/

/-- The condition under which a call keeps the table exact. An activation that adds to the table finds none that was
given up halfway, and a switch finds only plain host addresses in the exclusions of the old connection: texts that
both constructors read alike. -/
def FindsInOrder (qt : AddressReader) (s : Bool × Daemon P) : Call E → Prop
  | .activate config _ =>
    match s.2.connections.value config.hopType with
    | none => s.2.unrecorded = 0
    | some last => supportServerSwitching last config = true → s.2.unrecorded = 0 ∧
        ∀ ip ∈ last.excludedAddresses, IPAddress.ofHostAddress (qt.hostAddress ip) = IPAddress.ofString qt ip
  | .deactivate _ => True
  | .elapse _ => True

def InOrder (qt : AddressReader) (s : Bool × Daemon P) : Prop :=
  s.2.toBooks.Kept qt ∧ (s.1 = true → s.2.unrecorded = 0)

theorem InOrder.of_spec {f : Procedure (Daemon P)} {pre : Books → Prop}
    (hf : SpecOn toBooks pre f (Settled qt) (Kept qt)) (hd : pre d.toBooks) : InOrder qt (f d) := by
  have hend := hf d hd
  split at hend
  · exact ⟨hend.2, fun _ => hend.1⟩
  · rename_i hfalse
    exact ⟨hend, fun htrue => absurd htrue hfalse⟩

theorem activate_inOrder (answers : E) {s : Bool × Daemon P} (h : InOrder qt s)
    (hok : FindsInOrder qt s (.activate config answers)) : InOrder qt (activate wg qt config s.2) := by
  unfold activate
  change (match s.2.connections.value config.hopType with | none => _ | some last => _) at hok
  cases hvalue : s.2.connections.value config.hopType with
  | none =>
    rw [hvalue] at hok
    exact .of_spec (activateNew_spec wg config) ⟨⟨hok, h.1⟩, hvalue⟩
  | some last =>
    rw [hvalue] at hok
    dsimp only at hok ⊢
    split
    · rename_i hswitch
      obtain ⟨hunrecorded, hplain⟩ := hok hswitch
      exact .of_spec (activateSwitched_spec wg (List.map_congr_left hplain)) ⟨⟨hunrecorded, h.1⟩, hvalue⟩
    · -- The deactivation leaves no connection, so that the activation after it is a new one.
      have hdeactivate : SpecOn toBooks (Kept qt) (deactivate wg) (SettledWith qt config.hopType none) (Kept qt) :=
        (deactivate_spec wg).imp (fun _ hd => hd) (fun d hd => ⟨hd.1, by rw [hd.2]; rfl⟩) (fun _ hd => hd)
      exact .of_spec (hdeactivate.andThen (activateNew_spec wg config)) h.1

theorem step_inOrder (platform : E → DaemonPlatform P) (s : Bool × Daemon P) (call : Call E) (t : Bool × Daemon P)
    (h : InOrder qt s) (hok : FindsInOrder qt s call) (hstep : step platform qt s call = some t) : InOrder qt t := by
  cases call with
  | activate config answers =>
    cases hstep
    exact activate_inOrder (platform answers) config answers h hok
  | deactivate answers =>
    cases hstep
    have hdeactivate : SpecOn toBooks (Kept qt) (deactivate (platform answers)) (Settled qt) (Kept qt) :=
      (deactivate_spec (platform answers)).imp (fun _ hd => hd) (fun _ hd => hd.1) (fun _ hd => hd)
    exact .of_spec hdeactivate h.1
  | elapse answers =>
    cases hstep
    exact h

/-- **The exclusion table over runs.** In every run whose calls find the daemon in order, unless the platform
refuses a route, the table is exact after each call that returns true, a deactivation leaves it empty, and nothing is
removed from it that is not there. -/
theorem exclusions_exact_of_inOrder (platform : E → DaemonPlatform P) (qt : AddressReader) (start : P)
    (calls : List (Call E)) (returned : Bool) (d : Daemon P)
    (hmeets : Run.Meets (step platform qt) (FindsInOrder qt) (true, initial start) calls)
    (hrun : Run.run (step platform qt) (true, initial start) calls = some (returned, d)) (hroutes : d.refused = []) :
    (returned = true → d.toBooks.ExclusionsExact qt) ∧ d.strays = [] ∧
      ∀ earlier answers, calls = earlier ++ [.deactivate answers] → returned = true → d.excludedAddrSet = .empty := by
  have hstart : InOrder qt (true, initial start) := ⟨fun _ => ⟨rfl, fun _ _ => rfl⟩, fun _ => rfl⟩
  have hend : InOrder qt (returned, d) :=
    Run.run_invariant_of_meets (step_inOrder platform) hstart hmeets hrun
  obtain ⟨hstrays, hcounted⟩ := hend.1 hroutes
  refine ⟨fun hreturned => (hcounted (hend.2 hreturned)).exclusionsExact, hstrays, ?_⟩
  rintro earlier answers rfl rfl
  obtain ⟨t, -, hlast⟩ := (Run.run_concat_eq_some (step platform qt)).mp hrun
  have hdeactivated : deactivate (platform answers) t.2 = (true, d) := Option.some.inj hlast
  exact deactivate_empties (platform answers) hdeactivated

/-- The texts of the configurations below, as Qt reads them. -/
def sampleReader : AddressReader where
  hostAddress
    | "192.0.2.1" => .ipv4 0xC0000201
    | "10.0.0.1" => .ipv4 0x0A000001
    | "1.1.1.1" => .ipv4 0x01010101
    | _ => .null
  parseSubnet
    | "10.0.0.0/8" => (.ipv4 0x0A000000, 8)
    | "0.0.0.0/1" => (.ipv4 0, 1)
    | "128.0.0.0/1" => (.ipv4 (1 <<< 31), 1)
    | "::/1" => (.ipv6 0, 1)
    | "8000::/1" => (.ipv6 (1 <<< 127), 1)
    | _ => (.null, -1)
  parseSubnet_ipv4Low := rfl
  parseSubnet_ipv4High := rfl
  parseSubnet_ipv6Low := rfl
  parseSubnet_ipv6High := rfl

/-- A configuration as the client sends it: the host is the gateway, and it is excluded with the given addresses. -/
def sampleConfig (excluded : List String) : InterfaceConfig where
  hopType := .singleHop
  privateKey := "privateKey"
  deviceIpv4Address := "10.8.1.2"
  deviceIpv6Address := ""
  serverIpv4Gateway := "192.0.2.1"
  serverIpv6Gateway := ""
  serverPublicKey := "serverPublicKey"
  serverIpv4AddrIn := some "192.0.2.1"
  serverIpv6AddrIn := none
  primaryDnsServer := "1.1.1.1"
  secondaryDnsServer := ""
  allowedIPAddressRanges := [⟨.ipv4 0, 0⟩]
  excludedAddresses := "192.0.2.1" :: excluded

/-- A network that is excluded stays in the table after a switch, and something else is removed. -/
theorem excluded_network_is_counted_twice : ∃ d,
    Run.run (step (LinuxDaemon.platform sampleReader) sampleReader) (true, LinuxDaemon.start)
      [.activate (sampleConfig ["10.0.0.0/8"]) .success, .activate (sampleConfig ["10.0.0.0/8"]) .success] =
        some (true, d) ∧
      d.refused = [] ∧ ¬ d.toBooks.ExclusionsExact sampleReader ∧ d.strays = [⟨.null, 128⟩] := by
  refine ⟨_, rfl, ?_, ?_, ?_⟩
  · decide
  · intro hexact
    exact absurd (hexact ⟨.ipv4 0x0A000000, 8⟩) (by decide)
  · decide

/-- A switch between configurations that exclude plain host addresses. -/
theorem host_exclusions_exact : ∃ d,
    Run.run (step (LinuxDaemon.platform sampleReader) sampleReader) (true, LinuxDaemon.start)
      [.activate (sampleConfig ["10.0.0.1"]) .success, .activate (sampleConfig []) .success] = some (true, d) ∧
      d.refused = [] ∧ d.toBooks.ExclusionsExact sampleReader ∧ d.strays = [] := by
  refine ⟨_, rfl, ?_, ?_⟩
  · decide
  · have hend := exclusions_exact_of_inOrder (LinuxDaemon.platform sampleReader) sampleReader ⟨false, false, ∅, ∅⟩
      [.activate (sampleConfig ["10.0.0.1"]) .success, .activate (sampleConfig []) .success] true _ ?_ rfl (by decide)
    · exact ⟨hend.1 rfl, hend.2.1⟩
    · refine ⟨rfl, ?_⟩
      rintro _ ⟨⟩
      refine ⟨fun _ => ⟨rfl, by decide⟩, ?_⟩
      rintro _ ⟨⟩
      trivial

end Daemon

end FreshVpn
