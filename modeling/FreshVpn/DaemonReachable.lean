import FreshVpn.DaemonExclusions

/-! The servers stay reachable outside the tunnel on Linux. The daemon counts the excluded prefixes, and the platform
adds and removes the routes of a server with its peer, without counting. -/

namespace FreshVpn

open Procedure Connections

namespace LinuxDaemon

variable {d : Daemon LinuxState}

open Daemon WireguardUtilsLinux

/-- The part of the state that the exclusion routes depend on. -/
structure Watched where
  books : Books
  tunnelRunning : Bool
  rtmonitor : Bool
  exclusionRoutes : Finset IPAddress

def watched (d : Daemon LinuxState) : Watched :=
  ⟨d.toBooks, d.platform.tunnelRunning, d.platform.rtmonitor, d.platform.exclusionRoutes⟩

/-- The server of each configuration has its exclusion route, if its address can be read. The exit of a multihop
connection is reached through the entry and has none. -/
def Serves (qt : AddressReader) (configs : List InterfaceConfig) (routes : Finset IPAddress) : Prop :=
  ∀ config ∈ configs, config.hopType ≠ .multiHopExit → (config.serverIpv4 qt).address ≠ .null →
    config.serverIpv4 qt ∈ routes

/-- Each prefix with a positive count has its exclusion route. -/
def CountsRouted (table : Counts IPAddress) (routes : Finset IPAddress) : Prop :=
  ∀ p, 0 < table.count p → p ∈ routes

structure Guarded (qt : AddressReader) (w : Watched) : Prop where
  monitor : w.tunnelRunning = true ∨ w.books.connections.toList ≠ [] → w.rtmonitor = true
  counted : CountsRouted w.books.excludedAddrSet w.exclusionRoutes
  servers : Serves qt w.books.connections.toList w.exclusionRoutes

structure Armed (qt : AddressReader) (configs : List InterfaceConfig) (w : Watched) : Prop where
  monitor : w.rtmonitor = true
  counted : CountsRouted w.books.excludedAddrSet w.exclusionRoutes
  servers : Serves qt configs w.exclusionRoutes

section
variable {qt : AddressReader}

theorem Armed.guarded {w : Watched} (h : Armed qt w.books.connections.toList w) : Guarded qt w :=
  ⟨fun _ => h.monitor, h.counted, h.servers⟩

theorem Serves.insert {connections : Connections} {routes : Finset IPAddress} {config : InterfaceConfig}
    (h : Serves qt connections.toList routes) (hconfig : Serves qt [config] routes) :
    Serves qt (connections.insert config).toList routes := by
  intro other hother
  rw [mem_toList_iff, value_insert] at hother
  split at hother
  · cases hother
    exact hconfig config (List.mem_singleton.mpr rfl)
  · exact h other ((mem_toList_iff connections other).mpr hother)

end

/-! ### What the requests do to the exclusion routes -/

/-- The fields of the platform that are watched. -/
def guarding (s : LinuxState) : Bool × Bool × Finset IPAddress := (s.tunnelRunning, s.rtmonitor, s.exclusionRoutes)

theorem keeps_watched {request : Procedure LinuxState} (h : request.Keeps guarding) :
    (onPlatform request).Keeps watched := fun d =>
  congrArg (fun fields : Bool × Bool × Finset IPAddress => Watched.mk d.toBooks fields.1 fields.2.1 fields.2.2)
    (h d.platform)

variable (qt : AddressReader) (config : InterfaceConfig) (answers : LinuxAnswers) (prefixes : List IPAddress)
  (p : IPAddress) (s : LinuxState)

theorem keeps_guarding_insertRoute : (LinuxRouteMonitor.insertRoute p).Keeps guarding := by
  refine keeps_rtmSendRoute ?_ p
  exact fun _ => rfl

theorem keeps_guarding_deleteRoute : (LinuxRouteMonitor.deleteRoute p).Keeps guarding := by
  refine keeps_rtmSendRoute ?_ p
  exact fun _ => rfl

theorem keeps_guarding_forHalves {request : IPAddress → Procedure LinuxState} (h : ∀ p, (request p).Keeps guarding)
    (address : HostAddress) : (forHalves qt request address).Keeps guarding := by
  unfold forHalves
  split
  · exact fun _ => rfl
  · exact keeps_untilFailure h _

theorem keeps_guarding_updateRoutePrefix : (updateRoutePrefix qt p).Keeps guarding := by
  refine keeps_monitored ?_
  split
  · exact keeps_guarding_insertRoute p
  · exact keeps_guarding_forHalves qt keeps_guarding_insertRoute p.address

theorem keeps_guarding_deleteRoutePrefix : (deleteRoutePrefix qt p).Keeps guarding := by
  refine keeps_monitored ?_
  split
  · exact keeps_guarding_insertRoute p
  · exact keeps_guarding_forHalves qt keeps_guarding_deleteRoute p.address

theorem each_addRoute :
    (each LinuxRouteMonitor.addExclusionRoute prefixes s).tunnelRunning = s.tunnelRunning ∧
      (each LinuxRouteMonitor.addExclusionRoute prefixes s).rtmonitor = s.rtmonitor ∧
      s.exclusionRoutes ⊆ (each LinuxRouteMonitor.addExclusionRoute prefixes s).exclusionRoutes ∧
      ∀ p ∈ prefixes, p.address ≠ .null →
        p ∈ (each LinuxRouteMonitor.addExclusionRoute prefixes s).exclusionRoutes := by
  refine each_rule (I := fun seen (t : LinuxState) => t.tunnelRunning = s.tunnelRunning ∧ t.rtmonitor = s.rtmonitor ∧
    s.exclusionRoutes ⊆ t.exclusionRoutes ∧ ∀ p ∈ seen, p.address ≠ .null → p ∈ t.exclusionRoutes) ?_
    ⟨rfl, rfl, fun _ h => h, by simp⟩
  rintro seen p t - ⟨hrunning, hmonitor, hsub, hseen⟩
  unfold LinuxRouteMonitor.addExclusionRoute LinuxRouteMonitor.rtmSendRoute
  split
  · rename_i hnull
    refine ⟨hrunning, hmonitor, hsub, fun q hq hq' => ?_⟩
    rcases List.mem_append.mp hq with hq | hq
    · exact hseen q hq hq'
    · rw [List.mem_singleton.mp hq] at hq'
      exact absurd hnull hq'
  · refine ⟨hrunning, hmonitor, fun q hq => Finset.mem_insert_of_mem (hsub hq), fun q hq hq' => ?_⟩
    rcases List.mem_append.mp hq with hq | hq
    · exact Finset.mem_insert_of_mem (hseen q hq hq')
    · exact Finset.mem_insert.mpr (Or.inl (List.mem_singleton.mp hq))

theorem each_deleteRoute :
    (each LinuxRouteMonitor.deleteExclusionRoute prefixes s).rtmonitor = s.rtmonitor ∧
      ∀ p ∈ s.exclusionRoutes, (p.address ≠ .null → p ∉ prefixes) →
        p ∈ (each LinuxRouteMonitor.deleteExclusionRoute prefixes s).exclusionRoutes := by
  refine each_rule (I := fun seen (t : LinuxState) => t.rtmonitor = s.rtmonitor ∧
    ∀ p ∈ s.exclusionRoutes, (p.address ≠ .null → p ∉ seen) → p ∈ t.exclusionRoutes) ?_
    ⟨rfl, fun _ h _ => h⟩
  rintro seen p t - ⟨hmonitor, hkept⟩
  have hseen : ∀ q, (q.address ≠ .null → q ∉ seen ++ [p]) → q.address ≠ .null → q ∉ seen :=
    fun q hq hnull hmem => hq hnull (List.mem_append_left _ hmem)
  unfold LinuxRouteMonitor.deleteExclusionRoute LinuxRouteMonitor.rtmSendRoute
  split
  · exact ⟨hmonitor, fun q hq hq' => hkept q hq (hseen q hq')⟩
  · rename_i hnull
    refine ⟨hmonitor, fun q hq hq' => Finset.mem_erase.mpr ⟨?_, hkept q hq (hseen q hq')⟩⟩
    rintro rfl
    exact hq' hnull (List.mem_append_right _ (List.mem_singleton.mpr rfl))

theorem forServer_add :
    (forServer qt LinuxRouteMonitor.addExclusionRoute config s).tunnelRunning = s.tunnelRunning ∧
      (forServer qt LinuxRouteMonitor.addExclusionRoute config s).rtmonitor = s.rtmonitor ∧
      s.exclusionRoutes ⊆ (forServer qt LinuxRouteMonitor.addExclusionRoute config s).exclusionRoutes ∧
      (s.rtmonitor = true →
        Serves qt [config] (forServer qt LinuxRouteMonitor.addExclusionRoute config s).exclusionRoutes) := by
  obtain ⟨hrunning, hmonitor, hsub, hadded⟩ := each_addRoute [config.serverIpv4 qt, config.serverIpv6 qt] s
  unfold forServer
  split
  · refine ⟨hrunning, hmonitor, hsub, fun _ other hother _ hreadable => ?_⟩
    rw [List.mem_singleton.mp hother] at hreadable ⊢
    exact hadded _ List.mem_cons_self hreadable
  · rename_i hnot
    refine ⟨rfl, rfl, fun _ h => h, fun htrue other hother hhop => ?_⟩
    rw [List.mem_singleton.mp hother] at hhop
    exact absurd ⟨hhop, htrue⟩ hnot

theorem forServer_delete :
    (forServer qt LinuxRouteMonitor.deleteExclusionRoute config s).rtmonitor = s.rtmonitor ∧
      ∀ p ∈ s.exclusionRoutes, (p.address ≠ .null → config.hopType ≠ .multiHopExit →
        p ∉ [config.serverIpv4 qt, config.serverIpv6 qt]) →
        p ∈ (forServer qt LinuxRouteMonitor.deleteExclusionRoute config s).exclusionRoutes := by
  unfold forServer
  split
  · rename_i hboth
    obtain ⟨hmonitor, hkept⟩ := each_deleteRoute [config.serverIpv4 qt, config.serverIpv6 qt] s
    exact ⟨hmonitor, fun p hp hnot => hkept p hp fun hreadable => hnot hreadable hboth.1⟩
  · exact ⟨rfl, fun _ h _ => h⟩

/-! ### The counted routes -/

/-- What a loop that adds prefixes to the table does. A prefix without an address is never counted. -/
structure Excludes (seen : List IPAddress) (w w' : Watched) : Prop where
  connections : w'.books.connections = w.books.connections
  tunnelRunning : w'.tunnelRunning = w.tunnelRunning
  rtmonitor : w'.rtmonitor = w.rtmonitor
  routes : w.exclusionRoutes ⊆ w'.exclusionRoutes
  counted : CountsRouted w'.books.excludedAddrSet w'.exclusionRoutes
  count : ∀ p, p.address ≠ .null →
    w'.books.excludedAddrSet.count p = w.books.excludedAddrSet.count p + seen.count p

/-- What a loop that gives prefixes back does. The route of a prefix stays while it has a count. -/
structure Releases (seen : List IPAddress) (w w' : Watched) : Prop where
  connections : w'.books.connections = w.books.connections
  rtmonitor : w'.rtmonitor = w.rtmonitor
  count : ∀ p, w'.books.excludedAddrSet.count p = w.books.excludedAddrSet.count p - seen.count p
  routes : ∀ p ∈ w.exclusionRoutes, (seen.count p = 0 ∨ seen.count p < w.books.excludedAddrSet.count p) →
    p ∈ w'.exclusionRoutes

section
variable (hmonitor : d.platform.rtmonitor = true)
include hmonitor

theorem watched_addExclusionRoute :
    watched (addExclusionRoute (platform qt answers) p d).2 =
      if 0 < d.excludedAddrSet.count p then
        { watched d with books := { d.toBooks with excludedAddrSet := d.excludedAddrSet.take p } }
      else if p.address = .null then { watched d with books := { d.toBooks with refused := p :: d.refused } }
      else
        { watched d with
          books := { d.toBooks with excludedAddrSet := d.excludedAddrSet.take p }
          exclusionRoutes := insert p d.platform.exclusionRoutes } := by
  have hrequest : (platform qt answers).addExclusionRoute p d.platform = if p.address = .null then (false, d.platform)
      else (true, { d.platform with exclusionRoutes := insert p d.platform.exclusionRoutes }) := if_pos hmonitor
  unfold addExclusionRoute
  split
  · rfl
  · simp only [onPlatform, hrequest]
    split
    · rfl
    · rfl

theorem watched_delExclusionRoute :
    (watched (delExclusionRoute (platform qt answers) p d).2).rtmonitor = true ∧
      (watched (delExclusionRoute (platform qt answers) p d).2).exclusionRoutes =
        if 1 < d.excludedAddrSet.count p ∨ p.address = .null then d.platform.exclusionRoutes
        else d.platform.exclusionRoutes.erase p := by
  have hrequest : (platform qt answers).deleteExclusionRoute p d.platform =
      if p.address = .null then (false, d.platform)
      else (true, { d.platform with exclusionRoutes := d.platform.exclusionRoutes.erase p }) := if_pos hmonitor
  unfold delExclusionRoute
  by_cases hcount : 1 < d.excludedAddrSet.count p
  · rw [if_pos hcount, if_pos (Or.inl hcount)]
    exact ⟨hmonitor, rfl⟩
  · rw [if_neg hcount]
    by_cases hnull : p.address = .null
    · rw [if_pos hnull] at hrequest
      rw [if_pos (Or.inr hnull)]
      simp only [onPlatform, hrequest]
      exact ⟨hmonitor, rfl⟩
    · rw [if_neg hnull] at hrequest
      rw [if_neg (not_or.mpr ⟨hcount, hnull⟩)]
      simp only [onPlatform, hrequest]
      exact ⟨hmonitor, rfl⟩

theorem each_excludes (hcounted : CountsRouted d.excludedAddrSet d.platform.exclusionRoutes) :
    Excludes prefixes (watched d)
      (watched (each (addExclusionRoute (platform qt answers)) prefixes d)) := by
  refine each_rule (I := fun seen (s : Daemon LinuxState) => Excludes seen (watched d) (watched s)) ?_
    ⟨rfl, rfl, rfl, fun _ h => h, hcounted, fun _ _ => rfl⟩
  intro seen a s _ h
  have hcount : ∀ p, p.address ≠ .null → (s.excludedAddrSet.take a).count p =
      d.excludedAddrSet.count p + (seen ++ [a]).count p := by
    intro p hp
    rw [Counts.count_take, List.count_append, ← Nat.add_assoc]
    exact congrArg (· + _) (h.count p hp)
  have htake : ∀ p, 0 < (s.excludedAddrSet.take a).count p → p = a ∨ 0 < s.excludedAddrSet.count p := by
    intro p hp
    rw [Counts.count_take, List.count_singleton] at hp
    by_cases hpa : a = p
    · exact Or.inl hpa.symm
    · simp only [beq_iff_eq, hpa, if_false, Nat.add_zero] at hp
      exact Or.inr hp
  rw [watched_addExclusionRoute qt answers a (h.rtmonitor.trans hmonitor)]
  split
  · rename_i hpos
    refine ⟨h.connections, h.tunnelRunning, h.rtmonitor, h.routes, fun p hp => ?_, hcount⟩
    rcases htake p hp with rfl | hp
    · exact h.counted p hpos
    · exact h.counted p hp
  · split
    · rename_i hnull
      refine ⟨h.connections, h.tunnelRunning, h.rtmonitor, h.routes, h.counted, fun p hp => ?_⟩
      have hne : a ≠ p := fun heq => hp (heq ▸ hnull)
      rw [List.count_append, List.count_singleton, if_neg (by simpa using hne)]
      exact h.count p hp
    · refine ⟨h.connections, h.tunnelRunning, h.rtmonitor, fun p hp => Finset.mem_insert_of_mem (h.routes hp),
        fun p hp => ?_, hcount⟩
      rcases htake p hp with rfl | hp
      · exact Finset.mem_insert_self p _
      · exact Finset.mem_insert_of_mem (h.counted p hp)

theorem each_releases :
    Releases prefixes (watched d) (watched (each (delExclusionRoute (platform qt answers)) prefixes d)) := by
  refine each_rule (I := fun seen (s : Daemon LinuxState) => Releases seen (watched d) (watched s)) ?_
    ⟨rfl, rfl, fun _ => rfl, fun _ h _ => h⟩
  intro seen a s _ h
  have hbooks := delExclusionRoute_books (platform qt answers) a s
  obtain ⟨hmonitor', hroutes⟩ := watched_delExclusionRoute qt answers a (h.rtmonitor.trans hmonitor)
  refine ⟨?_, hmonitor'.trans hmonitor.symm, fun p => ?_, fun p hp hstays => ?_⟩
  · exact (congrArg Books.connections hbooks).trans h.connections
  · have hcount := congrArg (fun b : Books => b.excludedAddrSet.count p) hbooks
    refine hcount.trans ?_
    rw [Counts.count_release, List.count_append, ← Nat.sub_sub]
    exact congrArg (· - _) (h.count p)
  · -- If the route of the prefix is removed now, this was its last count.
    have hcount : s.excludedAddrSet.count p = d.excludedAddrSet.count p - seen.count p := h.count p
    have hpos : (seen ++ [a]).count p = 0 ∨ (seen ++ [a]).count p < d.excludedAddrSet.count p := hstays
    rw [List.count_append, List.count_singleton] at hpos
    have hbefore : p ∈ s.platform.exclusionRoutes := by
      refine h.routes p hp ?_
      change seen.count p = 0 ∨ seen.count p < d.excludedAddrSet.count p
      split at hpos <;> omega
    rw [hroutes]
    split
    · exact hbefore
    · rename_i hlast
      refine Finset.mem_erase.mpr ⟨?_, hbefore⟩
      rintro rfl
      rw [if_pos (beq_self_eq_true p)] at hpos
      exact hlast (Or.inl (by omega))

end

/-! ### What a call does -/

section
variable (qt : AddressReader) (answers : LinuxAnswers)

/-- The routes of the servers of the connections, once the configuration has taken its place among them. -/
def ArmedWith (config : InterfaceConfig) (w : Watched) : Prop := Armed qt (w.books.connections.insert config).toList w

def ArmedNow (w : Watched) : Prop := Armed qt w.books.connections.toList w

variable (config : InterfaceConfig)

theorem keeps_watched_updateRoutes : (updateRoutes (platform qt answers) config).Keeps watched :=
  keeps_untilFailure (fun p => keeps_watched (keeps_guarding_updateRoutePrefix qt p)) _

theorem keeps_watched_maybeUpdateResolvers : (maybeUpdateResolvers (platform qt answers) qt config).Keeps watched :=
  keeps_maybeUpdateResolvers (fun _ => keeps_watched fun _ => rfl) qt config

theorem bringUp_armed :
    SpecOn watched (Guarded qt) (bringUp (platform qt answers) config) (ArmedNow qt) (Guarded qt) := by
  have hprepare : SpecOn watched (Guarded qt) (onPlatform (perform ((platform qt answers).prepareActivation config)))
      (Guarded qt) (Guarded qt) := fun _ h => h
  have hcreate : SpecOn watched (Guarded qt) (createInterface (platform qt answers) config) (ArmedNow qt)
      (Guarded qt) := by
    intro d h
    cases hrunning : d.platform.tunnelRunning with
    | true =>
      have hexists : createInterface (platform qt answers) config d = (true, d) := if_pos hrunning
      rw [hexists]
      exact ⟨h.monitor (Or.inl hrunning), h.counted, h.servers⟩
    | false =>
      have hadds : createInterface (platform qt answers) config d = onPlatform (addInterface answers config) d :=
        if_neg (Bool.eq_false_iff.mp hrunning)
      rw [hadds, onPlatform]
      rcases addInterface_cases answers config hrunning with hnothing | ⟨configured, hstarted⟩
      · rw [hnothing]
        exact h
      · rw [hstarted]
        split
        · exact ⟨rfl, h.counted, h.servers⟩
        · exact ⟨fun _ => rfl, h.counted, h.servers⟩
  have hup : Keeps ((onPlatform ((platform qt answers).addInterfaceIPs config)).andThen
      (onPlatform ((platform qt answers).setMTUAndUp config))) watched :=
    Keeps.andThen (fun _ => rfl) (fun _ => rfl)
  exact hprepare.andThen (hcreate.andThen (hup.specOn fun _ h => Armed.guarded h))

theorem excludeAll_armed (h : ArmedNow qt (watched d)) :
    ArmedNow qt (watched (excludeAll (platform qt answers) qt config d)) := by
  have hexcludes : Excludes (config.excludedPrefixes qt) (watched { d with unrecorded := d.unrecorded + 1 })
      (watched (excludeAll (platform qt answers) qt config d)) :=
    each_excludes qt answers (config.excludedPrefixes qt) h.monitor h.counted
  refine ⟨hexcludes.rtmonitor.trans h.monitor, hexcludes.counted, ?_⟩
  rw [hexcludes.connections]
  exact fun other hother hhop hreadable => hexcludes.routes (h.servers other hother hhop hreadable)

theorem updatePeer_armed :
    SpecOn watched (ArmedNow qt) (onPlatform ((platform qt answers).updatePeer config))
      (fun w => ArmedNow qt w ∧ ArmedWith qt config w) (Guarded qt) := by
  intro d h
  change if (updatePeer qt answers config d.platform).1 = true then
    ArmedNow qt (watched { d with platform := (updatePeer qt answers config d.platform).2 }) ∧
      ArmedWith qt config (watched { d with platform := (updatePeer qt answers config d.platform).2 })
    else Guarded qt (watched { d with platform := (updatePeer qt answers config d.platform).2 })
  unfold updatePeer
  split
  · exact Armed.guarded h
  · obtain ⟨hrunning, hmonitor, hsub, hserver⟩ := forServer_add qt config d.platform
    have hserves : Serves qt d.connections.toList
        (forServer qt LinuxRouteMonitor.addExclusionRoute config d.platform).exclusionRoutes :=
      fun other hother hhop hreadable => hsub (h.servers other hother hhop hreadable)
    have harmed : ArmedNow qt (watched { d with
        platform := forServer qt LinuxRouteMonitor.addExclusionRoute config d.platform }) :=
      ⟨hmonitor.trans h.monitor, fun p hp => hsub (h.counted p hp), hserves⟩
    split
    · exact ⟨harmed, harmed.monitor, harmed.counted, hserves.insert (hserver h.monitor)⟩
    · exact Armed.guarded harmed

theorem record_guarded {config : InterfaceConfig} (h : ArmedWith qt config (watched d)) :
    Guarded qt (watched (record config d)) :=
  ⟨fun _ => h.monitor, h.counted, h.servers⟩

theorem activateNew_guarded :
    SpecOn watched (Guarded qt) (activateNew (platform qt answers) qt config) (Guarded qt) (Guarded qt) := by
  have hexclude : SpecOn watched (ArmedNow qt) (perform (excludeAll (platform qt answers) qt config)) (ArmedNow qt)
      (Guarded qt) :=
    spec_perform fun _ h => excludeAll_armed qt answers config h
  have hrest : Keeps ((maybeUpdateResolvers (platform qt answers) qt config).andThen
      ((updateRoutes (platform qt answers) config).andThen (onPlatform ((platform qt answers).run .up config))))
      watched :=
    (keeps_watched_maybeUpdateResolvers qt answers config).andThen
      ((keeps_watched_updateRoutes qt answers config).andThen (keeps_watched fun _ => rfl))
  have hconnect := (updatePeer_armed qt answers config).andThen (hrest.specOn fun _ h => Armed.guarded h.1)
  exact (bringUp_armed qt answers config).andThen (hexclude.andThen (hconnect.andThen
    (spec_perform fun _ h => record_guarded qt h.2)))

end

/-! ### A switch that keeps what is in use -/

section
variable (qt : AddressReader) (answers : LinuxAnswers) (config last : InterfaceConfig)

/-- The address of a server that is in use once the configuration has taken its place among the connections. -/
def ServerAfter (connections : Connections) (a : IPAddress) : Prop :=
  a.address ≠ .null ∧ ∃ other ∈ (connections.insert config).toList,
    other.hopType ≠ .multiHopExit ∧ a = other.serverIpv4 qt

/-- A switch removes no route in use, if the prefixes are counted so many times after the new exclusions are added:
those that are given back leave a count for each server in use, and an old peer that is removed has the addresses of
no server in use, with no count left for them. -/
structure RemovesUnused (connections : Connections) (count : IPAddress → ℕ) : Prop where
  released : ∀ a, ServerAfter qt config connections a →
    (last.releasedPrefixes qt).count a = 0 ∨ (last.releasedPrefixes qt).count a < count a
  dropped : config.serverPublicKey ≠ last.serverPublicKey → last.hopType ≠ .multiHopExit →
    ∀ a ∈ [last.serverIpv4 qt, last.serverIpv6 qt], a.address ≠ .null →
      ¬ ServerAfter qt config connections a ∧ count a ≤ (last.releasedPrefixes qt).count a

def NowRemovesUnused (w : Watched) : Prop :=
  RemovesUnused qt config last w.books.connections w.books.excludedAddrSet.count

def WillRemoveUnused (w : Watched) : Prop :=
  RemovesUnused qt config last w.books.connections
    fun a => w.books.excludedAddrSet.count a + (config.excludedPrefixes qt).count a

/-- The old peer, if it is removed, has nothing in use. -/
def DropsUnused (b : Books) : Prop :=
  config.serverPublicKey ≠ last.serverPublicKey → last.hopType ≠ .multiHopExit →
    ∀ a ∈ [last.serverIpv4 qt, last.serverIpv6 qt], a.address ≠ .null →
      ¬ ServerAfter qt config b.connections a ∧ b.excludedAddrSet.count a = 0

variable {config last}

theorem RemovesUnused.congr {connections : Connections} {count count' : IPAddress → ℕ}
    (h : RemovesUnused qt config last connections count) (heq : ∀ a, a.address ≠ .null → count' a = count a) :
    RemovesUnused qt config last connections count' := by
  refine ⟨fun a ha => ?_, fun hkey hhop a ha hreadable => ?_⟩
  · rw [heq a ha.1]
    exact h.released a ha
  · rw [heq a hreadable]
    exact h.dropped hkey hhop a ha hreadable

theorem excludeAll_removesUnused (h : ArmedNow qt (watched d)) (hunused : WillRemoveUnused qt config last (watched d)) :
    NowRemovesUnused qt config last (watched (excludeAll (platform qt answers) qt config d)) := by
  have hexcludes : Excludes (config.excludedPrefixes qt) (watched { d with unrecorded := d.unrecorded + 1 })
      (watched (excludeAll (platform qt answers) qt config d)) :=
    each_excludes qt answers (config.excludedPrefixes qt) h.monitor h.counted
  rw [NowRemovesUnused, hexcludes.connections]
  exact hunused.congr qt hexcludes.count

/-- The routes of the new connection stay when those of the old one are given back. -/
theorem replaceRoutes_armed (h : ArmedWith qt config (watched d))
    (hunused : NowRemovesUnused qt config last (watched d)) :
    ArmedWith qt config (watched (replaceRoutes (platform qt answers) qt config last d)) ∧
      DropsUnused qt config last (replaceRoutes (platform qt answers) qt config last d).toBooks := by
  have hupdated : watched (updateRoutes (platform qt answers) config d).2 = watched d :=
    keeps_watched_updateRoutes qt answers config d
  have hdeleted : watched (replaceRoutes (platform qt answers) qt config last d) =
      watched (each (delExclusionRoute (platform qt answers)) (last.releasedPrefixes qt)
        (updateRoutes (platform qt answers) config d).2) :=
    each_keeps (fun p => keeps_watched (keeps_guarding_deleteRoutePrefix qt p)) _ _
  have hreleases : Releases (last.releasedPrefixes qt) (watched d)
      (watched (replaceRoutes (platform qt answers) qt config last d)) := by
    have hmonitor : (updateRoutes (platform qt answers) config d).2.platform.rtmonitor = true :=
      (congrArg Watched.rtmonitor hupdated).trans h.monitor
    rw [hdeleted, ← hupdated]
    exact each_releases qt answers (last.releasedPrefixes qt) hmonitor
  refine ⟨⟨hreleases.rtmonitor.trans h.monitor, fun p hp => ?_, ?_⟩, ?_⟩
  · have hcount := hreleases.count p
    refine hreleases.routes p (h.counted p ?_) (Or.inr ?_)
    · omega
    · omega
  · intro other hother hhop hreadable
    rw [hreleases.connections] at hother
    exact hreleases.routes _ (h.servers other hother hhop hreadable)
      (hunused.released _ ⟨hreadable, other, hother, hhop, rfl⟩)
  · intro hkey hhop a ha hreadable
    obtain ⟨hnot, hle⟩ := hunused.dropped hkey hhop a ha hreadable
    have hconnections : (replaceRoutes (platform qt answers) qt config last d).connections = d.connections :=
      hreleases.connections
    have hcount : (replaceRoutes (platform qt answers) qt config last d).excludedAddrSet.count a =
        d.excludedAddrSet.count a - (last.releasedPrefixes qt).count a := hreleases.count a
    rw [hconnections, hcount]
    exact ⟨hnot, Nat.sub_eq_zero_of_le hle⟩

section
variable (hdeleted : config.serverPublicKey ≠ last.serverPublicKey → answers.peerDeleted = true)
include hdeleted

theorem dropPeer_armed :
    SpecOn watched (fun w => ArmedWith qt config w ∧ DropsUnused qt config last w.books)
      (dropPeer (platform qt answers) config last) (ArmedWith qt config) (Guarded qt) := by
  rintro d ⟨h, hunused⟩
  unfold dropPeer
  split
  · rename_i hkey
    obtain ⟨hmonitor, hkept⟩ := forServer_delete qt last d.platform
    change if answers.peerDeleted = true then ArmedWith qt config (watched { d with
      platform := forServer qt LinuxRouteMonitor.deleteExclusionRoute last d.platform }) else _
    rw [if_pos (hdeleted hkey)]
    refine ⟨hmonitor.trans h.monitor, fun p hp => ?_, fun other hother hhop hreadable => ?_⟩
    · refine hkept p (h.counted p hp) fun hreadable hhop hmem => ?_
      have hzero := (hunused hkey hhop p hmem hreadable).2
      exact absurd hzero (Nat.ne_of_gt hp)
    · refine hkept _ (h.servers other hother hhop hreadable) fun _ hlast hmem => ?_
      exact (hunused hkey hlast _ hmem hreadable).1 ⟨hreadable, other, hother, hhop, rfl⟩
  · exact h

theorem switchServer_guarded :
    SpecOn watched (fun w => ArmedNow qt w ∧ WillRemoveUnused qt config last w)
      (switchServer (platform qt answers) qt config last)
      (fun w => Guarded qt w ∧ w.books.connections.value config.hopType = some config) (Guarded qt) := by
  have hexclude : SpecOn watched (fun w => ArmedNow qt w ∧ WillRemoveUnused qt config last w)
      (perform (excludeAll (platform qt answers) qt config))
      (fun w => ArmedNow qt w ∧ NowRemovesUnused qt config last w) (Guarded qt) :=
    spec_perform fun _ h => ⟨excludeAll_armed qt answers config h.1, excludeAll_removesUnused qt answers h.1 h.2⟩
  have hpeer : SpecOn watched (fun w => ArmedNow qt w ∧ NowRemovesUnused qt config last w)
      (onPlatform ((platform qt answers).updatePeer config))
      (fun w => (ArmedNow qt w ∧ ArmedWith qt config w) ∧ NowRemovesUnused qt config last w) (Guarded qt) :=
    Spec.frame (updatePeer_armed qt answers config) (keeps_books _)
      fun b => RemovesUnused qt config last b.connections b.excludedAddrSet.count
  exact hexclude.andThen (hpeer.andThen (SpecOn.andThen
    (spec_perform fun _ h => replaceRoutes_armed qt answers h.1.2 h.2) ((dropPeer_armed qt answers hdeleted).andThen
      (spec_perform fun _ h => ⟨record_guarded qt h, if_pos rfl⟩))))

theorem activateSwitched_guarded :
    SpecOn watched (fun w => ArmedNow qt w ∧ WillRemoveUnused qt config last w)
      (activateSwitched (platform qt answers) qt config last) (Guarded qt) (Guarded qt) := by
  have hkeeps : ∀ f : Procedure (Daemon LinuxState), f.Keeps watched →
      SpecOn watched (fun w => Guarded qt w ∧ w.books.connections.value config.hopType = some config) f
        (fun w => Guarded qt w ∧ w.books.connections.value config.hopType = some config) (Guarded qt) :=
    fun f hf => hf.specOn fun _ h => h.1
  refine (switchServer_guarded qt answers hdeleted).andThen ((hkeeps _ (keeps_watched fun _ => rfl)).andThen
    ((hkeeps _ (keeps_watched_maybeUpdateResolvers qt answers config)).andThen
      ((hkeeps _ (keeps_watched fun _ => rfl)).andThen (spec_perform fun d h => ?_))))
  have hvalue : d.connections.value config.hopType = some config := h.2
  rw [insert_of_value hvalue]
  exact h.1

end

end

/-! ### Runs -/

theorem cleanUp_guarded (d : Daemon LinuxState) : Guarded qt (watched (cleanUp (platform qt answers) d).2) := by
  have hbooks := cleanUp_books (platform qt answers) d
  have hconnections : (cleanUp (platform qt answers) d).2.connections = .empty := congrArg Books.connections hbooks
  have hrunning : ∀ s, (deleteInterface s).2.tunnelRunning = false := by
    intro s
    unfold deleteInterface
    split
    · rfl
    · rename_i h
      exact Bool.eq_false_iff.mpr h
  have hstopped : (cleanUp (platform qt answers) d).2.platform.tunnelRunning = false := hrunning _
  refine ⟨?_, fun p hp => ?_, fun other hother => ?_⟩
  · rintro (h | h)
    · exact absurd (hstopped.symm.trans h) Bool.false_ne_true
    · exact absurd (congrArg toList hconnections) h
  · change 0 < (cleanUp (platform qt answers) d).2.excludedAddrSet.count p at hp
    exact absurd hp (Nat.lt_irrefl 0)
  · change other ∈ (cleanUp (platform qt answers) d).2.connections.toList at hother
    cases hother

theorem deactivate_guarded :
    SpecOn watched (Guarded qt) (deactivate (platform qt answers)) (Guarded qt) (Guarded qt) := by
  have hannounce : (announceDown (platform qt answers)).Keeps watched := by
    intro d
    unfold announceDown
    split
    · rfl
    · rfl
  refine (hannounce.specOn fun _ h => h).andThen fun d _ => ?_
  simpa using cleanUp_guarded qt answers d

/-- The condition under which a switch keeps the routes in use. An old peer that is to be removed is removed, and no
route that is removed is in use. -/
def RemovesOnlyUnused (qt : AddressReader) (s : Bool × Daemon LinuxState) : Call LinuxAnswers → Prop
  | .activate config answers => ∀ last, s.2.connections.value config.hopType = some last →
      supportServerSwitching last config = true →
        (config.serverPublicKey ≠ last.serverPublicKey → answers.peerDeleted = true) ∧
        RemovesUnused qt config last s.2.connections
          fun a => s.2.excludedAddrSet.count a + (config.excludedPrefixes qt).count a
  | .deactivate _ => True
  | .elapse _ => True

theorem activate_guarded {s : Bool × Daemon LinuxState} (h : Guarded qt (watched s.2))
    (hok : RemovesOnlyUnused qt s (.activate config answers)) :
    Guarded qt (watched (activate (platform qt answers) qt config s.2).2) := by
  unfold activate
  cases hvalue : s.2.connections.value config.hopType with
  | none =>
    exact Spec.holds (activateNew_guarded qt answers config) h
  | some last =>
    dsimp only
    split
    · rename_i hswitch
      obtain ⟨hdeleted, hunused⟩ := hok last hvalue hswitch
      have hactive : last ∈ s.2.connections.toList := by
        rwa [mem_toList_iff, s.2.connections.keyed _ last hvalue]
      have hmonitor := h.monitor (Or.inr (List.ne_nil_of_mem hactive))
      exact Spec.holds (activateSwitched_guarded qt answers hdeleted) ⟨⟨hmonitor, h.counted, h.servers⟩, hunused⟩
    · exact Spec.holds ((deactivate_guarded qt answers).andThen (activateNew_guarded qt answers config)) h

theorem step_guarded (s : Bool × Daemon LinuxState) (call : Call LinuxAnswers) (t : Bool × Daemon LinuxState)
    (h : Guarded qt (watched s.2)) (hok : RemovesOnlyUnused qt s call) (hstep : step (platform qt) qt s call = some t) :
    Guarded qt (watched t.2) := by
  cases call with
  | activate config answers =>
    cases hstep
    exact activate_guarded qt config answers h hok
  | deactivate answers =>
    cases hstep
    exact Spec.holds (deactivate_guarded qt answers) h
  | elapse answers =>
    cases hstep
    refine ⟨?_, h.counted, h.servers⟩
    rintro (hrunning | hconnections)
    · cases hrunning
    · exact h.monitor (Or.inr hconnections)

/-- **The servers stay reachable over runs.** In every run whose switches remove no route in use, each active
connection other than the exit of a multihop one has the exclusion route of its server, and each prefix with a positive
count has its own. -/
theorem servers_reachable_of_removesOnlyUnused (qt : AddressReader) (calls : List (Call LinuxAnswers))
    (returned : Bool) (d : Daemon LinuxState)
    (hmeets : Run.Meets (step (platform qt) qt) (RemovesOnlyUnused qt) (true, start) calls)
    (hrun : Run.run (step (platform qt) qt) (true, start) calls = some (returned, d)) :
    (∀ hop config, d.connections.value hop = some config → hop ≠ .multiHopExit →
      (config.serverIpv4 qt).address ≠ .null → config.serverIpv4 qt ∈ d.platform.exclusionRoutes) ∧
    ∀ p, 0 < d.excludedAddrSet.count p → p ∈ d.platform.exclusionRoutes := by
  have hstart : Guarded qt (watched start) := by
    refine ⟨?_, fun p hp => absurd hp (Nat.lt_irrefl 0), fun other hother => by cases hother⟩
    rintro (h | h)
    · cases h
    · exact absurd rfl h
  have hend : Guarded qt (watched d) :=
    Run.run_invariant_of_meets (I := fun s : Bool × Daemon LinuxState => Guarded qt (watched s.2))
      (step_guarded qt) hstart hmeets hrun
  refine ⟨fun hop config hvalue hhop => ?_, hend.counted⟩
  have hkey : config.hopType = hop := d.connections.keyed hop config hvalue
  refine hend.servers config ?_ (hkey ▸ hhop)
  rwa [mem_toList_iff, hkey]

/-- The exit of a multihop connection has no exclusion route. A switch to another key at the same address removes the
route of the server, also where it is counted. -/
theorem exit_has_no_exclusion_route :
    (∃ d, Run.run (step (platform sampleReader) sampleReader) (true, start)
        [.activate { sampleConfig [] with hopType := .multiHopExit, excludedAddresses := [] } .success] =
          some (true, d) ∧
      (d.connections.value .multiHopExit).isSome = true ∧ ⟨.ipv4 0xC0000201, 32⟩ ∉ d.platform.exclusionRoutes) ∧
    (∃ d, Run.run (step (platform sampleReader) sampleReader) (true, start)
        [.activate (sampleConfig []) .success,
          .activate { sampleConfig [] with serverPublicKey := "otherPublicKey" } .success] = some (true, d) ∧
      (d.connections.value .singleHop).isSome = true ∧ d.excludedAddrSet.count ⟨.ipv4 0xC0000201, 32⟩ = 1 ∧
      ⟨.ipv4 0xC0000201, 32⟩ ∉ d.platform.exclusionRoutes) := by
  refine ⟨⟨_, rfl, ?_, ?_⟩, ⟨_, rfl, ?_, ?_, ?_⟩⟩ <;> decide

def sampleOther : InterfaceConfig :=
  { sampleConfig [] with
    serverPublicKey := "otherPublicKey"
    serverIpv4AddrIn := some "10.0.0.1"
    excludedAddresses := ["10.0.0.1"] }

/-- After a switch to a server with another address this server has its route. -/
theorem other_server_reachable : ∃ d,
    Run.run (step (platform sampleReader) sampleReader) (true, start)
      [.activate (sampleConfig []) .success, .activate sampleOther .success] = some (true, d) ∧
    sampleOther.serverIpv4 sampleReader ∈ d.platform.exclusionRoutes := by
  refine ⟨_, rfl, ?_⟩
  refine (servers_reachable_of_removesOnlyUnused sampleReader
    [.activate (sampleConfig []) .success, .activate sampleOther .success] true _ ?_ rfl).1
    .singleHop sampleOther rfl (by decide) (by decide)
  refine ⟨?_, ?_⟩
  · rintro last ⟨⟩
  rintro _ ⟨⟩
  refine ⟨?_, fun _ _ => trivial⟩
  rintro last ⟨⟩ -
  have hserver : ∀ a, ServerAfter sampleReader sampleOther (empty.insert (sampleConfig [])) a →
      a = ⟨.ipv4 0x0A000001, 32⟩ := by
    rintro a ⟨-, other, hother, -, rfl⟩
    have heq : other = sampleOther := List.mem_singleton.mp hother
    rw [heq]
    decide
  refine ⟨fun _ => rfl, fun a ha => ?_, fun _ _ a ha hreadable => ?_⟩
  · rw [hserver a ha]
    exact Or.inl (by decide)
  · have ha' : a = ⟨.ipv4 0xC0000201, 32⟩ := by
      rcases List.mem_cons.mp ha with rfl | ha
      · decide
      · rw [List.mem_singleton.mp ha] at hreadable
        exact absurd (by decide) hreadable
    subst ha'
    exact ⟨fun hafter => absurd (hserver _ hafter) (by decide), by decide⟩

end LinuxDaemon

end FreshVpn
