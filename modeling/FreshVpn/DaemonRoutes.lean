import Mathlib.Data.Finset.Lattice.Lemmas
import FreshVpn.DaemonExclusions

/-! The routes through the tunnel after a switch on Linux. -/

namespace FreshVpn

open Procedure LinuxRouteMonitor

namespace WireguardUtilsLinux

variable (qt : AddressReader)

def routesOf (p : IPAddress) : List IPAddress := if 0 < p.prefixLength then [p] else halves qt p.address

theorem halves_readable (address : HostAddress) : ∀ r ∈ halves qt address, r.address ≠ .null := by
  have hread : ∀ text, text.toList.contains '/' = true →
      IPAddress.ofString qt text = IPAddress.cut (qt.parseSubnet text).1 (qt.parseSubnet text).2 :=
    fun text htext => if_pos htext
  unfold halves
  rw [hread _ (by decide), hread _ (by decide), hread _ (by decide), hread _ (by decide), qt.parseSubnet_ipv4Low,
    qt.parseSubnet_ipv4High, qt.parseSubnet_ipv6Low, qt.parseSubnet_ipv6High]
  cases address <;> simp [IPAddress.cut]

theorem insertRoutes_eq {l : List IPAddress} (hl : ∀ r ∈ l, r.address ≠ .null) (s : LinuxState) :
    untilFailure insertRoute l s =
      (true, { s with tunnelRoutes := l.toFinset ∪ s.tunnelRoutes }) := by
  induction l generalizing s with
  | nil =>
    rw [List.toFinset_nil, Finset.empty_union]
    rfl
  | cons r l ih =>
    have hr : insertRoute r s = (true, { s with tunnelRoutes := insert r s.tunnelRoutes }) :=
      if_neg (hl r List.mem_cons_self)
    rw [untilFailure, andThen, hr, if_pos rfl, ih fun r' hr' => hl r' (List.mem_cons_of_mem r hr')]
    simp only [List.toFinset_cons, Finset.union_insert, Finset.insert_union]

theorem deleteRoutes_eq {l : List IPAddress} (hl : ∀ r ∈ l, r.address ≠ .null) (s : LinuxState) :
    untilFailure deleteRoute l s =
      (true, { s with tunnelRoutes := s.tunnelRoutes \ l.toFinset }) := by
  induction l generalizing s with
  | nil =>
    rw [List.toFinset_nil, Finset.sdiff_empty]
    rfl
  | cons r l ih =>
    have hr : deleteRoute r s = (true, { s with tunnelRoutes := s.tunnelRoutes.erase r }) :=
      if_neg (hl r List.mem_cons_self)
    rw [untilFailure, andThen, hr, if_pos rfl, ih fun r' hr' => hl r' (List.mem_cons_of_mem r hr')]
    simp only [List.toFinset_cons, Finset.sdiff_insert, Finset.erase_sdiff_comm]

theorem updateRoutePrefix_eq {s : LinuxState} (hmonitor : s.rtmonitor = true) (p : IPAddress) :
    updateRoutePrefix qt p s = if p.address = .null then (false, s)
      else (true, { s with tunnelRoutes := (routesOf qt p).toFinset ∪ s.tunnelRoutes }) := by
  unfold updateRoutePrefix monitored routesOf
  rw [if_pos hmonitor]
  split
  · rw [insertRoute, rtmSendRoute]
    split
    · rfl
    · simp
  · rw [forHalves]
    split
    · rfl
    · exact insertRoutes_eq (halves_readable qt p.address) s

theorem deleteRoutePrefix_eq {s : LinuxState} (hmonitor : s.rtmonitor = true) {p : IPAddress}
    (hp : p.address ≠ .null) : deleteRoutePrefix qt p s = (true, { s with tunnelRoutes :=
      if 0 < p.prefixLength then (routesOf qt p).toFinset ∪ s.tunnelRoutes
      else s.tunnelRoutes \ (routesOf qt p).toFinset }) := by
  unfold deleteRoutePrefix monitored routesOf
  rw [if_pos hmonitor]
  split
  · rw [insertRoute, rtmSendRoute, if_neg hp]
    simp
  · rw [forHalves, if_neg hp]
    exact deleteRoutes_eq (halves_readable qt p.address) s

end WireguardUtilsLinux

namespace LinuxDaemon

open Daemon WireguardUtilsLinux

variable (qt : AddressReader) (answers : LinuxAnswers)

/-! ### The routes of a new activation -/

/-- The part of the state that the routes through the tunnel depend on. -/
def routing (s : LinuxState) : Bool × Finset IPAddress := (s.rtmonitor, s.tunnelRoutes)

def daemonRouting (d : Daemon LinuxState) : Bool × Finset IPAddress := routing d.platform

/-- There is no tunnel, and no route through it. -/
def Down (d : Daemon LinuxState) : Prop := d.platform.tunnelRunning = false ∧ d.platform.tunnelRoutes = ∅

structure Routed (qt : AddressReader) (prefixes : List IPAddress) (b : Bool × Finset IPAddress) : Prop where
  monitor : b.1 = true
  readable : ∀ p ∈ prefixes, p.address ≠ .null
  routes : ∀ r, r ∈ b.2 ↔ r ∈ prefixes.flatMap (routesOf qt)

theorem keeps_routing_addExclusionRoute (p : IPAddress) : (addExclusionRoute p).Keeps routing := by
  refine keeps_rtmSendRoute ?_ p
  exact fun _ => rfl

theorem keeps_routing_deleteExclusionRoute (p : IPAddress) : (deleteExclusionRoute p).Keeps routing := by
  refine keeps_rtmSendRoute ?_ p
  exact fun _ => rfl

variable (config : InterfaceConfig)

theorem keeps_routing_updatePeer : (onPlatform ((platform qt answers).updatePeer config)).Keeps daemonRouting :=
  keeps_onPlatform (keeps_updatePeer keeps_routing_addExclusionRoute qt answers config)

theorem keeps_routing_maybeUpdateResolvers :
    (maybeUpdateResolvers (platform qt answers) qt config).Keeps daemonRouting :=
  keeps_maybeUpdateResolvers (fun _ _ => rfl) qt config

theorem keeps_routing_excludeAll : (perform (excludeAll (platform qt answers) qt config)).Keeps daemonRouting :=
  fun d => each_keeps (keeps_addExclusionRoute fun p => keeps_monitored (keeps_routing_addExclusionRoute p))
    (config.excludedPrefixes qt) { d with unrecorded := d.unrecorded + 1 }

theorem spec_of_keeps_routing {f : Procedure (Daemon LinuxState)} (hf : f.Keeps daemonRouting)
    (Q : Bool × Finset IPAddress → Prop) : SpecOn daemonRouting Q f Q fun _ => True :=
  hf.specOn fun _ _ => trivial

theorem bringUp_routed :
    Spec Down (bringUp (platform qt answers) config) (fun d => Routed qt [] (daemonRouting d)) (fun _ => True) := by
  have hprepare : Spec Down (onPlatform (perform ((platform qt answers).prepareActivation config))) Down
      (fun _ => True) :=
    fun _ h => h
  have hcreate : Spec Down (createInterface (platform qt answers) config) (fun d => Routed qt [] (daemonRouting d))
      (fun _ => True) := by
    rintro d ⟨hrunning, hroutes⟩
    have hadds : createInterface (platform qt answers) config d = onPlatform (addInterface answers config) d :=
      if_neg (Bool.eq_false_iff.mp hrunning)
    rw [hadds, onPlatform]
    rcases addInterface_cases answers config hrunning with hnothing | ⟨configured, hstarted⟩
    · rw [hnothing]
      trivial
    · rw [hstarted]
      split
      · exact ⟨rfl, by simp, fun r => by simp [daemonRouting, routing, hroutes]⟩
      · trivial
  have hup : Keeps ((onPlatform ((platform qt answers).addInterfaceIPs config)).andThen
      (onPlatform ((platform qt answers).setMTUAndUp config))) daemonRouting :=
    Keeps.andThen (fun _ => rfl) (fun _ => rfl)
  exact hprepare.andThen (hcreate.andThen (spec_of_keeps_routing hup (Routed qt [])))

theorem updateRoutes_routed (before : List IPAddress) (config : InterfaceConfig) :
    SpecOn daemonRouting (Routed qt before) (updateRoutes (platform qt answers) config)
      (Routed qt (before ++ config.allowedIPAddressRanges))
      (fun _ => ∃ p ∈ config.allowedIPAddressRanges, p.address = .null) := by
  have hstep : ∀ seen, ∀ p ∈ config.allowedIPAddressRanges,
      SpecOn daemonRouting (Routed qt (before ++ seen)) (onPlatform ((platform qt answers).updateRoutePrefix p))
        (Routed qt (before ++ (seen ++ [p]))) (fun _ => ∃ p ∈ config.allowedIPAddressRanges, p.address = .null) := by
    intro seen p hp d h
    have heq := updateRoutePrefix_eq qt h.monitor p
    change if (updateRoutePrefix qt p d.platform).1 = true then
      Routed qt (before ++ (seen ++ [p])) (routing (updateRoutePrefix qt p d.platform).2) else _
    by_cases hnull : p.address = .null
    · rw [heq, if_pos hnull]
      exact ⟨p, hp, hnull⟩
    · rw [heq, if_neg hnull, if_pos rfl, ← List.append_assoc]
      refine ⟨h.monitor, ?_, fun r => ?_⟩
      · rw [List.forall_mem_append]
        exact ⟨h.readable, by simpa using hnull⟩
      · have hr := h.routes r
        change r ∈ (routesOf qt p).toFinset ∪ d.platform.tunnelRoutes ↔ _
        rw [Finset.mem_union, List.mem_toFinset, List.flatMap_append, List.mem_append, List.flatMap_singleton,
          or_comm]
        exact or_congr_left hr
  have hloop := spec_untilFailure (I := fun seen (d : Daemon LinuxState) =>
    Routed qt (before ++ seen) (daemonRouting d)) hstep
  rw [List.append_nil] at hloop
  exact hloop

theorem activateNew_routed :
    Spec Down (activateNew (platform qt answers) qt config)
      (fun d => Routed qt config.allowedIPAddressRanges (daemonRouting d) ∧
        d.connections.value config.hopType = some config) (fun _ => True) := by
  have hexclude := spec_of_keeps_routing (keeps_routing_excludeAll qt answers config) (Routed qt [])
  have hpeer := spec_of_keeps_routing (keeps_routing_updatePeer qt answers config) (Routed qt [])
  have hresolvers := spec_of_keeps_routing (keeps_routing_maybeUpdateResolvers qt answers config) (Routed qt [])
  have hroutes : SpecOn daemonRouting (Routed qt []) (updateRoutes (platform qt answers) config)
      (Routed qt config.allowedIPAddressRanges) (fun _ => True) :=
    (updateRoutes_routed qt answers [] config).imp (fun _ h => h) (fun _ h => h) (fun _ _ => trivial)
  have hrun : (onPlatform ((platform qt answers).run .up config)).Keeps daemonRouting := fun _ => rfl
  have hconnect := hpeer.andThen (hresolvers.andThen (hroutes.andThen (spec_of_keeps_routing hrun _)))
  exact (bringUp_routed qt answers config).andThen (Spec.andThen hexclude (Spec.andThen hconnect
    (spec_perform fun d h => ⟨h, if_pos rfl⟩)))

/-! ### The routes after a switch -/

/-- The last of the prefixes that stands for a route. -/
def lastFor (qt : AddressReader) (prefixes : List IPAddress) (r : IPAddress) : Option IPAddress :=
  prefixes.reverse.find? fun p => (routesOf qt p).contains r

theorem lastFor_append (prefixes : List IPAddress) (p r : IPAddress) :
    lastFor qt (prefixes ++ [p]) r = if r ∈ routesOf qt p then some p else lastFor qt prefixes r := by
  unfold lastFor
  by_cases hr : r ∈ routesOf qt p
  · simp [hr]
  · simp [hr]

variable {config last : InterfaceConfig} {prefixes : List IPAddress}

theorem lastFor_eq_none {r : IPAddress} (h : lastFor qt prefixes r = none) : ∀ p ∈ prefixes, r ∉ routesOf qt p := by
  intro p hp hr
  have hnone := List.find?_eq_none.mp h p (List.mem_reverse.mpr hp)
  exact hnone (List.contains_iff_mem.mpr hr)

/-- Whether a route is there after the prefixes are taken away: the last prefix that stands for it decides. -/
def Left (qt : AddressReader) (prefixes : List IPAddress) (before : Prop) (r : IPAddress) : Prop :=
  match lastFor qt prefixes r with
  | some p => 0 < p.prefixLength
  | none => before

variable {d : Daemon LinuxState}

theorem each_deleteRoutePrefix (hreadable : ∀ p ∈ prefixes, p.address ≠ .null)
    (hmonitor : d.platform.rtmonitor = true) (r : IPAddress) :
    r ∈ (each (fun p => onPlatform ((platform qt answers).deleteRoutePrefix p)) prefixes d).platform.tunnelRoutes ↔
      Left qt prefixes (r ∈ d.platform.tunnelRoutes) r := by
  suffices hloop : (each (fun p => onPlatform ((platform qt answers).deleteRoutePrefix p)) prefixes
      d).platform.rtmonitor = true ∧
      (r ∈ (each (fun p => onPlatform ((platform qt answers).deleteRoutePrefix p)) prefixes
        d).platform.tunnelRoutes ↔ Left qt prefixes (r ∈ d.platform.tunnelRoutes) r) by
    exact hloop.2
  refine each_rule (I := fun seen (s : Daemon LinuxState) => s.platform.rtmonitor = true ∧
    (r ∈ s.platform.tunnelRoutes ↔ Left qt seen (r ∈ d.platform.tunnelRoutes) r)) ?_ ⟨hmonitor, Iff.rfl⟩
  rintro seen p s hp ⟨hs, hleft⟩
  have heq := deleteRoutePrefix_eq qt hs (hreadable p hp)
  change (deleteRoutePrefix qt p s.platform).2.rtmonitor = true ∧
    (r ∈ (deleteRoutePrefix qt p s.platform).2.tunnelRoutes ↔ _)
  rw [heq]
  refine ⟨hs, ?_⟩
  unfold Left at hleft ⊢
  rw [lastFor_append qt]
  by_cases hlength : 0 < p.prefixLength <;> by_cases hr : r ∈ routesOf qt p <;> simp [hlength, hr, hleft]

/-- The routes that a switch leaves: first those of both configurations, of which the dropped prefixes are taken. -/
def Switched (qt : AddressReader) (config last : InterfaceConfig) (b : Bool × Finset IPAddress) : Prop :=
  ∀ r, r ∈ b.2 ↔ Left qt (config.droppedPrefixes last)
    (r ∈ (last.allowedIPAddressRanges ++ config.allowedIPAddressRanges).flatMap (routesOf qt)) r

theorem keeps_routing_dropPeer (config last : InterfaceConfig) :
    (dropPeer (platform qt answers) config last).Keeps daemonRouting := by
  unfold dropPeer
  split
  · exact keeps_onPlatform (forServer_keeps keeps_routing_deleteExclusionRoute qt last)
  · exact keeps_done _

section
variable (hreadable : ∀ p ∈ config.allowedIPAddressRanges, p.address ≠ .null)
include hreadable

theorem replaceRoutes_switched (h : Routed qt last.allowedIPAddressRanges (daemonRouting d)) :
    Switched qt config last (daemonRouting (replaceRoutes (platform qt answers) qt config last d)) := by
  have hupdated : Routed qt (last.allowedIPAddressRanges ++ config.allowedIPAddressRanges)
      (daemonRouting (updateRoutes (platform qt answers) config d).2) := by
    have hspec := updateRoutes_routed qt answers last.allowedIPAddressRanges config d h
    split at hspec
    · exact hspec
    · obtain ⟨p, hp, hnull⟩ := hspec
      exact absurd hnull (hreadable p hp)
  have hreleased : daemonRouting (each (delExclusionRoute (platform qt answers)) (last.releasedPrefixes qt)
      (updateRoutes (platform qt answers) config d).2) =
      daemonRouting (updateRoutes (platform qt answers) config d).2 :=
    each_keeps (keeps_delExclusionRoute fun p => keeps_monitored (keeps_routing_deleteExclusionRoute p)) _ _
  rw [← hreleased] at hupdated
  have hdropped : ∀ p ∈ config.droppedPrefixes last, p.address ≠ .null := fun p hp =>
    h.readable p (List.mem_of_mem_filter hp)
  intro r
  have hleft := each_deleteRoutePrefix qt answers hdropped hupdated.monitor r
  have hroutes := hupdated.routes r
  change r ∈ (each (delExclusionRoute (platform qt answers)) (last.releasedPrefixes qt)
    (updateRoutes (platform qt answers) config d).2).platform.tunnelRoutes ↔ _ at hroutes
  rw [hroutes] at hleft
  exact hleft

theorem switchServer_switched :
    SpecOn daemonRouting (Routed qt last.allowedIPAddressRanges) (switchServer (platform qt answers) qt config last)
      (Switched qt config last) (fun _ => True) := by
  have hdrop := spec_of_keeps_routing (keeps_routing_dropPeer qt answers config last) (Switched qt config last)
  refine (spec_of_keeps_routing (keeps_routing_excludeAll qt answers config) _).andThen
    ((spec_of_keeps_routing (keeps_routing_updatePeer qt answers config) _).andThen
      (SpecOn.andThen ?_ (hdrop.andThen (spec_perform fun _ h => h))))
  exact spec_perform fun _ h => replaceRoutes_switched qt answers hreadable h

theorem activateSwitched_switched :
    SpecOn daemonRouting (Routed qt last.allowedIPAddressRanges)
      (activateSwitched (platform qt answers) qt config last) (Switched qt config last) (fun _ => True) := by
  have hrestore : (onPlatform (platform qt answers).restoreResolvers).Keeps daemonRouting :=
    fun _ => rfl
  have hrun : (onPlatform ((platform qt answers).run .switch config)).Keeps daemonRouting :=
    fun _ => rfl
  exact (switchServer_switched qt answers hreadable).andThen ((spec_of_keeps_routing hrestore _).andThen
    ((spec_of_keeps_routing (keeps_routing_maybeUpdateResolvers qt answers config) _).andThen
      ((spec_of_keeps_routing hrun _).andThen (spec_perform fun _ h => h))))

end

/-- The daemon is off: no connection, no tunnel and no route through it. -/
structure Off (d : Daemon LinuxState) : Prop where
  connections : d.connections = .empty
  tunnelRunning : d.platform.tunnelRunning = false
  tunnelRoutes : d.platform.tunnelRoutes = ∅

theorem activate_routed {d' : Daemon LinuxState} (hoff : Off d)
    (hactivate : activate (platform qt answers) qt config d = (true, d')) :
    Routed qt config.allowedIPAddressRanges (daemonRouting d') ∧ d'.connections.value config.hopType = some config := by
  have hnew : activateNew (platform qt answers) qt config d = (true, d') := by
    have hvalue : d.connections.value config.hopType = none := by rw [hoff.connections]; rfl
    rw [← hactivate, activate, hvalue]
  have hend := (activateNew_routed qt answers config).of_success ⟨hoff.tunnelRunning, hoff.tunnelRoutes⟩
    (congrArg Prod.fst hnew)
  rwa [hnew] at hend

/-- For every route that a dropped prefix stands for, the last of them has a length exactly if the new configuration
still has the route. -/
def DropsOnlyItsOwn (qt : AddressReader) (old new : InterfaceConfig) : Prop :=
  ∀ r p, lastFor qt (new.droppedPrefixes old) r = some p →
    (0 < p.prefixLength ↔ r ∈ new.allowedIPAddressRanges.flatMap (routesOf qt))

/-- **The routes after a switch.** They are those of the new configuration alone exactly if each route of a dropped
prefix is treated as the new configuration needs it. -/
theorem switch_routes_eq_iff (qt : AddressReader) (d d₁ d₂ d₃ : Daemon LinuxState) (hoff : Off d)
    (old new : InterfaceConfig) (answers₁ answers₂ answers₃ : LinuxAnswers)
    (hold : activate (platform qt answers₁) qt old d = (true, d₁)) (hhop : new.hopType = old.hopType)
    (hsupport : supportServerSwitching old new = true)
    (hswitch : activate (platform qt answers₂) qt new d₁ = (true, d₂))
    (halone : activate (platform qt answers₃) qt new d = (true, d₃)) :
    d₂.platform.tunnelRoutes = d₃.platform.tunnelRoutes ↔ DropsOnlyItsOwn qt old new := by
  obtain ⟨hrouted, hvalue⟩ := activate_routed qt answers₁ hoff hold
  obtain ⟨hnew, -⟩ := activate_routed qt answers₃ hoff halone
  have hpath : activateSwitched (platform qt answers₂) qt new old d₁ = (true, d₂) := by
    rw [← hswitch, activate, hhop, hvalue]
    exact (if_pos hsupport).symm
  have hswitched := (activateSwitched_switched qt answers₂ hnew.readable).of_success hrouted
    (congrArg Prod.fst hpath)
  rw [hpath] at hswitched
  rw [Finset.ext_iff]
  have halone : ∀ r, r ∈ d₃.platform.tunnelRoutes ↔ r ∈ new.allowedIPAddressRanges.flatMap (routesOf qt) :=
    hnew.routes
  have hboth : ∀ r, r ∈ d₂.platform.tunnelRoutes ↔ Left qt (new.droppedPrefixes old)
      (r ∈ (old.allowedIPAddressRanges ++ new.allowedIPAddressRanges).flatMap (routesOf qt)) r := hswitched
  constructor
  · intro heq r p hlast
    rw [← halone r, ← heq r, hboth r, Left, hlast]
  · intro hdrops r
    rw [hboth r, halone r, Left]
    cases hlast : lastFor qt (new.droppedPrefixes old) r with
    | some p =>
      exact hdrops r p hlast
    | none =>
      -- A route of the old configuration that no dropped prefix stands for comes from a prefix of both.
      rw [List.flatMap_append, List.mem_append]
      refine ⟨?_, Or.inr⟩
      rintro (hr | hr)
      · obtain ⟨p, hp, hpr⟩ := List.mem_flatMap.mp hr
        have hkept : p ∈ new.allowedIPAddressRanges := by
          by_contra hnot
          refine lastFor_eq_none qt hlast p ?_ hpr
          exact List.mem_filter.mpr ⟨hp, by simpa using hnot⟩
        exact List.mem_flatMap.mpr ⟨p, hkept, hpr⟩
      · exact hr

def sampleRouted (allowed : List IPAddress) : InterfaceConfig :=
  { sampleConfig [] with allowedIPAddressRanges := allowed }

/-- A switch from 10.0.0.0/8 to 192.168.0.0/16 leaves the first network in the tunnel, and one from the default
prefix to its lower half leaves no route. -/
theorem dropped_network_stays_routed :
    (∃ d₁ d₂ d₃,
      activate (platform sampleReader .success) sampleReader (sampleRouted [⟨.ipv4 0x0A000000, 8⟩]) start =
        (true, d₁) ∧
      activate (platform sampleReader .success) sampleReader (sampleRouted [⟨.ipv4 0xC0A80000, 16⟩]) d₁ =
        (true, d₂) ∧
      activate (platform sampleReader .success) sampleReader (sampleRouted [⟨.ipv4 0xC0A80000, 16⟩]) start =
        (true, d₃) ∧
      ⟨.ipv4 0x0A000000, 8⟩ ∈ d₂.platform.tunnelRoutes ∧ ⟨.ipv4 0x0A000000, 8⟩ ∉ d₃.platform.tunnelRoutes) ∧
    (∃ d₁ d₂ d₃,
      activate (platform sampleReader .success) sampleReader (sampleRouted [⟨.ipv4 0, 0⟩]) start = (true, d₁) ∧
      activate (platform sampleReader .success) sampleReader (sampleRouted [⟨.ipv4 0, 1⟩]) d₁ = (true, d₂) ∧
      activate (platform sampleReader .success) sampleReader (sampleRouted [⟨.ipv4 0, 1⟩]) start = (true, d₃) ∧
      d₂.platform.tunnelRoutes = ∅ ∧ d₃.platform.tunnelRoutes = [⟨.ipv4 0, 1⟩].toFinset) := by
  refine ⟨⟨_, _, _, rfl, rfl, rfl, ?_, ?_⟩, ⟨_, _, _, rfl, rfl, rfl, ?_, ?_⟩⟩ <;> decide

/-- A switch away from the default prefix leaves the routes of the new configuration. -/
theorem dropped_default_is_removed : ∃ d₁ d₂ d₃,
    activate (platform sampleReader .success) sampleReader (sampleRouted [⟨.ipv4 0, 0⟩]) start = (true, d₁) ∧
    activate (platform sampleReader .success) sampleReader (sampleRouted [⟨.ipv4 0x0A000000, 8⟩]) d₁ =
      (true, d₂) ∧
    activate (platform sampleReader .success) sampleReader (sampleRouted [⟨.ipv4 0x0A000000, 8⟩]) start =
      (true, d₃) ∧
    d₂.platform.tunnelRoutes = d₃.platform.tunnelRoutes := by
  refine ⟨_, _, _, rfl, rfl, rfl, ?_⟩
  refine (switch_routes_eq_iff sampleReader start _ _ _ ⟨rfl, rfl, rfl⟩ (sampleRouted [⟨.ipv4 0, 0⟩])
    (sampleRouted [⟨.ipv4 0x0A000000, 8⟩]) .success .success .success rfl rfl (by decide) rfl rfl).mpr ?_
  intro r p hlast
  have hp : p = ⟨.ipv4 0, 0⟩ := by
    have hmem := List.mem_of_find?_eq_some hlast
    simpa [InterfaceConfig.droppedPrefixes, sampleRouted] using hmem
  subst hp
  have hhalves : routesOf sampleReader ⟨.ipv4 0, 0⟩ = [⟨.ipv4 0, 1⟩, ⟨.ipv4 (1 <<< 31), 1⟩] := by decide
  have hr : r = ⟨.ipv4 0, 1⟩ ∨ r = ⟨.ipv4 (1 <<< 31), 1⟩ := by
    have hroute := List.find?_some hlast
    rw [hhalves] at hroute
    simpa using hroute
  rcases hr with rfl | rfl <;> decide

end LinuxDaemon

end FreshVpn
