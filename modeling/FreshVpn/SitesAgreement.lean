import FreshVpn.LibraryFirstMatch
import FreshVpn.SitesController

/-! The list of sites that is shown and the sites that are used. -/

namespace FreshVpn

open SortedMap FirstMatch SecureAppSettingsRepository Function

/-! ### The repository -/

theorem value_addVpnSite (site ip host : String) (sites : SortedMap String String) :
    (addVpnSite site ip sites).value host =
      if host = site then (if (sites.value site).isSome ∧ ip = "" then sites.value site else some ip)
      else sites.value host := by
  unfold addVpnSite
  by_cases hkept : (sites.value site).isSome ∧ ip = ""
  · split_ifs with hhost
    · rw [hhost]
    · rfl
  · rw [if_neg hkept, if_neg hkept, value_insert]

theorem value_addVpnSites (new sites : SortedMap String String) (host : String) :
    (addVpnSites new sites).value host = (new.value host).elim (sites.value host) some := by
  refine read_foldl value (fun ip _ => some ip) (fun allSites entry key => ?_) new.nodup_keys sites host
  by_cases hsame : allSites.value entry.1 = some entry.2
  · split_ifs with hkey
    · rw [hkey, hsame]
    · rfl
  · rw [if_neg hsame, value_insert]

namespace IpSplitTunnelingController

variable {hostname : String} {sites : List Site} {c' : IpSplitTunnelingController}

/-! ### The list -/

theorem lookup_eq_none_iff_not_mem (sites : List Site) (host : String) :
    sites.lookup host = none ↔ host ∉ sites.map Prod.fst := by
  induction sites with
  | nil => exact iff_of_true rfl List.not_mem_nil
  | cons site rest ih =>
    rw [lookup_cons_eq, List.map_cons, List.mem_cons, not_or, ← ih]
    split_ifs with hsite
    · exact iff_of_false (by simp) fun h => h.1 hsite
    · exact (and_iff_right hsite).symm

theorem lookup_concat (sites : List Site) (site : Site) (host : String) (hnew : site.1 ∉ sites.map Prod.fst) :
    (sites ++ [site]).lookup host = if host = site.1 then some site.2 else sites.lookup host := by
  induction sites with
  | nil => rw [List.nil_append, lookup_cons_eq]
  | cons first rest ih =>
    rw [List.map_cons, List.mem_cons, not_or] at hnew
    rw [List.cons_append, lookup_cons_eq, lookup_cons_eq, ih hnew.2]
    by_cases hfirst : host = first.1
    · rw [if_pos hfirst, if_pos hfirst, if_neg fun h => hnew.1 (h.symm.trans hfirst)]
    · rw [if_neg hfirst, if_neg hfirst]

theorem nodup_concat {site : Site} (hnodup : (sites.map Prod.fst).Nodup) (hnew : site.1 ∉ sites.map Prod.fst) :
    ((sites ++ [site]).map Prod.fst).Nodup := by
  rw [List.map_append, List.map_singleton, ← List.concat_eq_append]
  exact hnodup.concat hnew

theorem searchSite_eq_absent (ip : String) (h : hostname ∉ sites.map Prod.fst) :
    searchSite hostname ip sites = .absent := by
  induction sites with
  | nil => rfl
  | cons site rest ih =>
    rw [List.map_cons, List.mem_cons, not_or] at h
    have hne : ¬ site.1 = hostname := fun heq => h.1 heq.symm
    unfold searchSite
    rw [if_neg fun hand => hne hand.1, if_neg fun hand => hne hand.1, ih h.2]

theorem lookup_mergeSite (sites : List Site) (new : Site) (host : String) :
    (mergeSite sites new).lookup host =
      if host = new.1 then some (if new.2 ≠ "" then new.2 else (sites.lookup host).getD "")
      else sites.lookup host := by
  induction sites with
  | nil =>
    rw [mergeSite, lookup_cons_eq]
    split_ifs with hhost hip
    · rfl
    · rw [not_not.mp hip]
      rfl
    · rfl
  | cons site rest ih =>
    unfold mergeSite
    by_cases hsite : site.1 = new.1
    · rw [if_pos hsite, lookup_cons_eq, lookup_cons_eq, ← hsite]
      by_cases hip : new.2 ≠ ""
      · split_ifs <;> rfl
      · split_ifs <;> rfl
    · rw [if_neg hsite, lookup_cons_eq, lookup_cons_eq, ih]
      by_cases hhost : host = site.1
      · rw [if_pos hhost, if_pos hhost, if_neg fun h => hsite (hhost.symm.trans h)]
      · rw [if_neg hhost, if_neg hhost]

theorem keys_mergeSite_of_mem {new : Site} (h : new.1 ∈ sites.map Prod.fst) :
    (mergeSite sites new).map Prod.fst = sites.map Prod.fst := by
  induction sites with
  | nil => exact absurd h List.not_mem_nil
  | cons site rest ih =>
    unfold mergeSite
    by_cases hsite : site.1 = new.1
    · split_ifs <;> rfl
    · rw [if_neg hsite, List.map_cons, ih ((List.mem_cons.mp h).resolve_left fun heq => hsite heq.symm), List.map_cons]

theorem mergeSite_of_not_mem {new : Site} (h : new.1 ∉ sites.map Prod.fst) : mergeSite sites new = sites ++ [new] := by
  induction sites with
  | nil => rfl
  | cons site rest ih =>
    rw [List.map_cons, List.mem_cons, not_or] at h
    rw [mergeSite, if_neg fun heq => h.1 heq.symm, ih h.2, List.cons_append]

theorem nodup_mergeSite (hnodup : (sites.map Prod.fst).Nodup) (new : Site) :
    ((mergeSite sites new).map Prod.fst).Nodup := by
  by_cases hmem : new.1 ∈ sites.map Prod.fst
  · rw [keys_mergeSite_of_mem hmem]
    exact hnodup
  · rw [mergeSite_of_not_mem hmem]
    exact nodup_concat hnodup hmem

theorem nodup_mergeSites (hnodup : (sites.map Prod.fst).Nodup) (new : List Site) :
    ((new.foldl mergeSite sites).map Prod.fst).Nodup := by
  induction new generalizing sites with
  | nil => exact hnodup
  | cons site rest ih => exact ih (nodup_mergeSite hnodup site)

theorem lookup_mergeSites (new : SortedMap String String) (sites : List Site) (host : String) :
    (new.entries.foldl mergeSite sites).lookup host =
      (new.value host).elim (sites.lookup host) fun ip => some (if ip ≠ "" then ip else (sites.lookup host).getD "") :=
  read_foldl (fun sites host => List.lookup host sites) (fun ip old => some (if ip ≠ "" then ip else old.getD ""))
    (fun sites new => lookup_mergeSite sites new) new.nodup_keys sites host

theorem eraseIdx_eq_filter {i : ℕ} (hnodup : (sites.map Prod.fst).Nodup)
    (hi : (sites.findIdx? fun site => site.1 = hostname) = some i) :
    sites.eraseIdx i = sites.filter fun site => site.1 ≠ hostname := by
  obtain ⟨before, found, after, rfl, rfl, hfound, hbefore⟩ := split_of_findIdx? hi
  have hfound' : found.1 = hostname := of_decide_eq_true hfound
  have hafter : ∀ site ∈ after, site.1 ≠ hostname := by
    intro site hmem heq
    rw [List.map_append, List.map_cons] at hnodup
    have hnotMem := (List.nodup_cons.mp (List.nodup_append.mp hnodup).2.1).1
    exact hnotMem (hfound'.trans heq.symm ▸ List.mem_map_of_mem hmem)
  have hbefore' : (before.filter fun site => site.1 ≠ hostname) = before :=
    List.filter_eq_self.mpr fun site hmem => decide_eq_true (of_decide_eq_false (hbefore site hmem))
  have hafter' : (after.filter fun site => site.1 ≠ hostname) = after :=
    List.filter_eq_self.mpr fun site hmem => decide_eq_true (hafter site hmem)
  rw [eraseIdx_append_cons, List.filter_append, List.filter_cons_of_neg (by simp [hfound']), hbefore', hafter']

theorem fillAddress_eq_some {sites' : List Site} {ip : String} (hnodup : (sites.map Prod.fst).Nodup)
    (h : fillAddress hostname ip sites = some sites') :
    sites.lookup hostname = some "" ∧ sites'.map Prod.fst = sites.map Prod.fst ∧
      ∀ host, sites'.lookup host = if host = hostname then some ip else sites.lookup host := by
  induction sites generalizing sites' with
  | nil => cases h
  | cons site rest ih =>
    obtain ⟨hnotMem, hrest⟩ := List.nodup_cons.mp hnodup
    unfold fillAddress at h
    by_cases hsite : site.1 = hostname ∧ site.2 = ""
    · rw [if_pos hsite] at h
      cases h
      refine ⟨by rw [lookup_cons_eq, if_pos hsite.1.symm, hsite.2], rfl, fun host => ?_⟩
      rw [lookup_cons_eq, lookup_cons_eq, hsite.1]
      split_ifs <;> rfl
    · rw [if_neg hsite] at h
      obtain ⟨rest', hrest', rfl⟩ := Option.map_eq_some_iff.mp h
      obtain ⟨hlookup, hkeys, hvalues⟩ := ih hrest hrest'
      have hne : hostname ≠ site.1 := by
        rintro rfl
        rw [(lookup_eq_none_iff_not_mem rest site.1).mpr hnotMem] at hlookup
        cases hlookup
      refine ⟨by rw [lookup_cons_eq, if_neg hne, hlookup], by rw [List.map_cons, hkeys, List.map_cons], fun host => ?_⟩
      rw [lookup_cons_eq, lookup_cons_eq, hvalues]
      by_cases hhost : host = site.1
      · rw [if_pos hhost, if_pos hhost, if_neg fun heq => hne (heq.symm.trans hhost)]
      · rw [if_neg hhost, if_neg hhost]

/-! ### One operation -/

/-- No host is in the list twice, and the list gives each host the address that is stored for it in the mode that is
set. -/
def Agrees (c : IpSplitTunnelingController) : Prop :=
  (c.sites.map Prod.fst).Nodup ∧ ∀ host, c.sites.lookup host = (c.vpnSites c.routeMode).value host

/-- The controller and the repository are in the same mode, and the list agrees with what is stored for it. -/
structure Shown (c : IpSplitTunnelingController) : Prop where
  mode : c.routeMode = c.currentRouteMode
  nodup : (c.sites.map Prod.fst).Nodup
  value : ∀ host, c.sites.lookup host = (c.vpnSites c.currentRouteMode).value host

variable {c : IpSplitTunnelingController} {replaceExisting : Bool}

theorem Shown.agrees (h : Shown c) : Agrees c :=
  ⟨h.nodup, fun host => by rw [h.mode, h.value]⟩

theorem shown_store (hmode : c.routeMode = c.currentRouteMode) (sites : List Site)
    {f : SortedMap String String → SortedMap String String} (hnodup : (sites.map Prod.fst).Nodup)
    (hvalue : ∀ host, sites.lookup host = (f (c.vpnSites c.currentRouteMode)).value host) :
    Shown ({ c with sites := sites }.store f) := by
  refine ⟨hmode, hnodup, fun host => ?_⟩
  change sites.lookup host = (update c.vpnSites c.currentRouteMode _ c.currentRouteMode).value host
  rw [update_self]
  exact hvalue host

variable {c : IpSplitTunnelingController}

theorem addSiteInternal_shown (h : Shown c) (hostname : String) : Shown (c.addSiteInternal hostname "").1 := by
  unfold addSiteInternal
  by_cases hstored : ((c.vpnSites c.currentRouteMode).value hostname).isSome ∧ "" = ""
  · rw [if_pos hstored]
    exact h
  · have hnone : (c.vpnSites c.currentRouteMode).value hostname = none :=
      Option.not_isSome_iff_eq_none.mp fun hsome => hstored ⟨hsome, rfl⟩
    have hnew : hostname ∉ c.sites.map Prod.fst := by
      rw [← lookup_eq_none_iff_not_mem, h.value, hnone]
    rw [if_neg hstored, searchSite_eq_absent "" hnew]
    refine shown_store h.mode _ (nodup_concat h.nodup hnew) fun host => ?_
    rw [lookup_concat c.sites (hostname, "") host hnew, value_addVpnSite, if_neg hstored, h.value]

theorem addSite_shown (h : Shown c) {added : Bool} (hadd : c.addSite hostname = some (c', added)) : Shown c' := by
  obtain ⟨normalizedHostname, -, hadd⟩ := Option.bind_eq_some_iff.mp hadd
  have hinternal := addSiteInternal_shown h normalizedHostname
  obtain ⟨c'', added'⟩ := c.addSiteInternal normalizedHostname ""
  dsimp only at hadd hinternal
  split_ifs at hadd
  · cases hadd
    exact h
  · cases hadd
    exact hinternal
  · cases hadd
    exact ⟨hinternal.mode, hinternal.nodup, hinternal.value⟩
  · cases hadd
    exact hinternal

/-- What is added takes back no address: no host that is stored with an address is added without one. -/
def TakesBackNoAddress (new sites : SortedMap String String) : Prop :=
  ∀ host, new.value host = some "" → ∀ ip, sites.value host = some ip → ip = ""

theorem addSites_shown (h : Shown c) {new : SortedMap String String}
    (hnew : replaceExisting = true ∨ TakesBackNoAddress new (c.vpnSites c.currentRouteMode)) :
    Shown (c.addSites new replaceExisting) := by
  cases replaceExisting with
  | true =>
    have hempty : (([] : List Site).map Prod.fst).Nodup := List.nodup_nil
    refine shown_store (c := c.store fun _ => .empty) h.mode _ (nodup_mergeSites hempty new.entries) fun host => ?_
    change _ = (addVpnSites new (update c.vpnSites c.currentRouteMode .empty c.currentRouteMode)).value host
    rw [update_self, lookup_mergeSites, value_addVpnSites]
    cases new.value host with
    | none => rfl
    | some ip =>
      change some (if ip ≠ "" then ip else "") = some ip
      split_ifs with hip
      · rfl
      · rw [not_not.mp hip]
  | false =>
    have hnew := hnew.resolve_left Bool.false_ne_true
    refine shown_store h.mode (new.entries.foldl mergeSite c.sites) (nodup_mergeSites h.nodup new.entries)
      fun host => ?_
    rw [lookup_mergeSites, value_addVpnSites, h.value]
    cases hhost : new.value host with
    | none => rfl
    | some ip =>
      change some (if ip ≠ "" then ip else ((c.vpnSites c.currentRouteMode).value host).getD "") = some ip
      split_ifs with hip
      · rfl
      · -- An empty address is only kept in the list, so it must not meet another one there.
        rw [not_not.mp hip] at hhost ⊢
        cases hold : (c.vpnSites c.currentRouteMode).value host with
        | none => rfl
        | some ip' => rw [hnew host hhost ip' hold, Option.getD_some]

theorem removeSite_shown (h : Shown c) (hostname : String) : Shown (c.removeSite hostname).1 := by
  unfold removeSite
  split
  next i hi =>
    refine shown_store (f := fun sites => sites.remove hostname) h.mode _ ?_ fun host => ?_
    · exact h.nodup.sublist ((List.eraseIdx_sublist _ _).map _)
    · rw [eraseIdx_eq_filter h.nodup hi, lookup_filter_ne, value_remove, h.value]
  next => exact h

theorem removeSites_shown (h : Shown c) : Shown c.removeSites :=
  shown_store h.mode [] List.nodup_nil fun _ => rfl

theorem setRouteMode_shown (c : IpSplitTunnelingController) (routeMode : RouteMode) :
    Shown (c.setRouteMode routeMode) :=
  ⟨rfl, nodup_keys _, fun _ => rfl⟩

theorem processSiteAfterResolve_shown (h : Shown c) (hostname ip : String) :
    Shown (c.processSiteAfterResolve hostname ip) := by
  unfold processSiteAfterResolve
  split
  next sites hsites =>
    obtain ⟨hlookup, hkeys, hvalues⟩ := fillAddress_eq_some h.nodup hsites
    rw [h.value] at hlookup
    refine shown_store h.mode sites (by rw [hkeys]; exact h.nodup) fun host => ?_
    rw [hvalues, value_addVpnSite, hlookup, h.value]
    split_ifs with hhost hkept
    · rw [hkept.2]
    · rfl
    · rfl
  next => exact h

theorem onHostResolved_shown (h : Shown c) (hostname : String) (addresses : List HostAddress) :
    Shown (c.onHostResolved hostname addresses) := by
  induction addresses with
  | nil => exact h
  | cons address rest ih =>
    cases address with
    | ipv4 text => exact processSiteAfterResolve_shown h hostname text
    | other => exact ih

/-! ### Sequences of operations -/

/-- Sites that are added to those that are there take back no address. -/
def Guarded (c : IpSplitTunnelingController) : Event → Prop
  | .addSites sites replaceExisting => replaceExisting = true ∨ TakesBackNoAddress sites (c.vpnSites c.routeMode)
  | .importSites (.ok (.array elements)) replaceExisting =>
    replaceExisting = true ∨ ∀ sites, sitesOfJson elements = some sites →
      TakesBackNoAddress sites (c.vpnSites c.routeMode)
  | _ => True

theorem importSitesFromJson_shown (h : Shown c) {document : Except String Json} {result : Except String Unit}
    (hok : c.Guarded (.importSites document replaceExisting))
    (himport : c.importSitesFromJson document replaceExisting = some (c', result)) : Shown c' := by
  unfold importSitesFromJson at himport
  split at himport
  next => cases himport; exact h
  next elements =>
    obtain ⟨sites, hsites, himport⟩ := Option.bind_eq_some_iff.mp himport
    cases himport
    refine addSites_shown h (hok.imp_right fun hall => ?_)
    rw [← h.mode]
    exact hall sites hsites
  next => cases himport; exact h

theorem step_shown {event : Event} (h : Shown c) (hok : c.Guarded event) (hstep : c.step event = some c') :
    Shown c' := by
  cases event with
  | addSite hostname =>
    obtain ⟨⟨c'', added⟩, hadd, rfl⟩ := Option.map_eq_some_iff.mp hstep
    exact addSite_shown h hadd
  | addSites sites replaceExisting =>
    cases hstep
    refine addSites_shown h ?_
    rw [← h.mode]
    exact hok
  | importSites document replaceExisting =>
    obtain ⟨⟨c'', result⟩, himport, rfl⟩ := Option.map_eq_some_iff.mp hstep
    exact importSitesFromJson_shown h hok himport
  | removeSite hostname =>
    cases hstep
    exact removeSite_shown h hostname
  | removeSites =>
    cases hstep
    exact removeSites_shown h
  | setRouteMode routeMode =>
    cases hstep
    exact setRouteMode_shown c routeMode
  | hostResolved hostname addresses =>
    have hlookup : hostname ∈ c.lookups := by
      by_contra hnot
      rw [step, if_neg hnot] at hstep
      cases hstep
    rw [step, if_pos hlookup] at hstep
    cases hstep
    have hsame : Shown { c with lookups := c.lookups.erase hostname } := ⟨h.mode, h.nodup, h.value⟩
    exact onHostResolved_shown hsame hostname addresses

theorem run_shown {events : List Event} (h : Shown c)
    (hguarded : Run.Meets step Guarded c events) (hrun : Run.run step c events = some c') : Shown c' :=
  Run.run_invariant_of_meets (fun _ _ _ h hok hstep => step_shown h hok hstep) h hguarded hrun

/-- **The sites that are shown are the sites that are used.** After every sequence of operations and of answers of the
resolver from the start of the controller on, no host is in the list twice and the list gives each host the address
that is stored for it, provided that no sites are added to those that are there which take back an address. -/
theorem sites_shown_are_used (routeMode : RouteMode) (vpnSites : RouteMode → SortedMap String String)
    (lookups : List String) (events : List Event) (c : IpSplitTunnelingController)
    (hguarded : Run.Meets step Guarded (started routeMode vpnSites lookups) events)
    (hrun : Run.run step (started routeMode vpnSites lookups) events = some c) : Agrees c :=
  (run_shown ⟨rfl, nodup_keys _, fun _ => rfl⟩ hguarded hrun).agrees

/-- A site is added and resolved after the mode has been changed to another one and back. -/
theorem sites_shown_are_used_after_lookup :
    ∃ c, Run.run step (started .vpnAllExceptSites (fun _ => .empty) [])
        [.addSite "https://example.com/index", .setRouteMode .vpnOnlyForwardSites,
          .setRouteMode .vpnAllExceptSites, .hostResolved "example.com" [.other, .ipv4 "203.0.113.7"],
          .addSites (SortedMap.empty.insert "example.com" "203.0.113.8") false] = some c ∧
      c.sites = [("example.com", "203.0.113.8")] ∧ Agrees c := by
  have hsome : (Run.run step (started .vpnAllExceptSites (fun _ => .empty) [])
        [.addSite "https://example.com/index", .setRouteMode .vpnOnlyForwardSites,
          .setRouteMode .vpnAllExceptSites, .hostResolved "example.com" [.other, .ipv4 "203.0.113.7"],
          .addSites (SortedMap.empty.insert "example.com" "203.0.113.8") false]).map sites =
      some [("example.com", "203.0.113.8")] := by decide +kernel
  obtain ⟨c, hrun, hsites⟩ := Option.map_eq_some_iff.mp hsome
  refine ⟨c, hrun, hsites, sites_shown_are_used _ _ _ _ c ?_ hrun⟩
  refine ⟨trivial, fun _ _ => ⟨trivial, fun _ _ => ⟨trivial, fun _ _ => ⟨trivial, fun _ _ =>
    ⟨Or.inr ?_, fun _ _ => trivial⟩⟩⟩⟩⟩
  intro host hvalue
  rw [value_insert] at hvalue
  split_ifs at hvalue
  · exact absurd hvalue (by decide)
  · cases hvalue

/-- A document that names a site without its address takes the address from the sites that are used, and not from the
list. -/
theorem address_taken_back_by_import :
    ∃ c, Run.run step (started .vpnAllExceptSites (fun _ => .empty) [])
        [.addSites (SortedMap.empty.insert "example.com" "203.0.113.7") false,
          .importSites (.ok (.array [.object [("hostname", .string "example.com")]])) false] = some c ∧
      c.sites.lookup "example.com" = some "203.0.113.7" ∧
      (c.vpnSites c.routeMode).value "example.com" = some "" ∧ ¬ Agrees c := by
  have hsome : (Run.run step (started .vpnAllExceptSites (fun _ => .empty) [])
        [.addSites (SortedMap.empty.insert "example.com" "203.0.113.7") false,
          .importSites (.ok (.array [.object [("hostname", .string "example.com")]])) false]).map
        (fun c => (c.sites.lookup "example.com", (c.vpnSites c.routeMode).value "example.com")) =
      some (some "203.0.113.7", some "") := by decide +kernel
  obtain ⟨c, hrun, hvalues⟩ := Option.map_eq_some_iff.mp hsome
  obtain ⟨hlist, hstored⟩ := Prod.mk.inj hvalues
  refine ⟨c, hrun, hlist, hstored, fun hagrees => ?_⟩
  have hsame := hagrees.2 "example.com"
  rw [hlist, hstored] at hsame
  exact absurd hsame (by decide)

end IpSplitTunnelingController

end FreshVpn
