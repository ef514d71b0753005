import FreshVpn.FirewallRanges

/-! The strict mode between two connections. Disconnecting in the strict mode switches every exception off. -/

namespace FreshVpn

open FilterTable Anchor KillSwitch

namespace LinuxFirewall

variable {s : Firewall}

open FilterTable

/-! ### The table for IPv6 -/

def Ready6 (s : Firewall) : Prop := s.ipv6.Installed [] anchors6

theorem ready6_install (s : Firewall) : Ready6 (install s) :=
  installed_install (by decide) (uninstall s).ipv6

variable (settings : List (IPVersion × Anchor × Bool))

theorem setAnchors_ipv4 (s : Firewall) :
    (setAnchors settings s).ipv4 = s.ipv4.setAll ((settings.filter fun e => e.1 ≠ .ipv6).map Prod.snd) := by
  induction settings generalizing s with
  | nil => rfl
  | cons e settings ih =>
    refine (ih _).trans ?_
    by_cases hip : e.1 = .ipv6
    · simp [setAnchorEnabled, hip]
    · simp [setAnchorEnabled, hip, setAll]

theorem setAnchors_ipv6 (s : Firewall) :
    (setAnchors settings s).ipv6 = s.ipv6.setAll ((settings.filter fun e => e.1 ≠ .ipv4).map Prod.snd) := by
  induction settings generalizing s with
  | nil => rfl
  | cons e settings ih =>
    refine (ih _).trans ?_
    by_cases hip : e.1 = .ipv4
    · simp [setAnchorEnabled, hip]
    · simp [setAnchorEnabled, hip, setAll]

theorem Ready.setAnchors (h : Ready s) (settings : List (IPVersion × Anchor × Bool)) :
    Ready (setAnchors settings s) := by
  rw [Ready, setAnchors_ipv4]
  exact Installed.setAll h _

theorem Ready6.setAnchors (h : Ready6 s) (settings : List (IPVersion × Anchor × Bool)) :
    Ready6 (setAnchors settings s) := by
  rw [Ready6, setAnchors_ipv6]
  exact Installed.setAll h _

theorem isInstalled_setAnchors (s : Firewall) : isInstalled (setAnchors settings s) = isInstalled s := by
  induction settings generalizing s with
  | nil => rfl
  | cons e settings ih => exact (ih _).trans (isInstalled_setAnchorEnabled e.1 e.2.1 e.2.2 s)

theorem Ready6.switchAnchors (h : Ready6 s) (names : HostNames) (params : FirewallParams) :
    Ready6 (switchAnchors names params (setAnchorEnabled .both .allowMarkedXray true) s) := by
  have hnets := h.setAnchors [(.both, .allowLoopback, true), (.both, .blockAll, params.blockAll),
    (.ipv4, .allowNets, params.allowNets)]
  have hmarked := hnets.setAnchors [(.ipv4, .blockNets, params.blockNets), (.both, .allowMarkedXray, true)]
  have hrest := hmarked.setAnchors [(.ipv4, .allowVPN, true), (.ipv6, .blockIPv6, true), (.both, .allowDHCP, true),
    (.both, .allowLAN, true), (.ipv4, .blockDNS, true)]
  exact hrest.setAnchors [(.ipv4, .allowDNS, true), (.both, .allowPIA, true)]

/-! ### What the closed firewall says -/

def connectionAnchors : List Anchor :=
  [.allowDNS, .blockDNS, .allowLAN, .allowDHCP, .allowVPN, .blockNets, .allowNets]

/-- The anchors through which an IPv6 packet could leave before all of them are rejected. -/
def connectionAnchors6 : List Anchor := [.allowLAN, .allowDHCP]

def Quiet (s : Firewall) : Prop :=
  (∀ a ∈ connectionAnchors, s.ipv4.placeholder a ≠ some true) ∧ ∀ a ∈ connectionAnchors6, s.ipv6.placeholder a ≠ some true

instance (s : Firewall) : Decidable (Quiet s) := inferInstanceAs (Decidable (_ ∧ _))

/-- Everything is rejected that does not leave by the loopback interface or for an open address. -/
structure Closed (opened : BitVec 32 → Prop) (s : Firewall) : Prop where
  ready : Ready s
  ready6 : Ready6 s
  off : ∀ a ∈ [Anchor.allowDNS, .blockDNS, .allowLAN, .allowDHCP, .allowVPN, .allowMarkedXray, .blockNets],
    s.ipv4.placeholder a ≠ some true
  nets : ∀ packet : Packet 32, ¬ opened packet.destination → s.ipv4.ruling packet .allowNets = none
  blockAll : s.ipv4.placeholder .blockAll = some true
  off6 : ∀ a ∈ connectionAnchors6, s.ipv6.placeholder a ≠ some true
  blockIPv6 : s.ipv6.placeholder .blockIPv6 = some true

theorem ruling_loopback {w : ℕ} {t : FilterTable w} (hchain : t.chain .allowLoopback = some loopbackRules)
    {packet : Packet w} (hlo : packet.leavesBy "lo" = false) : t.ruling packet .allowLoopback = none := by
  by_cases hon : t.placeholder .allowLoopback = some true
  · rw [ruling_of_enabled hon hchain]
    apply Filter.first_eq_none
    simp [loopbackRules, Rule.applies, hlo]
  · exact ruling_of_not_enabled hon packet

variable {opened : BitVec 32 → Prop}

theorem Closed.verdict_ipv4 (h : Closed opened s) {packet : Packet 32} (hlo : packet.leavesBy "lo" = false)
    (hclosed : ¬ opened packet.destination) : s.ipv4.verdict packet = .reject := by
  have hchain : s.ipv4.chain .allowLoopback = some loopbackRules :=
    h.ready.fixed (.allowLoopback, loopbackRules) (by simp [anchors4]) (by decide)
  have hbefore : ruledBefore s packet = none := by
    have hoff : ∀ a ∈ [allowDNS, .blockDNS, .allowLAN, .allowDHCP, .allowVPN, .allowMarkedXray, .blockNets],
        s.ipv4.ruling packet a = none := fun a ha => ruling_of_not_enabled (h.off a ha) packet
    rw [ruledBefore, List.findSome?_eq_none_iff]
    intro a ha
    rcases List.mem_cons.mp ha with rfl | ha
    · exact ruling_loopback hchain hlo
    · exact hoff a ha
  rw [verdict_of_ready h.ready, hbefore, h.nets packet hclosed, ruling_blockAll h.ready h.blockAll]
  rfl

theorem Closed.verdict_ipv6 (h : Closed opened s) {packet : Packet 128} (hlo : packet.leavesBy "lo" = false) :
    s.ipv6.verdict packet = .reject := by
  have hchain : ∀ e ∈ anchors6, s.ipv6.chain e.1 = some e.2 := fun e he => h.ready6.fixed e he (List.not_mem_nil)
  simp only [anchors6, List.forall_mem_cons] at hchain
  obtain ⟨hlink, hdns, -, -, hblock, -⟩ := hchain
  have hloopback := ruling_loopback hlink hlo
  have hoff : ∀ a ∈ connectionAnchors6, s.ipv6.ruling packet a = none :=
    fun a ha => ruling_of_not_enabled (h.off6 a ha) packet
  have hreject : s.ipv6.ruling packet .blockIPv6 = some .reject := by
    rw [ruling_of_enabled h.blockIPv6 hblock]
    simp [Filter.first, Rule.applies, hlo]
  rw [Installed.verdict_eq h.ready6]
  -- the anchor against resolvers is not switched for IPv6; it could only reject
  have hrejects : s.ipv6.ruling packet .blockDNS = none ∨ s.ipv6.ruling packet .blockDNS = some .reject := by
    by_cases hon : s.ipv6.placeholder .blockDNS = some true
    · rw [ruling_of_enabled hon hdns, Filter.first_of_forall_target (v := .reject) _ _ (by simp [blockDNSRules])]
      split_ifs
      · exact Or.inr rfl
      · exact Or.inl rfl
    · exact Or.inl (ruling_of_not_enabled hon packet)
  rcases hrejects with hnone | hsome
  · simp [anchors6, hloopback, hnone, hoff .allowLAN (by decide), hoff .allowDHCP (by decide), hreject]
  · simp [anchors6, hloopback, hsome]

end LinuxFirewall

/-! ### The service -/

/-- The calls of the service and the start of its process, on the firewall and with the setting that the process before
it left behind. -/
inductive ServiceCall where
  | start
  | refresh (enabled : Bool)
  | enableKillSwitch (config : JsonObject)
  | disableKillSwitch
  | addAllowedRange (ranges : List String)
  | resetAllowedRange (ranges : List String)

/-- The kill switch of the service and what is remembered of the calls. -/
structure Service where
  killSwitch : KillSwitch
  /-- The kill switch was disabled, or the service started, since it was last enabled. -/
  between : Bool
  /-- The host names at the calls for ranges since that point. -/
  names : List HostNames
  /-- The ranges that these calls were about. -/
  ranges : List String

namespace Service

variable {s : Firewall}

open LinuxFirewall

def start (s : KillSwitch) : Service := ⟨init { s with allowedRanges := [] }, true, [], []⟩

def step (s : Service) : HostNames × ServiceCall → Option Service
  | (_, .start) => some (start s.killSwitch)
  | (_, .refresh true) => some { s with killSwitch := s.killSwitch.refresh true }
  -- without the strict mode the kill switch is disabled
  | (_, .refresh false) => some ⟨s.killSwitch.refresh false, true, [], []⟩
  | (names, .enableKillSwitch config) => some ⟨s.killSwitch.enableKillSwitch names config, false, [], []⟩
  | (_, .disableKillSwitch) => some ⟨s.killSwitch.disableKillSwitch, true, [], []⟩
  | (names, .addAllowedRange ranges) =>
    some ⟨s.killSwitch.addAllowedRange names ranges, s.between, names :: s.names, ranges ++ s.ranges⟩
  | (names, .resetAllowedRange ranges) =>
    some ⟨s.killSwitch.resetAllowedRange names ranges, s.between, names :: s.names, ranges ++ s.ranges⟩

/-- The address is in a range that was allowed since the last connection. -/
def Opened (s : Service) (a : BitVec 32) : Prop := ∃ names ∈ s.names, covered names s.ranges a = true

/-- No packet leaves but by the loopback interface and to the ranges allowed since the last connection. -/
def Blocks (s : Service) : Prop :=
  (∀ packet : Packet 32, packet.leavesBy "lo" = false → ¬ s.Opened packet.destination →
    s.killSwitch.firewall.ipv4.verdict packet = .reject) ∧
  ∀ packet : Packet 128, packet.leavesBy "lo" = false → s.killSwitch.firewall.ipv6.verdict packet = .reject

/-- A call that begins to rely on the firewall it finds: the start in the strict mode, and the switch to the strict mode
between two connections. -/
def Relies (s : Service) : HostNames × ServiceCall → Prop
  | (_, .start) => s.killSwitch.strict = true
  | (_, .refresh true) => s.between = true ∧ s.killSwitch.strict = false
  | _ => False

/-- The firewall that the call relies on is not installed, or nothing of a connection is enabled in it. -/
def FindsQuiet (s : Service) (call : HostNames × ServiceCall) : Prop :=
  s.Relies call → isInstalled s.killSwitch.firewall = true → Quiet s.killSwitch.firewall

/-! ### What the calls keep -/

structure Invariant (s : Service) : Prop where
  sound : Sound s.killSwitch.firewall
  sound6 : isInstalled s.killSwitch.firewall = true → Ready6 s.killSwitch.firewall
  installed : s.killSwitch.strict = true → isInstalled s.killSwitch.firewall = true
  allowed : s.between = true → ∀ text ∈ s.killSwitch.allowedRanges, text ∈ s.ranges
  closed : s.killSwitch.strict = true → s.between = true → Closed s.Opened s.killSwitch.firewall

theorem ready_ensureInstalled (hsound : Sound s) (hsound6 : isInstalled s = true → Ready6 s) :
    Ready (ensureInstalled s) ∧ Ready6 (ensureInstalled s) := by
  refine ⟨hsound.ensureInstalled, ?_⟩
  unfold ensureInstalled
  split_ifs with hinstalled
  · exact hsound6 hinstalled
  · exact ready6_install s

theorem quiet_ensureInstalled (h : isInstalled s = true → Quiet s) : Quiet (ensureInstalled s) := by
  unfold ensureInstalled
  split_ifs with hinstalled
  · exact h hinstalled
  · constructor
    · intro a ha
      have hmem : a ∈ anchors4.map Prod.fst := (by decide : connectionAnchors ⊆ anchors4.map Prod.fst) ha
      change (install anchors4 (uninstall s).ipv4).placeholder a ≠ some true
      rw [install_placeholder (by decide) _ hmem]
      decide
    · intro a ha
      have hmem : a ∈ anchors6.map Prod.fst := (by decide : connectionAnchors6 ⊆ anchors6.map Prod.fst) ha
      change (install anchors6 (uninstall s).ipv6).placeholder a ≠ some true
      rw [install_placeholder (by decide) _ hmem]
      decide

/-- What `disableAllTraffic` switches. -/
def closing : List (IPVersion × Anchor × Bool) :=
  [(.both, .blockAll, true), (.both, .allowMarkedXray, false), (.both, .allowLoopback, true), (.ipv6, .blockIPv6, true)]

variable {opened : BitVec 32 → Prop} {ranges : List String} {k : KillSwitch}

/-- **Switching everything off closes a firewall in which no exception is enabled**, apart from the ranges. -/
theorem closed_closing (hready : Ready s) (hready6 : Ready6 s)
    (hoff : ∀ a ∈ [Anchor.allowDNS, .blockDNS, .allowLAN, .allowDHCP, .allowVPN, .blockNets],
      s.ipv4.placeholder a ≠ some true)
    (hnets : ∀ packet : Packet 32, ¬ opened packet.destination → s.ipv4.ruling packet .allowNets = none)
    (hoff6 : ∀ a ∈ connectionAnchors6, s.ipv6.placeholder a ≠ some true) : Closed opened (setAnchors closing s) := by
  have hkept : ∀ a ∈ [allowDNS, .blockDNS, .allowLAN, .allowDHCP, .allowVPN, .blockNets, .allowNets],
      (setAnchors closing s).ipv4.placeholder a = s.ipv4.placeholder a := by
    intro a ha
    have hmem : a ∈ anchors4.map Prod.fst := (by decide : [allowDNS, .blockDNS, .allowLAN, .allowDHCP,
      .allowVPN, .blockNets, .allowNets] ⊆ anchors4.map Prod.fst) ha
    rw [setAnchors_ipv4]
    apply Installed.setAll_of_not_set hready hmem
    revert a
    decide
  refine ⟨hready.setAnchors _, hready6.setAnchors _, ?_, ?_, ?_, ?_, ?_⟩
  · intro a ha
    by_cases hmarked : a = .allowMarkedXray
    · rw [hmarked, setAnchors_ipv4, Installed.setAll_of_set hready (by decide) (e := false) (by decide)]
      decide
    · have hmem : a ∈ [allowDNS, .blockDNS, .allowLAN, .allowDHCP, .allowVPN, .blockNets] := by
        revert a
        decide
      rw [hkept a (by revert a; decide)]
      exact hoff a hmem
  · intro packet hpacket
    have hchain : (setAnchors closing s).ipv4.chain .allowNets = s.ipv4.chain .allowNets := by
      rw [setAnchors_ipv4, setAll_chain]
    rw [ruling_congr (hkept .allowNets (by decide)) hchain]
    exact hnets packet hpacket
  · rw [setAnchors_ipv4]
    exact Installed.setAll_of_set hready (by decide) (by decide)
  · intro a ha
    have hmem : a ∈ anchors6.map Prod.fst := (by decide : connectionAnchors6 ⊆ anchors6.map Prod.fst) ha
    rw [setAnchors_ipv6, Installed.setAll_of_not_set hready6 hmem (by revert a; decide)]
    exact hoff6 a ha
  · rw [setAnchors_ipv6]
    exact Installed.setAll_of_set hready6 (by decide) (by decide)

theorem closed_of_quiet {s : KillSwitch} (hsound : Sound s.firewall)
    (hsound6 : isInstalled s.firewall = true → Ready6 s.firewall)
    (hquiet : isInstalled s.firewall = true → Quiet s.firewall) (opened : BitVec 32 → Prop) :
    Closed opened s.disableAllTraffic.firewall := by
  obtain ⟨hready, hready6⟩ := ready_ensureInstalled hsound hsound6
  obtain ⟨hoff, hoff6⟩ := quiet_ensureInstalled hquiet
  refine closed_closing hready hready6 (fun a ha => hoff a ?_) (fun packet _ => ?_) hoff6
  · revert a
    decide
  · exact ruling_of_not_enabled (hoff .allowNets (by decide)) packet

theorem closed_disableAllTraffic {s : KillSwitch} (h : Closed opened s.firewall) :
    Closed opened s.disableAllTraffic.firewall := by
  have hinstalled : ensureInstalled s.firewall = s.firewall := if_pos h.ready.linked
  change Closed opened (setAnchors closing (ensureInstalled s.firewall))
  rw [hinstalled]
  refine closed_closing h.ready h.ready6 (fun a ha => h.off a ?_) h.nets h.off6
  revert a
  decide

/-- **Disconnecting in the strict mode closes the firewall**, whatever was enabled. -/
theorem closed_disableKillSwitch {s : KillSwitch} (hstrict : s.strict = true) (hready : Ready s.firewall)
    (hready6 : Ready6 s.firewall) (opened : BitVec 32 → Prop) : Closed opened s.disableKillSwitch.firewall := by
  have hfirewall : s.disableKillSwitch.firewall =
      setAnchors [(.both, .allowLoopback, true), (.both, .blockAll, true), (.ipv4, .allowNets, false),
        (.ipv4, .blockNets, false), (.both, .allowMarkedXray, false), (.ipv4, .allowVPN, false),
        (.ipv6, .blockIPv6, true), (.both, .allowDHCP, false), (.both, .allowLAN, false), (.ipv4, .blockDNS, false),
        (.ipv4, .allowDNS, false), (.both, .allowPIA, false)] s.firewall := by
    rw [disableKillSwitch, hstrict]
    rfl
  have hoff : ∀ a ∈ [allowDNS, .blockDNS, .allowLAN, .allowDHCP, .allowVPN, .allowMarkedXray, .blockNets,
      .allowNets], s.disableKillSwitch.firewall.ipv4.placeholder a = some false := by
    intro a ha
    have hmem : a ∈ anchors4.map Prod.fst := (by decide : [allowDNS, .blockDNS, .allowLAN, .allowDHCP,
      .allowVPN, .allowMarkedXray, .blockNets, .allowNets] ⊆ anchors4.map Prod.fst) ha
    rw [hfirewall, setAnchors_ipv4]
    apply Installed.setAll_of_set hready hmem
    revert a
    decide
  refine ⟨hfirewall ▸ hready.setAnchors _, hfirewall ▸ hready6.setAnchors _, fun a ha => ?_, fun packet _ => ?_,
    ?_, fun a ha => ?_, ?_⟩
  · rw [hoff a (by revert a; decide)]
    decide
  · apply ruling_of_not_enabled
    rw [hoff .allowNets (by decide)]
    decide
  · rw [hfirewall, setAnchors_ipv4]
    exact Installed.setAll_of_set hready (by decide) (by decide)
  · have hmem : a ∈ anchors6.map Prod.fst := (by decide : connectionAnchors6 ⊆ anchors6.map Prod.fst) ha
    rw [hfirewall, setAnchors_ipv6, Installed.setAll_of_set hready6 hmem (e := false) (by revert a; decide)]
    decide
  · rw [hfirewall, setAnchors_ipv6]
    exact Installed.setAll_of_set hready6 (by decide) (by decide)

theorem closed_letThrough {opened' : BitVec 32 → Prop} (h : Closed opened s) (names : HostNames)
    (hopened : ∀ a, covered names ranges a = true → opened' a) : Closed opened' (letThrough names ranges s) := by
  refine ⟨ready_letThrough h.ready names ranges, h.ready6, fun a ha => ?_, fun packet hpacket => ?_, ?_, h.off6,
    h.blockIPv6⟩
  · rw [placeholder_letThrough_of_ne (by revert a; decide)]
    exact h.off a ha
  · rw [ruling_letThrough_self h.ready, if_neg]
    exact fun hcovered => hpacket (hopened _ hcovered)
  · rw [placeholder_letThrough_of_ne (by decide)]
    exact h.blockAll

/-! ### The steps -/

theorem isInstalled_disableAllTraffic {s : KillSwitch} (hsound : Sound s.firewall) :
    isInstalled s.disableAllTraffic.firewall = true :=
  (isInstalled_setAnchors closing (ensureInstalled s.firewall)).trans hsound.ensureInstalled.linked

theorem ready6_disableAllTraffic {s : KillSwitch} (hsound : Sound s.firewall)
    (hsound6 : isInstalled s.firewall = true → Ready6 s.firewall) : Ready6 s.disableAllTraffic.firewall :=
  (ready_ensureInstalled hsound hsound6).2.setAnchors closing

theorem invariant_disableAllTraffic {s : Service} (hk : s.killSwitch = k.disableAllTraffic)
    (hsound : Sound k.firewall) (hsound6 : isInstalled k.firewall = true → Ready6 k.firewall)
    (hclosed : s.killSwitch.strict = true → s.between = true → Closed s.Opened s.killSwitch.firewall) :
    s.Invariant where
  sound := hk ▸ sound_disableAllTraffic hsound
  sound6 _ := hk ▸ ready6_disableAllTraffic hsound hsound6
  installed _ := hk ▸ isInstalled_disableAllTraffic hsound
  allowed _ text htext := by
    rw [hk] at htext
    cases htext
  closed := hclosed

theorem invariant_start (hsound : Sound k.firewall) (hsound6 : isInstalled k.firewall = true → Ready6 k.firewall)
    (hquiet : k.strict = true → isInstalled k.firewall = true → Quiet k.firewall) : (start k).Invariant := by
  cases hstrict : k.strict with
  | true =>
    have hk : (start k).killSwitch = disableAllTraffic { k with allowedRanges := [] } := if_pos hstrict
    refine invariant_disableAllTraffic hk hsound hsound6 fun _ _ => ?_
    rw [hk]
    exact closed_of_quiet hsound hsound6 (hquiet hstrict) _
  | false =>
    have hk : (start k).killSwitch = { k with allowedRanges := [] } := if_neg (by simp [hstrict])
    refine ⟨hk ▸ hsound, hk ▸ hsound6, fun h => ?_, fun _ text htext => ?_, fun h => ?_⟩
    · rw [hk] at h
      exact absurd h (by simp [hstrict])
    · rw [hk] at htext
      cases htext
    · rw [hk] at h
      exact absurd h (by simp [hstrict])

theorem invariant_uninstalled {s : Service} (hstrict : s.killSwitch.strict = false)
    (hinstalled : isInstalled s.killSwitch.firewall = false) (hallowed : s.killSwitch.allowedRanges = []) :
    s.Invariant where
  sound h := by
    rw [hinstalled] at h
    cases h
  sound6 h := by
    rw [hinstalled] at h
    cases h
  installed h := by
    rw [hstrict] at h
    cases h
  allowed _ text htext := by
    rw [hallowed] at htext
    cases htext
  closed h := by
    rw [hstrict] at h
    cases h

theorem isInstalled_disableKillSwitch (hstrict : k.strict = false) :
    isInstalled k.disableKillSwitch.firewall = false := by
  rw [disableKillSwitch, hstrict]
  exact uninstall_linked _ _

theorem invariant_disableKillSwitch {s : Service} (h : s.Invariant) :
    Invariant ⟨s.killSwitch.disableKillSwitch, true, [], []⟩ := by
  cases hstrict : s.killSwitch.strict with
  | true =>
    have hinstalled := h.installed hstrict
    have hclosed := closed_disableKillSwitch hstrict (h.sound hinstalled) (h.sound6 hinstalled)
    refine ⟨fun _ => (hclosed fun _ => False).ready, fun _ => (hclosed fun _ => False).ready6, fun _ => ?_,
      fun _ text htext => ?_, fun _ _ => hclosed _⟩
    · exact (hclosed fun _ => False).ready.linked
    · cases htext
  | false =>
    exact invariant_uninstalled hstrict (isInstalled_disableKillSwitch hstrict) rfl

theorem invariant_refresh {s : Service} (h : s.Invariant) (names : HostNames)
    (hquiet : s.FindsQuiet (names, .refresh true)) : Invariant { s with killSwitch := s.killSwitch.refresh true } := by
  refine invariant_disableAllTraffic (k := { s.killSwitch with strict := true }) rfl h.sound h.sound6
    fun _ hbetween => ?_
  cases hstrict : s.killSwitch.strict with
  | true =>
    exact closed_disableAllTraffic (s := { s.killSwitch with strict := true }) (h.closed hstrict hbetween)
  | false =>
    exact closed_of_quiet (s := { s.killSwitch with strict := true }) h.sound h.sound6
      (hquiet ⟨hbetween, hstrict⟩) _

theorem invariant_enableKillSwitch {s : Service} (h : s.Invariant) (names : HostNames) (config : JsonObject) :
    Invariant ⟨s.killSwitch.enableKillSwitch names config, false, [], []⟩ := by
  obtain ⟨hready, hready6⟩ := ready_ensureInstalled h.sound h.sound6
  have hinstalled := (linked_switchAnchors hready names (firewallParams config)
    (marks_setAnchorEnabled true)).1
  exact ⟨sound_handle h.sound (names, .enableKillSwitch config), fun _ => hready6.switchAnchors names _,
    fun _ => hinstalled, nofun, nofun⟩

theorem invariant_resetAllowedRange {s : Service} (h : s.Invariant) (names : HostNames) (ranges : List String)
    {registered : List String} (hregistered : ∀ text ∈ registered, text ∈ ranges ∨ text ∈ s.killSwitch.allowedRanges) :
    Invariant ⟨s.killSwitch.resetAllowedRange names registered, s.between, names :: s.names, ranges ++ s.ranges⟩ := by
  have hinstalled : isInstalled (s.killSwitch.resetAllowedRange names registered).firewall =
      isInstalled s.killSwitch.firewall := isInstalled_setAnchorEnabled .ipv4 .allowNets true s.killSwitch.firewall
  have hallowed : s.between = true → ∀ text ∈ registered, text ∈ ranges ++ s.ranges := by
    intro hbetween text htext
    rcases hregistered text htext with hmem | hmem
    · exact List.mem_append_left _ hmem
    · exact List.mem_append_right _ (h.allowed hbetween text hmem)
  refine ⟨sound_resetAllowedRange names registered h.sound, fun hin => h.sound6 (hinstalled ▸ hin),
    fun hstrict => hinstalled ▸ h.installed hstrict, hallowed, fun hstrict hbetween => ?_⟩
  refine closed_letThrough (h.closed hstrict hbetween) names fun a ha => ?_
  rw [covered, List.any_eq_true] at ha
  obtain ⟨text, htext, hnetwork⟩ := ha
  refine ⟨names, List.mem_cons_self, ?_⟩
  rw [covered, List.any_eq_true]
  exact ⟨text, hallowed hbetween text htext, hnetwork⟩

theorem mem_of_mem_foldl_append {allowed : List String} {text : String}
    (h : text ∈ ranges.foldl (fun allowed range =>
      if range ≠ "" ∧ range ∉ allowed then allowed ++ [range] else allowed) allowed) :
    text ∈ ranges ∨ text ∈ allowed := by
  induction ranges generalizing allowed with
  | nil =>
    exact Or.inr h
  | cons range ranges ih =>
    rw [List.foldl_cons] at h
    rcases ih h with hmem | hmem
    · exact Or.inl (List.mem_cons_of_mem _ hmem)
    · split_ifs at hmem with hnew
      · rcases List.mem_append.mp hmem with hmem | hmem
        · exact Or.inr hmem
        · rw [List.mem_singleton.mp hmem]
          exact Or.inl List.mem_cons_self
      · exact Or.inr hmem

/-- **The invariant is kept by every call that finds what it relies on.** -/
theorem Invariant.step {s t : Service} {call : HostNames × ServiceCall} (h : s.Invariant)
    (hquiet : s.FindsQuiet call) (hstep : s.step call = some t) : t.Invariant := by
  obtain ⟨names, call⟩ := call
  cases call with
  | start =>
    cases hstep
    exact invariant_start h.sound h.sound6 hquiet
  | refresh enabled =>
    cases enabled with
    | true =>
      cases hstep
      exact invariant_refresh h names hquiet
    | false =>
      cases hstep
      exact invariant_uninstalled rfl (isInstalled_disableKillSwitch rfl) rfl
  | enableKillSwitch config =>
    cases hstep
    exact invariant_enableKillSwitch h names config
  | disableKillSwitch =>
    cases hstep
    exact invariant_disableKillSwitch h
  | addAllowedRange ranges =>
    cases hstep
    exact invariant_resetAllowedRange (s := s) h names ranges fun text htext => mem_of_mem_foldl_append htext
  | resetAllowedRange ranges =>
    cases hstep
    exact invariant_resetAllowedRange h names ranges fun text htext => Or.inl htext

/-- **Between two connections the strict mode lets nothing out**, as long as no exception of a connection is left where
the service starts or the strict mode is switched on. -/
theorem strict_blocks_between (strict : Bool) (calls : List (HostNames × ServiceCall))
    (hmeets : Run.Meets step FindsQuiet (start (initial strict)) calls) (s : Service)
    (hrun : Run.run step (start (initial strict)) calls = some s) (hstrict : s.killSwitch.strict = true)
    (hbetween : s.between = true) : s.Blocks := by
  have hinitial : (start (initial strict)).Invariant := invariant_start nofun nofun fun _ => nofun
  have hinvariant : s.Invariant := Run.run_invariant_of_meets (fun s call t h hquiet hstep => h.step hquiet hstep)
    hinitial hmeets hrun
  have hclosed := hinvariant.closed hstrict hbetween
  exact ⟨fun packet hlo hpacket => hclosed.verdict_ipv4 hlo hpacket, fun packet hlo => hclosed.verdict_ipv6 hlo⟩

/-- After a connection that was closed in the strict mode. -/
theorem blocked_after_disconnecting : ∃ s,
    Run.run step (start (initial true))
      [(fun _ => [], .enableKillSwitch (sampleConfig 0)), (fun _ => [], .disableKillSwitch),
        (fun _ => [], .addAllowedRange ["198.51.100.7"])] = some s ∧
      s.killSwitch.strict = true ∧ s.between = true ∧ s.Blocks := by
  refine ⟨_, rfl, rfl, rfl, ?_⟩
  refine strict_blocks_between true [(fun _ => [], .enableKillSwitch (sampleConfig 0)),
    (fun _ => [], .disableKillSwitch), (fun _ => [], .addAllowedRange ["198.51.100.7"])] ?_ _ rfl rfl rfl
  exact ⟨nofun, fun _ _ => ⟨nofun, fun _ _ => ⟨nofun, fun _ _ => trivial⟩⟩⟩

/-- The service is killed while a connection is up and starts again: the exceptions of the connection stay enabled, and a
packet to the local network leaves, with IPv4 and with IPv6. -/
theorem killed_service_leaves_exceptions : ∃ s,
    Run.run step (start (initial true))
      [(fun _ => [], .enableKillSwitch (sampleConfig 0)), (fun _ => [], .start)] = some s ∧
      s.killSwitch.strict = true ∧ s.between = true ∧ s.names = [] ∧ s.ranges = [] ∧
      s.killSwitch.firewall.ipv4.verdict ⟨"eth0", Ipv4.ofOctets 192 168 1 10, .tcp, 40000, 445, 0⟩ = .accept ∧
      s.killSwitch.firewall.ipv4.verdict ⟨"eth0", Ipv4.ofOctets 203 0 113 5, .tcp, 40000, 443, 0⟩ = .accept ∧
      s.killSwitch.firewall.ipv6.verdict ⟨"eth0", 0xfd <<< 120, .tcp, 40000, 445, 0⟩ = .accept := by
  refine ⟨_, rfl, rfl, rfl, rfl, rfl, ?_, ?_, ?_⟩
  · decide +kernel
  · decide +kernel
  · decide +kernel

end Service

end FreshVpn
