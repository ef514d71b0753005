import FreshVpn.FirewallKillSwitch

/-! What the firewall says of a packet once its anchors are set. -/

namespace FreshVpn

open Filter Rule Ipv4

namespace LinuxFirewall

open FilterTable

/-- What a call for the marked packets may do: it leaves the chains and all other anchors as they are, and the new state of
its anchor depends on the old one only. -/
structure Marks (marked : Firewall → Firewall) (value : Bool → Bool) : Prop where
  linked : ∀ s, (marked s).ipv4.linked = s.ipv4.linked
  root : ∀ s, (marked s).ipv4.root = s.ipv4.root
  chain : ∀ s, (marked s).ipv4.chain = s.ipv4.chain
  placeholder : ∀ s a, a ≠ .allowMarkedXray → (marked s).ipv4.placeholder a = s.ipv4.placeholder a
  xray : ∀ s on, s.ipv4.placeholder .allowMarkedXray = some on → (s.ipv4.chain .allowMarkedXray).isSome →
    (marked s).ipv4.placeholder .allowMarkedXray = some (value on)

theorem marks_id : Marks id id := ⟨fun _ => rfl, fun _ => rfl, fun _ => rfl, fun _ _ _ => rfl, fun _ _ h _ => h⟩

theorem marks_setAnchorEnabled (e : Bool) : Marks (setAnchorEnabled .both .allowMarkedXray e) fun _ => e where
  linked s := setAnchorEnabled_linked _ e s.ipv4
  root s := setAnchorEnabled_root _ e s.ipv4
  chain s := setAnchorEnabled_chain _ e s.ipv4
  placeholder s _ ha := setAnchorEnabled_placeholder_of_ne ha e s.ipv4
  xray s _ hon hchain := setAnchorEnabled_placeholder_self (by rw [hon]; rfl) hchain e

def markedXrayOn (s : Firewall) : Bool := s.ipv4.placeholder .allowMarkedXray = some true

/-- The rules of each anchor after the anchors have been set; `marked` is whether the one for marked packets is on. -/
def switchedRules (names : HostNames) (params : FirewallParams) (marked : Bool) : List (Anchor × List (Rule 32)) :=
  [(.allowLoopback, loopbackRules), (.allowDNS, getDNSRules names params.dnsServers), (.blockDNS, blockDNSRules),
    (.allowLAN, lanRules lanRanges), (.allowDHCP, dhcpRules (Network.host (ofOctets 255 255 255 255)) 68 67),
    (.allowVPN, vpnRules), (.allowMarkedXray, if marked then markedXrayRules else []),
    (.blockNets, if params.blockNets then getBlockRule names params.blockAddrs else []),
    (.allowNets, if params.allowNets then getAllowRule names params.allowAddrs else []),
    (.blockAll, if params.blockAll then blockAllRules else [])]

variable {s : Firewall} {marked : Firewall → Firewall} {value : Bool → Bool}

section
variable (h : Ready s) (names : HostNames) (params : FirewallParams) (hmarked : Marks marked value)
include h hmarked

theorem rulesOf_switchAnchors :
    ∀ e ∈ switchedRules names params (value (markedXrayOn s)),
      (switchAnchors names params marked s).ipv4.rulesOf e.1 = e.2 := by
  obtain ⟨hlinked, hroot, hplaceholder, hchain, hfixed⟩ := h
  obtain ⟨on, hon⟩ := Option.isSome_iff_exists.mp (hplaceholder .allowMarkedXray (by decide))
  simp only [anchors4, List.map_cons, List.map_nil, List.forall_mem_cons, List.not_mem_nil,
    refilled] at hroot hplaceholder hchain hfixed
  have hvalue : markedXrayOn s = on := by rw [markedXrayOn, hon]; simp
  have hxray : ∀ u : Firewall, u.ipv4.placeholder .allowMarkedXray = s.ipv4.placeholder .allowMarkedXray →
      u.ipv4.chain .allowMarkedXray = s.ipv4.chain .allowMarkedXray →
      (marked u).ipv4.placeholder .allowMarkedXray = some (value (markedXrayOn s)) := by
    intro u hu hchain'
    rw [hvalue]
    exact hmarked.xray u on (hu.trans hon) (by rw [hchain']; simp [hchain])
  simp [switchedRules, switchAnchors, setAnchors, setAnchorEnabled, updateAllowNets, updateBlockNets, updateDNSServers,
    rulesOf, hmarked.chain, hmarked.placeholder, hxray, setAnchorEnabled_placeholder_of_ne,
    setAnchorEnabled_placeholder_self, replaceRules_chain_of_ne, replaceRules_chain_self, hplaceholder, hchain, hfixed]

theorem linked_switchAnchors :
    (switchAnchors names params marked s).ipv4.linked = true ∧
      (switchAnchors names params marked s).ipv4.root = some (anchors4.map Prod.fst) := by
  constructor
  · simp [switchAnchors, setAnchors, setAnchorEnabled, updateAllowNets, updateBlockNets,
      updateDNSServers, hmarked.linked, h.linked]
  · simp [switchAnchors, setAnchors, setAnchorEnabled, updateAllowNets, updateBlockNets,
      updateDNSServers, hmarked.root, h.root]

/-- **The rules that a packet comes to**, in their order, after the anchors have been set. -/
theorem rules_switchAnchors :
    (switchAnchors names params marked s).ipv4.rules =
      loopbackRules ++ getDNSRules names params.dnsServers ++ blockDNSRules ++ lanRules lanRanges ++
        dhcpRules (Network.host (ofOctets 255 255 255 255)) 68 67 ++ vpnRules ++
        (if value (markedXrayOn s) then markedXrayRules else []) ++
        (if params.blockNets then getBlockRule names params.blockAddrs else []) ++
        (if params.allowNets then getAllowRule names params.allowAddrs else []) ++
        (if params.blockAll then blockAllRules else []) := by
  have hrules := rulesOf_switchAnchors h names params hmarked
  obtain ⟨hlinked, hroot⟩ := linked_switchAnchors h names params hmarked
  simp only [switchedRules, List.forall_mem_cons] at hrules
  simp [rules, hlinked, hroot, anchors4, hrules]

end

def Physical (packet : Packet 32) : Prop :=
  packet.leavesBy "lo" = false ∧ ∀ name ∈ tunnelNames, packet.leavesBy name = false

instance (packet : Packet 32) : Decidable (Physical packet) := inferInstanceAs (Decidable (_ ∧ _))

def isDns (packet : Packet 32) : Bool :=
  (packet.transport == .udp || packet.transport == .tcp) && packet.dport == 53

def isDhcp (packet : Packet 32) : Bool :=
  packet.transport == .udp && packet.destination == ofOctets 255 255 255 255 && packet.sport == 68 &&
    packet.dport == 67

def inLan (a : BitVec 32) : Bool := lanRanges.any fun network => network.contains a

theorem inLan_of_isDhcp {packet : Packet 32} (h : isDhcp packet = true) : inLan packet.destination = true := by
  simp only [isDhcp, Bool.and_eq_true, beq_iff_eq] at h
  rw [h.1.1.2]
  decide

/-- The address lies in a network that one of the texts stands for. -/
def covered (names : HostNames) (texts : List String) (a : BitVec 32) : Bool :=
  texts.any fun text => (destinations names text).any fun network => network.contains a

section
variable {packet : Packet 32}

/-- What the first rule for the packet says. -/
def decided (rules : List (Rule 32)) (packet : Packet 32) : Option Verdict :=
  Filter.first Rule.applies Rule.target rules packet

theorem decided_append (rules rest : List (Rule 32)) (packet : Packet 32) :
    decided (rules ++ rest) packet = (decided rules packet).or (decided rest packet) :=
  first_append _ _ rules rest packet

theorem decided_ite (b : Bool) (rules : List (Rule 32)) (packet : Packet 32) :
    decided (if b then rules else []) packet = if b then decided rules packet else none := by
  cases b with
  | true =>
    rfl
  | false =>
    rfl

theorem decided_loopbackRules (h : Physical packet) : decided loopbackRules packet = none := by
  apply first_eq_none
  simp [loopbackRules, applies, h.1]

theorem decided_getDNSRules (h : Physical packet) (names : HostNames) (servers : List String) :
    decided (getDNSRules names servers) packet = none := by
  apply first_eq_none
  intro rule hrule
  simp only [getDNSRules, List.mem_flatMap, List.mem_map] at hrule
  obtain ⟨server, -, name, hname, transport, -, network, -, rfl⟩ := hrule
  simp [applies, h.2 name hname]

theorem decided_vpnRules (h : Physical packet) : decided vpnRules packet = none := by
  apply first_eq_none
  intro rule hrule
  obtain ⟨name, hname, rfl⟩ := List.mem_map.mp hrule
  simp [applies, h.2 name hname]

theorem decided_blockDNSRules (packet : Packet 32) :
    decided blockDNSRules packet = if isDns packet then some .reject else none := by
  rw [decided, first_of_forall_target (v := .reject) _ _ (by simp [blockDNSRules])]
  have hany : (blockDNSRules.any fun rule => rule.applies packet) = isDns packet := by
    rw [Bool.eq_iff_iff]
    simp [blockDNSRules, applies, isDns, or_and_right]
  rw [hany]

theorem decided_lanRules (packet : Packet 32) :
    decided (lanRules lanRanges) packet = if inLan packet.destination then some .accept else none := by
  rw [decided, first_of_forall_target (v := .accept) _ _ (by simp [lanRules])]
  simp [lanRules, inLan, applies, List.any_map, Function.comp_def]

theorem decided_dhcpRules (packet : Packet 32) :
    decided (dhcpRules (Network.host (ofOctets 255 255 255 255)) 68 67) packet =
      if isDhcp packet then some .accept else none := by
  rw [decided, first_of_forall_target (v := .accept) _ _ (by simp [dhcpRules])]
  have hany : ((dhcpRules (Network.host (ofOctets 255 255 255 255)) 68 67).any fun rule =>
      rule.applies packet) = isDhcp packet := by
    rw [Bool.eq_iff_iff]
    simp [dhcpRules, isDhcp, applies, Network.host_contains, and_comm]
  rw [hany]

theorem decided_blockAllRules (packet : Packet 32) : decided blockAllRules packet = some .reject := by
  rw [decided, first_of_forall_target (v := .reject) _ _ (by simp [blockAllRules])]
  simp [blockAllRules, applies]

theorem decided_markedXrayRules (packet : Packet 32) :
    decided markedXrayRules packet = if packet.mark = xrayTrafficMark then some .accept else none := by
  rw [decided, first_of_forall_target (v := .accept) _ _ (by simp [markedXrayRules])]
  simp [markedXrayRules, applies]

theorem decided_netRules (target : Verdict) (names : HostNames) (servers : List String) (packet : Packet 32) :
    decided (netRules target names servers) packet =
      if covered names servers packet.destination then some target else none := by
  have htarget : ∀ rule ∈ netRules target names servers, rule.target = target := by
    intro rule hrule
    simp only [netRules, List.mem_flatMap, List.mem_map] at hrule
    obtain ⟨server, -, network, -, rfl⟩ := hrule
    rfl
  rw [decided, first_of_forall_target _ _ htarget]
  simp [netRules, covered, applies, List.any_flatMap, List.any_map, Function.comp_def]

/-- **What happens to a packet on a physical interface** after the anchors have been set. -/
theorem verdict_switchAnchors (h : Ready s) (names : HostNames) (params : FirewallParams)
    (hmarked : Marks marked value) (hphysical : Physical packet) :
    (switchAnchors names params marked s).ipv4.verdict packet =
      if isDns packet then .reject
      else if inLan packet.destination ∨ isDhcp packet ∨ value (markedXrayOn s) ∧ packet.mark = xrayTrafficMark then
        .accept
      else if params.blockNets ∧ covered names params.blockAddrs packet.destination then .reject
      else if params.allowNets ∧ covered names params.allowAddrs packet.destination then .accept
      else if params.blockAll then .reject
      else .accept := by
  change (decided (switchAnchors names params marked s).ipv4.rules packet).getD .accept = _
  rw [rules_switchAnchors h names params hmarked]
  simp only [decided_append, decided_ite, decided_loopbackRules hphysical, decided_getDNSRules hphysical,
    decided_vpnRules hphysical, decided_blockDNSRules, decided_lanRules, decided_dhcpRules, decided_markedXrayRules,
    getBlockRule, getAllowRule, decided_netRules, decided_blockAllRules]
  -- the anchors are asked one after the other, as the cases are split
  cases isDns packet
  case true => rfl
  cases inLan packet.destination
  case true => rfl
  cases isDhcp packet
  case true => rfl
  cases value (markedXrayOn s) <;> by_cases hmark : packet.mark = xrayTrafficMark <;>
    cases params.blockNets <;> cases covered names params.blockAddrs packet.destination <;>
    cases params.allowNets <;> cases covered names params.allowAddrs packet.destination <;>
    cases params.blockAll <;> simp [hmark]

end

end LinuxFirewall

/-! ### The kill switch and the tunnel -/

namespace KillSwitch

open LinuxFirewall

def Listed (sites : List Range) (a : BitVec 32) : Prop := ∃ site ∈ sites, site.network.contains a = true

/-- The destinations that a split-tunnel mode assigns to the tunnel: all, the listed ones, or the others. -/
def Tunnelled (mode : ℤ) (sites : List Range) (a : BitVec 32) : Prop :=
  mode = 0 ∨ mode = 1 ∧ Listed sites a ∨ mode = 2 ∧ ¬ Listed sites a

theorem covered_sites (names : HostNames) (sites : List Range) (a : BitVec 32) :
    covered names (sites.map Range.text) a = true ↔ Listed sites a := by
  simp [covered, Listed, destinations_text]

theorem covered_cons (names : HostNames) (text : String) (texts : List String) (a : BitVec 32) :
    covered names (text :: texts) a = (covered names [text] a || covered names texts a) := by
  simp [covered]

/-- **The kill switch rejects what belongs into the tunnel, unless only the listed sites do.** In that mode the networks to
block are computed, but their anchor is not enabled, and of the packets to them only requests to resolvers are rejected. -/
theorem tunnelled_rejected_iff (strict : Bool) (calls : List (HostNames × Call)) (names : HostNames)
    (config : JsonObject) (sites : List Range) (hsites : splitTunnelSites config = sites.map Range.text)
    (packet : Packet 32) (hphysical : Physical packet) (hmark : packet.mark = 0) (hdhcp : isDhcp packet = false)
    (hlan : inLan packet.destination = false)
    (hserver : covered names [Json.toString (config.value "vpnServer")] packet.destination = false)
    (htunnelled : Tunnelled (splitTunnelType config) sites packet.destination) :
    (enableKillSwitch names config (after strict calls)).firewall.ipv4.verdict packet = .reject ↔
      splitTunnelType config ≠ 1 ∨ isDns packet = true := by
  have hready := (sound_after strict calls).ensureInstalled
  have hunmarked : packet.mark ≠ xrayTrafficMark := by rw [hmark]; decide
  have hverdict := verdict_switchAnchors hready names (firewallParams config) (marks_setAnchorEnabled true) hphysical
  simp only [hlan, hdhcp, hunmarked, Bool.false_eq_true, and_false, or_self, if_false] at hverdict
  change (switchAnchors names (firewallParams config) (LinuxFirewall.setAnchorEnabled .both .allowMarkedXray true)
    (ensureInstalled (after strict calls).firewall)).ipv4.verdict packet = .reject ↔ _
  rw [hverdict]
  cases isDns packet with
  | true =>
    simp
  | false =>
    rcases htunnelled with hmode | ⟨hmode, -⟩ | ⟨hmode, hlisted⟩
    · -- all destinations: the server alone is let through
      simp [firewallParams, hmode, hserver]
    · -- the listed sites: every anchor that could reject is disabled
      simp [firewallParams, hmode]
    · -- all but the listed sites
      rw [← covered_sites names, ← hsites, Bool.not_eq_true] at hlisted
      simp [firewallParams, hmode, covered_cons names _ (splitTunnelSites config), hserver, hlisted]

def sampleConfig (mode : ℤ) : JsonObject :=
  [("splitTunnelSites", .array [.string "93.184.216.34"]), ("splitTunnelType", .double mode),
    ("vpnServer", .string "203.0.113.5")]

def samplePacket : Packet 32 := ⟨"eth0", ofOctets 93 184 216 34, .tcp, 40000, 443, 0⟩

theorem everything_rejected :
    (enableKillSwitch (fun _ => []) (sampleConfig 0) (after false [])).firewall.ipv4.verdict samplePacket = .reject :=
  (tunnelled_rejected_iff false [] (fun _ => []) (sampleConfig 0) [⟨ofOctets 93 184 216 34, none⟩] (by decide)
    samplePacket (by decide) rfl rfl (by decide) (by decide) (Or.inl (by decide))).mpr (Or.inl (by decide))

theorem listed_site_leaves_past_the_tunnel :
    Tunnelled (splitTunnelType (sampleConfig 1)) [⟨ofOctets 93 184 216 34, none⟩] samplePacket.destination ∧
      Physical samplePacket ∧ inLan samplePacket.destination = false ∧
      (enableKillSwitch (fun _ => []) (sampleConfig 1) (after false [])).firewall.ipv4.verdict samplePacket = .accept := by
  refine ⟨Or.inr (Or.inl ⟨by decide, ⟨_, List.mem_singleton_self _, by decide⟩⟩), by decide, by decide, ?_⟩
  decide +kernel

end KillSwitch

end FreshVpn
