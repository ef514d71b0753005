import FreshVpn.FirewallVerdict
import FreshVpn.LibraryRun

/-! The ranges that are let through while a connection is up. -/

namespace FreshVpn

namespace LinuxFirewall

variable {s : Firewall}

open FilterTable

/-- The anchors that a packet comes to before the allowed networks. -/
def beforeAllowNets : List Anchor :=
  [.allowLoopback, .allowDNS, .blockDNS, .allowLAN, .allowDHCP, .allowVPN, .allowMarkedXray, .blockNets]

/-- What the anchors before the allowed networks say. -/
def ruledBefore (s : Firewall) (packet : Packet 32) : Option Verdict := beforeAllowNets.findSome? (s.ipv4.ruling packet)

theorem ruling_eq_decided (t : FilterTable 32) (packet : Packet 32) (a : Anchor) :
    t.ruling packet a = decided (t.rulesOf a) packet := rfl

theorem verdict_of_ready (h : Ready s) (packet : Packet 32) :
    s.ipv4.verdict packet =
      ((ruledBefore s packet).or ((s.ipv4.ruling packet .allowNets).or (s.ipv4.ruling packet .blockAll))).getD
        .accept := by
  have hlist : anchors4.map Prod.fst = beforeAllowNets ++ [.allowNets, .blockAll] := rfl
  have hlast : [Anchor.allowNets, .blockAll].findSome? (s.ipv4.ruling packet) =
      (s.ipv4.ruling packet .allowNets).or (s.ipv4.ruling packet .blockAll) := by
    cases hallow : s.ipv4.ruling packet .allowNets <;> cases hblock : s.ipv4.ruling packet .blockAll <;>
      simp [hallow, hblock]
  rw [FilterTable.Installed.verdict_eq h, hlist, List.findSome?_append, hlast]
  rfl

theorem ruling_blockAll (h : Ready s) (hon : s.ipv4.placeholder .blockAll = some true) (packet : Packet 32) :
    s.ipv4.ruling packet .blockAll = some .reject := by
  have hchain : s.ipv4.chain .blockAll = some blockAllRules :=
    h.fixed (.blockAll, blockAllRules) (by simp [anchors4]) (by decide)
  rw [ruling_of_enabled hon hchain]
  exact decided_blockAllRules packet

/-! ### The refilled chain -/

def letThrough (names : HostNames) (ranges : List String) (s : Firewall) : Firewall :=
  updateAllowNets names ranges (setAnchorEnabled .ipv4 .allowNets true s)

theorem ready_letThrough (h : Ready s) (names : HostNames) (ranges : List String) : Ready (letThrough names ranges s) :=
  FilterTable.Installed.replaceRules (h.setAnchorEnabled .ipv4 .allowNets true) (by decide) _

theorem placeholder_letThrough_of_ne {a : Anchor} (ha : a ≠ .allowNets) (names : HostNames) (ranges : List String)
    (s : Firewall) : (letThrough names ranges s).ipv4.placeholder a = s.ipv4.placeholder a :=
  setAnchorEnabled_placeholder_of_ne ha true s.ipv4

theorem ruling_letThrough_of_ne {a : Anchor} (ha : a ≠ .allowNets) (names : HostNames) (ranges : List String)
    (s : Firewall) (packet : Packet 32) :
    (letThrough names ranges s).ipv4.ruling packet a = s.ipv4.ruling packet a := by
  refine ruling_congr (placeholder_letThrough_of_ne ha names ranges s) ?_ packet
  change ((s.ipv4.setAnchorEnabled .allowNets true).replaceRules .allowNets _).chain a = _
  rw [replaceRules_chain_of_ne ha, setAnchorEnabled_chain]

theorem ruling_letThrough_self (h : Ready s) (names : HostNames) (ranges : List String) (packet : Packet 32) :
    (letThrough names ranges s).ipv4.ruling packet .allowNets =
      if covered names ranges packet.destination then some .accept else none := by
  have hplaceholder := h.placeholder .allowNets (by decide)
  have hchain := h.chain .allowNets (by decide)
  have hon : (letThrough names ranges s).ipv4.placeholder .allowNets = some true :=
    setAnchorEnabled_placeholder_self hplaceholder hchain true
  have hrules : (letThrough names ranges s).ipv4.chain .allowNets = some (getAllowRule names ranges) := by
    change ((s.ipv4.setAnchorEnabled .allowNets true).replaceRules .allowNets _).chain .allowNets = _
    apply replaceRules_chain_self
    rw [setAnchorEnabled_chain]
    exact hchain
  rw [ruling_of_enabled hon hrules]
  exact decided_netRules .accept names ranges packet

theorem ruledBefore_letThrough (names : HostNames) (ranges : List String) (s : Firewall) (packet : Packet 32) :
    ruledBefore (letThrough names ranges s) packet = ruledBefore s packet := by
  simp only [ruledBefore, beforeAllowNets, List.findSome?_cons, List.findSome?_nil, ruling_letThrough_of_ne,
    ne_eq, reduceCtorEq, not_false_eq_true]

/-- **After a call the registered ranges alone decide**, apart from what comes before them. -/
theorem verdict_letThrough (h : Ready s) (hon : s.ipv4.placeholder .blockAll = some true)
    (names : HostNames) (ranges : List String) (packet : Packet 32) :
    (letThrough names ranges s).ipv4.verdict packet =
      (ruledBefore s packet).getD (if covered names ranges packet.destination then .accept else .reject) := by
  rw [verdict_of_ready (ready_letThrough h names ranges), ruledBefore_letThrough, ruling_letThrough_self h,
    ruling_letThrough_of_ne (by decide), ruling_blockAll h hon]
  cases ruledBefore s packet with
  | some v => rfl
  | none => cases covered names ranges packet.destination <;> rfl

/-! ### After the anchors have been set -/

/-- A packet that is let through whatever the ranges are. -/
def Spared (packet : Packet 32) : Prop := inLan packet.destination = true ∨ packet.mark = xrayTrafficMark

instance (packet : Packet 32) : Decidable (Spared packet) := inferInstanceAs (Decidable (_ ∨ _))

variable {params : FirewallParams}

theorem ruledBefore_switchAnchors (h : Ready s) (names : HostNames) (hblocked : params.blockAddrs = [])
    {packet : Packet 32} (hphysical : Physical packet) (hdns : isDns packet = false) :
    ruledBefore (switchAnchors names params (setAnchorEnabled .both .allowMarkedXray true) s) packet =
      if Spared packet then some .accept else none := by
  have hrules := rulesOf_switchAnchors h names params (marks_setAnchorEnabled true)
  simp only [switchedRules, List.forall_mem_cons] at hrules
  obtain ⟨hlo, hallowDns, hblockDns, hlan, hdhcp, hvpn, hxray, hnets, -⟩ := hrules
  have hblock : decided (if params.blockNets then getBlockRule names params.blockAddrs else []) packet = none := by
    rw [decided_ite, hblocked]
    cases params.blockNets <;> rfl
  simp only [ruledBefore, beforeAllowNets, List.findSome?_cons, List.findSome?_nil, ruling_eq_decided, hlo, hallowDns,
    hblockDns, hlan, hdhcp, hvpn, hxray, hnets, hblock, decided_loopbackRules hphysical, decided_getDNSRules hphysical,
    decided_vpnRules hphysical, decided_blockDNSRules, decided_lanRules, decided_dhcpRules, decided_markedXrayRules,
    hdns, Bool.false_eq_true, if_true, if_false]
  -- two anchors let the packet through, and the one for the lease does so only where the local network does
  by_cases hinLan : inLan packet.destination = true
  · simp [Spared, hinLan]
  · have hnot : ¬ isDhcp packet = true := fun h => hinLan (inLan_of_isDhcp h)
    by_cases hmark : packet.mark = xrayTrafficMark <;> simp [Spared, hinLan, hnot, hmark]

theorem blockAll_switchAnchors (h : Ready s) (names : HostNames) (hblockAll : params.blockAll = true) :
    (switchAnchors names params (setAnchorEnabled .both .allowMarkedXray true) s).ipv4.placeholder .blockAll =
      some true := by
  have hplaceholder := h.placeholder .blockAll (by decide)
  have hchain := h.chain .blockAll (by decide)
  simp [switchAnchors, setAnchors, setAnchorEnabled, updateAllowNets, updateBlockNets, updateDNSServers,
    setAnchorEnabled_placeholder_of_ne, setAnchorEnabled_placeholder_self, hplaceholder, hchain, hblockAll]

end LinuxFirewall

namespace KillSwitch

open LinuxFirewall

/-! ### The calls after a connection has been made -/

/-- The calls that change the registered ranges. -/
inductive RangeCall where
  | addAllowedRange (ranges : List String)
  | resetAllowedRange (ranges : List String)

namespace RangeCall

def toCall : RangeCall → Call
  | .addAllowedRange ranges => .addAllowedRange ranges
  | .resetAllowedRange ranges => .resetAllowedRange ranges

def concerns (s : KillSwitch) : RangeCall → List String
  | .addAllowedRange ranges => s.allowedRanges ++ ranges
  | .resetAllowedRange ranges => ranges

end RangeCall

/-- One call, with the host names as they are at the time. -/
def rangeStep (s : KillSwitch) (call : HostNames × RangeCall) : Option KillSwitch :=
  some (handle s (call.1, call.2.toCall))

theorem covered_append (names : HostNames) (texts rest : List String) (a : BitVec 32) :
    covered names (texts ++ rest) a = (covered names texts a || covered names rest a) :=
  List.any_append

theorem covered_foldl_append (names : HostNames) (ranges allowed : List String) (a : BitVec 32) :
    covered names (ranges.foldl (fun allowed range =>
      if range ≠ "" ∧ range ∉ allowed then allowed ++ [range] else allowed) allowed) a =
      covered names (allowed ++ ranges) a := by
  induction ranges generalizing allowed with
  | nil =>
    rw [List.append_nil]
    rfl
  | cons range ranges ih =>
    rw [List.foldl_cons, ih]
    split_ifs with hnew
    · rw [List.append_assoc]
      rfl
    · have hcovered : covered names [range] a = true → covered names allowed a = true := by
        intro hrange
        by_cases hempty : range = ""
        · rw [hempty] at hrange
          cases hrange
        · have hmem : range ∈ allowed := by
            by_contra hmem
            exact hnew ⟨hempty, hmem⟩
          rw [covered, List.any_eq_true] at hrange ⊢
          obtain ⟨text, htext, hcontains⟩ := hrange
          rw [List.mem_singleton.mp htext] at hcontains
          exact ⟨range, hmem, hcontains⟩
      rw [Bool.eq_iff_iff]
      simp only [covered_append, covered_cons names range ranges, Bool.or_eq_true]
      tauto

variable {s : KillSwitch} {packet : Packet 32}

theorem verdict_handle (h : Ready s.firewall) (hon : s.firewall.ipv4.placeholder .blockAll = some true)
    (names : HostNames) (call : RangeCall) (packet : Packet 32) :
    (handle s (names, call.toCall)).firewall.ipv4.verdict packet =
      (ruledBefore s.firewall packet).getD
        (if covered names (call.concerns s) packet.destination then .accept else .reject) := by
  cases call with
  | addAllowedRange ranges =>
    change (letThrough names _ s.firewall).ipv4.verdict packet = _
    rw [verdict_letThrough h hon, covered_foldl_append]
    rfl
  | resetAllowedRange ranges =>
    exact verdict_letThrough h hon names ranges packet

/-- A call lets through all that was let through for the connection, as far as the packet is concerned. -/
def KeepsOpen (packet : Packet 32) (s : KillSwitch) (call : HostNames × RangeCall) : Prop :=
  Spared packet ∨ covered call.1 (call.2.concerns s) packet.destination = true

structure Open (packet : Packet 32) (s : KillSwitch) : Prop where
  ready : Ready s.firewall
  blockAll : s.firewall.ipv4.placeholder .blockAll = some true
  before : ruledBefore s.firewall packet = if Spared packet then some .accept else none
  accepted : s.firewall.ipv4.verdict packet = .accept

theorem handle_rangeCall (s : KillSwitch) (names : HostNames) (call : RangeCall) :
    ∃ ranges, (handle s (names, call.toCall)).firewall = letThrough names ranges s.firewall := by
  cases call with
  | addAllowedRange ranges => exact ⟨_, rfl⟩
  | resetAllowedRange ranges => exact ⟨ranges, rfl⟩

theorem verdict_of_open (h : Open packet s) (call : HostNames × RangeCall) :
    (handle s (call.1, call.2.toCall)).firewall.ipv4.verdict packet = .accept ↔ KeepsOpen packet s call := by
  rw [verdict_handle h.ready h.blockAll, h.before, KeepsOpen]
  by_cases hspared : Spared packet
  · simp [hspared]
  · simp [hspared]

theorem Open.step {t : KillSwitch} {call : HostNames × RangeCall} (h : Open packet s)
    (hkeeps : KeepsOpen packet s call) (hstep : rangeStep s call = some t) : Open packet t := by
  rw [← Option.some.inj hstep]
  obtain ⟨ranges, hfirewall⟩ := handle_rangeCall s call.1 call.2
  refine ⟨?_, ?_, ?_, (verdict_of_open h call).mpr hkeeps⟩
  · rw [hfirewall]
    exact ready_letThrough h.ready call.1 ranges
  · rw [hfirewall, placeholder_letThrough_of_ne (by decide)]
    exact h.blockAll
  · rw [hfirewall, ruledBefore_letThrough]
    exact h.before

/-- The packet is one of the connection's own exceptions: it goes to the server or, in the mode for them, to a site. -/
def Excepted (names : HostNames) (config : JsonObject) (a : BitVec 32) : Prop :=
  covered names [Json.toString (config.value "vpnServer")] a = true ∨
    splitTunnelType config = 2 ∧ covered names (splitTunnelSites config) a = true

theorem open_enableKillSwitch (strict : Bool) (calls : List (HostNames × Call)) (names : HostNames)
    {config : JsonObject} (hmode : splitTunnelType config = 0 ∨ splitTunnelType config = 2)
    (hphysical : Physical packet) (hdns : isDns packet = false) (hexcepted : Excepted names config packet.destination) :
    Open packet (enableKillSwitch names config (after strict calls)) := by
  have hready := (sound_after strict calls).ensureInstalled
  have hsound := sound_handle (sound_after strict calls) (names, .enableKillSwitch config)
  have hinstalled := (linked_switchAnchors hready names (firewallParams config) (marks_setAnchorEnabled true)).1
  have hblockAll : (firewallParams config).blockAll = true := decide_eq_true hmode
  have hblocked : (firewallParams config).blockAddrs = [] := by
    rcases hmode with hmode | hmode <;> simp [firewallParams, hmode]
  refine ⟨hsound hinstalled, blockAll_switchAnchors hready names hblockAll,
    ruledBefore_switchAnchors hready names hblocked hphysical hdns, ?_⟩
  have hverdict := verdict_switchAnchors hready names (firewallParams config) (marks_setAnchorEnabled true) hphysical
  have hcovered : covered names (firewallParams config).allowAddrs packet.destination = true := by
    rcases hmode with hmode | hmode
    · rcases hexcepted with hserver | ⟨hsites, -⟩
      · simpa [firewallParams, hmode] using hserver
      · rw [hmode] at hsites
        cases hsites
    · rw [Excepted, hmode] at hexcepted
      simpa [firewallParams, hmode, covered_cons names _ (splitTunnelSites config)] using hexcepted
  have hallow : (firewallParams config).allowNets = true := hblockAll
  have hnone : covered names [] packet.destination = false := rfl
  refine hverdict.trans ?_
  simp [hdns, hblocked, hnone, hcovered, hallow]

/-- **What is let through for a connection stays so as long as every call names it again.** -/
theorem exceptions_kept_iff (strict : Bool) (calls : List (HostNames × Call)) (names : HostNames)
    (config : JsonObject) (hmode : splitTunnelType config = 0 ∨ splitTunnelType config = 2) (packet : Packet 32)
    (hphysical : Physical packet) (hdns : isDns packet = false)
    (hexcepted : Excepted names config packet.destination) (made : List (HostNames × RangeCall)) :
    (∀ first s, first <+: made →
      Run.run rangeStep (enableKillSwitch names config (after strict calls)) first = some s →
      s.firewall.ipv4.verdict packet = .accept) ↔
    Run.Meets rangeStep (KeepsOpen packet) (enableKillSwitch names config (after strict calls)) made := by
  have hopen := open_enableKillSwitch strict calls names hmode hphysical hdns hexcepted
  refine Run.forall_reached_iff_meets (I := Open packet) (fun s h => h.accepted) (fun s call t h hkeeps hstep => ?_)
    (fun s call h hnot => ?_) hopen made
  · exact h.step hkeeps hstep
  · exact ⟨_, rfl, fun haccept => hnot ((verdict_of_open h call).mp haccept)⟩

/-- The server stays reachable if the calls name its address. -/
theorem server_kept_by_its_address :
    Physical ⟨"eth0", Ipv4.ofOctets 203 0 113 5, .udp, 40000, 1194, 0⟩ ∧
      ∀ first s, first <+: [(fun _ => [], .resetAllowedRange ["203.0.113.5"])] →
        Run.run rangeStep (enableKillSwitch (fun _ => []) (sampleConfig 0) (after true [])) first = some s →
        s.firewall.ipv4.verdict ⟨"eth0", Ipv4.ofOctets 203 0 113 5, .udp, 40000, 1194, 0⟩ = .accept := by
  refine ⟨by decide, ?_⟩
  exact (exceptions_kept_iff true [] (fun _ => []) (sampleConfig 0) (Or.inl (by decide)) _ (by decide) (by decide)
    (Or.inl (by decide)) _).mpr ⟨Or.inr (by decide), fun _ _ => trivial⟩

/-- A request to the gateway registers its address: the site of the connection is cut off, and so is its server. -/
theorem gateway_request_cuts_off :
    Excepted (fun _ => []) (sampleConfig 2) samplePacket.destination ∧ Physical samplePacket ∧
      isDns samplePacket = false ∧
      (enableKillSwitch (fun _ => []) (sampleConfig 2)
        (after true [(fun _ => [], .init)])).firewall.ipv4.verdict samplePacket = .accept ∧
      (addAllowedRange (fun _ => []) ["198.51.100.7"] (enableKillSwitch (fun _ => []) (sampleConfig 2)
        (after true [(fun _ => [], .init)]))).firewall.ipv4.verdict samplePacket = .reject ∧
      Excepted (fun _ => []) (sampleConfig 0) (Ipv4.ofOctets 203 0 113 5) ∧
      (addAllowedRange (fun _ => []) ["198.51.100.7"] (enableKillSwitch (fun _ => []) (sampleConfig 0)
        (after true [(fun _ => [], .init)]))).firewall.ipv4.verdict
          ⟨"eth0", Ipv4.ofOctets 203 0 113 5, .udp, 40000, 1194, 0⟩ = .reject := by
  refine ⟨Or.inr ⟨by decide, by decide⟩, by decide, by decide, ?_, ?_, Or.inl (by decide), ?_⟩
  · decide +kernel
  · decide +kernel
  · decide +kernel

end KillSwitch

end FreshVpn
