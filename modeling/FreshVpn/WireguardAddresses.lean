import FreshVpn.WireguardSections
import Mathlib.Data.List.Nodup

/-! The addresses of clients over whole runs. They rise from peer to peer, so that the address after the last one is
new, if the last one is read. -/

namespace FreshVpn

open Lines WireguardConfigurator WgServer Run

/-! ### Rising addresses -/

/-- By how much the next address is higher. -/
def ascent (address : ℕ) : ℕ := if address % 256 = 254 then 3 else if address % 256 = 255 then 2 else 1

theorem octet_ascent (address : ℕ) : (address + ascent address) % 256 ≠ 0 ∧ (address + ascent address) % 256 ≠ 255 := by
  unfold ascent
  split_ifs
  · omega
  · omega
  · omega

theorem lt_ascent (address : ℕ) : address < address + ascent address := by
  unfold ascent
  split_ifs
  · omega
  · omega
  · omega

theorem ascent_le (address : ℕ) : ascent address ≤ 3 := by
  unfold ascent
  split_ifs
  · omega
  · omega
  · omega

theorem toNat_nextIp {subnetAddress : BitVec 32} {ips : List (BitVec 32)}
    (h : (ips.getLastD subnetAddress).toNat + ascent (ips.getLastD subnetAddress).toNat < 2 ^ 32) :
    (nextIp subnetAddress ips).toNat =
      (ips.getLastD subnetAddress).toNat + ascent (ips.getLastD subnetAddress).toNat := by
  unfold nextIp ascent at *
  dsimp only
  split_ifs at h ⊢
  · rw [BitVec.toNat_add_of_lt h]
    rfl
  · rw [BitVec.toNat_add_of_lt h]
    rfl
  · rw [BitVec.toNat_add_of_lt h]
    rfl

/-- The addresses rise above that of the subnet and have no special last octet; the keys are different, and none is a
key of the server. -/
structure Allocated (server : WgServer) (peers : List WgPeer) : Prop where
  rising : peers.Pairwise fun peer next => peer.address.toNat < next.address.toNat
  above : ∀ peer ∈ peers, server.subnetAddress.toNat < peer.address.toNat
  octet : ∀ peer ∈ peers, peer.address.toNat % 256 ≠ 0 ∧ peer.address.toNat % 256 ≠ 255
  keys : (peers.map WgPeer.key).Nodup
  own : ∀ peer ∈ peers, peer.key ≠ server.psk ∧ ¬ peer.key.text <:+: server.interfaceSection

namespace Allocated

variable {server : WgServer} {peers : List WgPeer}

theorem nil (server : WgServer) : Allocated server [] :=
  ⟨List.Pairwise.nil, List.forall_mem_nil _, List.forall_mem_nil _, List.nodup_nil, List.forall_mem_nil _⟩

theorem sublist (h : Allocated server peers) {fewer : List WgPeer} (hsub : fewer.Sublist peers) :
    Allocated server fewer :=
  ⟨h.rising.sublist hsub, fun peer hpeer => h.above peer (hsub.subset hpeer),
    fun peer hpeer => h.octet peer (hsub.subset hpeer), h.keys.sublist (hsub.map _),
    fun peer hpeer => h.own peer (hsub.subset hpeer)⟩

theorem le_last (h : Allocated server peers) :
    server.subnetAddress.toNat ≤ ((peers.map WgPeer.address).getLastD server.subnetAddress).toNat ∧
      ∀ peer ∈ peers, peer.address.toNat ≤
        ((peers.map WgPeer.address).getLastD server.subnetAddress).toNat := by
  rcases List.eq_nil_or_concat peers with rfl | ⟨init, last, rfl⟩
  · exact ⟨le_refl _, List.forall_mem_nil _⟩
  · rw [List.concat_eq_append] at h ⊢
    have hlast : ((init ++ [last]).map WgPeer.address).getLastD server.subnetAddress = last.address := by
      rw [List.map_append, List.map_singleton, List.getLastD_concat]
    rw [hlast]
    refine ⟨(h.above last (List.mem_append_right _ List.mem_cons_self)).le, ?_⟩
    rw [List.forall_mem_append, List.forall_mem_singleton]
    have hrising := (List.pairwise_append.mp h.rising).2.2
    exact ⟨fun peer hpeer => (hrising peer hpeer last List.mem_cons_self).le, le_refl _⟩

theorem concat (h : Allocated server peers) {key : WgKey} (hkey : key ∉ peers.map WgPeer.key)
    (hown : key ≠ server.psk ∧ ¬ key.text <:+: server.interfaceSection) {address : BitVec 32}
    (haddress : address.toNat = ((peers.map WgPeer.address).getLastD server.subnetAddress).toNat +
      ascent ((peers.map WgPeer.address).getLastD server.subnetAddress).toNat) :
    Allocated server (peers ++ [⟨key, address⟩]) := by
  have hlt := lt_ascent ((peers.map WgPeer.address).getLastD server.subnetAddress).toNat
  rw [← haddress] at hlt
  obtain ⟨hsubnet, hpeers⟩ := h.le_last
  refine ⟨?_, ?_, ?_, ?_, ?_⟩
  · refine List.pairwise_append.mpr ⟨h.rising, List.pairwise_singleton _ _, fun peer hpeer next hnext => ?_⟩
    rw [List.mem_singleton.mp hnext]
    exact lt_of_le_of_lt (hpeers peer hpeer) hlt
  · exact List.forall_mem_append.mpr ⟨h.above, List.forall_mem_singleton.mpr (lt_of_le_of_lt hsubnet hlt)⟩
  · refine List.forall_mem_append.mpr ⟨h.octet, List.forall_mem_singleton.mpr ?_⟩
    rw [haddress]
    exact octet_ascent _
  · rw [List.map_append, List.map_singleton]
    exact List.Nodup.append h.keys (List.nodup_singleton _) (List.disjoint_singleton.mpr hkey)
  · exact List.forall_mem_append.mpr ⟨h.own, List.forall_mem_singleton.mpr hown⟩

end Allocated

namespace WgState

variable {s : WgState} {server : WgServer}

/-- The state is that of the peers, and they are allocated. -/
structure HoldsPeers (server : WgServer) (s : WgState) (peers : List WgPeer) : Prop where
  config : s.config = server.text peers
  clients : s.clients = peers.map WgPeer.key
  allocated : Allocated server peers

/-- What a creation can count on. The key is new: it is not the key of another client, and no key of the server. And
there is an address after the last one. -/
def Admissible (server : WgServer) (s : WgState) : WgEvent → Prop
  | .create clientPubKey _ =>
    (clientPubKey ∉ s.clients ∧ clientPubKey ≠ server.psk ∧ ¬ clientPubKey.text <:+: server.interfaceSection) ∧
      let lastIp := (getIpsFromConf (grepAllowedIPs s.config)).getLastD server.subnetAddress
      lastIp.toNat + ascent lastIp.toNat < 2 ^ 32
  | .revoke _ => True

/-- Each piece of the output ends with the end of a line. -/
def WholeLines : WgEvent → Prop
  | .create _ pieces => ∀ data ∈ pieces, ∃ line, data = line ++ ['\n']
  | .revoke _ => True

/-- The condition on each event of a run. -/
def Orderly (server : WgServer) (s : WgState) (event : WgEvent) : Prop := Admissible server s event ∧ WholeLines event

/-! ### Steps and runs -/

theorem create_config (server : WgServer) (s : WgState) (key : WgKey) (pieces : List (List Char)) :
    (s.create server key pieces).config =
      s.config ++ configPart server.psk key (nextIp server.subnetAddress (getIpsFromConf (stdOut pieces))) := rfl

variable {peers : List WgPeer} {key : WgKey} {pieces : List (List Char)}

theorem HoldsPeers.create (h : HoldsPeers server s peers) (hpieces : Pieces (grepAllowedIPs s.config) pieces)
    (horderly : Orderly server s (.create key pieces)) :
    HoldsPeers server (s.create server key pieces)
      (peers ++ [⟨key, nextIp server.subnetAddress (peers.map WgPeer.address)⟩]) := by
  obtain ⟨⟨⟨hkey, hown⟩, hfits⟩, hlines⟩ := horderly
  have hips : getIpsFromConf (grepAllowedIPs s.config) = peers.map WgPeer.address := by
    rw [h.config, getIpsFromConf_grep]
  have hread : getIpsFromConf (stdOut pieces) = peers.map WgPeer.address := by
    rw [getIpsFromConf_stdOut hlines, hpieces.1, hips]
  rw [hips] at hfits
  rw [h.clients] at hkey
  refine ⟨?_, ?_, h.allocated.concat hkey hown (toNat_nextIp hfits)⟩
  · rw [create_config, hread, h.config, text_concat]
  · change s.clients ++ [key] = _
    rw [h.clients, List.map_append, List.map_singleton]

theorem HoldsPeers.revoke (h : HoldsPeers server s peers) {row : ℕ} (hrow : s.clients[row]? = some key) :
    ∃ before peer after, peers = before ++ peer :: after ∧ peer.key = key ∧
      HoldsPeers server (s.revokeWireGuard row) (before ++ after) := by
  rw [h.clients, List.getElem?_map, Option.map_eq_some_iff] at hrow
  obtain ⟨peer, hpeer, rfl⟩ := hrow
  obtain ⟨hlt, hget⟩ := List.getElem?_eq_some_iff.mp hpeer
  have hsplit : peers = peers.take row ++ peer :: peers.drop (row + 1) := by
    rw [← hget, ← List.drop_eq_getElem_cons hlt, List.take_append_drop]
  have hmem : peer ∈ peers := List.mem_of_getElem? hpeer
  have hbefore : ∀ other ∈ peers.take row, peer.key ≠ other.key := by
    have hnodup := h.allocated.keys
    rw [hsplit, List.map_append, List.map_cons, List.nodup_append] at hnodup
    intro other hother heq
    exact hnodup.2.2 other.key (List.mem_map_of_mem hother) peer.key List.mem_cons_self heq.symm
  have hstate : s = ⟨server.text (peers.take row ++ peer :: peers.drop (row + 1)), peers.map WgPeer.key⟩ := by
    rw [← hsplit, ← h.config, ← h.clients]
  have hrow : (peers.map WgPeer.key)[row]? = some peer.key := by
    rw [List.getElem?_map, hpeer]
    rfl
  obtain ⟨hpsk, hinterface⟩ := h.allocated.own peer hmem
  have hrevoked : s.revokeWireGuard row =
      ⟨server.text (peers.take row ++ peers.drop (row + 1)), (peers.map WgPeer.key).eraseIdx row⟩ := by
    rw [hstate]
    exact revokeWireGuard_text hrow hinterface hpsk hbefore
  refine ⟨peers.take row, peer, peers.drop (row + 1), hsplit, rfl, ?_, ?_, ?_⟩
  · rw [hrevoked]
  · rw [hrevoked, List.eraseIdx_eq_take_drop_succ, List.map_append, List.map_take, List.map_drop]
  · refine h.allocated.sublist ?_
    rw [← List.eraseIdx_eq_take_drop_succ]
    exact List.eraseIdx_sublist _ _

theorem step_create (server : WgServer) (h : Pieces (grepAllowedIPs s.config) pieces) :
    step server s (.create key pieces) = some (s.create server key pieces) := if_pos h

theorem holdsPeers_step (s : WgState) (event : WgEvent) (t : WgState) (h : ∃ peers, HoldsPeers server s peers)
    (horderly : Orderly server s event) (hstep : step server s event = some t) :
    ∃ peers, HoldsPeers server t peers := by
  obtain ⟨peers, hpeers⟩ := h
  cases event with
  | create key pieces =>
    obtain ⟨hpieces, hnext⟩ := Option.ite_none_right_eq_some.mp hstep
    cases hnext
    exact ⟨_, hpeers.create hpieces horderly⟩
  | revoke row =>
    cases hstep
    cases hrow : s.clients[row]? with
    | none =>
      have hsame : s.revokeWireGuard row = s := by
        rw [revokeWireGuard, hrow]
      rw [hsame]
      exact ⟨peers, hpeers⟩
    | some key =>
      obtain ⟨before, peer, after, -, -, hrevoked⟩ := hpeers.revoke hrow
      exact ⟨_, hrevoked⟩

theorem holdsPeers_initial (server : WgServer) : HoldsPeers server (initial server) [] := by
  refine ⟨?_, rfl, Allocated.nil server⟩
  rw [text, List.flatMap_nil, List.append_nil]
  rfl

theorem holdsPeers_run {events : List WgEvent}
    (hmeets : Meets (step server) (Orderly server) (initial server) events)
    (hrun : run (step server) (initial server) events = some s) : ∃ peers, HoldsPeers server s peers := by
  exact run_invariant_of_meets holdsPeers_step ⟨[], holdsPeers_initial server⟩ hmeets hrun

end WgState

/-! ### Creating clients one after the other -/

/-- The line of a peer that the first command on the server finds. -/
def WgPeer.allowedLine (peer : WgPeer) : List Char :=
  "AllowedIPs = ".toList ++ (Ipv4.chars peer.address ++ "/32".toList)

theorem WgPeer.length_allowedLine_le (peer : WgPeer) : peer.allowedLine.length ≤ 31 := by
  have hlen := Ipv4.length_chars_le peer.address
  change ("AllowedIPs = ".toList ++ (Ipv4.chars peer.address ++ "/32".toList)).length ≤ 31
  rw [List.length_append, List.length_append]
  change 13 + ((Ipv4.chars peer.address).length + 3) ≤ 31
  omega

namespace WgServer

variable {server : WgServer}

/-- No key of the server has the word that the command looks for, and there are no other lines. -/
structure Quiet (server : WgServer) : Prop where
  privateKey : 'w' ∉ server.privateKey.text
  psk : 'w' ∉ server.psk.text
  extra : server.extra = []

theorem containsChars_of_not_mem {line : List Char} (h : 'w' ∉ line) :
    ¬ containsChars "AllowedIPs".toList line = true := by
  rw [containsChars_iff]
  exact not_infix_of_mem (by decide) h

theorem filter_interfaceLines (h : server.Quiet) :
    (server.interfaceLines.filter fun line => containsChars "AllowedIPs".toList line) = [] := by
  refine List.filter_eq_nil_iff.mpr fun line hline => containsChars_of_not_mem ?_
  revert line
  rw [interfaceLines, List.forall_mem_cons, interfaceBody, h.extra, List.append_nil, List.forall_mem_cons,
    List.forall_mem_cons, List.forall_mem_singleton]
  refine ⟨by decide, ?_, ?_, ?_⟩
  · exact List.not_mem_append (by decide) h.privateKey
  · refine List.not_mem_append (by decide) (List.not_mem_append ?_ ?_)
    · exact Ipv4.not_mem_chars (by decide) (by decide) _
    · exact List.not_mem_cons_of_ne_of_not_mem (by decide) (Decimal.not_mem_render (by decide) _)
  · exact List.not_mem_append (by decide) (Decimal.not_mem_render (by decide) _)

theorem filter_peerLines (h : server.Quiet) {peer : WgPeer} (hkey : 'w' ∉ peer.key.text) :
    ((server.peerLines peer).filter fun line => containsChars "AllowedIPs".toList line) = [peer.allowedLine] := by
  have hallowed : containsChars "AllowedIPs".toList peer.allowedLine = true :=
    (containsChars_iff _ _).mpr (List.prefix_append "AllowedIPs".toList _).isInfix
  rw [peerLines, peerBody, List.filter_cons_of_neg (by decide),
    List.filter_cons_of_neg (containsChars_of_not_mem (List.not_mem_append (by decide) hkey)),
    List.filter_cons_of_neg (containsChars_of_not_mem (List.not_mem_append (by decide) h.psk))]
  exact List.filter_cons_of_pos hallowed

theorem grepAllowedIPs_text (h : server.Quiet) {peers : List WgPeer} (hkeys : ∀ peer ∈ peers, 'w' ∉ peer.key.text) :
    grepAllowedIPs (server.text peers) = unlines '\n' (peers.map WgPeer.allowedLine) := by
  have hpeers : ((peers.flatMap server.peerLines).filter fun line => containsChars "AllowedIPs".toList line) =
      peers.map WgPeer.allowedLine := by
    rw [List.filter_flatMap, List.map_eq_flatMap]
    exact List.flatMap_congr fun peer hpeer => filter_peerLines h (hkeys peer hpeer)
  rw [grepAllowedIPs, text, splitOn_unlines (server.newline_not_mem peers), List.filter_append, List.filter_append,
    filter_interfaceLines h, hpeers]
  exact congrArg _ (List.append_nil _)

def enrol (server : WgServer) (peers : List WgPeer) (key : WgKey) : List WgPeer :=
  peers ++ [⟨key, nextIp server.subnetAddress (peers.map WgPeer.address)⟩]

/-- Creating a client where each line of the output is a piece. -/
def enrolment (peers : List WgPeer) (key : WgKey) : WgEvent :=
  .create key ((peers.map WgPeer.allowedLine).map (· ++ ['\n']))

def enrolments (server : WgServer) : List WgPeer → List WgKey → List WgEvent
  | _, [] => []
  | peers, key :: keys => enrolment peers key :: server.enrolments (server.enrol peers key) keys

end WgServer

namespace WgState

variable {keys : List WgKey} {server : WgServer} {peers : List WgPeer}

/-- Keys that can be given to new clients one after the other. -/
structure Enrollable (server : WgServer) (peers : List WgPeer) (keys : List WgKey) : Prop where
  nodup : (peers.map WgPeer.key ++ keys).Nodup
  quiet : ∀ key ∈ peers.map WgPeer.key ++ keys, 'w' ∉ key.text
  own : ∀ key ∈ keys, key ≠ server.psk ∧ ¬ key.text <:+: server.interfaceSection
  fits : ((peers.map WgPeer.address).getLastD server.subnetAddress).toNat + 3 * keys.length < 2 ^ 32

variable {key : WgKey} {s : WgState}

theorem Enrollable.tail (h : Enrollable server peers (key :: keys)) :
    Enrollable server (server.enrol peers key) keys := by
  have hkeys : (server.enrol peers key).map WgPeer.key ++ keys = peers.map WgPeer.key ++ key :: keys := by
    rw [enrol, List.map_append, List.map_singleton, List.append_assoc, List.singleton_append]
  have hlast : ((server.enrol peers key).map WgPeer.address).getLastD server.subnetAddress =
      nextIp server.subnetAddress (peers.map WgPeer.address) := by
    rw [enrol, List.map_append, List.map_singleton, List.getLastD_concat]
  have hfits := h.fits
  rw [List.length_cons] at hfits
  have hle := ascent_le ((peers.map WgPeer.address).getLastD server.subnetAddress).toNat
  refine ⟨?_, ?_, fun other hother => h.own other (List.mem_cons_of_mem _ hother), ?_⟩
  · rw [hkeys]
    exact h.nodup
  · rw [hkeys]
    exact h.quiet
  · rw [hlast, toNat_nextIp (by omega)]
    omega

theorem admissible_enrolment (h : HoldsPeers server s peers) (hkeys : Enrollable server peers (key :: keys))
    (pieces : List (List Char)) : Admissible server s (.create key pieces) := by
  have hfits := hkeys.fits
  rw [List.length_cons] at hfits
  have hle := ascent_le ((peers.map WgPeer.address).getLastD server.subnetAddress).toNat
  refine ⟨⟨?_, hkeys.own key List.mem_cons_self⟩, ?_⟩
  · rw [h.clients]
    exact fun hmem => (List.nodup_append.mp hkeys.nodup).2.2 key hmem key List.mem_cons_self rfl
  · rw [h.config, getIpsFromConf_grep]
    exact lt_of_le_of_lt (Nat.add_le_add_left hle _) (by omega)

theorem step_enrolment (hquiet : server.Quiet) (h : HoldsPeers server s peers)
    (hkeys : Enrollable server peers (key :: keys)) :
    Orderly server s (WgServer.enrolment peers key) ∧
      ∃ t, step server s (WgServer.enrolment peers key) = some t ∧ HoldsPeers server t (server.enrol peers key) := by
  have houtput : grepAllowedIPs s.config = unlines '\n' (peers.map WgPeer.allowedLine) := by
    rw [h.config]
    refine grepAllowedIPs_text hquiet fun peer hpeer => hkeys.quiet peer.key ?_
    exact List.mem_append_left _ (List.mem_map_of_mem hpeer)
  have hpieces : Pieces (grepAllowedIPs s.config) ((peers.map WgPeer.allowedLine).map (· ++ ['\n'])) := by
    refine ⟨houtput.symm ▸ List.flatMap_def.symm, ?_⟩
    rw [List.forall_mem_map, List.forall_mem_map]
    refine fun peer _ => ⟨List.append_ne_nil_of_right_ne_nil _ (List.cons_ne_nil _ _), ?_⟩
    rw [List.length_append, List.length_singleton]
    exact Nat.succ_le_succ (le_trans peer.length_allowedLine_le (by decide))
  have hlines : ∀ data ∈ (peers.map WgPeer.allowedLine).map (· ++ ['\n']), ∃ line, data = line ++ ['\n'] :=
    List.forall_mem_map.mpr fun line _ => ⟨line, rfl⟩
  have horderly : Orderly server s (enrolment peers key) := ⟨admissible_enrolment h hkeys _, hlines⟩
  exact ⟨horderly, _, step_create server hpieces, h.create hpieces horderly⟩

theorem run_enrolments (hquiet : server.Quiet) (keys : List WgKey) (h : HoldsPeers server s peers) {last : List WgKey}
    (hkeys : Enrollable server peers (keys ++ last)) :
    Meets (step server) (Orderly server) s (server.enrolments peers keys) ∧
      ∃ t, run (step server) s (server.enrolments peers keys) = some t ∧
        HoldsPeers server t (keys.foldl server.enrol peers) ∧
        Enrollable server (keys.foldl server.enrol peers) last := by
  induction keys generalizing s peers with
  | nil => exact ⟨trivial, s, rfl, h, hkeys⟩
  | cons key keys ih =>
    obtain ⟨horderly, t, hstep, ht⟩ := step_enrolment hquiet h hkeys
    obtain ⟨hmeets, u, hrun, hu⟩ := ih ht hkeys.tail
    refine ⟨⟨horderly, fun next hnext => ?_⟩, u, (run_cons_eq_some _).mpr ⟨t, hstep, hrun⟩, hu⟩
    cases hstep.symm.trans hnext
    exact hmeets

end WgState

def numberedKey (tens units : Fin 10) : WgKey where
  text := List.replicate 40 'A' ++ [Nat.digitChar tens, Nat.digitChar units, 'A', '=']
  length_eq := rfl
  base64 := by
    refine List.all_eq_true.mp ?_
    revert tens units
    decide

def uniformKey (c : Char) (h : isBase64 c = true) : WgKey where
  text := List.replicate 42 c ++ ['A', '=']
  length_eq := by rw [List.length_append, List.length_replicate]; rfl
  base64 := by
    refine List.forall_mem_append.mpr ⟨fun d hd => ?_, List.all_eq_true.mp rfl⟩
    rw [List.eq_of_mem_replicate hd]
    exact h

def defaultServer : WgServer where
  privateKey := uniformKey 'B' (by decide)
  psk := uniformKey 'C' (by decide)
  subnetAddress := 0x0a080100#32
  subnetCidr := 24
  port := 51820
  extra := []
  extra_plain := List.forall_mem_nil _
  extra_allowed := List.forall_mem_nil _

theorem quiet_defaultServer : defaultServer.Quiet := ⟨by decide, by decide, rfl⟩

def numberedKeys : List WgKey :=
  ((List.finRange 10).flatMap fun tens => (List.finRange 10).map (numberedKey tens)).take 81

theorem enrollable_numberedKeys : WgState.Enrollable defaultServer [] numberedKeys := by
  refine ⟨?_, ?_, ?_, by decide +kernel⟩
  · have htexts : (numberedKeys.map fun key => key.text.drop 40).Nodup := by decide +kernel
    exact htexts.of_map _
  · decide +kernel
  · have hkeys : ∀ key ∈ numberedKeys, key.text ≠ defaultServer.psk.text ∧
        ¬ containsChars key.text defaultServer.interfaceSection = true := by decide +kernel
    intro key hkey
    obtain ⟨hpsk, hinterface⟩ := hkeys key hkey
    exact ⟨fun heq => hpsk (heq ▸ rfl), fun hoccurs => hinterface ((containsChars_iff _ _).mpr hoccurs)⟩

/-! ### Whole runs -/

namespace WgState

/-- **Addresses are never shared.** In every run of creations and revocations in which keys are new, addresses do not
run out and the output of the server comes in whole lines, the peers in the configuration have different addresses,
none ends in 0 or 255 and none is that of the server; and a revocation takes the section of the client out of the
configuration and leaves the rest as it is. -/
theorem addresses_never_shared (server : WgServer) {events : List WgEvent} {s : WgState}
    (hmeets : Meets (step server) (Orderly server) (initial server) events)
    (hrun : run (step server) (initial server) events = some s) :
    ∃ peers, s.config = server.text peers ∧ s.clients = peers.map WgPeer.key ∧ (peers.map WgPeer.address).Nodup ∧
      (∀ peer ∈ peers, peer.address.toNat % 256 ≠ 0 ∧ peer.address.toNat % 256 ≠ 255 ∧
        peer.address ≠ server.subnetAddress) ∧
      ∀ row key, s.clients[row]? = some key → ∃ front address back,
        s.config = front ++ configPart server.psk key address ++ back ∧
          (s.revokeWireGuard row).config = front ++ back := by
  obtain ⟨peers, hpeers⟩ := holdsPeers_run hmeets hrun
  refine ⟨peers, hpeers.config, hpeers.clients, ?_, fun peer hpeer => ?_, fun row key hrow => ?_⟩
  · refine List.Pairwise.map _ ?_ hpeers.allocated.rising
    rintro peer next hlt heq
    rw [heq] at hlt
    exact lt_irrefl _ hlt
  · obtain ⟨hzero, hlast⟩ := hpeers.allocated.octet peer hpeer
    refine ⟨hzero, hlast, fun heq => ?_⟩
    have habove := hpeers.allocated.above peer hpeer
    rw [heq] at habove
    exact lt_irrefl _ habove
  · obtain ⟨before, peer, after, rfl, rfl, hrevoked⟩ := hpeers.revoke hrow
    refine ⟨server.text before, peer.address, unlines '\n' (after.flatMap server.peerLines), ?_, ?_⟩
    · rw [hpeers.config, ← text_concat, ← text_append, List.append_assoc, List.singleton_append]
    · rw [hrevoked.config, text_append]

theorem addresses_never_shared_of_two :
    ∃ s, run (step defaultServer) (initial defaultServer) (defaultServer.enrolments [] (numberedKeys.take 2)) =
        some s ∧ s.clients[0]? = some (numberedKey 0 0) ∧
      ∃ front address back, s.config = front ++ configPart defaultServer.psk (numberedKey 0 0) address ++ back ∧
        (s.revokeWireGuard 0).config = front ++ back := by
  have hkeys : Enrollable defaultServer [] (numberedKeys.take 2 ++ numberedKeys.drop 2) := by
    exact enrollable_numberedKeys
  obtain ⟨hmeets, s, hrun, hs, -⟩ :=
    run_enrolments quiet_defaultServer (numberedKeys.take 2) (holdsPeers_initial defaultServer) hkeys
  have hrow : s.clients[0]? = some (numberedKey 0 0) := by
    rw [hs.clients]
    rfl
  obtain ⟨peers, -, -, -, -, hrevoke⟩ := addresses_never_shared defaultServer hmeets hrun
  exact ⟨s, hrun, hrow, hrevoke 0 _ hrow⟩

end WgState

def eightyPeers : List WgPeer := (numberedKeys.take 80).foldl defaultServer.enrol []

def eightyPieces : List (List Char) :=
  let output := unlines '\n' (eightyPeers.map WgPeer.allowedLine)
  [output.take 2048, output.drop 2048]

theorem nextIp_eightyPieces :
    nextIp defaultServer.subnetAddress (getIpsFromConf (stdOut eightyPieces)) = 0x0a080150#32 := by
  decide +kernel

namespace WgState

/-- After eighty clients the output is longer than the buffer, its last line is read in two pieces, and the next
client gets the address of the eightieth. -/
theorem address_shared_by_two_clients :
    ∃ events s, run (step defaultServer) (initial defaultServer) events = some s ∧
      Meets (step defaultServer) (Admissible defaultServer) (initial defaultServer) events ∧
      ∃ peers, s.config = defaultServer.text peers ∧ ¬ (peers.map WgPeer.address).Nodup := by
  have hkeys : Enrollable defaultServer [] (numberedKeys.take 80 ++ numberedKeys.drop 80) := by
    exact enrollable_numberedKeys
  obtain ⟨hmeets, t, hrun, ht, hlast⟩ :=
    run_enrolments quiet_defaultServer (numberedKeys.take 80) (holdsPeers_initial defaultServer) hkeys
  have houtput : grepAllowedIPs t.config = unlines '\n' (eightyPeers.map WgPeer.allowedLine) := by
    rw [ht.config]
    refine grepAllowedIPs_text quiet_defaultServer fun peer hpeer => hlast.quiet peer.key ?_
    exact List.mem_append_left _ (List.mem_map_of_mem hpeer)
  have hpieces : Pieces (grepAllowedIPs t.config) eightyPieces := by
    rw [houtput]
    decide +kernel
  have hstep : step defaultServer t (.create (numberedKey 8 0) eightyPieces) =
      some (t.create defaultServer (numberedKey 8 0) eightyPieces) := step_create _ hpieces
  refine ⟨_, _, (run_concat_eq_some _).mpr ⟨t, hrun, hstep⟩, ?_,
    eightyPeers ++ [⟨numberedKey 8 0, 0x0a080150#32⟩], ?_, by decide +kernel⟩
  · refine meets_concat.mpr ⟨hmeets.mono fun _ _ => And.left, fun u hu => ?_⟩
    cases hrun.symm.trans hu
    exact admissible_enrolment ht hlast _
  · have hconfig : t.config = defaultServer.text eightyPeers := ht.config
    rw [create_config, text_concat, nextIp_eightyPieces, hconfig]

end WgState

end FreshVpn
