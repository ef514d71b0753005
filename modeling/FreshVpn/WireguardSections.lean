import FreshVpn.WireguardPeers

/-! The configuration as a list of sections. A key is found in the section of its peer only, so that a revocation takes
away that section and leaves the others as they are. -/

namespace FreshVpn

open Lines WireguardConfigurator WgKey

/-! ### The sections -/

namespace WgServer

def interfaceSection (server : WgServer) : List Char := unlines '\n' ("Interface]".toList :: server.interfaceBody)

def peerSection (server : WgServer) (peer : WgPeer) : List Char :=
  unlines '\n' ("Peer]".toList :: server.peerBody peer)

variable (server : WgServer) (peers : List WgPeer)

theorem text_eq_sections :
    server.text peers = sections '[' (server.interfaceSection :: peers.map server.peerSection) := by
  have hpeers : unlines '\n' (peers.flatMap server.peerLines) = sections '[' (peers.map server.peerSection) := by
    induction peers with
    | nil => rfl
    | cons peer rest ih =>
      rw [List.flatMap_cons, unlines_append, ih, List.map_cons, sections_cons, ← List.cons_append]
      rfl
  rw [text, unlines_append, hpeers, sections_cons, ← List.cons_append]
  rfl

theorem bracket_not_mem : ∀ part ∈ server.interfaceSection :: peers.map server.peerSection, '[' ∉ part := by
  rw [List.forall_mem_cons, List.forall_mem_map]
  refine ⟨not_mem_unlines (by decide) ?_, fun peer _ => not_mem_unlines (by decide) ?_⟩
  · rw [List.forall_mem_cons]
    exact ⟨by decide, fun line hline => not_mem_of_plain (server.plain_interfaceBody line hline) (by decide)⟩
  · rw [List.forall_mem_cons]
    exact ⟨by decide, fun line hline => not_mem_of_plain (server.plain_peerBody peer line hline) (by decide)⟩

theorem split_text :
    ((server.text peers).splitOn '[').filter (fun part => part ≠ []) =
      server.interfaceSection :: peers.map server.peerSection := by
  rw [text_eq_sections, splitOn_sections (server.bracket_not_mem peers), List.filter_cons_of_neg (by decide)]
  refine List.filter_eq_self.mpr ?_
  rw [List.forall_mem_cons, List.forall_mem_map]
  exact ⟨rfl, fun peer _ => rfl⟩

end WgServer

/-! ### The keys in the sections -/

namespace WgKey

variable {key : WgKey}

theorem not_infix_of_length {word : List Char} (h : word.length < 44) : ¬ key.text <:+: word := by
  intro hoccurs
  have hle := hoccurs.length_le
  rw [key.length_eq] at hle
  omega

theorem infix_key_iff {other : WgKey} : key.text <:+: other.text ↔ key = other := by
  constructor
  · intro hoccurs
    exact ext (hoccurs.eq_of_length (by rw [key.length_eq, other.length_eq]))
  · rintro rfl
    exact List.infix_refl _

theorem not_infix_setting (name value : List Char) (hname : name.length < 44) (hvalue : ¬ key.text <:+: value) :
    ¬ key.text <:+: name ++ ' ' :: (['='] ++ ' ' :: value) := by
  have hblank : ' ' ∉ key.text := not_mem (by decide)
  intro hoccurs
  rcases infix_or_infix hblank hoccurs with hin | hin
  · exact not_infix_of_length hname hin
  · rcases infix_or_infix hblank hin with hin | hin
    · exact not_infix_of_length (by decide) hin
    · exact hvalue hin

end WgKey

namespace WgServer

theorem key_infix_peerSection (server : WgServer) (peer : WgPeer) : peer.key.text <:+: server.peerSection peer := by
  refine ⟨"Peer]\nPublicKey = ".toList, '\n' :: unlines '\n' (server.peerBody peer).tail, ?_⟩
  have hfront : "Peer]\nPublicKey = ".toList = "Peer]".toList ++ '\n' :: "PublicKey = ".toList := by decide
  change "Peer]\nPublicKey = ".toList ++ peer.key.text ++ '\n' :: unlines '\n' (server.peerBody peer).tail =
    unlines '\n' ("Peer]".toList :: ("PublicKey = ".toList ++ peer.key.text) :: (server.peerBody peer).tail)
  simp only [hfront, unlines_cons, List.append_assoc, List.cons_append]

theorem not_infix_peerSection {server : WgServer} {peer : WgPeer} {key : WgKey} (hkey : key ≠ peer.key)
    (hpsk : key ≠ server.psk) : ¬ key.text <:+: server.peerSection peer := by
  have hne : key.text ≠ [] := by
    intro hnil
    have hlen := key.length_eq
    rw [hnil] at hlen
    cases hlen
  refine not_infix_unlines (not_mem (by decide)) hne ?_
  rw [List.forall_mem_cons, peerBody, List.forall_mem_cons, List.forall_mem_cons, List.forall_mem_cons,
    List.forall_mem_singleton]
  refine ⟨?_, ?_, ?_, ?_, ?_⟩
  · exact not_infix_of_length (by decide)
  · exact not_infix_setting "PublicKey".toList _ (by decide) fun h => hkey (infix_key_iff.mp h)
  · exact not_infix_setting "PresharedKey".toList _ (by decide) fun h => hpsk (infix_key_iff.mp h)
  · have hlen := Ipv4.length_chars_le peer.address
    have hshort : (Ipv4.chars peer.address ++ "/32".toList).length < 44 := by
      rw [List.length_append]
      change (Ipv4.chars peer.address).length + 3 < 44
      omega
    exact not_infix_setting "AllowedIPs".toList (Ipv4.chars peer.address ++ "/32".toList) (by decide)
      (not_infix_of_length hshort)
  · exact not_infix_of_length (by decide)

theorem revokeWireGuard_text {server : WgServer} {before after : List WgPeer} {peer : WgPeer} {clients : List WgKey}
    {row : ℕ} (hrow : clients[row]? = some peer.key) (hinterface : ¬ peer.key.text <:+: server.interfaceSection)
    (hpsk : peer.key ≠ server.psk) (hbefore : ∀ other ∈ before, peer.key ≠ other.key) :
    WgState.revokeWireGuard ⟨server.text (before ++ peer :: after), clients⟩ row =
      ⟨server.text (before ++ after), clients.eraseIdx row⟩ := by
  have hsections : server.interfaceSection :: (before ++ peer :: after).map server.peerSection =
      (server.interfaceSection :: before.map server.peerSection) ++
        server.peerSection peer :: after.map server.peerSection := by
    rw [List.map_append, List.map_cons, List.cons_append]
  have hfront : ∀ part ∈ server.interfaceSection :: before.map server.peerSection, ¬ peer.key.text <:+: part := by
    rw [List.forall_mem_cons, List.forall_mem_map]
    exact ⟨hinterface, fun other hother => not_infix_peerSection (hbefore other hother) hpsk⟩
  have hfind : ((server.interfaceSection :: before.map server.peerSection) ++
      server.peerSection peer :: after.map server.peerSection).find? (fun part => containsChars peer.key.text part) =
        some (server.peerSection peer) := by
    rw [List.find?_append, List.find?_eq_none.mpr fun part hpart hcontains =>
      hfront part hpart ((containsChars_iff _ _).mp hcontains), Option.none_or, List.find?_cons_of_pos]
    exact (containsChars_iff _ _).mpr (server.key_infix_peerSection peer)
  have hnotMem : server.peerSection peer ∉ server.interfaceSection :: before.map server.peerSection :=
    fun hmem => hfront _ hmem (server.key_infix_peerSection peer)
  unfold WgState.revokeWireGuard
  rw [hrow]
  dsimp only
  rw [split_text, hsections, hfind]
  dsimp only
  rw [List.erase_append_right _ hnotMem, List.erase_cons_head, List.cons_append, ← List.map_append,
    cons_intercalate '[' (List.cons_ne_nil _ _), ← text_eq_sections]

end WgServer

end FreshVpn
