import FreshVpn.WireguardServer

/-! The configuration as a list of peers. The expression finds the addresses of the peers in the lines of the text,
in their order, if no piece of the output ends within a line. -/

namespace FreshVpn

open Lines Decimal

theorem containsChars_iff (needle text : List Char) : containsChars needle text = true ↔ needle <:+: text := by
  induction text with
  | nil => rw [containsChars, List.isEmpty_iff, List.infix_nil]
  | cons c rest ih => rw [containsChars, Bool.or_eq_true, ih, List.isPrefixOf_iff_prefix, List.infix_cons_iff]

/-! ### The addresses in a text -/

namespace WireguardConfigurator

variable (text rest : List Char)

theorem takeWhile_isDigit_newline : (text ++ '\n' :: rest).takeWhile Char.isDigit = text.takeWhile Char.isDigit := by
  induction text with
  | nil => rfl
  | cons c text ih =>
    rw [List.cons_append, List.takeWhile_cons, List.takeWhile_cons, ih]

theorem dropWhile_isDigit_newline :
    (text ++ '\n' :: rest).dropWhile Char.isDigit = text.dropWhile Char.isDigit ++ '\n' :: rest := by
  induction text with
  | nil => rfl
  | cons c text ih =>
    rw [List.cons_append, List.dropWhile_cons, List.dropWhile_cons, ih]
    split_ifs
    · rfl
    · rfl

theorem dotted_newline (n : ℕ) (text rest : List Char) : dotted n (text ++ '\n' :: rest) = dotted n text := by
  induction n generalizing text with
  | zero => rw [dotted, dotted, takeWhile_isDigit_newline]
  | succ n ih =>
    rw [dotted, dotted, takeWhile_isDigit_newline, dropWhile_isDigit_newline]
    cases text.dropWhile Char.isDigit with
    | nil => rfl
    | cons c tail =>
      dsimp only [List.cons_append]
      rw [ih]

theorem captured_newline : captured (text ++ '\n' :: rest) = captured text := by
  have hstarts : "AllowedIPs = ".toList <+: text ++ '\n' :: rest ↔ "AllowedIPs = ".toList <+: text :=
    prefix_append_cons (by decide)
  rw [captured, captured]
  by_cases h : "AllowedIPs = ".toList <+: text
  · obtain ⟨tail, rfl⟩ := h
    exact dotted_newline 3 tail rest
  · rw [if_neg (fun h' => h (hstarts.mp h')), if_neg h]

theorem getIpsFromConf_newline :
    getIpsFromConf (text ++ '\n' :: rest) = getIpsFromConf text ++ getIpsFromConf rest := by
  induction text with
  | nil => rfl
  | cons c text ih =>
    have hfirst : captured (c :: (text ++ '\n' :: rest)) = captured (c :: text) := captured_newline (c :: text) rest
    rw [List.cons_append, getIpsFromConf, getIpsFromConf, ih, hfirst, List.append_assoc]

theorem getIpsFromConf_unlines (lines : List (List Char)) :
    getIpsFromConf (unlines '\n' lines) = lines.flatMap getIpsFromConf := by
  induction lines with
  | nil => rfl
  | cons line rest ih => rw [unlines_cons, getIpsFromConf_newline, ih, List.flatMap_cons]

/-! ### The addresses in a line -/

variable {c : Char}

theorem span_render (m : ℕ) (hc : c.isDigit = false) (rest : List Char) :
    (render m ++ c :: rest).takeWhile Char.isDigit = render m ∧
      (render m ++ c :: rest).dropWhile Char.isDigit = c :: rest := by
  have hdigits : ∀ d ∈ render m, d.isDigit = true := fun d hd => isDigit_of_mem_render hd
  have hstop : ¬ c.isDigit = true := Bool.eq_false_iff.mp hc
  rw [List.takeWhile_append_of_pos hdigits, List.dropWhile_append_of_pos hdigits, List.takeWhile_cons_of_neg hstop,
    List.dropWhile_cons_of_neg hstop, List.append_nil]
  exact ⟨rfl, rfl⟩

theorem dotted_zero_render (m : ℕ) (hc : c.isDigit = false) (rest : List Char) :
    dotted 0 (render m ++ c :: rest) = some (render m) := by
  rw [dotted, (span_render m hc rest).1]
  exact if_neg (render_ne_nil m)

theorem dotted_succ_render (n m : ℕ) (rest : List Char) :
    dotted (n + 1) (render m ++ '.' :: rest) =
      (dotted n rest).map fun others => render m ++ '.' :: others := by
  obtain ⟨htake, hdrop⟩ := span_render m (by decide : '.'.isDigit = false) rest
  rw [dotted, htake, hdrop]
  dsimp only
  rw [if_neg (render_ne_nil m), if_pos rfl]

theorem dotted_chars (a : BitVec 32) (hc : c.isDigit = false) (rest : List Char) :
    dotted 3 (Ipv4.chars a ++ c :: rest) = some (Ipv4.chars a) := by
  rw [Ipv4.chars_eq, List.append_assoc, List.cons_append, List.append_assoc, List.cons_append, List.append_assoc,
    List.cons_append, dotted_succ_render, dotted_succ_render, dotted_succ_render, dotted_zero_render _ hc]
  rfl

theorem getIpsFromConf_of_not_infix {line : List Char} (h : ¬ "AllowedIPs = ".toList <:+: line) :
    getIpsFromConf line = [] := by
  induction line with
  | nil => rfl
  | cons c rest ih =>
    rw [List.infix_cons_iff, not_or] at h
    have hnone : captured (c :: rest) = none := if_neg h.1
    rw [getIpsFromConf, hnone, ih h.2]
    rfl

theorem getIpsFromConf_allowed (a : BitVec 32) :
    getIpsFromConf ("AllowedIPs = ".toList ++ (Ipv4.chars a ++ "/32".toList)) = [a] := by
  have hcaptured : captured ("AllowedIPs = ".toList ++ (Ipv4.chars a ++ "/32".toList)) = some (Ipv4.chars a) := by
    exact dotted_chars a (by decide) _
  have hrest : 'A' ∉ "llowedIPs = ".toList ++ (Ipv4.chars a ++ "/32".toList) := by
    rw [List.mem_append, List.mem_append, not_or, not_or]
    exact ⟨by decide, Ipv4.not_mem_chars (by decide) (by decide) a, by decide⟩
  have hothers := getIpsFromConf_of_not_infix (not_infix_of_mem (by decide : 'A' ∈ "AllowedIPs = ".toList) hrest)
  change ((captured ("AllowedIPs = ".toList ++ (Ipv4.chars a ++ "/32".toList))).bind Ipv4.read).toList ++
    getIpsFromConf ("llowedIPs = ".toList ++ (Ipv4.chars a ++ "/32".toList)) = [a]
  rw [hcaptured, hothers, Option.bind_some, Ipv4.read_chars]
  rfl

/-! ### The pieces of the output -/

/-- A line break after each piece does no harm where the piece ends with one. -/
theorem getIpsFromConf_stdOut {pieces : List (List Char)} (h : ∀ data ∈ pieces, ∃ line, data = line ++ ['\n']) :
    getIpsFromConf (stdOut pieces) = getIpsFromConf pieces.flatten := by
  induction pieces with
  | nil => rfl
  | cons data rest ih =>
    obtain ⟨⟨line, rfl⟩, hrest⟩ := List.forall_mem_cons.mp h
    have hout : stdOut ((line ++ ['\n']) :: rest) = line ++ '\n' :: ([] ++ '\n' :: stdOut rest) := by
      simp [stdOut]
    have hflat : ((line ++ ['\n']) :: rest).flatten = line ++ '\n' :: rest.flatten := by simp
    rw [hout, hflat, getIpsFromConf_newline, getIpsFromConf_newline, getIpsFromConf_newline, ih hrest]
    rfl

end WireguardConfigurator

/-! ### The text of a list of peers -/

structure WgPeer where
  key : WgKey
  address : BitVec 32

namespace WgServer

open WireguardConfigurator

def peerBody (server : WgServer) (peer : WgPeer) : List (List Char) :=
  ["PublicKey = ".toList ++ peer.key.text, "PresharedKey = ".toList ++ server.psk.text,
    "AllowedIPs = ".toList ++ (Ipv4.chars peer.address ++ "/32".toList), []]

def peerLines (server : WgServer) (peer : WgPeer) : List (List Char) := "[Peer]".toList :: server.peerBody peer

def text (server : WgServer) (peers : List WgPeer) : List Char :=
  unlines '\n' (server.interfaceLines ++ peers.flatMap server.peerLines)

variable (server : WgServer) (peers : List WgPeer) (peer : WgPeer)

theorem configPart_eq : configPart server.psk peer.key peer.address = unlines '\n' (server.peerLines peer) := by
  have hpublic : "[Peer]\nPublicKey = ".toList = "[Peer]".toList ++ '\n' :: "PublicKey = ".toList := by decide
  have hpsk : "\nPresharedKey = ".toList = '\n' :: "PresharedKey = ".toList := by decide
  have hallowed : "\nAllowedIPs = ".toList = '\n' :: "AllowedIPs = ".toList := by decide
  have hend : "/32\n\n".toList = "/32".toList ++ ['\n', '\n'] := by decide
  change "[Peer]\nPublicKey = ".toList ++ peer.key.text ++ "\nPresharedKey = ".toList ++ server.psk.text ++
    "\nAllowedIPs = ".toList ++ Ipv4.chars peer.address ++ "/32\n\n".toList =
      unlines '\n' ["[Peer]".toList, "PublicKey = ".toList ++ peer.key.text, "PresharedKey = ".toList ++ server.psk.text,
        "AllowedIPs = ".toList ++ (Ipv4.chars peer.address ++ "/32".toList), []]
  simp only [hpublic, hpsk, hallowed, hend, unlines_cons, unlines_nil, List.append_assoc, List.cons_append,
    List.nil_append]

theorem text_append (others : List WgPeer) :
    server.text (peers ++ others) = server.text peers ++ unlines '\n' (others.flatMap server.peerLines) := by
  rw [text, text, List.flatMap_append, ← List.append_assoc, unlines_append]

theorem text_concat :
    server.text (peers ++ [peer]) = server.text peers ++ configPart server.psk peer.key peer.address := by
  rw [text_append, configPart_eq, List.flatMap_singleton]

theorem plain_of {p : Char → Bool} (hnewline : p '\n' = false) (hbracket : p '[' = false) {c : Char}
    (h : p c = true) : isPlain c = true := by
  refine Bool.and_eq_true_iff.mpr ⟨decide_eq_true ?_, decide_eq_true ?_⟩
  · rintro rfl
    rw [h] at hnewline
    cases hnewline
  · rintro rfl
    rw [h] at hbracket
    cases hbracket

theorem plain_text {text : List Char} (h : text.all isPlain = true) : ∀ c ∈ text, isPlain c = true :=
  List.all_eq_true.mp h

theorem plain_key (key : WgKey) : ∀ c ∈ key.text, isPlain c = true :=
  fun c hc => plain_of (by decide) (by decide) (key.base64 c hc)

theorem plain_render (n : ℕ) : ∀ c ∈ render n, isPlain c = true :=
  fun _ hc => plain_of (p := Char.isDigit) (by decide) (by decide) (isDigit_of_mem_render hc)

theorem plain_chars (a : BitVec 32) : ∀ c ∈ Ipv4.chars a, isPlain c = true := by
  intro c hc
  rcases Ipv4.mem_chars hc with hdigit | rfl
  · exact plain_of (p := Char.isDigit) (by decide) (by decide) hdigit
  · decide

theorem plain_interfaceBody : ∀ line ∈ server.interfaceBody, ∀ c ∈ line, isPlain c = true := by
  rw [interfaceBody, List.forall_mem_append]
  refine ⟨?_, server.extra_plain⟩
  rw [List.forall_mem_cons, List.forall_mem_cons, List.forall_mem_singleton]
  refine ⟨?_, ?_, ?_⟩
  · exact List.forall_mem_append.mpr ⟨plain_text (by decide), plain_key _⟩
  · exact List.forall_mem_append.mpr ⟨plain_text (by decide), List.forall_mem_append.mpr ⟨plain_chars _,
      List.forall_mem_cons.mpr ⟨by decide, plain_render _⟩⟩⟩
  · exact List.forall_mem_append.mpr ⟨plain_text (by decide), plain_render _⟩

theorem plain_peerBody : ∀ line ∈ server.peerBody peer, ∀ c ∈ line, isPlain c = true := by
  rw [peerBody, List.forall_mem_cons, List.forall_mem_cons, List.forall_mem_cons, List.forall_mem_singleton]
  refine ⟨?_, ?_, ?_, List.forall_mem_nil _⟩
  · exact List.forall_mem_append.mpr ⟨plain_text (by decide), plain_key _⟩
  · exact List.forall_mem_append.mpr ⟨plain_text (by decide), plain_key _⟩
  · exact List.forall_mem_append.mpr ⟨plain_text (by decide), List.forall_mem_append.mpr ⟨plain_chars _,
      plain_text (by decide)⟩⟩

theorem not_mem_of_plain {line : List Char} (h : ∀ c ∈ line, isPlain c = true) {c : Char} (hc : isPlain c = false) :
    c ∉ line := by
  intro hmem
  rw [h c hmem] at hc
  cases hc

theorem newline_not_mem : ∀ line ∈ server.interfaceLines ++ peers.flatMap server.peerLines, '\n' ∉ line := by
  rw [List.forall_mem_append, interfaceLines, List.forall_mem_cons]
  refine ⟨⟨by decide, fun line hline => not_mem_of_plain (server.plain_interfaceBody line hline) (by decide)⟩, ?_⟩
  intro line hline
  obtain ⟨peer, -, hline⟩ := List.mem_flatMap.mp hline
  rcases List.mem_cons.mp hline with rfl | hline
  · decide
  · exact not_mem_of_plain (server.plain_peerBody peer line hline) (by decide)

/-! ### The addresses of the peers -/

theorem getIpsFromConf_append {front rest : List Char} (h : 'A' ∉ front) :
    getIpsFromConf (front ++ rest) = getIpsFromConf rest := by
  induction front with
  | nil => rfl
  | cons c front ih =>
    rw [List.mem_cons, not_or] at h
    have hnone : captured (c :: (front ++ rest)) = none :=
      if_neg fun hstarts => h.1 (List.cons_prefix_cons.mp hstarts).1
    rw [List.cons_append, getIpsFromConf, hnone, ih h.2]
    rfl

theorem getIpsFromConf_key (key : WgKey) : getIpsFromConf key.text = [] :=
  getIpsFromConf_of_not_infix (not_infix_of_mem (by decide : ' ' ∈ "AllowedIPs = ".toList) (WgKey.not_mem (by decide)))

theorem getIpsFromConf_interfaceLines : server.interfaceLines.flatMap getIpsFromConf = [] := by
  rw [List.flatMap_eq_nil_iff, interfaceLines, List.forall_mem_cons, interfaceBody, List.forall_mem_append]
  refine ⟨by decide, ?_, fun line hline => getIpsFromConf_of_not_infix (server.extra_allowed line hline)⟩
  rw [List.forall_mem_cons, List.forall_mem_cons, List.forall_mem_singleton]
  refine ⟨?_, ?_, ?_⟩
  · rw [getIpsFromConf_append (by decide), getIpsFromConf_key]
  · refine getIpsFromConf_of_not_infix (not_infix_of_mem (by decide : 'w' ∈ "AllowedIPs = ".toList) ?_)
    rw [List.mem_append, List.mem_append, List.mem_cons, not_or, not_or, not_or]
    exact ⟨by decide, Ipv4.not_mem_chars (by decide) (by decide) _, by decide, not_mem_render (by decide) _⟩
  · rw [getIpsFromConf_append (by decide)]
    exact getIpsFromConf_of_not_infix
      (not_infix_of_mem (by decide : 'w' ∈ "AllowedIPs = ".toList) (not_mem_render (by decide) _))

theorem getIpsFromConf_peerLines : (server.peerLines peer).flatMap getIpsFromConf = [peer.address] := by
  have hpublic : getIpsFromConf ("PublicKey = ".toList ++ peer.key.text) = [] := by
    rw [getIpsFromConf_append (by decide), getIpsFromConf_key]
  have hpsk : getIpsFromConf ("PresharedKey = ".toList ++ server.psk.text) = [] := by
    rw [getIpsFromConf_append (by decide), getIpsFromConf_key]
  have hpeer : getIpsFromConf "[Peer]".toList = [] := by decide
  rw [peerLines, peerBody, List.flatMap_cons, List.flatMap_cons, List.flatMap_cons, List.flatMap_cons,
    List.flatMap_singleton, hpeer, hpublic, hpsk, getIpsFromConf_allowed]
  rfl

theorem flatMap_filter_getIpsFromConf (lines : List (List Char)) :
    (lines.filter fun line => containsChars "AllowedIPs".toList line).flatMap getIpsFromConf =
      lines.flatMap getIpsFromConf := by
  induction lines with
  | nil => rfl
  | cons line rest ih =>
    rw [List.filter_cons, List.flatMap_cons]
    split_ifs with hkept
    · rw [List.flatMap_cons, ih]
    · have hnone : getIpsFromConf line = [] := by
        refine getIpsFromConf_of_not_infix fun hoccurs => hkept ((containsChars_iff _ _).mpr ?_)
        exact (List.prefix_append "AllowedIPs".toList " = ".toList).isInfix.trans hoccurs
      rw [hnone, ih]
      rfl

/-- **The addresses that are read are those of the peers**, in their order. -/
theorem getIpsFromConf_grep : getIpsFromConf (grepAllowedIPs (server.text peers)) = peers.map WgPeer.address := by
  rw [grepAllowedIPs, text, splitOn_unlines (server.newline_not_mem peers), getIpsFromConf_unlines,
    flatMap_filter_getIpsFromConf, List.flatMap_append, List.flatMap_append, getIpsFromConf_interfaceLines,
    List.nil_append, List.flatMap_assoc]
  simp only [getIpsFromConf_peerLines]
  rw [List.flatMap_singleton, List.map_eq_flatMap]
  exact List.append_nil _

end WgServer

end FreshVpn
