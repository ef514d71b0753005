import FreshVpn.ConnectionSystem

/-! One attempt on the desktop, as `VpnConnection` sees it: what the relay of an object's signals keeps, when an
object can be stopped without a word, what `connectToVpn` does then, and which states a start or an event of an
object can report. -/

namespace FreshVpn

open Emit ProtocolSignal

namespace VpnConnection

/-! ### The relay -/

variable (n : ℕ) (forwardsErrors : Bool) (v : VpnConnection) (signals : List ProtocolSignal)

theorem setConnectionState_cases (n : ℕ) (state : ConnectionState) :
    (v.connectionState = .reconnecting ∧ v.setConnectionState n state = quietly v) ∨
      v.setConnectionState n state =
        emit { v with connectionState := state } ⟨n, .connectionStateChanged state⟩ := by
  unfold setConnectionState
  split_ifs with hswallowed
  · exact Or.inl ⟨hswallowed.2, rfl⟩
  · exact Or.inr rfl

@[simp] theorem setConnectionState_vpnProtocol (n : ℕ) (state : ConnectionState) :
    (v.setConnectionState n state).1.vpnProtocol = v.vpnProtocol := by
  rcases v.setConnectionState_cases n state with ⟨-, h⟩ | h <;> rw [h] <;> rfl

@[simp] theorem setConnectionState_attempt (n : ℕ) (state : ConnectionState) :
    (v.setConnectionState n state).1.attempt = v.attempt := by
  rcases v.setConnectionState_cases n state with ⟨-, h⟩ | h <;> rw [h] <;> rfl

@[simp] theorem setConnectionState_errorLog (n : ℕ) (state : ConnectionState) :
    (v.setConnectionState n state).1.errorLog = v.errorLog := by
  rcases v.setConnectionState_cases n state with ⟨-, h⟩ | h <;> rw [h] <;> rfl

def loggedErrors (n : ℕ) (signals : List ProtocolSignal) : List (ℕ × ErrorCode) :=
  signals.filterMap fun
    | .errorLogged error => some (n, error)
    | _ => none

theorem mem_loggedErrors {n : ℕ} {error : ErrorCode} {signals : List ProtocolSignal}
    (h : .errorLogged error ∈ signals) : (n, error) ∈ loggedErrors n signals :=
  List.mem_filterMap.mpr ⟨_, h, rfl⟩

theorem relay_frame :
    (v.relay n forwardsErrors signals).1.vpnProtocol = v.vpnProtocol ∧
      (v.relay n forwardsErrors signals).1.attempt = v.attempt ∧
      (v.relay n forwardsErrors signals).1.errorLog = v.errorLog ++ loggedErrors n signals := by
  induction signals generalizing v with
  | nil =>
    simp [relay, loggedErrors]
  | cons signal signals ih =>
    rw [relay, andThen_fst]
    obtain ⟨hprotocol, hattempt, hlog⟩ := ih (v.relayOne n forwardsErrors signal).1
    rw [hprotocol, hattempt, hlog]
    cases signal with
    | connectionStateChanged | errorLogged => simp [relayOne, loggedErrors]
    | protocolError error => cases forwardsErrors <;> simp [relayOne, loggedErrors]

@[simp] theorem relay_vpnProtocol : (v.relay n forwardsErrors signals).1.vpnProtocol = v.vpnProtocol :=
  (relay_frame n forwardsErrors v signals).1

@[simp] theorem relay_attempt : (v.relay n forwardsErrors signals).1.attempt = v.attempt :=
  (relay_frame n forwardsErrors v signals).2.1

@[simp] theorem relay_errorLog : (v.relay n forwardsErrors signals).1.errorLog = v.errorLog ++ loggedErrors n signals :=
  (relay_frame n forwardsErrors v signals).2.2

/-- What an object's signal becomes on its way to the controller. -/
def relayedKind : ProtocolSignal → Option VpnSignalKind
  | .connectionStateChanged state => some (.connectionStateChanged state)
  | .protocolError error => some (.vpnProtocolError error)
  | .errorLogged _ => none

theorem mem_relay {n : ℕ} {forwardsErrors : Bool} {v : VpnConnection} {signals : List ProtocolSignal}
    {signal : VpnSignal} (h : signal ∈ (v.relay n forwardsErrors signals).2) :
    signal.attempt = n ∧ ∃ x ∈ signals, relayedKind x = some signal.kind := by
  induction signals generalizing v with
  | nil =>
    cases h
  | cons x signals ih =>
    rw [relay, andThen_snd, List.mem_append] at h
    rcases h with hfirst | hrest
    · cases x with
      | connectionStateChanged state =>
        rw [relayOne] at hfirst
        rcases v.setConnectionState_cases n state with ⟨-, h⟩ | h
        · rw [h] at hfirst
          cases hfirst
        · rw [h] at hfirst
          cases List.mem_singleton.mp hfirst
          exact ⟨rfl, _, List.mem_cons_self, rfl⟩
      | protocolError error =>
        unfold relayOne at hfirst
        split_ifs at hfirst
        · cases List.mem_singleton.mp hfirst
          exact ⟨rfl, _, List.mem_cons_self, rfl⟩
        · cases hfirst
      | errorLogged error => cases hfirst
    · obtain ⟨hn, y, hy, hkind⟩ := ih hrest
      exact ⟨hn, y, List.mem_cons_of_mem _ hy, hkind⟩

theorem relay_connectionState :
    (v.relay n forwardsErrors signals).1.connectionState = v.connectionState ∨
      ⟨n, .connectionStateChanged (v.relay n forwardsErrors signals).1.connectionState⟩ ∈
        (v.relay n forwardsErrors signals).2 := by
  induction signals generalizing v with
  | nil =>
    exact Or.inl rfl
  | cons x signals ih =>
    rw [relay, andThen_fst, andThen_snd]
    rcases ih (v.relayOne n forwardsErrors x).1 with hsame | hmem
    · rw [hsame]
      cases x with
      | connectionStateChanged state =>
        rw [relayOne]
        rcases v.setConnectionState_cases n state with ⟨-, h⟩ | h
        · rw [h]
          exact Or.inl rfl
        · rw [h]
          exact Or.inr (List.mem_append_left _ List.mem_cons_self)
      | protocolError error => cases forwardsErrors <;> exact Or.inl rfl
      | errorLogged error => exact Or.inl rfl
    · exact Or.inr (List.mem_append_right _ hmem)

end VpnConnection

/-! ### Stopping without a word -/

namespace VpnProtocol

theorem setConnectionState_cases (p : VpnProtocol) (state : ConnectionState) :
    p.setConnectionState state = quietly p ∨
      p.setConnectionState state =
        emit { p with connectionState := state, timeoutTimer := p.timerAfter state } (.connectionStateChanged state) := by
  unfold setConnectionState
  split_ifs
  · exact Or.inl rfl
  · exact Or.inl rfl
  · exact Or.inr rfl

variable {p : VpnProtocol}

theorem onTimeout_reports_error (h : p.connectionState ≠ .error) (hungUp : Bool) :
    ∃ rest, (p.onTimeout hungUp).2 = .connectionStateChanged .error :: rest := by
  unfold onTimeout setLastError setConnectionState
  simp [h]

def isRegular (p : VpnProtocol) : Bool :=
  p.protocolClass = .wireguard || p.protocolClass = .openVpn || p.protocolClass = .xray

theorem factory_ne_android (platform : Platform) (container : DockerContainer) :
    factory platform container ≠ some .android := by
  cases platform <;> cases container <;> nofun

theorem create_isRegular {platform : Platform} {container : DockerContainer} {protocolClass : ProtocolClass}
    (uninitialised : ErrorCode) (hfactory : factory platform container = some protocolClass)
    (hclass : some protocolClass ≠ some .ikev2) : (create protocolClass uninitialised).isRegular = true := by
  have hnot := factory_ne_android platform container
  rw [hfactory] at hnot
  cases protocolClass <;> first | rfl | exact absurd rfl hclass | exact absurd rfl hnot

/-- The object is in a state in which `stop` reports nothing. -/
def isSilent (p : VpnProtocol) : Bool :=
  match p.protocolClass with
  | .wireguard | .xray => p.connectionState = .disconnected
  | .openVpn => p.connectionState = .unknown || p.connectionState = .disconnected || p.connectionState = .error
  | .ikev2 | .android => false

theorem isSilent.isRegular (h : p.isSilent = true) : p.isRegular = true := by
  unfold isSilent at h
  unfold VpnProtocol.isRegular
  cases hclass : p.protocolClass <;> rw [hclass] at h <;> simp_all

theorem stop_of_isSilent (h : p.isSilent = true) (hungUp : Bool) :
    (p.stop hungUp).2 = [] ∧ (p.stop hungUp).1.isSilent = true := by
  obtain ⟨protocolClass, state, _, _, _, _, _, _, _, _, _⟩ := p
  cases protocolClass with
  | wireguard | xray =>
    cases (of_decide_eq_true h : state = .disconnected)
    exact ⟨rfl, rfl⟩
  | openVpn =>
    have hstate : (state = .unknown ∨ state = .disconnected) ∨ state = .error := by simpa [isSilent] using h
    rcases hstate with (rfl | rfl) | rfl <;> exact ⟨rfl, rfl⟩
  | ikev2 => cases h
  | android => cases h

end VpnProtocol

namespace VpnConnection

variable {v : VpnConnection}

/-- No object is left, or one that is stopped silently. -/
def StopsSilently (v : VpnConnection) : Prop := ∀ p, v.vpnProtocol = some p → p.isSilent = true

theorem stopAndDelete_of_stopsSilently (h : v.StopsSilently) (answers : Answers) (forwardsErrors : Bool) :
    v.stopAndDelete answers forwardsErrors = quietly { v with vpnProtocol := none } := by
  unfold stopAndDelete
  cases hobject : v.vpnProtocol with
  | none =>
    cases v
    cases hobject
    rfl
  | some p =>
    obtain ⟨hfirst, hsilent⟩ := VpnProtocol.stop_of_isSilent (h p hobject) answers.hungUp
    obtain ⟨hsecond, -⟩ := VpnProtocol.stop_of_isSilent hsilent answers.hungUpAgain
    simp only [hfirst, hsecond, relay]
    rfl

/-- An attempt after an object that is stopped silently: `Connecting` is announced, and then the new object is
started, if there is one for the container. -/
theorem connectOnDesktop_of_stopsSilently (h : v.StopsSilently) (platform : Platform) (n : ℕ)
    (container : DockerContainer) (answers : Answers) :
    v.connectOnDesktop platform n container answers =
      andThen (emit { v with connectionState := .connecting, vpnProtocol := none }
        ⟨n, .connectionStateChanged .connecting⟩) fun v =>
          match VpnProtocol.factory platform container with
          | none => emit { v with connectionState := .error, attempt := n } ⟨n, .connectionStateChanged .error⟩
          | some protocolClass => v.startProtocol n (.create protocolClass answers.uninitialised) answers := by
  have hannounce : v.setConnectionState n .connecting =
      emit { v with connectionState := .connecting } ⟨n, .connectionStateChanged .connecting⟩ :=
    if_neg (by simp)
  have hstop := stopAndDelete_of_stopsSilently (v := { v with connectionState := .connecting }) h answers false
  unfold connectOnDesktop
  rw [hannounce]
  cases hclass : VpnProtocol.factory platform container with
  | none | some =>
    simp only [andThen, emit, hstop, quietly]
    rfl

theorem connectToVpn_of_isDesktop {client : Client} (h : client.isDesktop = true) (v : VpnConnection) (n : ℕ)
    (container : DockerContainer) (answers : Answers) :
    v.connectToVpn client n container answers = v.connectOnDesktop client.platform n container answers := by
  unfold connectToVpn
  unfold Client.isDesktop Client.isMobile at h
  cases hplatform : client.platform <;> rw [hplatform] at h <;> first | rfl | cases h

theorem reconnectToVpn_of_ne_connected (h : v.connectionState ≠ .connected) (answers : Answers) :
    v.reconnectToVpn answers = quietly v := by
  unfold reconnectToVpn
  cases v.vpnProtocol with
  | none => rfl
  | some p => exact if_pos h

theorem startProtocol_object (v : VpnConnection) (n : ℕ) (p : VpnProtocol) (answers : Answers) :
    (v.startProtocol n p answers).1.vpnProtocol = some (p.start answers.start).1.1 ∧
      (v.startProtocol n p answers).1.attempt = n := by
  unfold startProtocol
  rw [andThen_fst]
  split_ifs with herror
  · simp
  · simp [andThen_fst]

theorem startProtocol_errorLog (v : VpnConnection) (n : ℕ) (p : VpnProtocol) (answers : Answers) :
    (v.startProtocol n p answers).1.errorLog = v.errorLog ++ loggedErrors n (p.start answers.start).1.2 ++
      if (p.start answers.start).2 = .noError then [] else [(n, (p.start answers.start).2)] := by
  unfold startProtocol
  dsimp only
  split_ifs with herror <;> simp

theorem protocolEvent_cases {event : VpnProtocol.ProtocolEvent}
    {x : VpnConnection × List VpnSignal} (h : v.protocolEvent event = some x) :
    ∃ p p' signals, v.vpnProtocol = some p ∧ p.handle event = some (p', signals) ∧
      x = { v with vpnProtocol := some p' }.relay v.attempt true signals := by
  obtain ⟨p, hobject, hmap⟩ := Option.bind_eq_some_iff.mp h
  obtain ⟨⟨p', signals⟩, hhandle, rfl⟩ := Option.map_eq_some_iff.mp hmap
  exact ⟨p, p', signals, hobject, hhandle, rfl⟩

end VpnConnection

/-! ### The course of an attempt -/

/-- The states an attempt goes through, up to its success or failure. -/
def ConnectionState.isOfAttempt : ConnectionState → Bool
  | .connecting | .reconnecting | .connected | .disconnected | .error => true
  | .unknown | .preparing | .disconnecting => false

/-- The end of an attempt, or a part of it that reports no state. -/
def ProtocolSignal.isTail : ProtocolSignal → Bool
  | .connectionStateChanged state => state = .error || state = .disconnected
  | _ => true

def ProtocolSignal.isState : ProtocolSignal → Bool
  | .connectionStateChanged _ => true
  | _ => false

namespace VpnProtocol

variable {signals : List ProtocolSignal}

def isAlive (p : VpnProtocol) : Bool := p.isRegular && p.connectionState = .connecting

def fails : List ProtocolSignal → Bool
  | .connectionStateChanged state :: rest =>
    (state = .error || state = .disconnected) && rest.all isTail
  | _ => false

/-- The lines `EXITING` and `RECONNECTING` of OpenVPN put an attempt that is still connecting into another state. -/
def ProtocolEvent.isRegular : ProtocolEvent → Bool
  | .managementExiting | .managementReconnecting => false
  | .androidState state => state.isOfAttempt
  | _ => true

/-- The events after which Xray stops first and reports the error afterwards. -/
def stopsFirst (p : VpnProtocol) : ProtocolEvent → Bool
  | .stackUp routing => routing ≠ .noError
  | .tun2socksFinished resourceBusy => !(resourceBusy && p.tun2socksRetryCount < maxTun2SocksRetries)
  | .tun2socksRetry available => !available
  | _ => false

def records (p : VpnProtocol) (signals : List ProtocolSignal) : Bool :=
  p.lastError ≠ .noError && p.lastError ≠ .internalError && signals.contains (.errorLogged p.lastError)

variable {p : VpnProtocol} {event : ProtocolEvent}

theorem records_iff : p.records signals = true ↔
    p.lastError ≠ .noError ∧ p.lastError ≠ .internalError ∧ .errorLogged p.lastError ∈ signals := by
  simp [records, and_assoc]

/-- The ways a connecting attempt can fail without recording why: the process or the daemon ends by itself. -/
def ProtocolEvent.isSilentEnd : ProtocolEvent → Bool
  | .openVpnFinished | .daemonDisconnected => true
  | _ => false

/-- The two objects differ in nothing that a state or an error depends on. -/
def Resembles (p q : VpnProtocol) : Prop :=
  q.protocolClass = p.protocolClass ∧ q.connectionState = p.connectionState ∧ q.lastError = p.lastError

/-- What an event can do to an object of the regular classes. -/
inductive Reacts (p : VpnProtocol) (event : ProtocolEvent) : VpnProtocol × List ProtocolSignal → Prop where
  | timedOut (hungUp : Bool) : Reacts p event (p.onTimeout hungUp)
  | quiet {q : VpnProtocol} (hq : p.Resembles q) : Reacts p event (quietly q)
  | reported (error : ErrorCode) : Reacts p event (emit p (.protocolError error))
  | changed {q : VpnProtocol} (hq : p.Resembles q) {state : ConnectionState}
      (hstate : event.isRegular = true → state = .connected ∨ state = .disconnected ∧ event.isSilentEnd = true) :
      Reacts p event (q.setConnectionState state)
  | failed {error : ErrorCode} (hclass : p.protocolClass = .wireguard)
      (herror : error = .amneziaServiceConnectionFailed ∨ error = .vpnTunnelDidNotComeUpError) :
      Reacts p event (p.failConnection error)
  | stoppedFirst {q : VpnProtocol} (hq : p.Resembles q) (hclass : p.protocolClass = .xray) {error : ErrorCode}
      (herror : error ≠ .noError) (hfirst : p.stopsFirst event = true) : Reacts p event (q.stopAndFail error)

variable {x : VpnProtocol × List ProtocolSignal}

theorem reacts_of_handle (hregular : p.isRegular = true) (h : p.handle event = some x) : Reacts p event x := by
  obtain ⟨protocolClass, state, lastError, timer, reported, probe, server, socket, process, count, pending⟩ := p
  -- every other event belongs to one class
  cases event with
  | timeout hungUp =>
    cases protocolClass <;> cases timer <;> cases h <;> exact .timedOut hungUp
  | daemonConnected =>
    cases protocolClass <;> cases h
    cases probe <;> exact .quiet ⟨rfl, rfl, rfl⟩
  | daemonDisconnected =>
    cases protocolClass <;> cases h
    exact .changed (by exact ⟨rfl, rfl, rfl⟩) fun _ => Or.inr ⟨rfl, rfl⟩
  | backendFailure =>
    cases protocolClass <;> cases h
    exact .failed rfl (Or.inl rfl)
  | probeSucceeded =>
    cases protocolClass <;> cases probe <;> cases h
    exact .changed (by exact ⟨rfl, rfl, rfl⟩) fun _ => Or.inl rfl
  | probeDeadline =>
    cases protocolClass <;> cases probe <;> cases h
    exact .failed rfl (Or.inr rfl)
  | managementAccepted =>
    cases protocolClass <;> cases server <;> cases h
    exact .quiet ⟨rfl, rfl, rfl⟩
  | managementConnected =>
    cases protocolClass <;> cases socket <;> cases h
    exact .changed (by exact ⟨rfl, rfl, rfl⟩) fun _ => Or.inl rfl
  | managementExiting | managementReconnecting =>
    cases protocolClass <;> cases socket <;> cases h
    exact .changed (by exact ⟨rfl, rfl, rfl⟩) nofun
  | managementFatal adaptersInUse =>
    cases protocolClass <;> cases socket <;> cases h
    exact .reported _
  | openVpnFinished =>
    cases protocolClass <;> cases process <;> cases h
    exact .changed (by exact ⟨rfl, rfl, rfl⟩) fun _ => Or.inr ⟨rfl, rfl⟩
  | stackUp routing =>
    cases protocolClass <;> cases process <;> cases h
    split_ifs with hrouting
    · exact .changed (by exact ⟨rfl, rfl, rfl⟩) fun _ => Or.inl rfl
    · exact .stoppedFirst (by exact ⟨rfl, rfl, rfl⟩) rfl hrouting (decide_eq_true hrouting)
  | tun2socksFinished resourceBusy =>
    cases protocolClass <;> simp only [handle, reduceCtorEq] at h
    split_ifs at h with hidle hretry <;> cases h
    · exact .quiet ⟨rfl, rfl, rfl⟩
    · exact .stoppedFirst (by exact ⟨rfl, rfl, rfl⟩) rfl (by decide)
        (by simpa [stopsFirst, imp_iff_not_or] using hretry)
  | tun2socksRetry available =>
    cases protocolClass <;> simp only [handle, reduceCtorEq] at h
    split_ifs at h with hpending havailable <;> cases h
    · exact .quiet ⟨rfl, rfl, rfl⟩
    · exact .stoppedFirst (by exact ⟨rfl, rfl, rfl⟩) rfl (by decide) (by simpa [stopsFirst] using havailable)
  | rasPreparing | rasAuthFailed | rasPasswordExpired | rasConnected | rasDisconnected | androidState =>
    cases protocolClass <;> first | cases h; done | cases hregular

/-- What an event does to a connecting object: it goes on, it is connected, or it fails. It is then left in a state
in which it is stopped silently, with a recorded error, unless it is an Xray object that stops first; a process or a
daemon that ends by itself leaves no error. -/
theorem handle_of_isAlive (halive : p.isAlive = true) (hevent : event.isRegular = true)
    (h : p.handle event = some x) :
    (x.1.isAlive = true ∧ x.2.any isState = false) ∨
      x.2 = [.connectionStateChanged .connected] ∨
      fails x.2 = true ∧ (p.stopsFirst event = false → x.1.isSilent = true ∧
        (event.isSilentEnd = false → x.1.records x.2 = true)) := by
  obtain ⟨protocolClass, state, lastError, timer, reported, probe, server, socket, process, count, pending⟩ := p
  obtain ⟨hregular, hstate⟩ := Bool.and_eq_true_iff.mp halive
  cases (of_decide_eq_true hstate : state = .connecting)
  cases reacts_of_handle hregular h with
  | timedOut hungUp =>
    cases protocolClass <;> first | exact Or.inr (Or.inr ⟨rfl, fun _ => ⟨rfl, fun _ => rfl⟩⟩) | cases hregular
  | @quiet q hq =>
    obtain ⟨_, _, _, _, _, _, _, _, _, _, _⟩ := q
    obtain ⟨⟨⟩, ⟨⟩, ⟨⟩⟩ := hq
    exact Or.inl ⟨halive, rfl⟩
  | reported error => exact Or.inl ⟨halive, rfl⟩
  | @changed q hq state hstate =>
    obtain ⟨_, _, _, _, _, _, _, _, _, _, _⟩ := q
    obtain ⟨⟨⟩, ⟨⟩, ⟨⟩⟩ := hq
    rcases hstate hevent with rfl | ⟨rfl, hend⟩
    · exact Or.inr (Or.inl rfl)
    · refine Or.inr (Or.inr ⟨rfl, fun _ => ⟨?_, fun hnot => absurd hend (ne_true_of_eq_false hnot)⟩⟩)
      cases protocolClass <;> first | rfl | cases hregular
  | failed hclass herror =>
    cases hclass
    cases reported
    · rcases herror with rfl | rfl <;> exact Or.inr (Or.inr ⟨rfl, fun _ => ⟨rfl, fun _ => rfl⟩⟩)
    · exact Or.inl ⟨rfl, rfl⟩
  | @stoppedFirst q hq hclass error herror hfirst =>
    obtain ⟨_, _, _, _, _, _, _, _, _, _, _⟩ := q
    obtain ⟨⟨⟩, ⟨⟩, ⟨⟩⟩ := hq
    cases hclass
    refine Or.inr (Or.inr ⟨?_, fun hnot => absurd hfirst (ne_true_of_eq_false hnot)⟩)
    simp only [stopAndFail, setLastError, if_neg herror]
    rfl

/-- What an event does to an object that is stopped silently: it stays one, and reports nothing but the end of its
attempt, or it is connected after all. -/
theorem handle_of_isSilent (hsilent : p.isSilent = true) (hevent : event.isRegular = true)
    (hfirst : p.stopsFirst event = false) (h : p.handle event = some x) :
    (x.1.isSilent = true ∧ x.2.all isTail = true) ∨ x.2 = [.connectionStateChanged .connected] := by
  have hreacts := reacts_of_handle (isSilent.isRegular hsilent) h
  obtain ⟨protocolClass, state, lastError, timer, reported, probe, server, socket, process, count, pending⟩ := p
  have hstate : state = .disconnected ∨ protocolClass = .openVpn ∧ (state = .unknown ∨ state = .error) := by
    cases protocolClass <;> simp [isSilent] at hsilent <;> tauto
  cases hreacts with
  | timedOut hungUp =>
    rcases hstate with rfl | ⟨rfl, rfl | rfl⟩
    · cases protocolClass <;> first | exact Or.inl ⟨rfl, rfl⟩ | cases hsilent
    · exact Or.inl ⟨rfl, rfl⟩
    · exact Or.inl ⟨rfl, rfl⟩
  | @quiet q hq =>
    obtain ⟨_, _, _, _, _, _, _, _, _, _, _⟩ := q
    obtain ⟨⟨⟩, ⟨⟩, ⟨⟩⟩ := hq
    exact Or.inl ⟨hsilent, rfl⟩
  | reported error => exact Or.inl ⟨hsilent, rfl⟩
  | @changed q hq next hnext =>
    obtain ⟨_, _, _, _, _, _, _, _, _, _, _⟩ := q
    obtain ⟨⟨⟩, ⟨⟩, ⟨⟩⟩ := hq
    rcases hnext hevent with rfl | ⟨rfl, hend⟩
    · rcases hstate with rfl | ⟨rfl, rfl | rfl⟩ <;> exact Or.inr rfl
    · rcases hstate with rfl | ⟨rfl, rfl | rfl⟩
      · exact Or.inl ⟨hsilent, rfl⟩
      · exact Or.inl ⟨rfl, rfl⟩
      · exact Or.inl ⟨rfl, rfl⟩
  | failed hclass herror =>
    cases hclass
    cases (of_decide_eq_true hsilent : state = .disconnected)
    cases reported <;> rcases herror with rfl | rfl <;> exact Or.inl ⟨rfl, rfl⟩
  | stoppedFirst hq hclass herror hyes => exact absurd hyes (ne_true_of_eq_false hfirst)

/-- Xray starts cleanly if nothing goes wrong; the other classes leave a failed start in a silent state. -/
def startsCleanly (protocolClass : ProtocolClass) (answers : StartAnswers) : Bool :=
  protocolClass ≠ .xray || answers.xray = .started

def recordsStart (protocolClass : ProtocolClass) (answers : StartAnswers) : Bool :=
  protocolClass ≠ .openVpn || answers.openVpn ≠ .killSwitchRefused

/-- The start of a new object: it is connecting, or it returns an error, having reported at most that it was
connecting and the end of the attempt, and having recorded the error. -/
theorem start_create {protocolClass : ProtocolClass} (uninitialised : ErrorCode) (answers : StartAnswers)
    (hregular : (create protocolClass uninitialised).isRegular = true) :
    let started := (create protocolClass uninitialised).start answers
    (started.2 = .noError ∧ started.1.1.isAlive = true ∧
        started.1.2 = [.connectionStateChanged .connecting]) ∨
      (started.2 ≠ .noError ∧
        (∃ tail, (started.1.2 = tail ∨ started.1.2 = .connectionStateChanged .connecting :: tail) ∧
          tail.all isTail = true) ∧
        (startsCleanly protocolClass answers = true → started.1.1.isSilent = true ∧
          (recordsStart protocolClass answers = true → started.1.1.records started.1.2 = true))) := by
  obtain ⟨openVpn, wireguard, xray, ikev2⟩ := answers
  cases protocolClass with
  | ikev2 => cases hregular
  | android => cases hregular
  | wireguard =>
    cases wireguard with
    | started => exact Or.inl ⟨rfl, rfl, rfl⟩
    | _ => exact Or.inr ⟨nofun, ⟨_, Or.inr rfl, rfl⟩, fun _ => ⟨rfl, fun _ => rfl⟩⟩
  | openVpn =>
    cases openVpn with
    | started => exact Or.inl ⟨rfl, rfl, rfl⟩
    | noProcess => exact Or.inr ⟨nofun, ⟨_, Or.inr rfl, rfl⟩, fun _ => ⟨rfl, fun _ => rfl⟩⟩
    | killSwitchRefused => exact Or.inr ⟨nofun, ⟨_, Or.inl rfl, rfl⟩, fun _ => ⟨rfl, nofun⟩⟩
    | _ => exact Or.inr ⟨nofun, ⟨_, Or.inl rfl, rfl⟩, fun _ => ⟨rfl, fun _ => rfl⟩⟩
  | xray =>
    cases xray with
    | started => exact Or.inl ⟨rfl, rfl, rfl⟩
    | _ => exact Or.inr ⟨nofun, ⟨_, Or.inr rfl, rfl⟩, nofun⟩

end VpnProtocol

namespace VpnConnection

variable {signals : List ProtocolSignal}

/-! ### The course of an attempt, relayed -/

theorem relay_of_quiet (h : signals.any isState = false) (n : ℕ)
    (forwardsErrors : Bool) (v : VpnConnection) :
    (∀ signal ∈ (v.relay n forwardsErrors signals).2, signal.attempt = n ∧ signal.isError = true) ∧
      (v.relay n forwardsErrors signals).1.connectionState = v.connectionState := by
  have herrors : ∀ signal ∈ (v.relay n forwardsErrors signals).2, signal.attempt = n ∧ signal.isError = true := by
    intro signal hsignal
    obtain ⟨hn, x, hx, hkind⟩ := mem_relay hsignal
    have hstate := List.any_eq_false.mp h x hx
    refine ⟨hn, ?_⟩
    cases x with
    | connectionStateChanged state => exact absurd rfl hstate
    | protocolError error =>
      obtain ⟨attempt, kind⟩ := signal
      cases hkind
      rfl
    | errorLogged error => cases hkind
  refine ⟨herrors, ?_⟩
  rcases relay_connectionState n forwardsErrors v signals with hsame | hmem
  · exact hsame
  · exact absurd (herrors _ hmem).2 Bool.false_ne_true

theorem relay_of_tail (h : signals.all isTail = true) (n : ℕ)
    (forwardsErrors : Bool) (v : VpnConnection) :
    (∀ signal ∈ (v.relay n forwardsErrors signals).2, signal.attempt = n ∧ signal.isTail = true) ∧
      ((v.relay n forwardsErrors signals).1.connectionState = v.connectionState ∨
        (v.relay n forwardsErrors signals).1.connectionState = .error ∨
        (v.relay n forwardsErrors signals).1.connectionState = .disconnected) := by
  have htails : ∀ signal ∈ (v.relay n forwardsErrors signals).2, signal.attempt = n ∧ signal.isTail = true := by
    intro signal hsignal
    obtain ⟨hn, x, hx, hkind⟩ := mem_relay hsignal
    have htail := List.all_eq_true.mp h x hx
    refine ⟨hn, ?_⟩
    obtain ⟨attempt, kind⟩ := signal
    cases x with
    | connectionStateChanged state =>
      cases hkind
      cases state <;> first | rfl | cases htail
    | protocolError error =>
      cases hkind
      rfl
    | errorLogged error => cases hkind
  refine ⟨htails, ?_⟩
  rcases relay_connectionState n forwardsErrors v signals with hsame | hmem
  · exact Or.inl hsame
  · have htail := (htails _ hmem).2
    cases hstate : (v.relay n forwardsErrors signals).1.connectionState <;> rw [hstate] at htail <;>
      first | exact Or.inr (Or.inl rfl) | exact Or.inr (Or.inr rfl) | cases htail

theorem relay_of_fails (h : VpnProtocol.fails signals = true) (n : ℕ)
    (forwardsErrors : Bool) {v : VpnConnection} (hv : v.connectionState ≠ .reconnecting) :
    ∃ state rest, (v.relay n forwardsErrors signals).2 = ⟨n, .connectionStateChanged state⟩ :: rest ∧
      (state = .error ∨ state = .disconnected) ∧ (∀ signal ∈ rest, signal.attempt = n ∧ signal.isTail = true) ∧
      ((v.relay n forwardsErrors signals).1.connectionState = .error ∨
        (v.relay n forwardsErrors signals).1.connectionState = .disconnected) := by
  unfold VpnProtocol.fails at h
  split at h
  · rename_i state rest
    obtain ⟨hstate, htail⟩ := Bool.and_eq_true_iff.mp h
    have hstate' : state = .error ∨ state = .disconnected := by simpa using hstate
    rcases v.setConnectionState_cases n state with ⟨hreconnecting, -⟩ | hset
    · exact absurd hreconnecting hv
    · obtain ⟨htails, hafter⟩ := relay_of_tail htail n forwardsErrors { v with connectionState := state }
      rw [relay, relayOne, hset]
      refine ⟨state, _, rfl, hstate', htails, ?_⟩
      rcases hafter with hsame | hdown
      · rw [andThen_fst, emit_fst, hsame]
        exact hstate'
      · exact hdown
  · cases h

end VpnConnection

end FreshVpn
