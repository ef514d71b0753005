import FreshVpn.ConnectionCause

/-! An OpenVPN object and `VpnConnection` together: the lines of the management interface, the end of the process, the
timer of the object and the restarts of `reconnectToVpn`. -/

namespace FreshVpn

open Emit VpnProtocol

/-! ### Lines of the management interface -/

/-- `QString::simplified`. -/
def simplified (text : String) : String :=
  String.ofList (List.intercalate [' '] ((text.toList.splitOnP isSpace).filter (· ≠ [])))

namespace VpnProtocol

/-- What a line tells the object, if it says anything about the connection. A line that is read as a state is not looked
at any further. -/
def lineEvent (line : String) : Option ProtocolEvent :=
  let isState := !containsText line ">INFO:OpenVPN Management Interface" && ">STATE".toList <+: line.toList
  if isState && containsText line "CONNECTED,SUCCESS" then some .managementConnected
  else if isState && containsText line "EXITING,SIGTER" then some .managementExiting
  else if isState && containsText line "RECONNECTING" then some .managementReconnecting
  else if containsText line "FATAL" then
    some (.managementFatal (containsText line "tap-windows6 adapters on this system are currently in use or disabled"))
  else none

def ProtocolEvent.isFatal : ProtocolEvent → Bool
  | .managementFatal _ => true
  | _ => false

/-- The loop over the lines that have arrived; what it leaves unread is the last component. It ends at a line that is
empty, and after a fatal error. -/
def onReadyReadDataFromManagementServer (p : VpnProtocol) :
    List String → (VpnProtocol × List ProtocolSignal) × List String
  | [] => (quietly p, [])
  | received :: rest =>
    let line := simplified received
    if line = "" then (quietly p, rest)
    else match lineEvent line with
      | none => onReadyReadDataFromManagementServer p rest
      | some event =>
        let handled := (p.handle event).getD (quietly p)
        if event.isFatal then (handled, rest)
        else
          let read := onReadyReadDataFromManagementServer handled.1 rest
          (andThen handled fun _ => read.1, read.2)

end VpnProtocol

/-! ### The two objects together -/

/-- `VpnConnection` with the OpenVPN object it has, the lines that wait to be read, and the states announced so far. -/
structure Tunnel where
  vpn : VpnConnection
  unread : List String
  announced : List ConnectionState

inductive OpenVpnEvent where
  | managementAccepted
  | readyRead (lines : List String)
  | processFinished
  | timeout
  | reconnectToVpn (answers : Answers)

/-- The platforms on which the container is served by the OpenVPN object. -/
def OpenVpnPlatform : Type := { platform : Platform // VpnProtocol.factory platform .openVpn = some .openVpn }

def announcedStates (signals : List VpnSignal) : List ConnectionState :=
  signals.filterMap fun signal => match signal.kind with
    | .connectionStateChanged state => some state
    | .vpnProtocolError _ => none

namespace Tunnel

def emitted (t : Tunnel) (x : VpnConnection × List VpnSignal) : Tunnel :=
  { t with vpn := x.1, announced := t.announced ++ announcedStates x.2 }

def connect (platform : OpenVpnPlatform) (v : VpnConnection) (attempt : ℕ) (answers : Answers) : Tunnel :=
  emitted ⟨v, [], []⟩ (v.connectOnDesktop platform.1 attempt .openVpn answers)

def step (t : Tunnel) : OpenVpnEvent → Option Tunnel
  | .managementAccepted =>
    (t.vpn.protocolEvent .managementAccepted).map fun x => { t.emitted x with unread := [] }
  | .readyRead lines =>
    t.vpn.vpnProtocol.bind fun p =>
      if p.managementSocket then
        let read := p.onReadyReadDataFromManagementServer (t.unread ++ lines)
        some { t.emitted ({ t.vpn with vpnProtocol := some read.1.1 }.relay t.vpn.attempt true read.1.2) with
          unread := read.2 }
      else none
  | .processFinished => (t.vpn.protocolEvent .openVpnFinished).map t.emitted
  | .timeout => (t.vpn.protocolEvent (.timeout true)).map t.emitted
  | .reconnectToVpn answers => some (t.emitted (t.vpn.reconnectToVpn answers))

end Tunnel

/-! ### The state that follows -/

/-- The state of `VpnConnection` after the signals of the object. -/
def followed (state : ConnectionState) (signals : List ProtocolSignal) : ConnectionState :=
  signals.foldl (fun state signal => match signal with
    | .connectionStateChanged next => if next = .disconnected ∧ state = .reconnecting then state else next
    | _ => state) state

theorem followed_append (state : ConnectionState) (signals more : List ProtocolSignal) :
    followed state (signals ++ more) = followed (followed state signals) more :=
  List.foldl_append

theorem VpnConnection.relay_followed (n : ℕ) (forwardsErrors : Bool) (v : VpnConnection)
    (signals : List ProtocolSignal) :
    (v.relay n forwardsErrors signals).1.connectionState = followed v.connectionState signals := by
  induction signals generalizing v with
  | nil => rfl
  | cons signal signals ih =>
    rw [relay, andThen_fst, ih]
    cases signal with
    | connectionStateChanged state =>
      show followed (v.setConnectionState n state).1.connectionState signals =
        followed (if state = .disconnected ∧ v.connectionState = .reconnecting then v.connectionState else state)
          signals
      rw [setConnectionState]
      split_ifs with hdropped
      · rfl
      · rfl
    | protocolError error => cases forwardsErrors <;> rfl
    | errorLogged error => rfl

/-- `VpnConnection` is in the state of the object, or has reported an error of an object that did not start. -/
def InStep (state : ConnectionState) (p : VpnProtocol) : Prop :=
  state = p.connectionState ∨ state = .error ∧ (p.connectionState = .unknown ∨ p.connectionState = .disconnected)

/-- The two are in step after a step of the object. -/
def EndsInStep (state : ConnectionState) (x : VpnProtocol × List ProtocolSignal) : Prop :=
  InStep (followed state x.2) x.1

variable {state : ConnectionState}

theorem EndsInStep.andThen {x : VpnProtocol × List ProtocolSignal}
    {f : VpnProtocol → VpnProtocol × List ProtocolSignal} (h : EndsInStep (followed state x.2) (f x.1)) :
    EndsInStep state (andThen x f) := by
  rw [EndsInStep, andThen_snd, followed_append]
  exact h

namespace VpnProtocol

variable {p : VpnProtocol} {state : ConnectionState}

/-- Only a `Disconnected` that arrives while `VpnConnection` is `Reconnecting` puts the two out of step. -/
theorem setConnectionState_inStep {next : ConnectionState} (h : InStep state p)
    (hnext : next = .disconnected → state ≠ .reconnecting) : EndsInStep state (p.setConnectionState next) := by
  rcases p.setConnectionState_cases next with hquiet | hemit
  · rw [hquiet]
    exact h
  · rw [hemit]
    refine Or.inl ?_
    exact if_neg fun hdropped => hnext hdropped.1 hdropped.2

theorem setLastError_inStep (h : InStep state p) (error : ErrorCode) : EndsInStep state (p.setLastError error) := by
  apply EndsInStep.andThen
  split_ifs
  · exact h
  · exact setConnectionState_inStep (p := { p with lastError := error }) h nofun

section
variable (hclass : p.protocolClass = .openVpn) (h : InStep state p)
include hclass h

/-- An object that is stopped reports `Disconnecting` first, so that its `Disconnected` is not dropped. -/
theorem stop_inStep (hungUp : Bool) : EndsInStep state (p.stop hungUp) := by
  obtain ⟨protocolClass, current, _, _, _, _, _, _, _, _, _⟩ := p
  cases hclass
  rcases h with hsame | ⟨herror, hunknown | hdisconnected⟩
  · cases hsame
    cases current <;> exact Or.inl rfl
  · cases hunknown
    exact Or.inr ⟨herror, Or.inl rfl⟩
  · cases hdisconnected
    exact Or.inr ⟨herror, Or.inr rfl⟩

theorem onTimeout_inStep (hungUp : Bool) : EndsInStep state (p.onTimeout hungUp) := by
  have hfailed := setLastError_inStep (p := { p with timeoutTimer := false }) h .vpnTunnelDidNotComeUpError
  have hclass' : ({ p with timeoutTimer := false }.setLastError .vpnTunnelDidNotComeUpError).1.protocolClass =
      .openVpn := by
    rw [setLastError_protocolClass]
    exact hclass
  apply EndsInStep.andThen
  apply EndsInStep.andThen
  rw [emit_fst, emit_snd, if_neg (by rw [hclass']; decide)]
  exact stop_inStep hclass' hfailed hungUp

theorem handle_line_inStep {line : String} {event : ProtocolEvent} (hline : lineEvent line = some event) :
    EndsInStep state ((p.handle event).getD (quietly p)) ∧
      ((p.handle event).getD (quietly p)).1.protocolClass = .openVpn := by
  have hreports (q : VpnProtocol) (hq : InStep state q) (hqclass : q.protocolClass = .openVpn) (next : ConnectionState)
      (hnext : next ≠ .disconnected) : EndsInStep state
        ((if p.managementSocket then some (q.setConnectionState next) else none).getD (quietly p)) ∧
      ((if p.managementSocket then some (q.setConnectionState next) else none).getD (quietly p)).1.protocolClass =
        .openVpn := by
    split_ifs
    · exact ⟨setConnectionState_inStep hq fun heq => absurd heq hnext, by
        rw [Option.getD_some, setConnectionState_protocolClass, hqclass]⟩
    · exact ⟨h, hclass⟩
  rw [lineEvent] at hline
  split_ifs at hline
  · cases hline
    simp only [handle, hclass]
    exact hreports { p with protocolClass := .openVpn, timeoutTimer := false } h rfl .connected (by decide)
  · cases hline
    simp only [handle, hclass]
    exact hreports p h hclass .disconnecting (by decide)
  · cases hline
    simp only [handle, hclass]
    exact hreports p h hclass .reconnecting (by decide)
  · cases hline
    simp only [handle, hclass]
    split_ifs <;> exact ⟨h, hclass⟩

theorem read_inStep (lines : List String) :
    EndsInStep state (p.onReadyReadDataFromManagementServer lines).1 ∧
      (p.onReadyReadDataFromManagementServer lines).1.1.protocolClass = .openVpn := by
  induction lines generalizing state p with
  | nil => exact ⟨h, hclass⟩
  | cons received rest ih =>
    rw [onReadyReadDataFromManagementServer]
    split_ifs with hempty
    · exact ⟨h, hclass⟩
    · cases hline : lineEvent (simplified received) with
      | none => exact ih hclass h
      | some event =>
        obtain ⟨hhandled, hkept⟩ := handle_line_inStep hclass h hline
        dsimp only
        split_ifs with hfatal
        · exact ⟨hhandled, hkept⟩
        · exact ⟨EndsInStep.andThen (ih hkept hhandled).1, (ih hkept hhandled).2⟩

end

theorem start_inStep (hclass : p.protocolClass = .openVpn)
    (hidle : p.connectionState = .unknown ∨ p.connectionState = .disconnected) (answers : StartAnswers)
    (state : ConnectionState) :
    InStep (if (p.start answers).2 = .noError then followed state (p.start answers).1.2 else .error)
        (p.start answers).1.1 ∧
      (p.start answers).1.1.protocolClass = .openVpn := by
  obtain ⟨protocolClass, current, _, _, _, _, _, _, _, _, _⟩ := p
  cases hclass
  rw [start]
  rcases hidle with hunknown | hdisconnected
  · cases hunknown
    cases answers.openVpn with
    | killSwitchRefused => exact ⟨Or.inr ⟨rfl, Or.inl rfl⟩, rfl⟩
    | configMissing | managementServerFailed | noProcess | started => exact ⟨Or.inl rfl, rfl⟩
  · cases hdisconnected
    cases answers.openVpn with
    | killSwitchRefused => exact ⟨Or.inr ⟨rfl, Or.inr rfl⟩, rfl⟩
    | configMissing | managementServerFailed | noProcess | started => exact ⟨Or.inl rfl, rfl⟩

end VpnProtocol

/-! ### What is announced -/

def Announces (state : ConnectionState) (x : VpnConnection × List VpnSignal) : Prop :=
  ∀ announced : List ConnectionState, announced.getLast? = some state →
    (announced ++ announcedStates x.2).getLast? = some x.1.connectionState

theorem Announces.andThen {x : VpnConnection × List VpnSignal} {f : VpnConnection → VpnConnection × List VpnSignal}
    (hx : Announces state x) (hf : Announces x.1.connectionState (f x.1)) : Announces state (andThen x f) := by
  intro announced hlast
  have hboth := hf _ (hx announced hlast)
  rw [List.append_assoc, announcedStates, announcedStates, ← List.filterMap_append] at hboth
  exact hboth

theorem announces_quietly (v : VpnConnection) : Announces v.connectionState (quietly v) := by
  intro announced hlast
  rw [quietly_snd, announcedStates, List.filterMap_nil, List.append_nil]
  exact hlast

namespace VpnConnection

variable (v : VpnConnection)

theorem setConnectionState_announces (n : ℕ) (state : ConnectionState) :
    Announces v.connectionState (v.setConnectionState n state) := by
  rcases v.setConnectionState_cases n state with ⟨-, hquiet⟩ | hemit
  · rw [hquiet]
    exact announces_quietly v
  · rw [hemit]
    exact fun announced _ => List.getLast?_concat

theorem relay_announces (n : ℕ) (forwardsErrors : Bool) (v : VpnConnection) (signals : List ProtocolSignal) :
    Announces v.connectionState (v.relay n forwardsErrors signals) := by
  induction signals generalizing v with
  | nil => exact announces_quietly v
  | cons signal signals ih =>
    refine Announces.andThen ?_ (ih _)
    cases signal with
    | connectionStateChanged state => exact setConnectionState_announces v n state
    | protocolError error =>
      cases forwardsErrors with
      | false => exact announces_quietly v
      | true =>
        intro announced hlast
        show (announced ++ []).getLast? = some v.connectionState
        rw [List.append_nil]
        exact hlast
    | errorLogged error => exact announces_quietly v

/-! ### Starts and restarts -/

theorem startProtocol_inStep {p : VpnProtocol} (hclass : p.protocolClass = .openVpn)
    (hidle : p.connectionState = .unknown ∨ p.connectionState = .disconnected) (v : VpnConnection) (n : ℕ)
    (answers : Answers) :
    ∃ p', (v.startProtocol n p answers).1.vpnProtocol = some p' ∧ p'.protocolClass = .openVpn ∧
      InStep (v.startProtocol n p answers).1.connectionState p' := by
  obtain ⟨hstep, hkept⟩ := start_inStep hclass hidle answers.start v.connectionState
  refine ⟨(p.start answers.start).1.1, ?_, hkept, ?_⟩
  · rw [startProtocol, andThen_fst]
    split_ifs <;> simp
  · rw [startProtocol, andThen_fst]
    split_ifs at hstep ⊢ with hresult
    · rw [quietly_fst, relay_followed]
      exact hstep
    · exact hstep

theorem startProtocol_announces (n : ℕ) (p : VpnProtocol) (answers : Answers) :
    Announces v.connectionState (v.startProtocol n p answers) := by
  refine Announces.andThen (relay_announces n true
    { v with vpnProtocol := some (p.start answers.start).1.1, attempt := n } (p.start answers.start).1.2) ?_
  split_ifs
  · exact announces_quietly _
  · refine Announces.andThen (setConnectionState_announces _ n .error) ?_
    intro announced hlast
    show (announced ++ []).getLast? = _
    rw [List.append_nil]
    exact hlast

theorem stopAndDelete_announces (answers : Answers) (forwardsErrors : Bool) :
    Announces v.connectionState (v.stopAndDelete answers forwardsErrors) := by
  rw [stopAndDelete]
  cases v.vpnProtocol with
  | none => exact announces_quietly v
  | some p =>
    refine Announces.andThen (relay_announces v.attempt forwardsErrors v (p.stop answers.hungUp).2) ?_
    generalize (v.relay v.attempt forwardsErrors (p.stop answers.hungUp).2).1 = stopped
    exact relay_announces stopped.attempt forwardsErrors { stopped with vpnProtocol := none } _

theorem reconnectToVpn_announces (answers : Answers) : Announces v.connectionState (v.reconnectToVpn answers) := by
  rw [reconnectToVpn]
  cases v.vpnProtocol with
  | none => exact announces_quietly v
  | some p =>
    split_ifs
    · exact announces_quietly v
    · refine Announces.andThen (setConnectionState_announces v v.attempt .reconnecting) ?_
      generalize (v.setConnectionState v.attempt .reconnecting).1 = announced
      refine Announces.andThen (relay_announces announced.attempt true
        { announced with vpnProtocol := some (p.stop answers.hungUp).1 } (p.stop answers.hungUp).2) ?_
      exact startProtocol_announces _ _ _ answers

end VpnConnection

namespace Tunnel

variable {t : Tunnel}

/-- The object is OpenVPN's, `VpnConnection` is in step with it, and its state is the one announced last. -/
structure Sound (t : Tunnel) : Prop where
  object : ∃ p, t.vpn.vpnProtocol = some p ∧ p.protocolClass = .openVpn ∧ InStep t.vpn.connectionState p
  announced : t.announced.getLast? = some t.vpn.connectionState

theorem Sound.emitted (h : t.Sound) {x : VpnConnection × List VpnSignal}
    (hannounces : Announces t.vpn.connectionState x)
    (hobject : ∃ p, x.1.vpnProtocol = some p ∧ p.protocolClass = .openVpn ∧ InStep x.1.connectionState p) :
    (t.emitted x).Sound :=
  ⟨hobject, hannounces t.announced h.announced⟩

theorem Sound.relay (h : t.Sound) {x : VpnProtocol × List ProtocolSignal}
    (hclass : x.1.protocolClass = .openVpn) (hx : EndsInStep t.vpn.connectionState x) :
    (t.emitted ({ t.vpn with vpnProtocol := some x.1 }.relay t.vpn.attempt true x.2)).Sound := by
  refine h.emitted (VpnConnection.relay_announces _ true { t.vpn with vpnProtocol := some x.1 } x.2)
    ⟨x.1, ?_, hclass, ?_⟩
  · rw [VpnConnection.relay_vpnProtocol]
  · rw [VpnConnection.relay_followed]
    exact hx

theorem connect_sound (platform : OpenVpnPlatform) (v : VpnConnection) (attempt : ℕ) (answers : Answers) :
    (connect platform v attempt answers).Sound := by
  have hconnecting : v.setConnectionState attempt .connecting =
      emit { v with connectionState := .connecting } ⟨attempt, .connectionStateChanged .connecting⟩ :=
    if_neg (by simp)
  have hconnect : v.connectOnDesktop platform.1 attempt .openVpn answers =
      andThen (emit { v with connectionState := .connecting }
        ⟨attempt, .connectionStateChanged .connecting⟩) fun v =>
        andThen (v.stopAndDelete answers false) fun v =>
          v.startProtocol attempt (.create .openVpn answers.uninitialised) answers := by
    rw [VpnConnection.connectOnDesktop, hconnecting, platform.2]
  rw [connect, hconnect]
  constructor
  · exact VpnConnection.startProtocol_inStep rfl (Or.inl rfl) _ attempt answers
  · have hrest : Announces .connecting (andThen ({ v with connectionState := .connecting }.stopAndDelete answers false)
        fun v => v.startProtocol attempt (.create .openVpn answers.uninitialised) answers) :=
      Announces.andThen (VpnConnection.stopAndDelete_announces { v with connectionState := .connecting } answers false)
        (VpnConnection.startProtocol_announces _ attempt _ answers)
    exact hrest [.connecting] rfl

/-- The process does not end while `VpnConnection` is `Reconnecting`. -/
def EndsNoticed (t : Tunnel) : OpenVpnEvent → Prop
  | .processFinished => ∀ p ∈ t.vpn.vpnProtocol, p.processRunning = true → t.vpn.connectionState ≠ .reconnecting
  | _ => True

theorem Sound.reconnectToVpn (h : t.Sound) (answers : Answers) : (t.emitted (t.vpn.reconnectToVpn answers)).Sound := by
  refine h.emitted (VpnConnection.reconnectToVpn_announces t.vpn answers) ?_
  obtain ⟨p, hp, hclass, hstep⟩ := h.object
  rw [VpnConnection.reconnectToVpn, hp]
  split_ifs with hstate
  · exact ⟨p, hp, hclass, hstep⟩
  · rw [not_not] at hstate
    have hconnected : p.connectionState = .connected := by
      rcases hstep with hsame | ⟨herror, -⟩
      · rw [← hsame, hstate]
      · rw [hstate] at herror
        cases herror
    have hstopped : (p.stop answers.hungUp).1.connectionState = .disconnected := by
      obtain ⟨protocolClass, current, _, _, _, _, _, _, _, _, _⟩ := p
      cases hclass
      cases hconnected
      rfl
    have hkept : (p.stop answers.hungUp).1.protocolClass = .openVpn :=
      (stop_keeps p answers.hungUp).1.trans hclass
    exact VpnConnection.startProtocol_inStep hkept (Or.inr hstopped) _ _ answers

variable {event : OpenVpnEvent}

theorem Sound.step {t' : Tunnel} (h : t.Sound) (hnoticed : t.EndsNoticed event) (hstep : t.step event = some t') :
    t'.Sound := by
  obtain ⟨p, hp, hclass, hinStep⟩ := h.object
  have hhandle {e : VpnProtocol.ProtocolEvent} {f : VpnConnection × List VpnSignal → Tunnel}
      (hevent : (t.vpn.protocolEvent e).map f = some t') :
      ∃ x, p.handle e = some x ∧
        t' = f ({ t.vpn with vpnProtocol := some x.1 }.relay t.vpn.attempt true x.2) := by
    rw [VpnConnection.protocolEvent, hp, Option.bind_some, Option.map_map] at hevent
    obtain ⟨x, hx, hresult⟩ := Option.map_eq_some_iff.mp hevent
    exact ⟨x, hx, hresult.symm⟩
  cases event with
  | managementAccepted =>
    obtain ⟨x, hx, rfl⟩ := hhandle hstep
    simp only [handle, hclass] at hx
    split_ifs at hx
    cases hx
    have hrelay := h.relay (x := quietly { p with
      protocolClass := .openVpn, managementServer := false, managementSocket := true }) rfl hinStep
    exact ⟨hrelay.object, hrelay.announced⟩
  | readyRead lines =>
    rw [Tunnel.step, hp, Option.bind_some] at hstep
    split_ifs at hstep
    cases hstep
    obtain ⟨hread, hkept⟩ := read_inStep hclass hinStep (t.unread ++ lines)
    have hrelay := h.relay hkept hread
    exact ⟨hrelay.object, hrelay.announced⟩
  | processFinished =>
    obtain ⟨x, hx, rfl⟩ := hhandle hstep
    simp only [handle, hclass] at hx
    split_ifs at hx with hrunning
    cases hx
    refine h.relay ?_ (setConnectionState_inStep
      (p := { p with protocolClass := .openVpn, processRunning := false }) hinStep fun _ => hnoticed p hp hrunning)
    rw [setConnectionState_protocolClass]
  | timeout =>
    obtain ⟨x, hx, rfl⟩ := hhandle hstep
    simp only [handle] at hx
    split_ifs at hx
    cases hx
    exact h.relay ((onTimeout_records p true).1.trans hclass)
      (onTimeout_inStep hclass hinStep true)
  | reconnectToVpn answers =>
    cases hstep
    exact h.reconnectToVpn answers

/-! ### A dead tunnel -/

def isDown (state : ConnectionState) : Bool := state = .disconnected || state = .error

/-- An object that is down is reported as down, in the state of `VpnConnection` and in the last one announced. -/
def DeadReported (t : Tunnel) : Prop :=
  ∀ p ∈ t.vpn.vpnProtocol, isDown p.connectionState = true →
    isDown t.vpn.connectionState = true ∧ ∃ state ∈ t.announced.getLast?, isDown state = true

theorem Sound.deadReported (h : t.Sound) : t.DeadReported := by
  obtain ⟨p, hp, -, hstep⟩ := h.object
  intro p' hp' hdown
  cases hp.symm.trans hp'
  have hreported : isDown t.vpn.connectionState = true := by
    rcases hstep with hsame | ⟨herror, -⟩
    · rw [hsame]
      exact hdown
    · rw [herror]
      rfl
  exact ⟨hreported, _, h.announced, hreported⟩

theorem Sound.not_deadReported (h : t.Sound) (hnot : ¬ t.EndsNoticed event) :
    ∃ t', t.step event = some t' ∧ ¬ t'.DeadReported := by
  cases event with
  | processFinished =>
    simp only [EndsNoticed, not_forall, not_not] at hnot
    obtain ⟨p, hp, hrunning, hreconnecting⟩ := hnot
    obtain ⟨p', hp', hclass, hstep⟩ := h.object
    cases hp'.symm.trans hp
    have hstate : p.connectionState = .reconnecting := by
      rcases hstep with hsame | ⟨herror, -⟩
      · rw [← hsame, hreconnecting]
      · rw [hreconnecting] at herror
        cases herror
    -- The object reports `Disconnected`, which is the one state that is dropped now.
    have hended : t.step .processFinished = some (t.emitted ({ t.vpn with
        vpnProtocol := some (({ p with processRunning := false }.setConnectionState .disconnected).1) }.relay
          t.vpn.attempt true [.connectionStateChanged .disconnected])) := by
      obtain ⟨protocolClass, current, _, _, _, _, _, _, _, _, _⟩ := p
      cases hclass
      cases hstate
      cases hrunning
      rw [Tunnel.step, VpnConnection.protocolEvent, hp]
      rfl
    refine ⟨_, hended, fun hreported => ?_⟩
    have hdown := (hreported _ (VpnConnection.relay_vpnProtocol ..) ?_).1
    · change isDown (VpnConnection.relay _ _ _ _).1.connectionState = true at hdown
      rw [VpnConnection.relay_followed, hreconnecting] at hdown
      cases hdown
    · rw [setConnectionState, if_neg (by rw [hstate]; decide), if_neg (by rw [hstate]; decide)]
      rfl
  | managementAccepted | readyRead lines | timeout | reconnectToVpn answers => exact absurd trivial hnot

/-- **A dead tunnel is reported.** For every attempt with OpenVPN, from whatever state of `VpnConnection`, and every
sequence of connections and lines of the management interface, ends of the process, timeouts and restarts: an object
that is down is reported as down in every state of the run exactly if the process never ends while `VpnConnection` is
`Reconnecting`. -/
theorem dead_tunnel_reported_iff (platform : OpenVpnPlatform) (v : VpnConnection) (attempt : ℕ) (answers : Answers)
    (events : List OpenVpnEvent) :
    (∀ before t, before <+: events → Run.run step (connect platform v attempt answers) before = some t →
        t.DeadReported) ↔
      Run.Meets step EndsNoticed (connect platform v attempt answers) events :=
  Run.forall_reached_iff_meets (fun _ => Sound.deadReported) (fun _ _ _ h hok hstep => h.step hok hstep)
    (fun _ _ h hnot => h.not_deadReported hnot) (connect_sound platform v attempt answers) events

/-- A connected tunnel loses its server, and the process gives up: the object is down, no timer and no process are left
to report anything, and `VpnConnection` is `Reconnecting`. -/
theorem process_ends_while_reconnecting :
    (Run.run step (connect ⟨.linux, rfl⟩ .initial 1 System.goodAnswers)
        [.managementAccepted, .readyRead [">STATE:1700000000,CONNECTED,SUCCESS,10.8.0.6,192.0.2.1,1194,,"],
          .readyRead [">STATE:1700000060,RECONNECTING,ping-restart,,,,,"], .processFinished]).map
      (fun t => (t.vpn.vpnProtocol.map fun p => (p.connectionState, p.timeoutTimer, p.processRunning),
        t.vpn.connectionState, t.announced)) =
      some (some (.disconnected, false, false), .reconnecting,
        [.connecting, .connecting, .connected, .reconnecting]) := by
  decide +kernel

end Tunnel

end FreshVpn
