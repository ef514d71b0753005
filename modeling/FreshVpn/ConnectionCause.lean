import FreshVpn.ConnectionIndex

/-! The cause of a failure. The controller asks the protocol object for its last error, and falls back on the error it
has heard of last. -/

namespace FreshVpn

open ConnectionController Emit VpnProtocol Course

namespace VpnProtocol

/-! ### What an object records -/

variable (p : VpnProtocol) (error : ErrorCode) (state : ConnectionState)

@[simp] theorem setConnectionState_lastError : (p.setConnectionState state).1.lastError = p.lastError := by
  rcases p.setConnectionState_cases state with h | h <;> rw [h] <;> rfl

@[simp] theorem setConnectionState_protocolClass : (p.setConnectionState state).1.protocolClass = p.protocolClass := by
  rcases p.setConnectionState_cases state with h | h <;> rw [h] <;> rfl

@[simp] theorem setLastError_lastError : (p.setLastError error).1.lastError = error := by
  unfold setLastError
  split_ifs <;> simp

@[simp] theorem setLastError_protocolClass : (p.setLastError error).1.protocolClass = p.protocolClass := by
  unfold setLastError
  split_ifs <;> simp

theorem errorLogged_mem_setLastError : .errorLogged error ∈ (p.setLastError error).2 := by
  unfold setLastError
  simp

@[simp] theorem onDaemonDisconnected_lastError : p.onDaemonDisconnected.1.lastError = p.lastError := by
  simp [onDaemonDisconnected, cancelTrafficProbe]

@[simp] theorem onDaemonDisconnected_protocolClass : p.onDaemonDisconnected.1.protocolClass = p.protocolClass := by
  simp [onDaemonDisconnected, cancelTrafficProbe]

theorem stop_keeps (hungUp : Bool) :
    (p.stop hungUp).1.protocolClass = p.protocolClass ∧ (p.stop hungUp).1.lastError = p.lastError := by
  unfold stop
  cases hclass : p.protocolClass with
  | openVpn =>
    dsimp only
    rw [andThen_fst]
    split_ifs <;> simp [cleanupResources, hclass]
  | _ => simp [cancelTrafficProbe, hclass]

theorem onTimeout_records (hungUp : Bool) :
    (p.onTimeout hungUp).1.protocolClass = p.protocolClass ∧
      (p.onTimeout hungUp).1.records (p.onTimeout hungUp).2 = true := by
  unfold onTimeout
  rw [andThen_fst, andThen_fst, andThen_snd]
  generalize hfailed : { p with timeoutTimer := false }.setLastError .vpnTunnelDidNotComeUpError = failed
  have hclass : failed.1.protocolClass = p.protocolClass := by
    rw [← hfailed, setLastError_protocolClass]
  have herror : failed.1.lastError = .vpnTunnelDidNotComeUpError := by
    rw [← hfailed, setLastError_lastError]
  have hlogged : .errorLogged .vpnTunnelDidNotComeUpError ∈ failed.2 := by
    rw [← hfailed]
    exact errorLogged_mem_setLastError ..
  have hstop := stop_keeps (if failed.1.protocolClass = .wireguard then failed.1.cancelTrafficProbe else failed.1) hungUp
  have hsame : (if failed.1.protocolClass = .wireguard then failed.1.cancelTrafficProbe else failed.1).protocolClass =
        failed.1.protocolClass ∧
      (if failed.1.protocolClass = .wireguard then failed.1.cancelTrafficProbe else failed.1).lastError =
        failed.1.lastError := by
    split_ifs <;> exact ⟨rfl, rfl⟩
  rw [emit_fst]
  refine ⟨hstop.1.trans (hsame.1.trans hclass), ?_⟩
  have hlast := hstop.2.trans (hsame.2.trans herror)
  rw [records_iff, hlast]
  exact ⟨by decide, by decide, List.mem_append_left _ hlogged⟩

def Keeps (p : VpnProtocol) (x : VpnProtocol × List ProtocolSignal) : Prop :=
  x.1.protocolClass = p.protocolClass ∧ (x.1.lastError = p.lastError ∨ x.1.records x.2 = true)

theorem keeps_setConnectionState {p q : VpnProtocol} (hclass : q.protocolClass = p.protocolClass)
    (herror : q.lastError = p.lastError) (state : ConnectionState) : p.Keeps (q.setConnectionState state) :=
  ⟨by rw [setConnectionState_protocolClass, hclass], Or.inl (by rw [setConnectionState_lastError, herror])⟩

theorem keeps_setLastError {p q : VpnProtocol} (hclass : q.protocolClass = p.protocolClass) {error : ErrorCode}
    (hnoError : error ≠ .noError) (hinternal : error ≠ .internalError) : p.Keeps (q.setLastError error) := by
  refine ⟨by rw [setLastError_protocolClass, hclass], Or.inr (records_iff.mpr ?_)⟩
  rw [setLastError_lastError]
  exact ⟨hnoError, hinternal, errorLogged_mem_setLastError q error⟩

variable {x : VpnProtocol × List ProtocolSignal}

theorem Keeps.after {p : VpnProtocol} {f : VpnProtocol → VpnProtocol × List ProtocolSignal}
    (hclass : x.1.protocolClass = p.protocolClass) (herror : x.1.lastError = p.lastError) (h : x.1.Keeps (f x.1)) :
    p.Keeps (andThen x f) := by
  refine ⟨h.1.trans hclass, h.2.imp (fun hsame => hsame.trans herror) fun hrecords => ?_⟩
  obtain ⟨hnoError, hinternal, hlogged⟩ := records_iff.mp hrecords
  exact records_iff.mpr ⟨hnoError, hinternal, List.mem_append_right _ hlogged⟩

theorem failConnection_keeps {error : ErrorCode} (hnoError : error ≠ .noError) (hinternal : error ≠ .internalError) :
    p.Keeps (p.failConnection error) := by
  unfold failConnection
  split_ifs with hreported
  · exact ⟨rfl, Or.inl rfl⟩
  · refine ⟨by simp [cancelTrafficProbe], Or.inr (records_iff.mpr ⟨by simpa using hnoError, by simpa using hinternal, ?_⟩)⟩
    simp [errorLogged_mem_setLastError]

theorem handle_keeps {p : VpnProtocol} {event : ProtocolEvent} (hregular : p.isRegular = true)
    (hfirst : p.stopsFirst event = false) (h : p.handle event = some x) : p.Keeps x := by
  cases reacts_of_handle hregular h with
  | timedOut hungUp => exact ⟨(onTimeout_records p hungUp).1, Or.inr (onTimeout_records p hungUp).2⟩
  | quiet hq => exact ⟨hq.1, Or.inl hq.2.2⟩
  | reported error => exact ⟨rfl, Or.inl rfl⟩
  | changed hq hstate => exact keeps_setConnectionState hq.1 hq.2.2 _
  | failed hclass herror => rcases herror with rfl | rfl <;> exact failConnection_keeps _ (by decide) (by decide)
  | stoppedFirst hq hclass herror hyes => exact absurd hyes (ne_true_of_eq_false hfirst)

theorem start_keeps {p : VpnProtocol} (hregular : p.isRegular = true) (answers : StartAnswers) :
    p.Keeps (p.start answers).1 := by
  unfold start
  cases hclass : p.protocolClass with
  | ikev2 | android => simp [isRegular, hclass] at hregular
  | wireguard =>
    cases answers.wireguard with
    | started => exact keeps_setConnectionState rfl rfl _
    | noController | hostUnresolved =>
      exact Keeps.after (by simp) (by simp) (failConnection_keeps _ (by decide) (by decide))
  | openVpn =>
    cases answers.openVpn with
    | configMissing | managementServerFailed => exact keeps_setLastError rfl (by decide) (by decide)
    | killSwitchRefused => exact ⟨rfl, Or.inl rfl⟩
    | noProcess => exact Keeps.after (by simp) (by simp) (keeps_setLastError rfl (by decide) (by decide))
    | started => exact Keeps.after (by simp) (by simp) ⟨rfl, Or.inl rfl⟩
  | xray =>
    refine Keeps.after (by simp) (by simp) ?_
    split_ifs <;> exact ⟨rfl, Or.inl rfl⟩

end VpnProtocol

namespace VpnConnection

/-! ### The recorded error of an attempt -/

variable {v : VpnConnection} {signals : List ProtocolSignal}

theorem Recorded.of_keeps {v' : VpnConnection} {n : ℕ} (h : v.Recorded n) {p p' : VpnProtocol}
    (hobject : v.vpnProtocol = some p) (hkeeps : p.Keeps (p', signals)) (hobject' : v'.vpnProtocol = some p')
    (hattempt : v'.attempt = n) (hlog : ∀ entry ∈ v.errorLog, entry ∈ v'.errorLog)
    (hlogged : ∀ error, .errorLogged error ∈ signals → (n, error) ∈ v'.errorLog) : v'.Recorded n := by
  obtain ⟨q, hq, hregular, hnoError, hinternal, hmem⟩ := h.recorded
  rw [hobject] at hq
  cases hq
  have hregular' : p'.isRegular = true := by
    unfold isRegular
    rw [hkeeps.1]
    exact hregular
  rcases hkeeps.2 with hsame | hrecords
  · refine ⟨hattempt, p', hobject', hregular', ?_⟩
    rw [hsame]
    exact ⟨hnoError, hinternal, hlog _ hmem⟩
  · exact recorded_of_records hregular' hrecords hobject' hattempt hlogged

theorem Recorded.handle {n : ℕ} (h : v.Recorded n) {event : VpnProtocol.ProtocolEvent} (hevent : v.EndsCleanly event)
    {p p' : VpnProtocol} (hobject : v.vpnProtocol = some p) (hhandle : p.handle event = some (p', signals)) :
    ({ v with vpnProtocol := some p' }.relay v.attempt true signals).1.Recorded n := by
  obtain ⟨q, hq, hregular, -⟩ := h.recorded
  rw [hobject] at hq
  cases hq
  obtain rfl : v.attempt = n := h.attempt
  refine h.of_keeps hobject (handle_keeps hregular (hevent.2 p hobject) hhandle) (by simp) (by simp) ?_ ?_
  · intro entry hentry
    simp [hentry]
  · intro error hlogged
    simp [mem_loggedErrors hlogged]

theorem Recorded.reconnectToVpn {n : ℕ} (h : v.Recorded n) (answers : Answers) :
    (v.reconnectToVpn answers).1.Recorded n := by
  obtain ⟨p, hobject, hregular, -⟩ := h.recorded
  unfold VpnConnection.reconnectToVpn
  rw [hobject]
  split_ifs with hconnected
  · exact h
  · obtain rfl : v.attempt = n := h.attempt
    have hstop := stop_keeps p answers.hungUp
    have hregular' : (p.stop answers.hungUp).1.isRegular = true := by
      unfold isRegular
      rw [hstop.1]
      exact hregular
    have hkeeps : p.Keeps ((p.stop answers.hungUp).1.start answers.start).1 := by
      have hstart := start_keeps hregular' answers.start
      exact ⟨hstart.1.trans hstop.1, hstart.2.imp_left fun hsame => hsame.trans hstop.2⟩
    refine h.of_keeps hobject hkeeps (startProtocol_object _ _ _ answers).1 ?_ ?_ ?_
    · rw [andThen_fst, andThen_fst, (startProtocol_object _ _ _ answers).2]
      simp
    · intro entry hentry
      rw [andThen_fst, andThen_fst, startProtocol_errorLog]
      simp [hentry]
    · intro error hlogged
      rw [andThen_fst, andThen_fst, startProtocol_errorLog]
      simp [mem_loggedErrors hlogged]

end VpnConnection

namespace Observed

variable {client : Client} {serverId : String} {r : Observed} {heard : Course}

/-! ### The cause along the course -/

/-- The attempt at whose end the stream stands has recorded its error. -/
def Caused (s : System) : Course → Prop
  | .ended n => s.vpn.Recorded n
  | .finished n true => s.attempts = n → s.vpn.Recorded n
  | _ => True

variable {s : System}

theorem Caused.congr {s' : System} {course : Course} (h : Caused s course) (hvpn : s'.vpn = s.vpn)
    (hattempts : s'.attempts = s.attempts) : Caused s' course := by
  cases course with
  | ended n =>
    change s'.vpn.Recorded n
    rw [hvpn]
    exact h
  | finished n hadFailed =>
    cases hadFailed with
    | false => exact trivial
    | true =>
      intro hn
      rw [hvpn]
      exact h (hattempts.symm.trans hn)
  | _ => exact trivial

/-- If the next signal is handled as a failure, the error the controller reports then is one that the last attempt
has recorded or returned. -/
def CauseKnown (client : Client) (s : System) : Prop :=
  ∀ signal ∈ s.signals.head?, s.takesForFailure signal = true →
    (s.attempts, s.reportedError client) ∈ s.vpn.errorLog ∧ s.reportedError client ≠ .noError

theorem reportedError_of_recorded (hdesktop : client.isDesktop = true) (h : s.vpn.Recorded s.attempts) :
    (s.attempts, s.reportedError client) ∈ s.vpn.errorLog ∧ s.reportedError client ≠ .noError := by
  obtain ⟨p, hobject, -, hnoError, hinternal, hlogged⟩ := h.recorded
  have hplatform : client.platform ≠ .android := by
    intro hplatform
    simp [Client.isDesktop, Client.isMobile, hplatform] at hdesktop
  have hreported : s.reportedError client = p.lastError := by
    unfold System.reportedError VpnConnection.lastError lastConnectionError
    simp [hplatform, hobject, hnoError, hinternal]
  rw [hreported]
  exact ⟨hlogged, hnoError⟩

theorem recorded_of_caused {n : ℕ} {signals : List VpnSignal} (hsends : Sends s ((Course.ended n).after signals))
    (hcaused : Caused s ((Course.ended n).after signals)) (hattempts : s.attempts = n) : s.vpn.Recorded s.attempts := by
  have hle := hsends.number_le
  subst hattempts
  rcases ended_after s.attempts signals hsends.ne_unexpected with hended | hfinished | hlater
  · rw [hended] at hcaused
    exact hcaused
  · rw [hfinished] at hcaused
    exact hcaused rfl
  · omega

section

variable (h : OnCourse client serverId r heard) (hcaused : Caused r.system (heard.after r.system.signals))
include h hcaused

theorem OnCourse.causeKnown (hdesktop : client.isDesktop = true) : CauseKnown client r.system := by
  intro signal hhead htakes
  obtain ⟨rest, hsignals⟩ := List.head?_eq_some_iff.mp hhead
  have hsends := h.sends
  have hfollows := h.follows
  rw [hsignals] at hsends hcaused
  have hreads := reads_next (next_ne_unexpected hsends.ne_unexpected)
  rw [after_cons] at hsends hcaused
  generalize heard.next signal = heard' at hreads hsends hcaused
  refine reportedError_of_recorded hdesktop ?_
  cases hreads with
  | failed n state hstate => exact recorded_of_caused hsends hcaused hfollows.2.2.2.2.1
  | tail n attempt state hstate hattempt =>
    obtain ⟨-, -, ⟨hswitching, -⟩ | ⟨-, hattempts, -⟩⟩ := hfollows
    · simp [System.takesForFailure, hswitching] at htakes
    · exact recorded_of_caused hsends hcaused hattempts
  | finished n hadFailed => exact hfollows.elim
  | _ => simp [System.takesForFailure, isFailure] at htakes

/-- The ways to fail that record the error before the failure is reported: there is an object for the container,
OpenVPN is not refused the kill switch, and neither the process nor the daemon ends by itself while connecting. -/
def RecordsCause (client : Client) (r : Observed) : Action → Prop
  | .execute answers => ∀ id container json,
      r.system.commands.head? = some (.connectToVpn id container json) →
        VpnConnection.RecordsStart client.platform container answers
  | .protocolEvent event => ∀ p, r.system.vpn.vpnProtocol = some p → p.connectionState = .connecting →
      event.isSilentEnd = false
  | _ => True

theorem OnCourse.caused_execute (hdesktop : client.isDesktop = true) {answers : Answers} {s' : System}
    (hclean : CleanCourse client r (.execute answers)) (hrecords : RecordsCause client r (.execute answers))
    (hstep : r.system.execute client answers = some s') : Caused s' (heard.after s'.signals) := by
  have hsends := h.sends
  rcases h.execute_cases hstep with ⟨n, id, container, json, hcommands, rfl, -, rfl, hsent⟩ |
    ⟨n, rest, hcommands, rfl, hidle, rfl, rfl, hsent⟩
  · have hclean' := hclean id container json (by rw [hcommands]; rfl)
    have hrecords' := hrecords id container json (by rw [hcommands]; rfl)
    -- The new attempt goes on, or has ended and recorded why.
    have hconnect : ∀ sent : Course, sent = .waiting r.system.attempts ∨ sent = .ended r.system.attempts →
        r.system.vpn.StopsSilently → Caused
          ({ r.system with commands := [], attempts := r.system.attempts + 1 }.emitted
            (r.system.vpn.connectToVpn client (r.system.attempts + 1) container answers))
          (sent.after (r.system.vpn.connectToVpn client (r.system.attempts + 1) container answers).2) := by
      intro sent hwhere hsilent
      rw [VpnConnection.connectToVpn_of_isDesktop hdesktop]
      rcases VpnConnection.connectOnDesktop_course hsilent client.platform r.system.attempts hclean' hwhere with
        ⟨htrying, -⟩ | ⟨hended, -, hrecorded⟩
      · rw [htrying]
        exact trivial
      · rw [hended]
        exact hrecorded hrecords'
    change Caused _ (heard.after (r.system.signals ++ _))
    rw [after_append]
    rcases hsent with hsent | hsent | hsent
    · rw [hsent] at hsends ⊢
      exact hconnect _ (Or.inl rfl) hsends.2
    · rw [hsent] at hsends ⊢
      exact hconnect _ (Or.inr rfl) hsends.2.silent
    · rw [hsent, finished_after]
      intro hsame
      exact absurd hsame (Nat.succ_ne_self _)
  · -- The interface's `Disconnected` touches neither the object nor the log.
    have hkept : ∀ n, r.system.vpn.Recorded n → (r.system.vpn.setConnectionState 0 .disconnected).1.Recorded n := by
      rintro n ⟨hattempt, p, hobject, hrest⟩
      exact ⟨by simpa using hattempt, p, by simpa using hobject, by simpa using hrest⟩
    change Caused _ ((ended _).after (r.system.signals ++ _))
    rw [after_append]
    rcases hsent with hsent | hsent
    · rw [hsent] at hsends hcaused ⊢
      rcases r.system.vpn.setConnectionState_cases 0 .disconnected with ⟨hreconnecting, -⟩ | hset
      · exact absurd hreconnecting hsends.2.notReconnecting
      · have hread : (ended r.system.attempts).next ⟨0, .connectionStateChanged .disconnected⟩ =
            .ended r.system.attempts := by
          simp [next]
        have hafter : (ended r.system.attempts).after (r.system.vpn.setConnectionState 0 .disconnected).2 =
            .ended r.system.attempts := by
          rw [hset, emit_snd, after_cons, hread, after_nil]
        rw [hafter]
        exact hkept _ hcaused
    · rw [hsent] at hcaused ⊢
      rw [finished_after]
      exact fun hsame => hkept _ (hcaused hsame)

theorem OnCourse.caused_protocolEvent (hattempts : r.base < r.system.attempts)
    {event : VpnProtocol.ProtocolEvent} (hevent : r.system.vpn.EndsCleanly event)
    (hrecords : RecordsCause client r (.protocolEvent event)) {x : VpnConnection × List VpnSignal}
    (hx : r.system.vpn.protocolEvent event = some x) :
    Caused (r.system.emitted x) (heard.after (r.system.emitted x).signals) := by
  have hsends := h.sends
  have hnot := h.not_waiting hattempts
  obtain ⟨p, p', signals, hobject, hhandle, rfl⟩ := VpnConnection.protocolEvent_cases hx
  change Caused _ (heard.after (r.system.signals ++ _))
  rw [after_append]
  generalize heard.after r.system.signals = sent at hsends hnot hcaused ⊢
  cases sent with
  | waiting n => exact absurd rfl (hnot n)
  | trying n =>
    rcases hsends.2.handle hevent hobject hhandle with ⟨hsame, -⟩ | hfinished | ⟨hended, -, hrecorded⟩
    · rw [hsame]
      exact trivial
    · rw [hfinished]
      exact trivial
    · rw [hended]
      obtain ⟨q, hq, halive⟩ := hsends.2.alive
      exact hrecorded (hrecords q hq (of_decide_eq_true (Bool.and_eq_true_iff.mp halive).2))
  | ended n =>
    have hkept := hcaused.handle hevent hobject hhandle
    rcases hsends.2.handle hevent hobject hhandle with ⟨hsame, -⟩ | hfinished
    · rw [hsame]
      exact hkept
    · rw [hfinished]
      exact fun _ => hkept
  | finished n hadFailed =>
    rw [finished_after]
    cases hadFailed with
    | false => exact trivial
    | true => exact fun hsame => (hcaused hsame).handle hevent hobject hhandle
  | unexpected => exact hsends.elim

theorem OnCourse.caused_networkChanged (hattempts : r.base < r.system.attempts) (answers : Answers) :
    Caused (r.system.emitted (r.system.vpn.reconnectToVpn answers))
      (heard.after (r.system.emitted (r.system.vpn.reconnectToVpn answers)).signals) := by
  have hsends := h.sends
  have hnot := h.not_waiting hattempts
  change Caused _ (heard.after (r.system.signals ++ _))
  rw [after_append]
  generalize heard.after r.system.signals = sent at hsends hnot hcaused ⊢
  cases sent with
  | waiting n => exact absurd rfl (hnot n)
  | trying n =>
    rw [VpnConnection.reconnectToVpn_of_ne_connected hsends.2.notConnected]
    exact trivial
  | ended n =>
    rw [VpnConnection.reconnectToVpn_of_ne_connected hsends.2.notConnected]
    exact hcaused
  | finished n hadFailed =>
    rw [finished_after]
    cases hadFailed with
    | false => exact trivial
    | true => exact fun hsame => (hcaused hsame).reconnectToVpn answers
  | unexpected => exact hsends.elim

theorem OnCourse.caused_turn (hdesktop : client.isDesktop = true) {r' : Observed} {action : Action}
    (hclean : CleanCourse client r action) (hrecords : RecordsCause client r action)
    (haction : action ≠ .deliver) (hstep : r.step client action = some r') :
    Caused r'.system (heard.after r'.system.signals) := by
  obtain ⟨s', hs, rfl⟩ := Option.map_eq_some_iff.mp hstep
  cases action with
  | deliver => exact absurd rfl haction
  | budgetTimeout =>
    rw [System.budgetTimeout_cases hs]
    exact hcaused
  | execute answers => exact h.caused_execute hcaused hdesktop hclean hrecords hs
  | protocolEvent event =>
    obtain ⟨x, hx, rfl⟩ := Option.map_eq_some_iff.mp hs
    exact h.caused_protocolEvent hcaused hclean.1 hclean.2 hrecords hx
  | networkChanged answers =>
    simp only [System.step, hdesktop, if_true, Option.some.injEq] at hs
    rw [← hs]
    exact h.caused_networkChanged hcaused hclean answers
  | openConnection | closeConnection | setConnectionState | androidDisconnected | appleState => exact hclean.elim

theorem OnCourse.caused_step (hdesktop : client.isDesktop = true) {r' : Observed} {action : Action}
    (hclean : CleanCourse client r action) (hrecords : RecordsCause client r action)
    (hstep : r.step client action = some r') :
    r'.connected = true ∨
      ∃ heard', OnCourse client serverId r' heard' ∧ Caused r'.system (heard'.after r'.system.signals) := by
  by_cases haction : action = .deliver
  · cases haction
    rcases h.deliver hstep with hconnected | ⟨signal, rest, hsignals, hsignals', hvpn, hattempts, hcourse⟩
    · exact Or.inl hconnected
    · refine Or.inr ⟨_, hcourse, ?_⟩
      -- The signal moves from the queue to what the controller has heard.
      rw [hsignals, after_cons] at hcaused
      rw [hsignals']
      exact hcaused.congr hvpn hattempts
  · exact Or.inr ⟨heard, h.turn hdesktop hclean haction hstep,
      h.caused_turn hcaused hdesktop hclean hrecords haction hstep⟩

end

/-- **The cause of the last attempt.** On the desktop, in every run on a clean course whose attempts record their
errors, whenever a failure is about to be handled the error that the controller will find is one of the last
attempt, until the connection has come up. -/
theorem cause_of_last_attempt (client : Client) (hdesktop : client.isDesktop = true) (s : System) (serverId : String)
    (r₀ r : Observed) (actions : List Action)
    (hready : ∃ container json, client.prepareConnection serverId = .ready container json)
    (hcommands : s.commands = []) (hsignals : s.signals = []) (hsilent : s.vpn.StopsSilently)
    (hstart : start client s serverId = some r₀)
    (hmeets : Run.Meets (step client) (fun r action => CleanCourse client r action ∧ RecordsCause client r action)
      r₀ actions)
    (hrun : Run.run (step client) r₀ actions = some r) : r.connected = true ∨ CauseKnown client r.system := by
  have hfirst : ∃ heard, OnCourse client serverId r₀ heard ∧ Caused r₀.system (heard.after r₀.system.signals) := by
    refine ⟨_, onCourse_start hready hcommands hsignals hsilent hstart, ?_⟩
    obtain ⟨container, json, hready⟩ := hready
    rw [start_eq hcommands hready hstart]
    rw [hsignals]
    exact trivial
  have hend := Run.run_invariant_of_meets
    (I := fun r => r.connected = true ∨
      ∃ heard, OnCourse client serverId r heard ∧ Caused r.system (heard.after r.system.signals))
    (fun t action t' hinv hok hstep => by
      rcases hinv with hconnected | ⟨heard, hcourse, hcaused⟩
      · exact Or.inl ((extends_of_step hstep).connected hconnected)
      · exact hcourse.caused_step hcaused hdesktop hok.1 hok.2 hstep)
    (Or.inr hfirst) hmeets hrun
  rcases hend with hconnected | ⟨heard, hcourse, hcaused⟩
  · exact Or.inl hconnected
  · exact Or.inr (hcourse.causeKnown hcaused hdesktop)

def clientWithXrayServer : Client :=
  Client.afterCalls .linux [.addServer "a" (Client.sharedServer "h1" "amnezia-xray") .selfHostedUser]

/-- The start of the only attempt returns an error that its object does not record: the state `Error` is announced
before the error is, so that the failure is final and handled with no error known. -/
theorem xray_start_error_unknown :
    ∃ r₀ r, start clientWithXrayServer .initial "a" = some r₀ ∧
      Run.run (step clientWithXrayServer) r₀ [.execute System.unreachableAnswers, .deliver, .deliver] = some r ∧
      r.connected = false ∧ r.system.controller.failoverActive = false ∧
      r.system.reportedError clientWithXrayServer = .noError ∧ ¬ CauseKnown clientWithXrayServer r.system := by
  have hend : ((start clientWithXrayServer .initial "a").bind fun r₀ =>
      (Run.run (step clientWithXrayServer) r₀ [.execute System.unreachableAnswers, .deliver, .deliver]).map fun r =>
        (r.connected, r.system.controller.failoverActive, r.system.reportedError clientWithXrayServer,
          r.system.signals.head?.map r.system.takesForFailure)) =
      some (false, false, .noError, some true) := by decide
  obtain ⟨r₀, hr₀, hrest⟩ := Option.bind_eq_some_iff.mp hend
  obtain ⟨r, hr, hfacts⟩ := Option.map_eq_some_iff.mp hrest
  simp only [Prod.mk.injEq] at hfacts
  obtain ⟨hconnected, hactive, hreported, hhead⟩ := hfacts
  refine ⟨r₀, r, hr₀, hr, hconnected, hactive, hreported, fun hknown => ?_⟩
  obtain ⟨signal, hsignal, htakes⟩ := Option.map_eq_some_iff.mp hhead
  exact (hknown signal hsignal htakes).2 hreported

/-- The same with WireGuard, which records the error before it announces the state. -/
theorem wireguard_start_error_known :
    ∃ r₀ r, start Request.clientWithTwoServers .initial "a" = some r₀ ∧
      Run.run (step Request.clientWithTwoServers) r₀
        [.execute System.unreachableAnswers, .deliver, .deliver] = some r ∧
      r.system.signals.head?.map r.system.takesForFailure = some true ∧
      r.system.reportedError Request.clientWithTwoServers = .amneziaServiceConnectionFailed ∧
      (r.connected = true ∨ CauseKnown Request.clientWithTwoServers r.system) := by
  refine ⟨_, _, rfl, rfl, by decide, by decide, ?_⟩
  refine cause_of_last_attempt Request.clientWithTwoServers (by decide) .initial "a" _ _
    [.execute System.unreachableAnswers, .deliver, .deliver] ⟨_, _, rfl⟩ rfl rfl (fun p hp => (nomatch hp)) rfl ?_ rfl
  refine ⟨⟨fun id container json hhead => ?_, fun id container json hhead => ?_⟩, fun t _ => ?_⟩
  · cases hhead
    intro protocolClass hfactory
    cases hfactory
    decide
  · cases hhead
    exact ⟨.wireguard, rfl, rfl⟩
  · exact ⟨⟨trivial, trivial⟩, fun _ _ => ⟨⟨trivial, trivial⟩, fun _ _ => trivial⟩⟩

end Observed

end FreshVpn
