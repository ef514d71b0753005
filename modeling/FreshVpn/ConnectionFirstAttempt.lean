import FreshVpn.ConnectionObserved

/-! The first attempt of a request, on every platform: where the stream of signals stands with respect to it, and
what `connectToVpn` and the events reported while the attempt is going on add to the stream. -/

namespace FreshVpn

open Emit Client VpnProtocol

inductive FirstAttempt where
  | waiting | announced | settled | unexpected
  deriving DecidableEq

namespace FirstAttempt

/-- The next signal; the first attempt has the number `n`. -/
def next (n : ℕ) : FirstAttempt → VpnSignal → FirstAttempt
  | .waiting, signal => if signal = ⟨n, .connectionStateChanged .connecting⟩ then .announced else .unexpected
  | .announced, signal =>
    if signal.attempt ≠ n then .unexpected
    else
      match signal.kind with
      | .vpnProtocolError _ => .announced
      | .connectionStateChanged state =>
        match state with
        | .connecting | .reconnecting => .announced
        | .connected | .disconnected | .error => .settled
        | .unknown | .preparing | .disconnecting => .unexpected
  | .settled, _ => .settled
  | .unexpected, _ => .unexpected

theorem foldl_settled (n : ℕ) (signals : List VpnSignal) : signals.foldl (next n) .settled = .settled := by
  induction signals with
  | nil => rfl
  | cons signal signals ih => exact ih

theorem foldl_unexpected (n : ℕ) (signals : List VpnSignal) : signals.foldl (next n) .unexpected = .unexpected := by
  induction signals with
  | nil => rfl
  | cons signal signals ih => exact ih

end FirstAttempt

/-- An error, or a state that an attempt goes through. -/
def VpnSignal.isOfAttempt (signal : VpnSignal) : Bool :=
  match signal.kind with
  | .vpnProtocolError _ => true
  | .connectionStateChanged state => state.isOfAttempt

theorem VpnSignal.isOfAttempt_of_isTail {signal : VpnSignal} (h : signal.isTail = true) :
    signal.isOfAttempt = true := by
  obtain ⟨n, kind⟩ := signal
  cases kind with
  | vpnProtocolError error => rfl
  | connectionStateChanged state => cases state <;> first | rfl | cases h

theorem FirstAttempt.foldl_announced {n : ℕ} {signals : List VpnSignal}
    (h : ∀ signal ∈ signals, signal.attempt = n ∧ signal.isOfAttempt = true) :
    signals.foldl (next n) .announced = .settled ∨
      (signals.foldl (next n) .announced = .announced ∧
        ∀ signal ∈ signals, signal.kind ≠ .connectionStateChanged .connected) := by
  induction signals with
  | nil =>
    exact Or.inr ⟨rfl, by simp⟩
  | cons signal signals ih =>
    rw [List.forall_mem_cons] at h
    obtain ⟨⟨hn, hof⟩, hrest⟩ := h
    obtain ⟨m, kind⟩ := signal
    cases hn
    -- A signal that leaves the attempt announced, or one that settles it.
    have hstep : (next m .announced ⟨m, kind⟩ = .announced ∧ kind ≠ .connectionStateChanged .connected) ∨
        next m .announced ⟨m, kind⟩ = .settled := by
      cases kind with
      | vpnProtocolError error => exact Or.inl ⟨by simp [next], nofun⟩
      | connectionStateChanged state =>
        cases state with
        | connecting | reconnecting => exact Or.inl ⟨by simp [next], nofun⟩
        | connected | disconnected | error => exact Or.inr (by simp [next])
        | unknown | preparing | disconnecting => cases hof
    rw [List.foldl_cons]
    rcases hstep with ⟨hsame, hkind⟩ | hsettled
    · rw [hsame]
      rcases ih hrest with hs | ⟨ha, hnot⟩
      · exact Or.inl hs
      · exact Or.inr ⟨ha, List.forall_mem_cons.mpr ⟨hkind, hnot⟩⟩
    · rw [hsettled]
      exact Or.inl (foldl_settled m signals)

namespace VpnConnection

variable {event : VpnProtocol.ProtocolEvent} {client : Client} {v : VpnConnection} {signals : List ProtocolSignal} {n : ℕ}

/-- What is left of the object of an earlier attempt reports nothing when the next attempt begins: on the desktop
it is stopped silently, and on iOS there is none. -/
def LeavesNothing (client : Client) (v : VpnConnection) : Prop :=
  (client.isDesktop = true → v.StopsSilently) ∧
    (client.platform = .ios ∨ client.platform = .macosNe → v.vpnProtocol = none)

/-- The attempt `n` is going on. -/
structure Trying (client : Client) (v : VpnConnection) (n : ℕ) : Prop where
  attempt : v.attempt = n
  notConnected : v.connectionState ≠ .connected
  desktop : client.isDesktop = true →
    v.connectionState ≠ .reconnecting ∧ ∃ p, v.vpnProtocol = some p ∧ p.isAlive = true
  android : client.platform = .android → ∀ p, v.vpnProtocol = some p →
    p.protocolClass = .android ∧ (p.timeoutTimer = true → p.connectionState ≠ .error)
  apple : client.platform = .ios ∨ client.platform = .macosNe → v.vpnProtocol = none

/-- After the signals the attempt `n` is settled, or it is announced and goes on. -/
def SettlesOrTries (client : Client) (n : ℕ) (before : FirstAttempt) (x : VpnConnection × List VpnSignal) : Prop :=
  x.2.foldl (FirstAttempt.next n) before = .settled ∨
    (x.2.foldl (FirstAttempt.next n) before = .announced ∧ Trying client x.1 n)

theorem isOfAttempt_of_mem_relay {forwardsErrors : Bool}
    (h : ∀ state, .connectionStateChanged state ∈ signals → state.isOfAttempt = true) :
    ∀ signal ∈ (v.relay n forwardsErrors signals).2, signal.attempt = n ∧ signal.isOfAttempt = true := by
  intro signal hsignal
  obtain ⟨hn, x, hx, hkind⟩ := mem_relay hsignal
  obtain ⟨m, kind⟩ := signal
  refine ⟨hn, ?_⟩
  cases x with
  | connectionStateChanged state =>
    cases hkind
    exact h state hx
  | protocolError error =>
    cases hkind
    rfl
  | errorLogged error => cases hkind

theorem not_mobile_of_isDesktop (h : client.isDesktop = true) :
    client.platform ≠ .android ∧ ¬ (client.platform = .ios ∨ client.platform = .macosNe) := by
  unfold isDesktop isMobile at h
  simpa [and_assoc] using h

variable {container : DockerContainer}

theorem connectOnDesktop_first (hdesktop : client.isDesktop = true) (hsilent : v.StopsSilently) (n : ℕ)
    (answers : Answers) (hclass : VpnProtocol.factory client.platform container ≠ some .ikev2) :
    SettlesOrTries client n .waiting (v.connectOnDesktop client.platform n container answers) := by
  have hmobile := not_mobile_of_isDesktop hdesktop
  unfold SettlesOrTries
  rw [connectOnDesktop_of_stopsSilently hsilent, andThen_snd, andThen_fst, emit_snd, emit_fst]
  cases hfactory : factory client.platform container with
  | none =>
    exact Or.inl (by simp [FirstAttempt.next])
  | some protocolClass =>
    have hregular := create_isRegular answers.uninitialised hfactory (by rwa [hfactory] at hclass)
    have hannounced : FirstAttempt.next n .waiting ⟨n, .connectionStateChanged .connecting⟩ = .announced := by
      simp [FirstAttempt.next]
    rw [List.singleton_append, List.foldl_cons, hannounced]
    unfold startProtocol
    dsimp only
    rcases start_create answers.uninitialised answers.start hregular with
      ⟨hnoError, halive, hsignals⟩ | ⟨herror, ⟨tail, hshape, htail⟩, -⟩
    · rw [hnoError, hsignals]
      refine Or.inr ⟨by simp [relay, relayOne, setConnectionState, FirstAttempt.next], ?_⟩
      refine ⟨rfl, ?_, fun _ => ⟨?_, _, rfl, halive⟩, fun h => absurd h hmobile.1, fun h => absurd h hmobile.2⟩
      · intro h
        cases h
      · intro h
        cases h
    · refine Or.inl ?_
      rw [andThen_snd, List.foldl_append, if_neg herror]
      have hof : ∀ state, .connectionStateChanged state ∈
          ((create protocolClass answers.uninitialised).start answers.start).1.2 →
            state.isOfAttempt = true := by
        intro state hmem
        have hin : .connectionStateChanged state ∈ tail ∨ state = .connecting := by
          rcases hshape with heq | heq
          · exact Or.inl (heq ▸ hmem)
          · rw [heq, List.mem_cons] at hmem
            rcases hmem with hfirst | hrest
            · exact Or.inr (by simpa using hfirst)
            · exact Or.inl hrest
        rcases hin with hin | rfl
        · have := List.all_eq_true.mp htail _ hin
          cases state <;> first | rfl | cases this
        · rfl
      rcases FirstAttempt.foldl_announced (isOfAttempt_of_mem_relay hof) with hsettled | ⟨hsame, -⟩
      · rw [hsettled, FirstAttempt.foldl_settled]
      · rw [hsame]
        simp [setConnectionState, FirstAttempt.next]

theorem connectToVpn_first (hleaves : v.LeavesNothing client) (n : ℕ) (answers : Answers)
    (hclass : client.isDesktop = true → VpnProtocol.factory client.platform container ≠ some .ikev2) :
    SettlesOrTries client n .waiting (v.connectToVpn client n container answers) := by
  by_cases hdesktop : client.isDesktop = true
  · rw [connectToVpn_of_isDesktop hdesktop]
    exact connectOnDesktop_first hdesktop (hleaves.1 hdesktop) n answers (hclass hdesktop)
  · have hnone := hleaves.2
    refine Or.inr ?_
    unfold connectToVpn
    unfold isDesktop isMobile at hdesktop
    cases hplatform : client.platform with
    | windows | macos | linux => simp [hplatform] at hdesktop
    | android =>
      refine ⟨by simp [setConnectionState, startProtocol, start, create, relay,
        FirstAttempt.next], rfl, fun h => ?_, fun h => ?_, fun _ p hp => ?_, ?_⟩
      · cases h
      · simp [isDesktop, isMobile, hplatform] at h
      · cases hp
        exact ⟨rfl, fun h => absurd h Bool.false_ne_true⟩
      · simp [hplatform]
    | ios | macosNe =>
      have hobject := hnone (by simp [hplatform])
      refine ⟨by simp [setConnectionState, FirstAttempt.next], rfl, fun h => ?_, fun h => ?_, ?_, fun _ => hobject⟩
      · cases h
      · simp [isDesktop, isMobile, hplatform] at h
      · simp [hplatform]

theorem Trying.of_signals {v' : VpnConnection} {signals : List VpnSignal}
    (hof : ∀ signal ∈ signals, signal.attempt = n ∧ signal.isOfAttempt = true)
    (htrying : (∀ signal ∈ signals, signal.kind ≠ .connectionStateChanged .connected) → Trying client v' n) :
    SettlesOrTries client n .announced (v', signals) := by
  rcases FirstAttempt.foldl_announced hof with hsettled | ⟨hsame, hnot⟩
  · exact Or.inl hsettled
  · exact Or.inr ⟨hsame, htrying hnot⟩

section
variable (h : Trying client v n)
include h

theorem Trying.desktopEvent (hdesktop : client.isDesktop = true) (hevent : event.isRegular = true)
    {p p' : VpnProtocol} (hobject : v.vpnProtocol = some p) (hhandle : p.handle event = some (p', signals)) :
    SettlesOrTries client n .announced ({ v with vpnProtocol := some p' }.relay n true signals) := by
  obtain ⟨hreconnecting, q, hq, halive⟩ := h.desktop hdesktop
  have hmobile := not_mobile_of_isDesktop hdesktop
  rw [hobject] at hq
  cases hq
  rcases handle_of_isAlive halive hevent hhandle with ⟨halive', hquiet⟩ | rfl | ⟨hfails, -⟩
  · obtain ⟨herrors, hstate⟩ := relay_of_quiet hquiet n true { v with vpnProtocol := some p' }
    have hof : ∀ signal ∈ ({ v with vpnProtocol := some p' }.relay n true signals).2,
        signal.attempt = n ∧ signal.isOfAttempt = true := by
      intro signal hsignal
      obtain ⟨hn, herror⟩ := herrors signal hsignal
      exact ⟨hn, signal.isOfAttempt_of_isTail (by simp [VpnSignal.isTail, herror])⟩
    refine Trying.of_signals hof fun _ => ⟨?_, ?_, fun _ => ⟨?_, p', ?_, halive'⟩, ?_, ?_⟩
    · rw [relay_attempt]
      exact h.attempt
    · rw [hstate]
      exact h.notConnected
    · rw [hstate]
      exact hreconnecting
    · rw [relay_vpnProtocol]
    · exact fun hplatform => absurd hplatform hmobile.1
    · exact fun hplatform => absurd hplatform hmobile.2
  · exact Or.inl (by simp [relay, relayOne, setConnectionState, FirstAttempt.next])
  · obtain ⟨state, rest, hsignals, hstate, -⟩ := relay_of_fails hfails n true
      (v := { v with vpnProtocol := some p' }) hreconnecting
    refine Or.inl ?_
    rw [hsignals, List.foldl_cons]
    rcases hstate with rfl | rfl <;> simp [FirstAttempt.next, FirstAttempt.foldl_settled]

theorem Trying.androidEvent (hplatform : client.platform = .android) (hevent : event.isRegular = true)
    {p p' : VpnProtocol} (hobject : v.vpnProtocol = some p) (hhandle : p.handle event = some (p', signals)) :
    SettlesOrTries client n .announced ({ v with vpnProtocol := some p' }.relay n true signals) := by
  obtain ⟨hclass, htimer⟩ := h.android hplatform p hobject
  have hhandle' := hhandle
  unfold handle at hhandle'
  rw [hclass] at hhandle'
  cases event with
  | timeout hungUp =>
    dsimp only at hhandle'
    split_ifs at hhandle' with hruns
    -- The timer runs in no error state, so the error is the first thing reported.
    obtain ⟨rest, hrest⟩ := onTimeout_reports_error (htimer hruns) hungUp
    have hsignals : signals = .connectionStateChanged .error :: rest := by
      rw [← hrest, Option.some.inj hhandle']
    refine Or.inl ?_
    rw [hsignals, relay, andThen_snd, relayOne, List.foldl_append]
    simp [setConnectionState, FirstAttempt.next, FirstAttempt.foldl_settled]
  | androidState state =>
    have hset : p.setConnectionState state = (p', signals) := Option.some.inj hhandle'
    have hcases : signals = [] ∧ p' = p ∨ signals = [.connectionStateChanged state] ∧
        p' = { p with connectionState := state, timeoutTimer := p.timerAfter state } := by
      rcases p.setConnectionState_cases state with hq | he
      · cases hset.symm.trans hq
        exact Or.inl ⟨rfl, rfl⟩
      · cases hset.symm.trans he
        exact Or.inr ⟨rfl, rfl⟩
    have hof : ∀ state', .connectionStateChanged state' ∈ signals → state'.isOfAttempt = true := by
      intro state' hmem
      rcases hcases with ⟨rfl, -⟩ | ⟨rfl, -⟩
      · cases hmem
      · cases List.mem_singleton.mp hmem
        exact hevent
    have hobject' : p'.protocolClass = .android ∧ (p'.timeoutTimer = true → p'.connectionState ≠ .error) := by
      rcases hcases with ⟨-, rfl⟩ | ⟨-, rfl⟩
      · exact ⟨hclass, htimer⟩
      · refine ⟨hclass, fun hruns => ?_⟩
        rintro rfl
        cases hruns
    have hdesktop : client.isDesktop ≠ true := by
      intro hdesktop
      exact (not_mobile_of_isDesktop hdesktop).1 hplatform
    refine Trying.of_signals (isOfAttempt_of_mem_relay hof) fun hnot => ⟨?_, ?_, ?_, ?_, ?_⟩
    · rw [relay_attempt]
      exact h.attempt
    · rcases relay_connectionState n true { v with vpnProtocol := some p' } signals with hsame | hmem
      · rw [hsame]
        exact h.notConnected
      · intro hconnected
        rw [hconnected] at hmem
        exact hnot _ hmem rfl
    · exact fun hd => absurd hd hdesktop
    · intro _ q hq
      rw [relay_vpnProtocol] at hq
      cases hq
      exact hobject'
    · simp [hplatform]
  | _ => cases hhandle'

theorem Trying.protocolEvent (hevent : event.isRegular = true) {x : VpnConnection × List VpnSignal}
    (hx : v.protocolEvent event = some x) : SettlesOrTries client n .announced x := by
  obtain ⟨p, p', signals, hobject, hhandle, rfl⟩ := protocolEvent_cases hx
  obtain rfl : v.attempt = n := h.attempt
  by_cases hdesktop : client.isDesktop = true
  · exact h.desktopEvent hdesktop hevent hobject hhandle
  · by_cases hplatform : client.platform = .android
    · exact h.androidEvent hplatform hevent hobject hhandle
    · -- On Apple's platforms there is no object.
      exfalso
      have happle : client.platform = .ios ∨ client.platform = .macosNe := by
        rw [or_iff_not_imp_left]
        simpa [isDesktop, isMobile, hplatform] using hdesktop
      rw [h.apple happle] at hobject
      cases hobject

theorem Trying.appleState (happle : client.platform = .ios ∨ client.platform = .macosNe) {state : ConnectionState}
    (hstate : state.isOfAttempt = true) : SettlesOrTries client n .announced (v.setConnectionState n state) := by
  have hdesktop : client.isDesktop ≠ true := by
    intro hdesktop
    exact (not_mobile_of_isDesktop hdesktop).2 happle
  rcases v.setConnectionState_cases n state with ⟨-, hset⟩ | hset
  · rw [hset]
    exact Or.inr ⟨rfl, h⟩
  · rw [hset]
    refine Trying.of_signals ?_ fun hnot => ⟨h.attempt, ?_, fun hd => absurd hd hdesktop, h.android, h.apple⟩
    · intro signal hsignal
      cases List.mem_singleton.mp hsignal
      exact ⟨rfl, hstate⟩
    · rintro rfl
      exact hnot _ List.mem_cons_self rfl

end

end VpnConnection

end FreshVpn
