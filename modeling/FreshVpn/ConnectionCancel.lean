import FreshVpn.ConnectionSystem

/-! Cancelling a connection. `closeConnection` only queues a command, and the failover is not told: it ends when the
state `Disconnecting` comes back from the VPN thread. -/

namespace FreshVpn

open ConnectionController Command

def Command.isConnect : Command → Bool
  | .connectToVpn .. => true
  | _ => false

def Command.isDisconnect : Command → Bool
  | .disconnectFromVpn => true
  | _ => false

def Command.isQuiet : Command → Bool
  | .setConnectionState state => state ≠ .error && state ≠ .disconnected
  | _ => false

def Action.isBackendEvent : Action → Bool
  | .protocolEvent _ | .networkChanged _ | .androidDisconnected | .appleState _ => true
  | _ => false

/-- A handled state launches a server only as a failure with the failover active, and never starts it again. -/
theorem ConnectionController.Handled.launch_or_quiet {client : Client} {c c' : ConnectionController}
    {state : ConnectionState} {fromProtocol : ErrorCode} {signals : List ControllerSignal}
    (h : Handled client c state fromProtocol c' signals) :
    (c.failoverActive = true ∧ c.isFailure state = true) ∨
      ((∀ command ∈ signals.flatMap System.commandsOf, command.isConnect = false) ∧
        (c.failoverActive = false → c'.failoverActive = false)) := by
  have hquiet : ∀ st : ConnectionState, ∀ command ∈ System.commandsOf (.connectionStateChanged st),
      command.isConnect = false := by
    intro st
    cases st <;> simp [System.commandsOf, isConnect]
  cases h with
  | announced hstate => exact Or.inr ⟨by simpa using hquiet state, id⟩
  | tail hswitching hstate => exact Or.inr ⟨by simp, id⟩
  | connected hstate =>
    refine Or.inr ⟨fun command hcommand => ?_, fun _ => rfl⟩
    rw [List.flatMap_append, List.mem_append] at hcommand
    rcases hcommand with hnotice | hstate
    · unfold backupNotice at hnotice
      split_ifs at hnotice <;> simp [System.commandsOf] at hnotice
    · exact hquiet state command (by simpa using hstate)
  | switched hswitching hfailure hcode hactive => exact Or.inl ⟨hactive, hfailure⟩
  | ended hstate hswitching hfailure => exact Or.inr ⟨by simpa using hquiet state, fun _ => rfl⟩

namespace System

variable {client : Client} {s s' : System}

def NoConnect (commands : List Command) : Prop := ∀ command ∈ commands, command.isConnect = false

instance (commands : List Command) : Decidable (NoConnect commands) :=
  inferInstanceAs (Decidable (∀ command ∈ commands, command.isConnect = false))

/-- The queue of signals ends the failover before it reports a failure. -/
def EndsFailover (signals : List VpnSignal) : Prop :=
  ∃ before attempt rest, signals = before ++ ⟨attempt, .connectionStateChanged .disconnecting⟩ :: rest ∧
    ∀ signal ∈ before, signal.isFailure = false

def DisconnectsNext (s : System) : Prop :=
  (∃ front rest, s.commands = front ++ .disconnectFromVpn :: rest ∧ ∀ command ∈ front, command.isQuiet = true) ∧
    s.vpn.vpnProtocol.isSome = true ∧ ∀ signal ∈ s.signals, signal.isFailure = false

/-- The cancelled request can launch nothing more: the failover is over, or is about to be. -/
structure Cancelled (s : System) : Prop where
  noConnect : NoConnect s.commands
  ending : s.controller.failoverActive = false ∨ EndsFailover s.signals ∨ s.DisconnectsNext

theorem EndsFailover.append {signals : List VpnSignal} (h : EndsFailover signals) (more : List VpnSignal) :
    EndsFailover (signals ++ more) := by
  obtain ⟨before, attempt, rest, rfl, hbefore⟩ := h
  exact ⟨before, attempt, rest ++ more, by simp, hbefore⟩

theorem deliver_quiet {signal : VpnSignal} {rest : List VpnSignal} (hsignals : s.signals = signal :: rest)
    (hno : NoConnect s.commands) (hquiet : signal.isFailure = false ∨ s.controller.failoverActive = false)
    (h : s.deliver client = some s') :
    s'.attempts = s.attempts ∧ s'.signals = rest ∧ s'.vpn = s.vpn ∧ NoConnect s'.commands ∧
      (∃ more, s'.commands = s.commands ++ more) ∧
      (s.controller.failoverActive = false → s'.controller.failoverActive = false) ∧
      (signal.kind = .connectionStateChanged .disconnecting → s'.controller.failoverActive = false) := by
  obtain ⟨attempt, kind, rest', hsignals', hcases⟩ := deliver_cases h
  rw [hsignals] at hsignals'
  cases hsignals'
  rcases hcases with ⟨error, rfl, rfl⟩ | ⟨state, c', signals, rfl, hhandled, rfl⟩
  · exact ⟨rfl, rfl, rfl, hno, ⟨[], by simp⟩, id, fun hk => nomatch hk⟩
  · rcases hhandled.launch_or_quiet with ⟨hactive, hfailure⟩ | ⟨hcommands, hkeeps⟩
    · -- A failure with the failover active is what the hypothesis excludes.
      exfalso
      rcases hquiet with hquiet | hquiet
      · cases state <;> simp [VpnSignal.isFailure, isFailure] at hquiet hfailure
      · rw [hactive] at hquiet
        cases hquiet
    · refine ⟨rfl, rfl, rfl, ?_, ⟨_, rfl⟩, hkeeps, fun hk => ?_⟩
      · intro command hcommand
        rcases List.mem_append.mp hcommand with hold | hnew
        · exact hno command hold
        · exact hcommands command hnew
      · cases hk
        cases hhandled with
        | ended => rfl
        | announced hstate => simp at hstate
        | tail _ hstate => simp at hstate
        | connected hstate => simp at hstate
        | switched _ hfailure => simp [isFailure] at hfailure

variable {commands more : List Command}

theorem NoConnect.append (h : NoConnect commands) (hmore : NoConnect more) : NoConnect (commands ++ more) := by
  intro command hcommand
  rcases List.mem_append.mp hcommand with hold | hnew
  · exact h command hold
  · exact hmore command hnew

theorem DisconnectsNext.append (h : s.DisconnectsNext) (hvpn : s'.vpn = s.vpn)
    (hsignals : ∀ signal ∈ s'.signals, signal ∈ s.signals) (hcommands : s'.commands = s.commands ++ more) :
    s'.DisconnectsNext := by
  obtain ⟨⟨front, rest, hsplit, hfront⟩, hobject, hquiet⟩ := h
  refine ⟨⟨front, rest ++ more, ?_, hfront⟩, ?_, fun signal hsignal => hquiet signal (hsignals signal hsignal)⟩
  · rw [hcommands, hsplit, List.append_assoc, List.cons_append]
  · rw [hvpn]
    exact hobject

theorem Cancelled.deliver (hc : Cancelled s) (h : s.deliver client = some s') :
    Cancelled s' ∧ s'.attempts = s.attempts := by
  cases hsignals : s.signals with
  | nil =>
    unfold System.deliver at h
    rw [hsignals] at h
    cases h
  | cons signal rest =>
    rcases hc.ending with hinactive | ⟨before, attempt, later, hsplit, hbefore⟩ | hnext
    · obtain ⟨hattempts, -, -, hno, -, hkeeps, -⟩ := deliver_quiet hsignals hc.noConnect (Or.inr hinactive) h
      exact ⟨⟨hno, Or.inl (hkeeps hinactive)⟩, hattempts⟩
    · rw [hsplit] at hsignals
      cases before with
      | nil =>
        -- The announcement of the disconnection itself: it ends the failover.
        cases hsignals
        obtain ⟨hattempts, -, -, hno, -, -, hends⟩ := deliver_quiet hsplit hc.noConnect (Or.inl rfl) h
        exact ⟨⟨hno, Or.inl (hends rfl)⟩, hattempts⟩
      | cons first before =>
        cases hsignals
        rw [List.forall_mem_cons] at hbefore
        obtain ⟨hattempts, hrest, -, hno, -⟩ := deliver_quiet hsplit hc.noConnect (Or.inl hbefore.1) h
        exact ⟨⟨hno, Or.inr (Or.inl ⟨before, attempt, later, hrest, hbefore.2⟩)⟩, hattempts⟩
    · have hquiet := hnext.2.2
      rw [hsignals, List.forall_mem_cons] at hquiet
      obtain ⟨hattempts, hrest, hvpn, hno, ⟨more, hcommands⟩, -⟩ :=
        deliver_quiet hsignals hc.noConnect (Or.inl hquiet.1) h
      refine ⟨⟨hno, Or.inr (Or.inr (hnext.append hvpn ?_ hcommands))⟩, hattempts⟩
      rw [hrest, hsignals]
      exact fun signal hsignal => List.mem_cons_of_mem _ hsignal

theorem disconnectFromVpn_announces (v : VpnConnection) (client : Client) (answers : Answers)
    (hobject : v.vpnProtocol.isSome = true) :
    ∃ more, (v.disconnectFromVpn client answers).2 = ⟨0, .connectionStateChanged .disconnecting⟩ :: more := by
  obtain ⟨p, hp⟩ := Option.isSome_iff_exists.mp hobject
  unfold VpnConnection.disconnectFromVpn
  rw [hp]
  exact ⟨_, rfl⟩

/-- A turn of the VPN thread that makes no attempt keeps a request cancelled if the failover is over or its end
is in the queue. -/
theorem Cancelled.emitted (hno : NoConnect commands)
    (hending : s.controller.failoverActive = false ∨ EndsFailover s.signals) (x : VpnConnection × List VpnSignal) :
    Cancelled ({ s with commands }.emitted x) := by
  refine ⟨hno, ?_⟩
  rcases hending with hinactive | hends
  · exact Or.inl hinactive
  · exact Or.inr (Or.inl (hends.append x.2))

theorem Cancelled.execute {answers : Answers} (hc : Cancelled s) (h : s.execute client answers = some s') :
    Cancelled s' ∧ s'.attempts = s.attempts := by
  have hno := hc.noConnect
  unfold System.execute at h
  split at h
  · cases h
  · rename_i hcommands
    rw [hcommands] at hno
    exact absurd (hno _ List.mem_cons_self) (by simp [isConnect])
  · rename_i rest hcommands
    rw [hcommands] at hno
    cases h
    refine ⟨?_, rfl⟩
    have hrest : NoConnect rest := fun command hcommand => hno command (List.mem_cons_of_mem _ hcommand)
    rcases hc.ending with hinactive | hends | ⟨-, hobject, hquiet⟩
    · exact Cancelled.emitted hrest (Or.inl hinactive) _
    · exact Cancelled.emitted hrest (Or.inr hends) _
    · obtain ⟨more, hmore⟩ := disconnectFromVpn_announces s.vpn client answers hobject
      exact ⟨hrest, Or.inr (Or.inl ⟨s.signals, 0, more, by rw [System.emitted, hmore], hquiet⟩)⟩
  · rename_i state rest hcommands
    rw [hcommands] at hno
    cases h
    refine ⟨?_, rfl⟩
    have hrest : NoConnect rest := fun command hcommand => hno command (List.mem_cons_of_mem _ hcommand)
    rcases hc.ending with hinactive | hends | ⟨⟨front, later, hsplit, hfront⟩, hobject, hquiet⟩
    · exact Cancelled.emitted hrest (Or.inl hinactive) _
    · exact Cancelled.emitted hrest (Or.inr hends) _
    · rw [hcommands] at hsplit
      cases front with
      | nil => cases hsplit
      | cons first front =>
        cases hsplit
        rw [List.forall_mem_cons] at hfront
        have hstate : state ≠ .error ∧ state ≠ .disconnected := by simpa [isQuiet] using hfront.1
        have hset : s.vpn.setConnectionState 0 state =
            ({ s.vpn with connectionState := state }, [⟨0, .connectionStateChanged state⟩]) :=
          if_neg fun hswallowed => hstate.2 hswallowed.1
        rw [hset]
        refine ⟨hrest, Or.inr (Or.inr ⟨⟨front, later, rfl, hfront.2⟩, hobject, fun signal hsignal => ?_⟩)⟩
        rcases List.mem_append.mp hsignal with hold | hnew
        · exact hquiet signal hold
        · cases List.mem_singleton.mp hnew
          simp [VpnSignal.isFailure, hstate]

/-- What may happen after the cancellation: anything but a new request, and no event of the backend as long as
the disconnection waits in the queue and the failover is active. -/
def LetsCancel (s : System) (action : Action) : Prop :=
  (∀ serverId, action ≠ .openConnection serverId) ∧
    (action.isBackendEvent = true → s.controller.failoverActive = true →
      ∀ command ∈ s.commands, command.isDisconnect = false)

theorem Cancelled.step {action : Action} (hc : Cancelled s) (hlets : LetsCancel s action)
    (h : s.step client action = some s') : Cancelled s' ∧ s'.attempts = s.attempts := by
  -- A backend event finds the failover over, or its end in the queue.
  have hbackend : action.isBackendEvent = true →
      s.controller.failoverActive = false ∨ EndsFailover s.signals := by
    intro hevent
    rcases hc.ending with hinactive | hends | ⟨⟨front, rest, hsplit, -⟩, -⟩
    · exact Or.inl hinactive
    · exact Or.inr hends
    · refine Or.inl (Bool.eq_false_iff.mpr fun hactive => ?_)
      have hnot := hlets.2 hevent hactive .disconnectFromVpn (by rw [hsplit]; simp)
      cases hnot
  cases action with
  | openConnection serverId => exact absurd rfl (hlets.1 serverId)
  | closeConnection | setConnectionState =>
    cases h
    refine ⟨⟨hc.noConnect.append (by simp [NoConnect, isConnect]), ?_⟩, rfl⟩
    exact hc.ending.imp_right fun h => h.imp_right fun hnext => hnext.append rfl (fun _ => id) rfl
  | deliver => exact hc.deliver h
  | budgetTimeout =>
    rw [budgetTimeout_cases h]
    exact ⟨⟨hc.noConnect, Or.inl rfl⟩, rfl⟩
  | execute answers => exact hc.execute h
  | protocolEvent event =>
    obtain ⟨x, -, rfl⟩ := Option.map_eq_some_iff.mp h
    exact ⟨Cancelled.emitted hc.noConnect (hbackend rfl) x, rfl⟩
  | networkChanged | androidDisconnected | appleState =>
    simp only [System.step] at h
    split_ifs at h
    cases h
    exact ⟨Cancelled.emitted hc.noConnect (hbackend rfl) _, rfl⟩

/-! ### When a cancellation is final -/

/-- The system in which the user may cancel: no attempt is requested, and the failover is over, or an object is
there to announce the disconnection and no failure is on its way, neither reported nor asked for. -/
structure CancelsCleanly (s : System) : Prop where
  noConnect : NoConnect s.commands
  ending : s.controller.failoverActive = false ∨
    (∀ command ∈ s.commands, command.isQuiet = true ∨ command.isDisconnect = true) ∧
      s.vpn.vpnProtocol.isSome = true ∧ ∀ signal ∈ s.signals, signal.isFailure = false

theorem exists_first_disconnect (commands : List Command)
    (h : ∀ command ∈ commands, command.isQuiet = true ∨ command.isDisconnect = true) :
    ∃ front rest, commands ++ [.disconnectFromVpn] = front ++ .disconnectFromVpn :: rest ∧
      ∀ command ∈ front, command.isQuiet = true := by
  induction commands with
  | nil =>
    exact ⟨[], [], rfl, by simp⟩
  | cons command commands ih =>
    rw [List.forall_mem_cons] at h
    rcases h.1 with hquiet | hdisconnect
    · obtain ⟨front, rest, hsplit, hfront⟩ := ih h.2
      refine ⟨command :: front, rest, by rw [List.cons_append, hsplit, List.cons_append], ?_⟩
      exact List.forall_mem_cons.mpr ⟨hquiet, hfront⟩
    · cases command with
      | disconnectFromVpn => exact ⟨[], commands ++ [.disconnectFromVpn], rfl, by simp⟩
      | connectToVpn | setConnectionState => cases hdisconnect

theorem CancelsCleanly.cancelled (h : CancelsCleanly s) (hclose : s.step client .closeConnection = some s') :
    Cancelled s' ∧ s'.attempts = s.attempts := by
  cases hclose
  refine ⟨⟨h.noConnect.append (by simp [NoConnect, isConnect]), ?_⟩, rfl⟩
  rcases h.ending with hinactive | ⟨hcommands, hobject, hquiet⟩
  · exact Or.inl hinactive
  · exact Or.inr (Or.inr ⟨exists_first_disconnect s.commands hcommands, hobject, hquiet⟩)

/-- **A cancellation is final** if it is made cleanly and the backend is silent until the disconnection is
executed: no attempt is started after it, in whatever order the queues are served, until a new request. -/
theorem cancel_is_final (client : Client) (s s₁ s' : System) (actions : List Action) (hclean : CancelsCleanly s)
    (hclose : s.step client .closeConnection = some s₁) (hmeets : Run.Meets (step client) LetsCancel s₁ actions)
    (hrun : Run.run (step client) s₁ actions = some s') : s'.attempts = s.attempts := by
  obtain ⟨hcancelled, hattempts⟩ := hclean.cancelled hclose
  have hend := Run.run_invariant_of_meets (I := fun t => Cancelled t ∧ t.attempts = s.attempts)
    (fun t action t' hinv hlets hstep =>
      ⟨(hinv.1.step hlets hstep).1, (hinv.1.step hlets hstep).2.trans hinv.2⟩)
    ⟨hcancelled, hattempts⟩ hmeets hrun
  exact hend.2

def clientOnPhone : Client :=
  Client.afterCalls .ios
    [.addServer "a" (Client.sharedServer "h1" "amnezia-awg") .selfHostedUser,
      .addServer "b" (Client.sharedServer "h2" "amnezia-awg") .selfHostedUser]

/-- On iOS there is no protocol object: the user cancels the attempt to `a`, the disconnection reports
`Disconnected` without `Disconnecting`, the controller takes it for a failure, and `b` is connected to. -/
theorem cancel_starts_next_attempt :
    ((Run.run (step clientOnPhone) initial [.openConnection "a", .execute goodAnswers, .deliver]).map
        (·.attempts)) = some 1 ∧
      ((Run.run (step clientOnPhone) initial
          [.openConnection "a", .execute goodAnswers, .deliver, .closeConnection, .execute goodAnswers, .deliver,
            .execute goodAnswers]).map (·.attempts)) = some 2 := by
  decide

/-- On Linux, with the same clicks, the cancellation is announced and nothing more is started. -/
theorem cancel_final_on_desktop :
    ∃ s s₁ s', Run.run (step Request.clientWithTwoServers) initial
        [.openConnection "a", .execute goodAnswers, .deliver] = some s ∧
      s.step Request.clientWithTwoServers .closeConnection = some s₁ ∧
      Run.run (step Request.clientWithTwoServers) s₁ [.execute goodAnswers, .deliver, .deliver] = some s' ∧
      s'.attempts = s.attempts := by
  refine ⟨_, _, _, rfl, rfl, rfl, ?_⟩
  refine cancel_is_final Request.clientWithTwoServers _ _ _ [.execute goodAnswers, .deliver, .deliver]
    ⟨by decide, Or.inr ⟨by decide, by decide, by decide⟩⟩ rfl ?_ rfl
  refine ⟨⟨by simp, by simp [Action.isBackendEvent]⟩, fun t ht => ?_⟩
  refine ⟨⟨by simp, by simp [Action.isBackendEvent]⟩, fun u hu => ?_⟩
  exact ⟨⟨by simp, by simp [Action.isBackendEvent]⟩, fun _ _ => trivial⟩

end System

end FreshVpn
