import FreshVpn.ConnectionCourse

/-! Where a request stands while its signals are delivered on the desktop. -/

namespace FreshVpn

open ConnectionController Emit FreshVpn.System

/-- Whether a server of the queue would be launched. -/
def Client.isReady (client : Client) (serverId : String) : Bool :=
  match client.prepareConnection serverId with
  | .ready _ _ => true
  | _ => false

namespace Observed

variable {signals : List ControllerSignal} {c : ConnectionController} {state : ConnectionState}
  {serverId : String} {rest : List VpnSignal} {client : Client}

/-- Where the failover stands in its queue: the entries before the current one, not counting those that could not
be prepared, are the attempts that have failed. -/
structure Placed (client : Client) (serverId : String) (r : Observed) : Prop where
  active : r.system.controller.failoverActive = true →
    r.system.controller.failoverQueue = serverId :: backups client serverId ∧
      ∃ (i : ℕ) (id : String), r.system.controller.failoverIndex = i ∧
        (serverId :: backups client serverId)[i]? = some id ∧ client.isReady id = true ∧
        ((serverId :: backups client serverId).take i).countP client.isReady = r.failed.length
  inactive : r.system.controller.failoverActive = false →
    r.budgetFired = true ∨ backups client serverId = [] ∨
      r.system.controller.wasConnecting = false ∧ (r.subscription = true ∨
        r.failed.length = (serverId :: backups client serverId).countP client.isReady)

variable {r : Observed} {n : ℕ} {r' : Observed} {s : System}

theorem Placed.congr (h : Placed client serverId r) (hext : Extends r r') (hfailed : r'.failed = r.failed)
    (hactive : r'.system.controller.failoverActive = r.system.controller.failoverActive)
    (hplace : r'.system.controller.failoverActive = true →
      r'.system.controller.failoverQueue = r.system.controller.failoverQueue ∧
      r'.system.controller.failoverIndex = r.system.controller.failoverIndex)
    (hconnecting : r.system.controller.failoverActive = false → r.budgetFired = true ∨
      backups client serverId = [] ∨
      r'.system.controller.wasConnecting = r.system.controller.wasConnecting) : Placed client serverId r' := by
  refine ⟨fun ha => ?_, fun ha => ?_⟩
  · obtain ⟨hqueue, hindex⟩ := hplace ha
    rw [hqueue, hindex, hfailed]
    exact h.active (hactive ▸ ha)
  · rw [hactive] at ha
    rcases hconnecting ha with hbudget | hnone | hsame
    · exact Or.inl (hext.budgetFired hbudget)
    · exact Or.inr (Or.inl hnone)
    · rw [hsame, hfailed]
      exact (h.inactive ha).imp hext.budgetFired (Or.imp_right (And.imp_right (Or.imp_left hext.subscription)))

theorem isReady_eq_false {id : String} (h : ∃ error, client.prepareConnection id = .failed error) :
    client.isReady id = false := by
  obtain ⟨error, herror⟩ := h
  rw [Client.isReady, herror]

theorem countP_eq_zero_of_fail {ids : List String}
    (h : ∀ id ∈ ids, ∃ error, client.prepareConnection id = .failed error) : ids.countP client.isReady = 0 := by
  rw [List.countP_eq_zero]
  intro id hid
  simp [isReady_eq_false (h id hid)]

theorem queue_around {queue : List String} {i : ℕ} {id : String} (h : queue[i]? = some id) :
    ∃ passed, passed.length = i ∧ queue.take i = passed ∧ queue = passed ++ id :: queue.drop (i + 1) := by
  obtain ⟨hi, hid⟩ := List.getElem?_eq_some_iff.mp h
  refine ⟨queue.take i, List.length_take_of_le hi.le, rfl, ?_⟩
  conv_lhs => rw [← List.take_append_drop i queue, List.drop_eq_getElem_cons hi, hid]

theorem Placed.failure (h : Placed client serverId r)
    (hhandled : Handled client r.system.controller state (r.system.vpn.lastError client.platform) c signals)
    (hstate : state = .error ∨ state = .disconnected) (hswitching : r.system.controller.switching = false)
    (hconnecting : r.system.controller.wasConnecting = true) (hext : Extends r r')
    (hcontroller : r'.system.controller = c) (hfailed : r'.failed.length = r.failed.length + 1)
    (hsubscription : (r.system.reportedError client).isSubscriptionError = true → r'.subscription = true) :
    Placed client serverId r' := by
  have hfailure : r.system.controller.isFailure state = true := by
    rcases hstate with rfl | rfl <;> simp [isFailure, hconnecting]
  rcases hhandled.of_not_switching hswitching hstate with
    ⟨-, hactive, skipped, next, container, json, hlaunches, rfl, rfl⟩ | ⟨rfl, rfl, hfailures⟩
  · obtain ⟨hqueue, i, id, hindex, hentry, hready, hcount⟩ := h.active hactive
    obtain ⟨later, hremaining⟩ := hlaunches.split
    obtain ⟨passed, hlen, htake, hsplit⟩ := queue_around hentry
    -- The queue: what was passed before, the failed entry, what is skipped, and the launched entry.
    have hnat : (r.system.controller.failoverIndex + 1).toNat = i + 1 := by omega
    rw [remaining, hqueue, hnat] at hremaining
    rw [hremaining, ← List.cons_append, ← List.append_assoc] at hsplit
    have hlen' : (passed ++ id :: skipped).length = i + skipped.length + 1 := by
      rw [List.length_append, List.length_cons, hlen]
      omega
    refine ⟨fun _ => ⟨?_, i + skipped.length + 1, next, ?_, ?_, ?_, ?_⟩, fun ha => ?_⟩
    · rw [hcontroller]
      exact hqueue
    · rw [hcontroller]
      dsimp only
      omega
    · rw [hsplit, ← hlen', List.getElem?_append_right (le_refl _), Nat.sub_self, List.getElem?_cons_zero]
    · rw [Client.isReady, hlaunches.next_ready]
    · rw [htake] at hcount
      rw [hsplit, List.take_left' hlen', List.countP_append, List.countP_cons_of_pos hready,
        countP_eq_zero_of_fail hlaunches.skipped_fail, hcount, hfailed]
    · rw [hcontroller] at ha
      exact absurd hactive (by simpa using ha)
  · refine ⟨fun ha => ?_, fun _ => ?_⟩
    · rw [hcontroller] at ha
      cases ha
    · cases hactive : r.system.controller.failoverActive with
      | false =>
        rcases h.inactive hactive with hbudget | hnone | ⟨hnot, -⟩
        · exact Or.inl (hext.budgetFired hbudget)
        · exact Or.inr (Or.inl hnone)
        · rw [hconnecting] at hnot
          cases hnot
      | true =>
        obtain ⟨hqueue, i, id, hindex, hentry, hready, hcount⟩ := h.active hactive
        refine Or.inr (Or.inr ⟨by rw [hcontroller]; rfl, ?_⟩)
        rcases hfailures hfailure with hcode | hinactive | hall
        · exact Or.inl (hsubscription hcode)
        · rw [hactive] at hinactive
          cases hinactive
        · obtain ⟨passed, -, htake, hsplit⟩ := queue_around hentry
          have hnat : (r.system.controller.failoverIndex + 1).toNat = i + 1 := by omega
          rw [remaining, hqueue, hnat] at hall
          rw [htake] at hcount
          rw [hsplit, List.countP_append, List.countP_cons_of_pos hready, countP_eq_zero_of_fail hall, hcount,
            hfailed]
          exact Or.inr rfl

/-! ### The course of a request -/

/-- What the controller and the queue of commands hold, given what the controller has heard. -/
def Follows (client : Client) (serverId : String) (r : Observed) : Course → Prop
  | .waiting n => n = r.base ∧ r.failed = [] ∧ r.system.controller.switching = false ∧
      (r.system.controller.failoverActive = false → r.budgetFired = true ∨ backups client serverId = []) ∧
      (r.system.attempts = n ∧ r.system.signals = [] ∧
          (∃ id container json, r.system.commands = [.connectToVpn id container json]) ∨
        r.system.attempts = n + 1 ∧ r.system.commands = [])
  | .trying n => r.base < n ∧ (∀ k, k ∈ r.failed ↔ r.base < k ∧ k < n) ∧
      r.system.controller.switching = false ∧ r.system.controller.wasConnecting = true ∧
      r.system.attempts = n ∧ r.system.commands = []
  | .ended n => r.base < n ∧ (∀ k, k ∈ r.failed ↔ r.base < k ∧ k ≤ n) ∧
      (r.system.controller.switching = true ∧ r.system.controller.wasConnecting = true ∧
          (r.system.attempts = n ∧ (∃ id container json, r.system.commands = [.connectToVpn id container json]) ∨
            r.system.attempts = n + 1 ∧ r.system.commands = []) ∨
        r.system.controller = r.system.controller.idle ∧ r.system.attempts = n ∧
          ∀ command ∈ r.system.commands, command = .setConnectionState .disconnected)
  | .finished _ _ => False
  | .unexpected => False

/-- What `VpnConnection` holds, given where the stream of signals will stand when the controller has heard all
of it. -/
def Sends (s : System) : Course → Prop
  | .waiting n => s.attempts = n ∧ s.vpn.StopsSilently
  | .trying n => s.attempts = n ∧ s.vpn.Going n
  | .ended n => s.attempts = n ∧ s.vpn.Down n
  | .finished n _ => n ≤ s.attempts
  | .unexpected => False

/-- The request is on its course, as far as the controller has heard. -/
structure OnCourse (client : Client) (serverId : String) (r : Observed) (heard : Course) : Prop where
  follows : r.Follows client serverId heard
  placed : r.Placed client serverId
  sends : Sends r.system (heard.after r.system.signals)

variable {course : Course}

theorem Sends.number_le (h : Sends s course) : course.number ≤ s.attempts := by
  cases course with
  | waiting | trying | ended => exact h.1.ge
  | finished n hadFailed => exact h
  | unexpected => exact h.elim

theorem Sends.ne_unexpected (h : Sends s course) : course ≠ .unexpected := by
  rintro rfl
  exact h

theorem Sends.congr {s' : System} (h : Sends s course) (hattempts : s'.attempts = s.attempts) (hvpn : s'.vpn = s.vpn) :
    Sends s' course := by
  cases course <;> simp only [Sends, hattempts, hvpn] at h ⊢ <;> exact h

theorem failed_noteDelivery (client : Client) (r : Observed) (signal : VpnSignal) (s' : System)
    (h : signal.isFailure = true → signal.attempt ≤ r.base ∨ signal.attempt ∈ r.failed) :
    (r.noteDelivery client signal s').failed = r.failed := by
  refine if_neg ?_
  rintro ⟨hfailure, hbase, hnot⟩
  rcases h hfailure with hle | hmem
  · omega
  · exact hnot hmem

theorem OnCourse.announce {signal : VpnSignal} (hplaced : r.Placed client serverId)
    (hsignal : signal.isFailure = false)
    (hcontroller : c.failoverQueue = r.system.controller.failoverQueue ∧
      c.failoverActive = r.system.controller.failoverActive ∧
      c.failoverIndex = r.system.controller.failoverIndex ∧ c.switching = false ∧ c.wasConnecting = true)
    (hconnecting : r.system.controller.failoverActive = false → r.budgetFired = true ∨
      backups client serverId = [] ∨ r.system.controller.wasConnecting = true) (hn : r.base < n)
    (hfailed : ∀ k, k ∈ r.failed ↔ r.base < k ∧ k < n) (hattempts : r.system.attempts = n)
    (hcommands : r.system.commands = []) (hsends : Sends r.system ((Course.trying n).after rest)) :
    OnCourse client serverId (r.noteDelivery client signal { r.system with controller := c, signals := rest })
      (.trying n) := by
  obtain ⟨hqueue, hactive, hindex, hswitching, hwas⟩ := hcontroller
  have hsame := failed_noteDelivery client r signal { r.system with controller := c, signals := rest }
    fun hfailure => by simp [hsignal] at hfailure
  refine ⟨⟨hn, fun k => ?_, hswitching, hwas, hattempts, hcommands⟩, ?_, hsends.congr rfl rfl⟩
  · rw [hsame]
    exact hfailed k
  · refine hplaced.congr (extends_noteDelivery ..) hsame hactive (fun _ => ⟨hqueue, hindex⟩) fun hinactive => ?_
    exact (hconnecting hinactive).imp_right (Or.imp_right fun hold => hwas.trans hold.symm)

theorem eq_of_mem_commandsOf_state (state : ConnectionState) :
    ∀ command ∈ [ControllerSignal.connectionStateChanged state].flatMap System.commandsOf,
      command = .setConnectionState .disconnected := by
  cases state <;> simp [commandsOf]

section
variable (hstate : state = .error ∨ state = .disconnected)
    (hhandled : Handled client r.system.controller state (r.system.vpn.lastError client.platform) c signals)
    (hsends : Sends r.system ((Course.ended n).after rest))
include hstate hhandled hsends

theorem OnCourse.failure (h : OnCourse client serverId r (.trying n)) :
    OnCourse client serverId (r.noteDelivery client ⟨n, .connectionStateChanged state⟩ { r.system with
      controller := c, signals := rest, commands := r.system.commands ++ signals.flatMap System.commandsOf })
      (.ended n) := by
  obtain ⟨hn, hfailed, hswitching, hconnecting, hattempts, hcommands⟩ := h.follows
  have hnew : n ∉ r.failed := fun hmem => absurd ((hfailed n).mp hmem).2 (lt_irrefl n)
  have hisFailure : VpnSignal.isFailure ⟨n, .connectionStateChanged state⟩ = true := by
    rcases hstate with rfl | rfl <;> rfl
  have hnoted : ∀ s', (r.noteDelivery client ⟨n, .connectionStateChanged state⟩ s').failed = r.failed ++ [n] :=
    fun s' => if_pos ⟨hisFailure, hn, hnew⟩
  have htakes : r.system.takesForFailure ⟨n, .connectionStateChanged state⟩ = true := by
    rcases hstate with rfl | rfl <;> simp [takesForFailure, hswitching, isFailure, hconnecting]
  have hmem : ∀ k, k ∈ r.failed ++ [n] ↔ r.base < k ∧ k ≤ n := by
    intro k
    rw [List.mem_append, List.mem_singleton, hfailed]
    omega
  refine ⟨⟨hn, fun k => by rw [hnoted]; exact hmem k, ?_⟩, ?_, hsends.congr rfl rfl⟩
  · rcases hhandled.of_not_switching hswitching hstate with
      ⟨-, -, skipped, next, container, json, -, rfl, rfl⟩ | ⟨rfl, rfl, -⟩
    · refine Or.inl ⟨rfl, hconnecting, Or.inl ⟨hattempts, next, container, json, ?_⟩⟩
      simp [noteDelivery, hcommands, commandsOf]
    · refine Or.inr ⟨rfl, hattempts, fun command hcommand => ?_⟩
      rw [noteDelivery, hcommands] at hcommand
      exact eq_of_mem_commandsOf_state state command hcommand
  · refine h.placed.failure hhandled hstate hswitching hconnecting (extends_noteDelivery ..) rfl ?_ fun hcode => ?_
    · rw [hnoted, List.length_append, List.length_singleton]
    · simp [noteDelivery, htakes, hcode]

theorem OnCourse.tail {attempt : ℕ} (h : OnCourse client serverId r (.ended n)) (hattempt : attempt ≤ n) :
    OnCourse client serverId (r.noteDelivery client ⟨attempt, .connectionStateChanged state⟩ { r.system with
      controller := c, signals := rest, commands := r.system.commands ++ signals.flatMap System.commandsOf })
      (.ended n) := by
  obtain ⟨hn, hfailed, hphase⟩ := h.follows
  have hsame : ∀ s', (r.noteDelivery client ⟨attempt, .connectionStateChanged state⟩ s').failed = r.failed := by
    intro s'
    refine failed_noteDelivery client r _ s' fun _ => ?_
    rcases Nat.lt_or_ge r.base attempt with hlt | hge
    · exact Or.inr ((hfailed attempt).mpr ⟨hlt, hattempt⟩)
    · exact Or.inl hge
  have hext := fun s' => extends_noteDelivery client r ⟨attempt, .connectionStateChanged state⟩ s'
  rcases hphase with ⟨hswitching, hconnecting, hqueue⟩ | ⟨hidle, hattempts, hcommands⟩
  · obtain ⟨rfl, rfl⟩ := hhandled.of_switching hswitching hstate
    rw [List.flatMap_nil, List.append_nil]
    refine ⟨⟨hn, fun k => by rw [hsame]; exact hfailed k, Or.inl ⟨hswitching, hconnecting, hqueue⟩⟩, ?_,
      hsends.congr rfl rfl⟩
    exact h.placed.congr (hext _) (hsame _) rfl (fun _ => ⟨rfl, rfl⟩) fun _ => Or.inr (Or.inr rfl)
  · obtain ⟨hswitching, hinactive, hwas⟩ : r.system.controller.switching = false ∧
        r.system.controller.failoverActive = false ∧ r.system.controller.wasConnecting = false := by
      rw [hidle]
      exact ⟨rfl, rfl, rfl⟩
    rcases hhandled.of_not_switching hswitching hstate with ⟨-, hactive, -⟩ | ⟨rfl, rfl, -⟩
    · rw [hinactive] at hactive
      cases hactive
    · refine ⟨⟨hn, fun k => by rw [hsame]; exact hfailed k, Or.inr ⟨rfl, hattempts, fun command hcommand => ?_⟩⟩, ?_,
        hsends.congr rfl rfl⟩
      · rcases List.mem_append.mp hcommand with hold | hnew
        · exact hcommands command hold
        · exact eq_of_mem_commandsOf_state state command hnew
      · exact h.placed.congr (hext _) (hsame _) hinactive.symm (fun hactive => absurd hactive Bool.false_ne_true)
          fun _ => Or.inr (Or.inr hwas.symm)

end

/-- A delivered signal keeps the request on its course, or reports that it is connected. -/
theorem OnCourse.deliver {heard : Course} (h : OnCourse client serverId r heard)
    (hstep : r.step client .deliver = some r') :
    r'.connected = true ∨ ∃ signal rest, r.system.signals = signal :: rest ∧
      r'.system.signals = rest ∧ r'.system.vpn = r.system.vpn ∧ r'.system.attempts = r.system.attempts ∧
      OnCourse client serverId r' (heard.next signal) := by
  obtain ⟨attempt, kind, rest, s', hsignals, rfl, hcases⟩ := deliver_cases hstep
  have hs' : s'.signals = rest ∧ s'.vpn = r.system.vpn ∧ s'.attempts = r.system.attempts := by
    rcases hcases with ⟨error, -, rfl⟩ | ⟨state, c, signals, -, -, rfl⟩ <;> exact ⟨rfl, rfl, rfl⟩
  by_cases hconnected : kind = .connectionStateChanged .connected
  · exact Or.inl (by simp [noteDelivery, hconnected])
  refine Or.inr ⟨⟨attempt, kind⟩, rest, hsignals, hs'.1, hs'.2.1, hs'.2.2, ?_⟩
  have hsends := h.sends
  rw [hsignals] at hsends
  have hreads := Course.reads_next (Course.next_ne_unexpected hsends.ne_unexpected)
  rw [Course.after_cons] at hsends
  have hnumber : (heard.next ⟨attempt, kind⟩).number ≤ r.system.attempts :=
    (Course.number_le_after _ rest hsends.ne_unexpected).trans hsends.number_le
  have hcommandsOf : r.system.commands ++ [ControllerSignal.connectionStateChanged .connecting].flatMap
      commandsOf = r.system.commands := by
    simp [commandsOf]
  generalize heard.next ⟨attempt, kind⟩ = heard' at hreads hsends hnumber ⊢
  cases hreads with
  | first n =>
    obtain ⟨rfl, hfailed, hswitching, hinactive, ⟨-, hnil, -⟩ | ⟨hattempts, hcommands⟩⟩ := h.follows
    · rw [hsignals] at hnil
      cases hnil
    · rcases hcases with ⟨error, hkind, -⟩ | ⟨state, c, signals, hkind, hhandled, rfl⟩ <;> cases hkind
      obtain ⟨rfl, rfl⟩ := hhandled.of_announced (Or.inl rfl)
      rw [hcommandsOf]
      refine OnCourse.announce h.placed rfl ⟨rfl, rfl, rfl, rfl, rfl⟩ (fun ha => (hinactive ha).imp_right Or.inl)
        (Nat.lt_succ_self _) (fun k => ?_) hattempts hcommands hsends
      simp only [hfailed, List.not_mem_nil, false_iff]
      omega
  | error n code =>
    obtain ⟨hn, hfailed, hswitching, hconnecting, hattempts, hcommands⟩ := h.follows
    rcases hcases with ⟨error, hkind, rfl⟩ | ⟨state, c, signals, hkind, -⟩ <;> cases hkind
    exact OnCourse.announce h.placed rfl ⟨rfl, rfl, rfl, hswitching, hconnecting⟩
      (fun _ => Or.inr (Or.inr hconnecting)) hn hfailed hattempts hcommands hsends
  | again n =>
    obtain ⟨hn, hfailed, hswitching, hconnecting, hattempts, hcommands⟩ := h.follows
    rcases hcases with ⟨error, hkind, -⟩ | ⟨state, c, signals, hkind, hhandled, rfl⟩ <;> cases hkind
    obtain ⟨rfl, rfl⟩ := hhandled.of_announced (Or.inl rfl)
    rw [hcommandsOf]
    exact OnCourse.announce h.placed rfl ⟨rfl, rfl, rfl, rfl, rfl⟩ (fun _ => Or.inr (Or.inr hconnecting)) hn
      hfailed hattempts hcommands hsends
  | connected | connectedLate => exact absurd rfl hconnected
  | failed n state hstate =>
    rcases hcases with ⟨error, hkind, -⟩ | ⟨state', c, signals, hkind, hhandled, rfl⟩ <;> cases hkind
    exact h.failure hstate hhandled hsends
  | tailError n attempt code =>
    obtain ⟨hn, hfailed, hphase⟩ := h.follows
    rcases hcases with ⟨error, hkind, rfl⟩ | ⟨state, c, signals, hkind, -⟩ <;> cases hkind
    have hsame := failed_noteDelivery client r ⟨attempt, .vpnProtocolError code⟩ { r.system with
      controller := r.system.controller.handleProtocolError code, signals := rest }
      fun hfailure => absurd hfailure Bool.false_ne_true
    have hidle : r.system.controller = r.system.controller.idle → r.system.controller.handleProtocolError code =
        (r.system.controller.handleProtocolError code).idle :=
      fun hidle => congrArg (fun c : ConnectionController => c.handleProtocolError code) hidle
    refine ⟨⟨hn, fun k => by rw [hsame]; exact hfailed k, hphase.imp_right (And.imp_left hidle)⟩, ?_,
      hsends.congr rfl rfl⟩
    · exact h.placed.congr (extends_noteDelivery ..) hsame rfl (fun _ => ⟨rfl, rfl⟩) fun _ => Or.inr (Or.inr rfl)
  | tail n attempt state hstate hattempt =>
    rcases hcases with ⟨error, hkind, -⟩ | ⟨state', c, signals, hkind, hhandled, rfl⟩ <;> cases hkind
    exact h.tail hstate hhandled hsends hattempt
  | announced n =>
    obtain ⟨hn, hfailed, hphase⟩ := h.follows
    rcases hcases with ⟨error, hkind, -⟩ | ⟨state, c, signals, hkind, hhandled, rfl⟩ <;> cases hkind
    have hlater : n + 1 ≤ r.system.attempts := hnumber
    obtain ⟨rfl, rfl⟩ := hhandled.of_announced (Or.inl rfl)
    rw [hcommandsOf]
    rcases hphase with ⟨-, hconnecting, ⟨hattempts, -⟩ | ⟨hattempts, hcommands⟩⟩ | ⟨-, hattempts, -⟩
    · omega
    · refine OnCourse.announce h.placed rfl ⟨rfl, rfl, rfl, rfl, rfl⟩ (fun _ => Or.inr (Or.inr hconnecting))
        (by omega) (fun k => ?_) hattempts hcommands hsends
      rw [hfailed, Nat.lt_succ_iff]
    · omega
  | finished n hadFailed signal => exact h.follows.elim

end Observed

end FreshVpn
