import FreshVpn.ConnectionPlace

/-! How far the failover of a request gets on the desktop: one entry of its queue for each attempt that has failed. -/

namespace FreshVpn

open ConnectionController Emit Course VpnConnection

namespace Observed

variable {heard : Course} {serverId : String} {answers : Answers} {client : Client} {r : Observed}

/-! ### Turns of the VPN thread -/

variable {x : VpnConnection × List VpnSignal}

section
variable (h : OnCourse client serverId r heard) (hattempts : r.base < r.system.attempts)
include h hattempts

theorem OnCourse.emitted (hsends : Sends { r.system with vpn := x.1 } ((heard.after r.system.signals).after x.2)) :
    OnCourse client serverId { r with system := r.system.emitted x } heard := by
  refine ⟨?_, ⟨h.placed.active, h.placed.inactive⟩, ?_⟩
  · have hfollows := h.follows
    cases heard with
    | waiting n =>
      obtain ⟨rfl, hfailed, hswitching, hinactive, ⟨heq, -⟩ | hqueue⟩ := hfollows
      · omega
      · exact ⟨rfl, hfailed, hswitching, hinactive, Or.inr hqueue⟩
    | trying n => exact hfollows
    | ended n => exact hfollows
    | finished | unexpected => exact hfollows.elim
  · rw [← after_append] at hsends
    exact hsends

theorem OnCourse.not_waiting (n : ℕ) : heard.after r.system.signals ≠ .waiting n := by
  intro hwaiting
  have hsends := h.sends
  have hfollows := h.follows
  rw [hwaiting] at hsends
  rw [(after_eq_waiting hwaiting).2] at hfollows
  have hn := hfollows.1
  have hsame := hsends.1
  omega

theorem OnCourse.protocolEvent {event : VpnProtocol.ProtocolEvent} (hevent : r.system.vpn.EndsCleanly event)
    (hx : r.system.vpn.protocolEvent event = some x) :
    OnCourse client serverId { r with system := r.system.emitted x } heard := by
  refine h.emitted hattempts ?_
  have hsends := h.sends
  have hnot := h.not_waiting hattempts
  obtain ⟨p, p', signals, hobject, hhandle, rfl⟩ := protocolEvent_cases hx
  generalize heard.after r.system.signals = sent at hsends hnot ⊢
  cases sent with
  | waiting n => exact absurd rfl (hnot n)
  | trying n =>
    obtain ⟨hn, hgoing⟩ := hsends
    rcases hgoing.handle hevent hobject hhandle with ⟨hsame, hgoing'⟩ | hfinished | ⟨hended, hdown, -⟩
    · rw [hsame]
      exact ⟨hn, hgoing'⟩
    · rw [hfinished]
      exact hn.ge
    · rw [hended]
      exact ⟨hn, hdown⟩
  | ended n =>
    obtain ⟨hn, hdown⟩ := hsends
    rcases hdown.handle hevent hobject hhandle with ⟨hsame, hdown'⟩ | hfinished
    · rw [hsame]
      exact ⟨hn, hdown'⟩
    · rw [hfinished]
      exact hn.ge
  | finished n hadFailed =>
    rw [finished_after]
    exact hsends
  | unexpected => exact hsends.elim

theorem OnCourse.networkChanged (answers : Answers) :
    OnCourse client serverId { r with system := r.system.emitted (r.system.vpn.reconnectToVpn answers) } heard := by
  refine h.emitted hattempts ?_
  have hsends := h.sends
  have hnot := h.not_waiting hattempts
  generalize heard.after r.system.signals = sent at hsends hnot ⊢
  cases sent with
  | waiting n => exact absurd rfl (hnot n)
  | trying | ended =>
    rw [reconnectToVpn_of_ne_connected hsends.2.notConnected]
    exact hsends
  | finished n hadFailed =>
    rw [finished_after]
    exact hsends
  | unexpected => exact hsends.elim

end

/-- Where the stream stands when the controller waits for nothing more of the attempt `n`. -/
theorem OnCourse.sent_of_ended {n : ℕ}
    (h : OnCourse client serverId r (.ended n)) (hattempts : r.system.attempts = n) :
    (Course.ended n).after r.system.signals = .ended n ∨ (Course.ended n).after r.system.signals = .finished n true := by
  have hle := h.sends.number_le
  rcases ended_after n r.system.signals h.sends.ne_unexpected with hended | hfinished | hlater
  · exact Or.inl hended
  · exact Or.inr hfinished
  · omega

theorem sends_connect (hdesktop : client.isDesktop = true) {s : System} {n : ℕ} {sent : Course}
    (hsent : sent = .waiting n ∨ sent = .ended n) (hsilent : s.vpn.StopsSilently) (hattempts : s.attempts = n)
    {container : DockerContainer}
    (hclean : VpnConnection.StartsCleanly client.platform container answers) (commands : List Command) :
    Sends ({ s with commands, attempts := s.attempts + 1 }.emitted
        (s.vpn.connectToVpn client (s.attempts + 1) container answers))
      (sent.after (s.vpn.connectToVpn client (s.attempts + 1) container answers).2) := by
  subst hattempts
  rw [connectToVpn_of_isDesktop hdesktop]
  rcases connectOnDesktop_course hsilent client.platform s.attempts hclean hsent with
    ⟨htrying, hgoing⟩ | ⟨hended, hdown, -⟩
  · rw [htrying]
    exact ⟨rfl, hgoing⟩
  · rw [hended]
    exact ⟨rfl, hdown⟩

/-- What a command can be on the course: the request for the next attempt, which finds the stream at the end of the
last one (or that one connected after all), or the interface's `Disconnected` when the failover is over. -/
theorem OnCourse.execute_cases (h : OnCourse client serverId r heard) {s' : System}
    (hstep : r.system.execute client answers = some s') :
    (∃ n id container json, r.system.commands = [.connectToVpn id container json] ∧ r.system.attempts = n ∧
        (heard = .waiting n ∨ heard = .ended n ∧ r.system.controller.switching = true) ∧
        s' = { r.system with commands := [], attempts := r.system.attempts + 1 }.emitted
          (r.system.vpn.connectToVpn client (r.system.attempts + 1) container answers) ∧
        (heard.after r.system.signals = .waiting n ∨ heard.after r.system.signals = .ended n ∨
          heard.after r.system.signals = .finished n true)) ∨
      ∃ n rest, r.system.commands = .setConnectionState .disconnected :: rest ∧ heard = .ended n ∧
        r.system.controller = r.system.controller.idle ∧ r.system.attempts = n ∧
        s' = { r.system with commands := rest }.emitted (r.system.vpn.setConnectionState 0 .disconnected) ∧
        (heard.after r.system.signals = .ended n ∨ heard.after r.system.signals = .finished n true) := by
  have hnil : r.system.commands ≠ [] := by
    intro hnil
    unfold System.execute at hstep
    rw [hnil] at hstep
    cases hstep
  unfold System.execute at hstep
  cases heard with
  | waiting n =>
    obtain ⟨-, -, -, -, ⟨hattempts, hsignals, id, container, json, hcommands⟩ | ⟨-, hcommands⟩⟩ := h.follows
    · rw [hcommands] at hstep
      cases hstep
      exact Or.inl ⟨n, id, container, json, hcommands, hattempts, Or.inl rfl, rfl, Or.inl (by rw [hsignals]; rfl)⟩
    · exact absurd hcommands hnil
  | trying n => exact absurd h.follows.2.2.2.2.2 hnil
  | ended n =>
    obtain ⟨-, -, ⟨hswitching, -, hqueue⟩ | ⟨hidle, hattempts, hcommands⟩⟩ := h.follows
    · rcases hqueue with ⟨hattempts, id, container, json, hcommands⟩ | ⟨-, hcommands⟩
      · rw [hcommands] at hstep
        cases hstep
        exact Or.inl ⟨n, id, container, json, hcommands, hattempts, Or.inr ⟨rfl, hswitching⟩, rfl,
          Or.inr (h.sent_of_ended hattempts)⟩
      · exact absurd hcommands hnil
    · obtain ⟨command, rest, hqueue⟩ := List.exists_cons_of_ne_nil hnil
      obtain rfl := hcommands command (by rw [hqueue]; exact List.mem_cons_self)
      rw [hqueue] at hstep
      cases hstep
      exact Or.inr ⟨n, rest, hqueue, rfl, hidle, hattempts, rfl, h.sent_of_ended hattempts⟩
  | finished | unexpected => exact h.follows.elim

theorem OnCourse.execute (hdesktop : client.isDesktop = true) (h : OnCourse client serverId r heard) {s' : System}
    (hclean : ∀ id container json, r.system.commands.head? = some (.connectToVpn id container json) →
      VpnConnection.StartsCleanly client.platform container answers)
    (hstep : r.system.execute client answers = some s') : OnCourse client serverId { r with system := s' } heard := by
  have hsends := h.sends
  rcases h.execute_cases hstep with ⟨n, id, container, json, hcommands, hattempts, hheard, rfl, hsent⟩ |
    ⟨n, rest, hcommands, rfl, hidle, hattempts, rfl, hsent⟩
  · have hclean' := hclean id container json (by rw [hcommands]; rfl)
    refine ⟨?_, ⟨h.placed.active, h.placed.inactive⟩, ?_⟩
    · rcases hheard with rfl | ⟨rfl, hswitching⟩
      · obtain ⟨hn, hfailed, hswitching, hinactive, -⟩ := h.follows
        exact ⟨hn, hfailed, hswitching, hinactive, Or.inr ⟨congrArg (· + 1) hattempts, rfl⟩⟩
      · obtain ⟨hn, hfailed, ⟨-, hconnecting, -⟩ | ⟨hidle, -⟩⟩ := h.follows
        · exact ⟨hn, hfailed, Or.inl ⟨hswitching, hconnecting, Or.inr ⟨congrArg (· + 1) hattempts, rfl⟩⟩⟩
        · rw [hidle] at hswitching
          cases hswitching
    · change Sends _ (heard.after (r.system.signals ++ _))
      rw [after_append]
      rcases hsent with hsent | hsent | hsent
      · rw [hsent] at hsends ⊢
        exact sends_connect hdesktop (Or.inl rfl) hsends.2 hattempts hclean' []
      · rw [hsent] at hsends ⊢
        exact sends_connect hdesktop (Or.inr rfl) hsends.2.silent hattempts hclean' []
      · rw [hsent] at hsends ⊢
        rw [finished_after]
        exact Nat.le_succ_of_le hsends
  · obtain ⟨hn, hfailed, ⟨hswitching, -⟩ | ⟨-, -, hall⟩⟩ := h.follows
    · rw [hidle] at hswitching
      cases hswitching
    refine ⟨⟨hn, hfailed, Or.inr ⟨hidle, hattempts, fun command hcommand => ?_⟩⟩,
      ⟨h.placed.active, h.placed.inactive⟩, ?_⟩
    · exact hall command (by rw [hcommands]; exact List.mem_cons_of_mem _ hcommand)
    -- The stream takes the interface's `Disconnected` for a part of the tail.
    change Sends _ ((ended n).after (r.system.signals ++ _))
    rw [after_append]
    rcases hsent with hsent | hsent
    · rw [hsent] at hsends ⊢
      obtain ⟨hsame, hdown⟩ := hsends
      rcases r.system.vpn.setConnectionState_cases 0 .disconnected with ⟨hreconnecting, -⟩ | hset
      · exact absurd hreconnecting hdown.notReconnecting
      · rw [hset]
        refine ⟨hsame, hdown.attempt, fun hstate => ?_, fun hstate => ?_, hdown.silent⟩
        · cases hstate
        · cases hstate
    · rw [hsent] at hsends ⊢
      rw [finished_after]
      exact hsends

theorem OnCourse.budgetTimeout (h : OnCourse client serverId r heard) :
    OnCourse client serverId { r with
      system := { r.system with controller :=
        { r.system.controller with failoverBudget := false, failoverActive := false } }
      budgetFired := true } heard := by
  refine ⟨?_, ⟨fun hactive => absurd hactive Bool.false_ne_true, fun _ => Or.inl rfl⟩, h.sends.congr rfl rfl⟩
  have hfollows := h.follows
  cases heard with
  | waiting n =>
    obtain ⟨hn, hfailed, hswitching, -, hqueue⟩ := hfollows
    exact ⟨hn, hfailed, hswitching, fun _ => Or.inl rfl, hqueue⟩
  | trying n => exact hfollows
  | ended n =>
    obtain ⟨hn, hfailed, hphase⟩ := hfollows
    refine ⟨hn, hfailed, hphase.imp_right (And.imp_left fun hidle => ?_)⟩
    exact congrArg (fun c : ConnectionController =>
      { c with failoverBudget := false, failoverActive := false }) hidle
  | finished | unexpected => exact hfollows.elim

/-! ### One entry for each failed attempt -/

/-- The course a request takes when every attempt ends as the controller expects: no click and no state asked for by
the interface, no event of the backend before the first attempt, no IKEv2, no `EXITING` or `RECONNECTING` of
OpenVPN, and Xray attempts that start and do not stop before they report their error. -/
def CleanCourse (client : Client) (r : Observed) : Action → Prop
  | .deliver | .budgetTimeout => True
  | .execute answers => ∀ id container json,
      r.system.commands.head? = some (.connectToVpn id container json) →
        VpnConnection.StartsCleanly client.platform container answers
  | .protocolEvent event => r.base < r.system.attempts ∧ r.system.vpn.EndsCleanly event
  | .networkChanged _ => r.base < r.system.attempts
  | .openConnection _ | .closeConnection | .setConnectionState _ | .androidDisconnected | .appleState _ => False

theorem OnCourse.turn (hdesktop : client.isDesktop = true) {r' : Observed} (h : OnCourse client serverId r heard)
    {action : Action} (hclean : CleanCourse client r action) (haction : action ≠ .deliver)
    (hstep : r.step client action = some r') : OnCourse client serverId r' heard := by
  obtain ⟨s', hs, rfl⟩ := Option.map_eq_some_iff.mp hstep
  cases action with
  | deliver => exact absurd rfl haction
  | budgetTimeout =>
    rw [System.budgetTimeout_cases hs]
    exact h.budgetTimeout
  | execute answers => exact h.execute hdesktop hclean hs
  | protocolEvent event =>
    obtain ⟨x, hx, rfl⟩ := Option.map_eq_some_iff.mp hs
    exact h.protocolEvent hclean.1 hclean.2 hx
  | networkChanged answers =>
    simp only [System.step, hdesktop, if_true, Option.some.injEq] at hs
    rw [← hs]
    exact h.networkChanged hclean answers
  | openConnection | closeConnection | setConnectionState | androidDisconnected | appleState => exact hclean.elim

theorem OnCourse.step (hdesktop : client.isDesktop = true) {r' : Observed} (h : OnCourse client serverId r heard)
    {action : Action} (hclean : CleanCourse client r action) (hstep : r.step client action = some r') :
    r'.connected = true ∨ ∃ heard', OnCourse client serverId r' heard' := by
  by_cases haction : action = .deliver
  · cases haction
    rcases h.deliver hstep with hconnected | ⟨signal, rest, -, -, -, -, hcourse⟩
    · exact Or.inl hconnected
    · exact Or.inr ⟨_, hcourse⟩
  · exact Or.inr ⟨heard, h.turn hdesktop hclean haction hstep⟩

theorem onCourse_start {s : System}
    (hready : ∃ container json, client.prepareConnection serverId = .ready container json)
    (hcommands : s.commands = []) (hsignals : s.signals = []) (hsilent : s.vpn.StopsSilently)
    (hstart : start client s serverId = some r) : OnCourse client serverId r (.waiting s.attempts) := by
  obtain ⟨container, json, hready⟩ := hready
  have hactive : (s.controller.startFailover client serverId).failoverActive = false → backups client serverId = [] := by
    intro hinactive
    have hlen : ¬ 1 < (s.controller.startFailover client serverId).failoverQueue.length := of_decide_eq_false hinactive
    rw [startFailover_failoverQueue, List.length_cons] at hlen
    exact List.length_eq_zero_iff.mp (by omega)
  rw [start_eq hcommands hready hstart]
  refine ⟨⟨rfl, rfl, rfl, fun hinactive => Or.inr (hactive hinactive), Or.inl ⟨rfl, hsignals, ?_⟩⟩,
    ⟨fun _ => ⟨startFailover_failoverQueue .., 0, serverId, rfl, rfl, ?_, rfl⟩,
      fun hinactive => Or.inr (Or.inl (hactive hinactive))⟩, ?_⟩
  · exact ⟨serverId, container, json, rfl⟩
  · rw [Client.isReady, hready]
  · rw [hsignals]
    exact ⟨rfl, hsilent⟩

/-- The failover has consumed one entry of its queue for each failed attempt: the entries before the current one,
not counting those that could not be prepared, are as many as the attempts reported as failed, and when the
failover is over all its entries are used up. Nothing is said once the connection has come up, the budget is over,
a failure was put down to the subscription, or if there is no other server. -/
def OneEntryPerFailure (client : Client) (serverId : String) (r : Observed) : Prop :=
  r.connected = true ∨ r.budgetFired = true ∨ r.subscription = true ∨ backups client serverId = [] ∨
    (r.system.controller.failoverActive = true ∧ ∃ i : ℕ, r.system.controller.failoverIndex = i ∧
      ((serverId :: backups client serverId).take i).countP client.isReady = r.failed.length) ∨
    (r.system.controller.failoverActive = false ∧
      r.failed.length = (serverId :: backups client serverId).countP client.isReady)

theorem Placed.oneEntryPerFailure (h : Placed client serverId r) : OneEntryPerFailure client serverId r := by
  cases hactive : r.system.controller.failoverActive with
  | true =>
    obtain ⟨-, i, id, hindex, -, -, hcount⟩ := h.active hactive
    exact Or.inr (Or.inr (Or.inr (Or.inr (Or.inl ⟨hactive, i, hindex, hcount⟩))))
  | false =>
    rcases h.inactive hactive with hbudget | hnone | ⟨-, hsubscription | hall⟩
    · exact Or.inr (Or.inl hbudget)
    · exact Or.inr (Or.inr (Or.inr (Or.inl hnone)))
    · exact Or.inr (Or.inr (Or.inl hsubscription))
    · exact Or.inr (Or.inr (Or.inr (Or.inr (Or.inr ⟨hactive, hall⟩))))

/-- **One failed attempt, one entry.** On the desktop, in every run on the clean course of a request that finds
nothing left of an earlier one, the failover has consumed exactly one entry for each attempt that has failed. -/
theorem one_entry_per_failure (client : Client) (hdesktop : client.isDesktop = true) (s : System) (serverId : String)
    (r₀ r : Observed) (actions : List Action)
    (hready : ∃ container json, client.prepareConnection serverId = .ready container json)
    (hcommands : s.commands = []) (hsignals : s.signals = []) (hsilent : s.vpn.StopsSilently)
    (hstart : start client s serverId = some r₀) (hmeets : Run.Meets (step client) (CleanCourse client) r₀ actions)
    (hrun : Run.run (step client) r₀ actions = some r) : OneEntryPerFailure client serverId r := by
  have hend := Run.run_invariant_of_meets
    (I := fun r => r.connected = true ∨ ∃ heard, OnCourse client serverId r heard)
    (fun t action t' hinv hclean hstep => by
      rcases hinv with hconnected | ⟨heard, hcourse⟩
      · exact Or.inl ((extends_of_step hstep).connected hconnected)
      · exact hcourse.step hdesktop hclean hstep)
    (Or.inr ⟨_, onCourse_start hready hcommands hsignals hsilent hstart⟩) hmeets hrun
  rcases hend with hconnected | ⟨heard, hcourse⟩
  · exact Or.inl hconnected
  · exact hcourse.placed.oneEntryPerFailure

def clientWithXrayServers : Client :=
  Client.afterCalls .linux
    [.addServer "a" (Client.sharedServer "h1" "amnezia-xray") .selfHostedUser,
      .addServer "b" (Client.sharedServer "h2" "amnezia-xray") .selfHostedUser,
      .addServer "c" (Client.sharedServer "h3" "amnezia-xray") .selfHostedUser]

/-- The start of `a` returns an error, which leaves its object connecting. The attempt to `b` is announced before
that object is stopped, so that its `Disconnected` is taken for a failure of `b`: one attempt has failed, and two
entries are consumed. -/
theorem xray_start_error_consumes_two_entries :
    ∃ r₀ r, start clientWithXrayServers .initial "a" = some r₀ ∧
      Run.run (step clientWithXrayServers) r₀
        ([.execute System.unreachableAnswers] ++ List.replicate 4 .deliver ++ [.execute System.goodAnswers] ++
          List.replicate 2 .deliver) = some r ∧
      r.failed = [1] ∧ r.system.controller.failoverIndex = 2 ∧
      ¬ OneEntryPerFailure clientWithXrayServers "a" r := by
  have hend : ((start clientWithXrayServers .initial "a").bind fun r₀ =>
      (Run.run (step clientWithXrayServers) r₀
        ([.execute System.unreachableAnswers] ++ List.replicate 4 .deliver ++ [.execute System.goodAnswers] ++
          List.replicate 2 .deliver)).map fun r =>
            (r.failed, r.connected, r.budgetFired, r.subscription, r.system.controller.failoverActive,
              r.system.controller.failoverIndex)) =
      some ([1], false, false, false, true, 2) := by decide
  obtain ⟨r₀, hr₀, hrest⟩ := Option.bind_eq_some_iff.mp hend
  obtain ⟨r, hr, hfacts⟩ := Option.map_eq_some_iff.mp hrest
  simp only [Prod.mk.injEq] at hfacts
  obtain ⟨hfailed, hconnected, hbudget, hsubscription, hactive, hindex⟩ := hfacts
  refine ⟨r₀, r, hr₀, hr, hfailed, hindex, ?_⟩
  have hbackups : backups clientWithXrayServers "a" = ["b", "c"] := by decide
  have hcount : (["a", "b", "c"].take 2).countP clientWithXrayServers.isReady = 2 := by decide
  rintro (hc | hb | hs | hnone | ⟨-, i, hi, hpassed⟩ | ⟨hinactive, -⟩)
  · simp [hconnected] at hc
  · simp [hbudget] at hb
  · simp [hsubscription] at hs
  · simp [hbackups] at hnone
  · obtain rfl : i = 2 := by omega
    rw [hbackups, hcount, hfailed] at hpassed
    cases hpassed
  · simp [hactive] at hinactive

/-- The same with WireGuard servers, whose objects are left in a silent state: one attempt, one entry. -/
theorem one_entry_for_unreachable_wireguard :
    ∃ r₀ r, start Request.clientWithTwoServers .initial "a" = some r₀ ∧
      Run.run (step Request.clientWithTwoServers) r₀
        [.execute System.unreachableAnswers, .deliver, .deliver, .deliver] = some r ∧
      (r.failed = [1] ∧ r.system.controller.failoverIndex = 1) ∧
      OneEntryPerFailure Request.clientWithTwoServers "a" r := by
  refine ⟨_, _, rfl, rfl, by decide, ?_⟩
  refine one_entry_per_failure Request.clientWithTwoServers (by decide) .initial "a" _ _
    [.execute System.unreachableAnswers, .deliver, .deliver, .deliver] ⟨_, _, rfl⟩ rfl rfl
    (fun p hp => (nomatch hp)) rfl ?_ rfl
  refine ⟨fun id container json hhead => ?_, fun t _ => ?_⟩
  · cases hhead
    intro protocolClass hfactory
    cases hfactory
    decide
  · exact ⟨trivial, fun _ _ => ⟨trivial, fun _ _ => ⟨trivial, fun _ _ => trivial⟩⟩⟩

end Observed

end FreshVpn
