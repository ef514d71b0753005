import FreshVpn.ConnectionFirstAttempt

/-! A new request after an earlier one. Signals carry no identity in the code, so what an earlier request has left
behind is handled as if it belonged to the new one. If nothing is left behind, the first thing the controller hears
of is the first attempt of the new request, and its failure takes the next server. -/

namespace FreshVpn

open ConnectionController Emit FirstAttempt Request

namespace Observed

variable {serverId : String} {r r' : Observed} {client : Client}

/-! ### A request is not disturbed -/

/-- The first attempt has been decided, or the budget is over. -/
def decided (r : Observed) : Bool := !r.failed.isEmpty || r.connected || r.budgetFired

/-- Nothing but the request's own attempts touches its failover: it stays at the requested server until an attempt
of the request has failed, and then takes the next server that can be prepared, if there is one. -/
structure Undisturbed (client : Client) (serverId : String) (r : Observed) : Prop where
  untouched : r.failed = [] → r.connected = true ∨ r.budgetFired = true ∨
    r.system.controller.failoverActive = true ∧ r.system.controller.failoverIndex = 0
  goesOn : r.failed ≠ [] → r.connected = true ∨ r.budgetFired = true ∨ r.subscription = true ∨
    ¬ HasLaunchableBackup client serverId ∨
    ∃ next ∈ backups client serverId, [serverId, next] <+: r.launched

theorem Undisturbed.of_extends (h : Undisturbed client serverId r) (hdecided : r.decided = true)
    (hext : Extends r r') : Undisturbed client serverId r' ∧ r'.decided = true := by
  have hnil : r'.failed = [] → r.failed = [] := fun h' => List.prefix_nil.mp (h' ▸ hext.failed)
  simp only [decided, Bool.or_eq_true, Bool.not_eq_true', List.isEmpty_eq_false_iff] at hdecided ⊢
  refine ⟨⟨fun h' => ?_, fun h' => ?_⟩, ?_⟩
  · rcases hdecided with (hfailed | hconnected) | hbudget
    · exact absurd (hnil h') hfailed
    · exact Or.inl (hext.connected hconnected)
    · exact Or.inr (Or.inl (hext.budgetFired hbudget))
  · rcases hdecided with (hfailed | hconnected) | hbudget
    · refine (h.goesOn hfailed).imp hext.connected (Or.imp hext.budgetFired (Or.imp hext.subscription (Or.imp_right ?_)))
      rintro ⟨next, hnext, hprefix⟩
      exact ⟨next, hnext, hprefix.trans hext.launched⟩
    · exact Or.inl (hext.connected hconnected)
    · exact Or.inr (Or.inl (hext.budgetFired hbudget))
  · exact hdecided.imp (Or.imp (fun hfailed h' => hfailed (hnil h')) hext.connected) hext.budgetFired

/-- What `VpnConnection` and the queues hold, given where the stream of signals will stand when the controller has
heard all of it. -/
def Sent (client : Client) (serverId : String) (r : Observed) : FirstAttempt → Prop
  | .waiting => (∃ container json, r.system.commands = [.connectToVpn serverId container json]) ∧
      r.system.attempts = r.base ∧ r.system.signals = [] ∧ r.system.vpn.LeavesNothing client
  | .announced => r.system.commands = [] ∧ r.system.attempts = r.base + 1 ∧
      r.system.vpn.Trying client (r.base + 1)
  | .settled => r.system.commands = [] ∧ r.system.attempts = r.base + 1
  | .unexpected => False

/-- The first attempt is not decided yet. -/
structure Undecided (client : Client) (serverId : String) (r : Observed) : Prop where
  failed : r.failed = []
  launched : r.launched = [serverId]
  queue : r.system.controller.failoverQueue = serverId :: backups client serverId
  active : r.system.controller.failoverActive = true
  index : r.system.controller.failoverIndex = 0
  switching : r.system.controller.switching = false
  stream : ∃ heard : FirstAttempt,
    (heard = .waiting ∨ heard = .announced ∧ r.system.controller.wasConnecting = true) ∧
      r.Sent client serverId (r.system.signals.foldl (next (r.base + 1)) heard)

theorem Undecided.undisturbed (h : Undecided client serverId r) : Undisturbed client serverId r :=
  ⟨fun _ => Or.inr (Or.inr ⟨h.active, h.index⟩), fun hfailed => absurd h.failed hfailed⟩

theorem Sent.congr {sent : FirstAttempt} (h : r.Sent client serverId sent) (hwaiting : sent ≠ .waiting)
    (hbase : r'.base = r.base) (hcommands : r'.system.commands = r.system.commands)
    (hattempts : r'.system.attempts = r.system.attempts) (hvpn : r'.system.vpn = r.system.vpn) :
    r'.Sent client serverId sent := by
  cases sent with
  | waiting => exact absurd rfl hwaiting
  | announced =>
    unfold Sent at h ⊢
    rw [hcommands, hattempts, hbase, hvpn]
    exact h
  | settled =>
    unfold Sent at h ⊢
    rw [hcommands, hattempts, hbase]
    exact h
  | unexpected => exact h

variable {c : ConnectionController} {rest : List VpnSignal}

section
variable (h : Undecided client serverId r)
include h

theorem Undecided.failure {state : ConnectionState} (hstate : state = .error ∨ state = .disconnected)
    (hconnecting : r.system.controller.wasConnecting = true) {signals : List ControllerSignal}
    (hhandled : Handled client r.system.controller state (r.system.vpn.lastError client.platform) c signals) :
    let r' := r.noteDelivery client ⟨r.base + 1, .connectionStateChanged state⟩ { r.system with
      controller := c, signals := rest, commands := r.system.commands ++ signals.flatMap System.commandsOf }
    Undisturbed client serverId r' ∧ r'.decided = true := by
  have hfailure : VpnSignal.isFailure ⟨r.base + 1, .connectionStateChanged state⟩ = true := by
    rcases hstate with rfl | rfl <;> rfl
  have htakes : r.system.takesForFailure ⟨r.base + 1, .connectionStateChanged state⟩ = true := by
    rcases hstate with rfl | rfl <;> simp [System.takesForFailure, h.switching, isFailure, hconnecting]
  have hremaining : r.system.controller.remaining = backups client serverId := by
    rw [remaining, h.queue, h.index]
    rfl
  intro r'
  have hfailed : r'.failed = [r.base + 1] := by
    simp [r', noteDelivery, h.failed, hfailure]
  refine ⟨⟨fun hnil => by simp [hfailed] at hnil, fun _ => ?_⟩, by simp [decided, hfailed]⟩
  rcases hhandled.of_not_switching h.switching hstate with
    ⟨-, -, skipped, next, container, json, hlaunches, rfl, rfl⟩ | ⟨rfl, rfl, hfailures⟩
  · obtain ⟨later, hsplit⟩ := hlaunches.split
    rw [hremaining] at hsplit
    refine Or.inr (Or.inr (Or.inr (Or.inr ⟨next, by rw [hsplit]; simp, ?_⟩)))
    have hlaunched : r'.launched = [serverId, next] := by
      simp [r', noteDelivery, newServers, h.launched, System.commandsOf, Command.server]
    exact hlaunched ▸ List.prefix_rfl
  · have hfail : r.system.controller.isFailure state = true := by
      rcases hstate with rfl | rfl <;> simp [isFailure, hconnecting]
    rcases hfailures hfail with hcode | hinactive | hall
    · refine Or.inr (Or.inr (Or.inl ?_))
      simp [r', noteDelivery, htakes, System.reportedError, hcode]
    · rw [h.active] at hinactive
      cases hinactive
    · refine Or.inr (Or.inr (Or.inr (Or.inl ?_)))
      rintro ⟨skipped, next, container, json, hlaunches⟩
      obtain ⟨later, hsplit⟩ := hlaunches.split
      obtain ⟨error, hfailed'⟩ := hall next (by rw [hremaining, hsplit]; simp)
      rw [hlaunches.next_ready] at hfailed'
      cases hfailed'

theorem Undecided.announce {signal : VpnSignal} (hsignal : signal.isFailure = false)
    (hcontroller : c.failoverQueue = r.system.controller.failoverQueue ∧
      c.failoverActive = r.system.controller.failoverActive ∧
      c.failoverIndex = r.system.controller.failoverIndex ∧ c.switching = false ∧ c.wasConnecting = true)
    (hwaiting : rest.foldl (next (r.base + 1)) .announced ≠ .waiting)
    (hsent : r.Sent client serverId (rest.foldl (next (r.base + 1)) .announced)) :
    Undecided client serverId
      (r.noteDelivery client signal { r.system with controller := c, signals := rest }) := by
  obtain ⟨hqueue, hactive, hindex, hswitching, hconnecting⟩ := hcontroller
  refine ⟨?_, ?_, hqueue.trans h.queue, hactive.trans h.active, hindex.trans h.index, hswitching,
    .announced, Or.inr ⟨rfl, hconnecting⟩, hsent.congr hwaiting rfl rfl rfl rfl⟩
  · simp [noteDelivery, hsignal, h.failed]
  · simp [noteDelivery, newServers, h.launched]

theorem Undecided.deliver (hstep : r.step client .deliver = some r') :
    Undecided client serverId r' ∨ Undisturbed client serverId r' ∧ r'.decided = true := by
  obtain ⟨attempt, kind, rest, s', hsignals, rfl, hcases⟩ := deliver_cases hstep
  obtain ⟨heard, hheard, hsent⟩ := h.stream
  rw [hsignals, List.foldl_cons] at hsent
  generalize hnext : next (r.base + 1) heard ⟨attempt, kind⟩ = heard' at hsent
  have hwaiting : rest.foldl (next (r.base + 1)) heard' ≠ .waiting := by
    intro hw
    rw [hw] at hsent
    have hnil := hsent.2.2.1
    rw [hsignals] at hnil
    cases hnil
  have hexpected : heard' ≠ .unexpected := by
    rintro rfl
    rw [foldl_unexpected] at hsent
    exact hsent
  -- `Connecting` or `Reconnecting` announces the attempt, once more if need be.
  have hannounce : ∀ state, state = .connecting ∨ state = .reconnecting → heard' = .announced →
      kind = .connectionStateChanged state →
      Undecided client serverId (r.noteDelivery client ⟨attempt, kind⟩ s') := by
    rintro state hstate rfl rfl
    rcases hcases with ⟨error, hkind, -⟩ | ⟨state', c, signals, hkind, hhandled, rfl⟩
    · cases hkind
    · cases hkind
      have hquiet : r.system.commands ++ [ControllerSignal.connectionStateChanged state].flatMap System.commandsOf =
          r.system.commands := by
        rcases hstate with rfl | rfl <;> simp [System.commandsOf]
      obtain ⟨rfl, rfl⟩ := hhandled.of_announced hstate
      rw [hquiet]
      refine h.announce ?_ ⟨rfl, rfl, rfl, rfl, rfl⟩ hwaiting hsent
      rcases hstate with rfl | rfl <;> rfl
  rcases hheard with rfl | ⟨rfl, hconnecting⟩
  · -- The controller has heard nothing yet: the first signal is the announcement.
    have hfirst : (⟨attempt, kind⟩ : VpnSignal) = ⟨r.base + 1, .connectionStateChanged .connecting⟩ := by
      by_contra hne
      simp only [next, if_neg hne] at hnext
      exact hexpected hnext.symm
    cases hfirst
    exact Or.inl (hannounce .connecting (Or.inl rfl) (by simpa [next] using hnext.symm) rfl)
  · have hattempt : attempt = r.base + 1 := by
      by_contra hne
      simp only [next, ne_eq, hne, not_false_eq_true, if_true] at hnext
      exact hexpected hnext.symm
    cases hattempt
    cases kind with
    | vpnProtocolError error =>
      have hsame : heard' = .announced := by simpa [next] using hnext.symm
      cases hsame
      rcases hcases with ⟨error', hkind, rfl⟩ | ⟨state, c, signals, hkind, -⟩
      · exact Or.inl (h.announce rfl ⟨rfl, rfl, rfl, h.switching, hconnecting⟩ hwaiting hsent)
      · cases hkind
    | connectionStateChanged state =>
      cases state with
      | connecting =>
        exact Or.inl (hannounce .connecting (Or.inl rfl) (by simpa [next] using hnext.symm) rfl)
      | reconnecting =>
        exact Or.inl (hannounce .reconnecting (Or.inr rfl) (by simpa [next] using hnext.symm) rfl)
      | connected =>
        refine Or.inr ⟨⟨fun _ => Or.inl ?_, fun _ => Or.inl ?_⟩, ?_⟩ <;> simp [noteDelivery, decided]
      | error | disconnected =>
        rcases hcases with ⟨error, hkind, -⟩ | ⟨state', c, signals, hkind, hhandled, rfl⟩
        · cases hkind
        · cases hkind
          exact Or.inr (h.failure (by simp) hconnecting hhandled)
      | unknown | preparing | disconnecting =>
        exact absurd (by simpa [next] using hnext.symm) hexpected

end

/-- The course the request may take by itself until its first attempt is decided: no click and no request of the
interface, no event of the backend before `connectToVpn` has run, no IKEv2, and of the events and states reported
then only those that an attempt goes through. -/
def OwnCourse (client : Client) (r : Observed) : Action → Prop
  | .deliver | .budgetTimeout => True
  | .execute _ => ∀ serverId container json,
      r.system.commands.head? = some (.connectToVpn serverId container json) → client.isDesktop = true →
        VpnProtocol.factory client.platform container ≠ some .ikev2
  | .protocolEvent event => r.base < r.system.attempts ∧ event.isRegular = true
  | .networkChanged _ => r.base < r.system.attempts
  | .appleState state => r.base < r.system.attempts ∧ state.isOfAttempt = true
  | .openConnection _ | .closeConnection | .setConnectionState _ | .androidDisconnected => False

section
variable (h : Undecided client serverId r)
include h

theorem Undecided.emitted {heard : FirstAttempt}
    (hheard : heard = .waiting ∨ heard = .announced ∧ r.system.controller.wasConnecting = true)
    {signals : List VpnSignal} (hcontroller : r'.system.controller = r.system.controller)
    (hsignals : r'.system.signals = r.system.signals ++ signals) (hbase : r'.base = r.base)
    (hfailed : r'.failed = r.failed) (hlaunched : r'.launched = r.launched)
    (hsent : r'.Sent client serverId (signals.foldl (next (r.base + 1))
      (r.system.signals.foldl (next (r.base + 1)) heard))) : Undecided client serverId r' := by
  refine ⟨hfailed.trans h.failed, hlaunched.trans h.launched, ?_, ?_, ?_, ?_, heard, ?_, ?_⟩
  · rw [hcontroller]
    exact h.queue
  · rw [hcontroller]
    exact h.active
  · rw [hcontroller]
    exact h.index
  · rw [hcontroller]
    exact h.switching
  · rw [hcontroller]
    exact hheard
  · rw [hsignals, hbase, List.foldl_append]
    exact hsent

theorem Undecided.backend (hattempts : r.base < r.system.attempts) {x : VpnConnection × List VpnSignal}
    (hx : r.system.vpn.Trying client (r.base + 1) →
      VpnConnection.SettlesOrTries client (r.base + 1) .announced x) :
    Undecided client serverId { r with system := r.system.emitted x } := by
  obtain ⟨heard, hheard, hsent⟩ := h.stream
  refine h.emitted hheard rfl rfl rfl rfl rfl ?_
  generalize hstream : r.system.signals.foldl (next (r.base + 1)) heard = sent at hsent
  cases sent with
  | waiting =>
    have hbase := hsent.2.1
    omega
  | announced =>
    obtain ⟨hcommands, hn, htrying⟩ := hsent
    rcases hx htrying with hsettled | ⟨hsame, htrying'⟩
    · rw [hsettled]
      exact ⟨hcommands, hn⟩
    · rw [hsame]
      exact ⟨hcommands, hn, htrying'⟩
  | settled =>
    rw [foldl_settled]
    exact hsent
  | unexpected =>
    exact hsent.elim

theorem Undecided.execute {answers : Answers} (hown : OwnCourse client r (.execute answers)) {s' : System}
    (hstep : r.system.execute client answers = some s') : Undecided client serverId { r with system := s' } := by
  obtain ⟨heard, hheard, hsent⟩ := h.stream
  have hnil : r.system.commands ≠ [] := by
    intro hnil
    unfold System.execute at hstep
    rw [hnil] at hstep
    cases hstep
  generalize hstream : r.system.signals.foldl (next (r.base + 1)) heard = sent at hsent
  cases sent with
  | waiting =>
    obtain ⟨⟨container, json, hcommands⟩, hattempts, hsignals, hleaves⟩ := hsent
    unfold System.execute at hstep
    rw [hcommands, hattempts] at hstep
    cases hstep
    have hclass := hown serverId container json (by rw [hcommands]; rfl)
    refine h.emitted hheard rfl rfl rfl rfl rfl ?_
    rw [hstream]
    rcases VpnConnection.connectToVpn_first hleaves (r.base + 1) answers hclass with hsettled | ⟨hannounced, htrying⟩
    · rw [hsettled]
      exact ⟨rfl, rfl⟩
    · rw [hannounced]
      exact ⟨rfl, rfl, htrying⟩
  | announced | settled =>
    exact absurd hsent.1 hnil
  | unexpected =>
    exact hsent.elim

theorem Undecided.step {action : Action} (hown : OwnCourse client r action) (hstep : r.step client action = some r') :
    Undecided client serverId r' ∨ Undisturbed client serverId r' ∧ r'.decided = true := by
  cases action with
  | deliver => exact h.deliver hstep
  | budgetTimeout =>
    obtain ⟨s', -, rfl⟩ := Option.map_eq_some_iff.mp hstep
    exact Or.inr ⟨⟨fun _ => Or.inr (Or.inl rfl), fun _ => Or.inr (Or.inl rfl)⟩, by simp [decided, note]⟩
  | execute answers =>
    obtain ⟨s', hs, rfl⟩ := Option.map_eq_some_iff.mp hstep
    exact Or.inl (h.execute hown hs)
  | protocolEvent event =>
    obtain ⟨s', hs, rfl⟩ := Option.map_eq_some_iff.mp hstep
    obtain ⟨x, hx, rfl⟩ := Option.map_eq_some_iff.mp hs
    exact Or.inl (h.backend hown.1 fun htrying => htrying.protocolEvent hown.2 hx)
  | networkChanged answers =>
    obtain ⟨s', hs, rfl⟩ := Option.map_eq_some_iff.mp hstep
    simp only [System.step] at hs
    split_ifs at hs
    cases hs
    refine Or.inl (h.backend hown fun htrying => Or.inr ?_)
    rw [VpnConnection.reconnectToVpn_of_ne_connected htrying.notConnected]
    exact ⟨rfl, htrying⟩
  | appleState state =>
    obtain ⟨s', hs, rfl⟩ := Option.map_eq_some_iff.mp hstep
    simp only [System.step] at hs
    split_ifs at hs with happle
    cases hs
    refine Or.inl (h.backend hown.1 fun htrying => ?_)
    rw [htrying.attempt]
    exact htrying.appleState happle hown.2
  | openConnection | closeConnection | setConnectionState | androidDisconnected => exact hown.elim

end

/-! ### A request that finds nothing left -/

theorem backups_ne_nil (h : 2 ≤ client.repository.orderedServerIds.length) (serverId : String) :
    backups client serverId ≠ [] := by
  intro hnil
  have hfilter : client.repository.orderedServerIds.filter (· ≠ serverId) = [] := by
    rcases List.take_eq_nil_iff.mp hnil with hzero | hfilter
    · cases hzero
    · exact hfilter
  have hall : ∀ id ∈ client.repository.orderedServerIds, id = serverId := by
    simpa using List.filter_eq_nil_iff.mp hfilter
  have hnodup := client.wellFormed.nodup
  match hids : client.repository.orderedServerIds, h with
  | a :: b :: rest, _ =>
    rw [hids] at hall hnodup
    have hab : a = b := (hall a (by simp)).trans (hall b (by simp)).symm
    simp [hab] at hnodup

/-- A first request on a client whose backend cannot be reached: both servers fail, everything reported is
handled, and the interface has asked for `Disconnected`. -/
def failedRequest : List Action :=
  [.openConnection "a", .execute System.unreachableAnswers] ++ List.replicate 7 .deliver ++
    [.execute System.unreachableAnswers] ++ List.replicate 7 .deliver

def secondRequest : List Action :=
  [.execute System.goodAnswers, .execute System.goodAnswers, .deliver, .deliver, .execute System.unreachableAnswers] ++
    List.replicate 7 .deliver

end Observed

end FreshVpn
