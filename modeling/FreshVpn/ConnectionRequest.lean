import FreshVpn.ConnectionFailover

/-! One connection request, seen from the controller: a call of `openConnection` and then the states, errors and timer
events delivered before the next call. -/

namespace FreshVpn

open ConnectionController Run

inductive ControllerEvent where
  /-- A state from the VPN thread, with what `VpnConnection::lastError` returns while it is handled. -/
  | connectionState (state : ConnectionState) (fromProtocol : ErrorCode)
  | protocolError (error : ErrorCode)
  | budgetTimeout

/-- The controller, with the signals emitted since the request was made. -/
structure Request where
  controller : ConnectionController
  signals : List ControllerSignal

namespace Request

variable {serverId : String} {client : Client} {event : ControllerEvent} {events : List ControllerEvent}
  {r r' : Request} {c : ConnectionController}

def launchedBy : ControllerSignal → Option String
  | .openConnectionRequested serverId _ _ => some serverId
  | _ => none

def launched (r : Request) : List String := r.signals.filterMap launchedBy

def start (client : Client) (c : ConnectionController) (serverId : String) : Option Request :=
  (c.openConnection client serverId).map fun (c, _, signals) => ⟨c, signals⟩

def step (client : Client) (r : Request) : ControllerEvent → Option Request
  | .connectionState state fromProtocol =>
    (r.controller.handleConnectionState client state fromProtocol).map fun (c, signals) => ⟨c, r.signals ++ signals⟩
  | .protocolError error => some { r with controller := r.controller.handleProtocolError error }
  | .budgetTimeout => r.controller.budgetTimeout.map fun c => { r with controller := c }

/-- What one event does: a handled state, or a change of the fields that launch nothing. -/
theorem step_cases (h : r.step client event = some r') :
    (∃ state fromProtocol c signals, event = .connectionState state fromProtocol ∧
        Handled client r.controller state fromProtocol c signals ∧ r' = ⟨c, r.signals ++ signals⟩) ∨
      (∃ error, r' = { r with controller := { r.controller with lastProtocolError := error } }) ∨
      r' = { r with controller := { r.controller with failoverBudget := false, failoverActive := false } } := by
  cases event with
  | connectionState state fromProtocol =>
    obtain ⟨⟨c, signals⟩, hhandle, heq⟩ := Option.map_eq_some_iff.mp h
    cases heq
    exact Or.inl ⟨state, fromProtocol, c, signals, rfl, handled_of_eq_some hhandle, rfl⟩
  | protocolError error =>
    cases h
    exact Or.inr (Or.inl ⟨error, rfl⟩)
  | budgetTimeout =>
    obtain ⟨c, htimeout, heq⟩ := Option.map_eq_some_iff.mp h
    unfold budgetTimeout at htimeout
    split_ifs at htimeout
    cases htimeout
    cases heq
    exact Or.inr (Or.inr rfl)

/-! ### The invariant of a request -/

def launchedAtStart (client : Client) (serverId : String) : List String :=
  match client.prepareConnection serverId with
  | .ready _ _ => [serverId]
  | _ => []

/-- Where the failover stands: the servers launched after the first, and, while it is active, the entry of
the queue it has reached. -/
structure Inv (client : Client) (serverId : String) (r : Request) : Prop where
  launched : ∃ rest, r.launched = launchedAtStart client serverId ++ rest ∧
    rest.Sublist (backups client serverId) ∧
    (r.controller.failoverActive = true → r.controller.failoverQueue = serverId :: backups client serverId ∧
      ∃ i : ℕ, r.controller.failoverIndex = i ∧ i ≤ (backups client serverId).length ∧
        rest.Sublist ((backups client serverId).take i) ∧
        (0 < i → rest.getLast? = (serverId :: backups client serverId)[i]?))

theorem launched_append (c : ConnectionController) (old new : List ControllerSignal) :
    launched ⟨c, old ++ new⟩ = old.filterMap launchedBy ++ new.filterMap launchedBy :=
  List.filterMap_append

theorem inv_start (h : start client c serverId = some r) : Inv client serverId r := by
  obtain ⟨⟨c', error, signals⟩, hopen, heq⟩ := Option.map_eq_some_iff.mp h
  cases heq
  obtain ⟨⟨error', signals'⟩, hlaunch, heq⟩ := Option.map_eq_some_iff.mp hopen
  cases heq
  refine ⟨[], ?_, List.nil_sublist _, fun _ => ⟨startFailover_failoverQueue .., 0, rfl, Nat.zero_le _,
    List.nil_sublist _, by simp⟩⟩
  unfold launchConnection at hlaunch
  unfold launchedAtStart
  split at hlaunch
  · cases hlaunch
  · rename_i hprepared
    cases hlaunch
    simp [hprepared, launched]
  · rename_i hprepared
    cases hlaunch
    simp [hprepared, launched, launchedBy]

theorem Inv.quiet (h : Inv client serverId r) (hlaunched : r'.launched = r.launched)
    (hactive : r'.controller.failoverActive = true → r.controller.failoverActive = true ∧
      r'.controller.failoverQueue = r.controller.failoverQueue ∧
      r'.controller.failoverIndex = r.controller.failoverIndex) : Inv client serverId r' := by
  obtain ⟨rest, hrest, hsub, hplace⟩ := h
  refine ⟨rest, hlaunched.trans hrest, hsub, fun ha => ?_⟩
  obtain ⟨ha', hqueue, hindex⟩ := hactive ha
  rw [hqueue, hindex]
  exact hplace ha'

theorem inv_step (hinv : Inv client serverId r) (h : r.step client event = some r') : Inv client serverId r' := by
  rcases step_cases h with ⟨state, fromProtocol, c, signals, -, hhandled, rfl⟩ | ⟨error, rfl⟩ | rfl
  · cases hhandled with
    | announced hstate =>
      exact hinv.quiet (by simp [launched, launchedBy]) fun ha => ⟨ha, rfl, rfl⟩
    | tail hswitching hstate =>
      exact hinv.quiet (by simp [launched]) fun ha => ⟨ha, rfl, rfl⟩
    | connected hstate =>
      refine hinv.quiet ?_ fun ha => nomatch ha
      unfold backupNotice
      split_ifs <;> simp [launched, launchedBy]
    | ended hstate hswitching hfailure =>
      exact hinv.quiet (by simp [launched, launchedBy]) fun ha => nomatch ha
    | switched hswitching hfailure hcode hactive skipped next container json hlaunches =>
      obtain ⟨rest, hrest, hsub, hplace⟩ := hinv
      obtain ⟨hqueue, i, hindex, hi, htake, -⟩ := hplace hactive
      obtain ⟨later, hremaining⟩ := hlaunches.split
      have hdrop : (backups client serverId).drop i = skipped ++ next :: later := by
        have hnat : (r.controller.failoverIndex + 1).toNat = i + 1 := by omega
        rw [remaining, hqueue, hnat, List.drop_succ_cons] at hremaining
        exact hremaining
      -- The queue up to the launched entry: what was passed before, what is skipped, and the entry.
      have hsplit : backups client serverId =
          (backups client serverId).take i ++ (skipped ++ next :: later) := by
        rw [← hdrop, List.take_append_drop]
      have hlen : ((backups client serverId).take i).length = i := List.length_take_of_le hi
      have htake' : (backups client serverId).take (i + skipped.length + 1) =
          (backups client serverId).take i ++ (skipped ++ [next]) := by
        rw [Nat.add_assoc, List.take_add, hdrop, List.take_append, List.take_of_length_le (Nat.le_succ _)]
        simp
      refine ⟨rest ++ [next], ?_, ?_, fun _ => ⟨hqueue, i + skipped.length + 1, ?_, ?_, ?_, fun _ => ?_⟩⟩
      · change List.filterMap launchedBy (r.signals ++ [_, _]) = _
        rw [List.filterMap_append, ← List.append_assoc, ← hrest]
        rfl
      · rw [hsplit]
        refine htake.append ((List.singleton_sublist.mpr ?_))
        simp
      · dsimp only
        omega
      · have := congrArg List.length hsplit
        simp only [List.length_append, List.length_cons, hlen] at this
        omega
      · rw [htake']
        exact htake.append (List.sublist_append_right _ _)
      · rw [List.getLast?_append, List.getLast?_singleton, Option.some_or, List.getElem?_cons_succ, hsplit,
          List.getElem?_append_right (by omega), hlen, Nat.add_sub_cancel_left,
          List.getElem?_append_right (le_refl _), Nat.sub_self, List.getElem?_cons_zero]
  · exact hinv.quiet rfl fun ha => ⟨ha, rfl, rfl⟩
  · exact hinv.quiet rfl fun ha => nomatch ha

theorem inv_run {r₀ : Request} (hstart : start client c serverId = some r₀)
    (hrun : run (step client) r₀ events = some r) : Inv client serverId r :=
  run_invariant (fun _ _ _ hinv hstep => inv_step hinv hstep) (inv_start hstart) hrun

theorem inactive_step (hactive : r.controller.failoverActive = false) (h : r.step client event = some r') :
    r'.controller.failoverActive = false ∧ r'.launched = r.launched := by
  rcases step_cases h with ⟨state, fromProtocol, c, signals, -, hhandled, rfl⟩ | ⟨error, rfl⟩ | rfl
  · cases hhandled with
    | announced hstate => exact ⟨hactive, by simp [launched, launchedBy]⟩
    | tail hswitching hstate => exact ⟨hactive, by simp [launched]⟩
    | connected hstate =>
      refine ⟨rfl, ?_⟩
      unfold backupNotice
      simp [hactive, launched, launchedBy]
    | ended hstate hswitching hfailure => exact ⟨rfl, by simp [launched, launchedBy]⟩
    | switched hswitching hfailure hcode ha =>
      rw [hactive] at ha
      cases ha
  · exact ⟨hactive, rfl⟩
  · exact ⟨rfl, rfl⟩

theorem inactive_run (hactive : r.controller.failoverActive = false)
    (hrun : run (step client) r events = some r') : r'.launched = r.launched :=
  (run_invariant (I := fun t => t.controller.failoverActive = false ∧ t.launched = r.launched)
    (fun _ _ _ hinv hstep => ⟨(inactive_step hinv.1 hstep).1, (inactive_step hinv.1 hstep).2.trans hinv.2⟩)
    ⟨hactive, rfl⟩ hrun).2

/-! ### One request, one ordered list of attempts -/

/-- The failover would launch one of the backups if it were asked for the next server at the start. -/
def HasLaunchableBackup (client : Client) (serverId : String) : Prop :=
  ∃ skipped next container vpnConfiguration,
    Launches client (backups client serverId) skipped next container vpnConfiguration

/-- A list of attempts for the server `serverId`: at most three distinct servers, the requested one first
and the others in the repository's order. -/
structure IsAttemptList (client : Client) (serverId : String) (attempts : List String) : Prop where
  length_le : attempts.length ≤ 3
  nodup : attempts.Nodup
  first : ∀ id ∈ attempts.head?, id = serverId
  ordered : attempts.tail.Sublist client.repository.orderedServerIds

theorem Inv.launched_sublist (h : Inv client serverId r) :
    r.launched.Sublist (serverId :: backups client serverId) := by
  obtain ⟨rest, hrest, hsub, -⟩ := h
  rw [hrest, launchedAtStart]
  split
  · exact hsub.cons_cons serverId
  · exact hsub.cons serverId

theorem Inv.isAttemptList (h : Inv client serverId r) (hfirst : ∀ id ∈ r.launched.head?, id = serverId) :
    IsAttemptList client serverId r.launched := by
  have hsub := h.launched_sublist
  refine ⟨hsub.length_le.trans (queue_length_le client serverId), (queue_nodup client serverId).sublist hsub,
    hfirst, ?_⟩
  exact hsub.tail.trans (backups_sublist client serverId)

theorem launched_after_connected {r'' : Request} {fromProtocol : ErrorCode}
    (hstep : r.step client (.connectionState .connected fromProtocol) = some r')
    (hrun : run (step client) r' events = some r'') : r''.launched = r.launched := by
  obtain ⟨⟨c, signals⟩, hhandle, heq⟩ := Option.map_eq_some_iff.mp hstep
  cases heq
  have hconnected : r.controller.handleConnectionState client .connected fromProtocol =
      some (r.controller.idle, r.controller.backupNotice ++ [.connectionStateChanged .connected]) := by
    simp [handleConnectionState, idle]
  rw [hconnected] at hhandle
  cases hhandle
  rw [inactive_run rfl hrun, launched_append]
  unfold backupNotice
  split_ifs <;> simp [launched, launchedBy]

theorem Inv.first (h : Inv client serverId r) (hready : launchedAtStart client serverId = [serverId]) :
    ∀ id ∈ r.launched.head?, id = serverId := by
  obtain ⟨rest, hrest, -⟩ := h
  intro id hid
  rw [hrest, hready] at hid
  simpa using hid.symm

theorem no_launch_step (hnone : ¬ HasLaunchableBackup client serverId)
    (hinv : Inv client serverId r ∧ r.launched = [] ∧
      (r.controller.failoverActive = true → r.controller.failoverIndex = 0))
    (h : r.step client event = some r') :
    Inv client serverId r' ∧ r'.launched = [] ∧
      (r'.controller.failoverActive = true → r'.controller.failoverIndex = 0) := by
  obtain ⟨hi, hl, hindex⟩ := hinv
  refine ⟨inv_step hi h, ?_⟩
  rcases step_cases h with ⟨state, fromProtocol, c, signals, -, hhandled, rfl⟩ | ⟨error, rfl⟩ | rfl
  · have hold : r.signals.filterMap launchedBy = [] := hl
    cases hhandled with
    | announced hstate => exact ⟨by simp [launched, launchedBy, hold], hindex⟩
    | tail hswitching hstate => exact ⟨by simp [launched, hold], hindex⟩
    | connected hstate =>
      refine ⟨?_, fun ha => nomatch ha⟩
      rw [launched_append, hold]
      unfold backupNotice
      split_ifs <;> simp [launchedBy]
    | ended hstate hswitching hfailure => exact ⟨by simp [launched, launchedBy, hold], fun ha => nomatch ha⟩
    | switched hswitching hfailure hcode hactive skipped next container json hlaunches =>
      obtain ⟨rest, -, -, hplace⟩ := hi
      refine absurd ⟨skipped, next, container, json, ?_⟩ hnone
      have hqueue := (hplace hactive).1
      rw [remaining, hqueue, hindex hactive] at hlaunches
      exact hlaunches
  · exact ⟨hl, hindex⟩
  · exact ⟨hl, fun ha => nomatch ha⟩

theorem launch_after_failed_start {error : ErrorCode} (hfailed : client.prepareConnection serverId = .failed error)
    (hbackup : HasLaunchableBackup client serverId) :
    ∃ r₀ r next, start client c serverId = some r₀ ∧
      run (step client) r₀ [.connectionState .error .noError] = some r ∧ r.launched = [next] ∧
      next ∈ backups client serverId := by
  obtain ⟨skipped, next, container, json, hlaunches⟩ := hbackup
  obtain ⟨later, hsplit⟩ := hlaunches.split
  let c₀ := c.startFailover client serverId
  have hactive : c₀.failoverActive = true := by
    have hlen : 1 < c₀.failoverQueue.length := by
      rw [startFailover_failoverQueue, hsplit, List.length_cons, List.length_append, List.length_cons]
      omega
    exact decide_eq_true hlen
  have hremaining : c₀.remaining = backups client serverId := by
    rw [remaining, startFailover_failoverQueue]
    rfl
  let c₁ := { c₀ with failoverIndex := c₀.failoverIndex + skipped.length + 1, switching := true }
  have htry : c₀.tryNextCandidate client = some (c₁, true, [.openConnectionRequested next container json]) := by
    rw [tryNextCandidate_of_active hactive]
    exact tryCandidates_of_launches (hremaining ▸ hlaunches) c₀
  have hhandle : c₀.handleConnectionState client .error .noError =
      some (c₁, [.openConnectionRequested next container json, .connectionStateChanged .connecting]) := by
    unfold handleConnectionState
    rw [htry]
    have hswitching : c₀.switching = false := rfl
    have hcode : (c₀.lastConnectionError .noError).isSubscriptionError = false := rfl
    simp [hswitching, hcode, isFailure]
  refine ⟨⟨c₀, []⟩, ⟨c₁, [.openConnectionRequested next container json, .connectionStateChanged .connecting]⟩,
    next, ?_, ?_, rfl, ?_⟩
  · simp [start, openConnection, launchConnection, hfailed, c₀]
  · simp [run, step, hhandle]
  · rw [hsplit]
    simp

/-- **One request, one ordered list of attempts.** After every sequence of events delivered for a request the
servers launched form an attempt list, and none is launched after the connection has come up, exactly if the
requested server can be prepared or none of its backups would be launched. -/
theorem attempts_ordered_iff (client : Client) (c : ConnectionController) (serverId : String) :
    (∀ r₀ events r, start client c serverId = some r₀ → run (step client) r₀ events = some r →
      IsAttemptList client serverId r.launched ∧
        ∀ fromProtocol r' later r'', r.step client (.connectionState .connected fromProtocol) = some r' →
          run (step client) r' later = some r'' → r''.launched = r.launched) ↔
      ((∃ error, client.prepareConnection serverId = .failed error) → ¬ HasLaunchableBackup client serverId) := by
  constructor
  · rintro hall ⟨error, hfailed⟩ hbackup
    obtain ⟨r₀, r, next, hstart, hrun, hlaunched, hnext⟩ := launch_after_failed_start (c := c) hfailed hbackup
    have hfirst := (hall r₀ _ r hstart hrun).1.first next (by rw [hlaunched, List.head?_cons, Option.mem_some])
    exact not_mem_backups client serverId (hfirst ▸ hnext)
  · intro hcond r₀ events r hstart hrun
    have hinv := inv_run hstart hrun
    refine ⟨hinv.isAttemptList ?_, fun fromProtocol r' later r'' => launched_after_connected⟩
    cases hprepared : client.prepareConnection serverId with
    | nullConfigurator =>
      simp [start, openConnection, launchConnection, hprepared] at hstart
    | ready container json =>
      exact hinv.first (by rw [launchedAtStart, hprepared])
    | failed error =>
      have hnone := hcond ⟨error, hprepared⟩
      have hr₀ : r₀.launched = [] ∧ r₀.controller.failoverIndex = 0 := by
        simp only [start, openConnection, launchConnection, hprepared, Option.map_some, Option.some.injEq] at hstart
        subst hstart
        exact ⟨rfl, rfl⟩
      have hrest := run_invariant (fun _ _ _ hi hs => no_launch_step hnone hi hs)
        ⟨inv_start hstart, hr₀.1, fun _ => hr₀.2⟩ hrun
      rw [hrest.2.1]
      simp

def clientWithLegacyServer : Client :=
  Client.afterCalls .linux
    [.addServer "old" [(ConfigKey.apiEndpoint, .string "https://premium.example/v1"), (ConfigKey.configVersion, .double 1)]
        .amneziaPremiumV1,
      .addServer "b" (Client.sharedServer "h" "amnezia-awg") .selfHostedUser]

/-- The request for the legacy server launches nothing by itself, and the first error that arrives launches
`b`: the first attempt made is not the requested server. -/
theorem first_attempt_not_requested :
    ((start clientWithLegacyServer .initial "old").map launched = some []) ∧
      ((start clientWithLegacyServer .initial "old").bind fun r =>
        (run (step clientWithLegacyServer) r [.connectionState .error .noError]).map launched) = some ["b"] := by
  decide

/-! ### The notice of a switched server -/

/-- What handling `Connected` emits if the user is told rightly: the notice for the server launched last if
it is not the requested one, and no notice otherwise. -/
def rightNotice (serverId : String) (r : Request) : List ControllerSignal :=
  match r.launched.getLast? with
  | none => [.connectionStateChanged .connected]
  | some last =>
    if last = serverId then [.connectionStateChanged .connected]
    else [.switchedToBackup last, .connectionStateChanged .connected]

theorem Inv.backupNotice_eq (h : Inv client serverId r) (hactive : r.controller.failoverActive = true) :
    r.controller.backupNotice ++ [.connectionStateChanged .connected] = r.rightNotice serverId := by
  obtain ⟨rest, hrest, hsub, hplace⟩ := h
  obtain ⟨hqueue, i, hindex, hi, htake, hlast⟩ := hplace hactive
  unfold backupNotice rightNotice
  rcases Nat.eq_zero_or_pos i with rfl | hpos
  · -- The failover is still at the requested server.
    have hnil : rest = [] := by simpa using htake
    rw [hnil, List.append_nil] at hrest
    rw [if_neg (by omega), hrest, launchedAtStart]
    cases client.prepareConnection serverId <;> simp
  · have hlt : i < (serverId :: backups client serverId).length := Nat.lt_succ_of_le hi
    have hget : (serverId :: backups client serverId)[i]? = some ((serverId :: backups client serverId)[i]) :=
      List.getElem?_eq_getElem hlt
    have hlaunched : r.launched.getLast? = some ((serverId :: backups client serverId)[i]) := by
      rw [hrest, List.getLast?_append, hlast hpos, hget, Option.some_or]
    have hne : (serverId :: backups client serverId)[i] ≠ serverId := by
      intro heq
      refine not_mem_backups client serverId ?_
      obtain ⟨j, rfl⟩ : ∃ j, i = j + 1 := ⟨i - 1, by omega⟩
      rw [List.getElem_cons_succ] at heq
      have hmem : (backups client serverId)[j] ∈ backups client serverId := List.getElem_mem _
      rw [heq] at hmem
      exact hmem
    have hnotice : r.controller.failoverActive = true ∧ 0 < r.controller.failoverIndex ∧
        r.controller.failoverIndex < r.controller.failoverQueue.length := by
      rw [hqueue, hindex]
      exact ⟨hactive, by omega, by omega⟩
    have hnat : r.controller.failoverIndex.toNat = i := by omega
    rw [if_pos hnotice, hlaunched, hqueue, hnat, List.getD_eq_getElem _ _ hlt]
    simp [hne]

/-- **The notice of a switched server.** When `Connected` is handled after any sequence of events of a
request, the notice is the right one exactly if the server launched last is the requested one (or none was
launched) or the failover is still active. -/
theorem notice_right_iff (client : Client) (c : ConnectionController) (serverId : String)
    (events : List ControllerEvent) (r₀ r : Request) (fromProtocol : ErrorCode)
    (hstart : start client c serverId = some r₀) (hrun : run (step client) r₀ events = some r) :
    r.step client (.connectionState .connected fromProtocol) =
        some ⟨r.controller.idle, r.signals ++ r.rightNotice serverId⟩ ↔
      (∀ last ∈ r.launched.getLast?, last = serverId) ∨ r.controller.failoverActive = true := by
  have hinv := inv_run hstart hrun
  have hstep : r.step client (.connectionState .connected fromProtocol) =
      some ⟨r.controller.idle, r.signals ++ (r.controller.backupNotice ++ [.connectionStateChanged .connected])⟩ := by
    simp [step, handleConnectionState, idle]
  rw [hstep, Option.some.injEq, Request.mk.injEq, and_iff_right rfl, List.append_cancel_left_eq]
  cases hactive : r.controller.failoverActive with
  | true => exact iff_of_true (hinv.backupNotice_eq hactive) (Or.inr rfl)
  | false =>
    have hnone : r.controller.backupNotice = [] := by simp [backupNotice, hactive]
    rw [hnone, List.nil_append, rightNotice]
    cases hlast : r.launched.getLast? with
    | none => simp
    | some last =>
      by_cases hsame : last = serverId <;> simp [hsame]

def clientWithTwoServers : Client :=
  Client.afterCalls .linux
    [.addServer "a" (Client.sharedServer "h1" "amnezia-awg") .selfHostedUser,
      .addServer "b" (Client.sharedServer "h2" "amnezia-awg") .selfHostedUser]

def noticesOf (r : Request) : List String :=
  r.signals.filterMap fun
    | .switchedToBackup serverId => some serverId
    | _ => none

/-- The request for `a` fails, `b` is launched, the budget runs out while it connects, and `b` comes up: the
user is not told that they are connected through `b`. -/
theorem no_notice_after_budget :
    ((start clientWithTwoServers .initial "a").bind fun r =>
      (run (step clientWithTwoServers) r
        [.connectionState .connecting .noError, .connectionState .error .noError,
          .connectionState .connecting .noError, .budgetTimeout, .connectionState .connected .noError]).map
        fun r => (r.launched, r.noticesOf)) = some (["a", "b"], []) := by
  decide

/-- The same request without the timer: `b` comes up within the budget. -/
theorem notice_within_budget :
    ∃ r₀ r, start clientWithTwoServers .initial "a" = some r₀ ∧
      run (step clientWithTwoServers) r₀
        [.connectionState .connecting .noError, .connectionState .error .noError] = some r ∧
      r.step clientWithTwoServers (.connectionState .connected .noError) =
        some ⟨r.controller.idle, r.signals ++ r.rightNotice "a"⟩ := by
  refine ⟨_, _, rfl, rfl, ?_⟩
  exact (notice_right_iff clientWithTwoServers .initial "a"
    [.connectionState .connecting .noError, .connectionState .error .noError] _ _ .noError rfl rfl).mpr (Or.inr rfl)

end Request

end FreshVpn
