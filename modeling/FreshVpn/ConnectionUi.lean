import FreshVpn.LibraryRun
import FreshVpn.ConnectionStates

/-! The connection as the interface has it, and its reconnection: `reconnect` closes the connection and leaves a flag,
and the next `Disconnected` puts a call of `openConnection` into the queue of events. -/

namespace FreshVpn

/-- What the interface asks for or announces. -/
inductive UiSignal where
  | openConnection
  | closeConnection
  /-- `openConnection`, put into the queue of events. -/
  | invokeOpenConnection
  | connectionErrorOccurred
  | preparingConfig
  | prepareConfig
  | connectionBlocked (errorCode : ErrorCode)
deriving DecidableEq

structure ConnectionUiController where
  state : ConnectionState := .disconnected
  isConnected : Bool := false
  isConnectionInProgress : Bool := false
  pendingReconnect : Bool := false

namespace ConnectionUiController

variable (ui : ConnectionUiController)

def closeConnection : ConnectionUiController × List UiSignal := (ui, [.closeConnection])

def reconnect : ConnectionUiController × List UiSignal :=
  if ui.isConnected || ui.isConnectionInProgress then ({ ui with pendingReconnect := true }, [.closeConnection])
  else (ui, [.openConnection])

def onConnectionStateChanged (state : ConnectionState) : ConnectionUiController × List UiSignal :=
  let ui := { ui with state, isConnected := false }
  match state with
  | .connected => ({ ui with isConnectionInProgress := false, isConnected := true }, [])
  | .connecting | .reconnecting | .disconnecting | .preparing => ({ ui with isConnectionInProgress := true }, [])
  | .disconnected =>
    ({ ui with isConnectionInProgress := false, pendingReconnect := false },
      if ui.pendingReconnect then [.invokeOpenConnection] else [])
  | .error | .unknown => ({ ui with isConnectionInProgress := false }, [.connectionErrorOccurred])

def onTranslationsUpdated : ConnectionUiController × List UiSignal := ui.onConnectionStateChanged ui.state

/-- `supported` is the answer of `isConnectionSupported` for the default server, if there is one. -/
def toggleConnection (supported : Option ErrorCode) : ConnectionUiController × List UiSignal :=
  if ui.state = .preparing then (ui, [.preparingConfig])
  else if ui.isConnectionInProgress || ui.isConnected then ui.closeConnection
  else match supported with
    | none => (ui, [])
    | some .noError => (ui, [.prepareConfig])
    | some errorCode => (ui, [.connectionBlocked errorCode])

end ConnectionUiController

/-! ### Runs -/

inductive UiEvent where
  | reconnect
  | closeConnection
  | toggleConnection (supported : Option ErrorCode)
  | onTranslationsUpdated
  | onConnectionStateChanged (state : ConnectionState)
  /-- The next queued `openConnection` is invoked. -/
  | invoke

/-- The interface, with what is remembered: whether a reconnection is wanted that has not been ended by a state or
taken back by the user, for each queued `openConnection` whether it is still wanted, how often it was invoked, how often
one that is not wanted, and how often `reconnect` was called. -/
structure ReconnectRun where
  ui : ConnectionUiController := {}
  wanted : Bool := false
  queue : List Bool := []
  invoked : ℕ := 0
  unwanted : ℕ := 0
  reconnects : ℕ := 0

namespace ReconnectRun

def closed (s : ReconnectRun) : ReconnectRun := { s with wanted := false, queue := s.queue.map fun _ => false }

def step (s : ReconnectRun) : UiEvent → Option ReconnectRun
  | .reconnect =>
    some { s with
      ui := s.ui.reconnect.1
      wanted := s.wanted || s.ui.isConnected || s.ui.isConnectionInProgress
      reconnects := s.reconnects + 1 }
  | .closeConnection => some { s.closed with ui := s.ui.closeConnection.1 }
  | .toggleConnection supported =>
    some { (if .closeConnection ∈ (s.ui.toggleConnection supported).2 then s.closed else s) with
      ui := (s.ui.toggleConnection supported).1 }
  | .onTranslationsUpdated =>
    -- A state that is told again ends no disconnection.
    some { s with
      ui := s.ui.onTranslationsUpdated.1
      queue := if .invokeOpenConnection ∈ s.ui.onTranslationsUpdated.2 then s.queue ++ [false] else s.queue }
  | .onConnectionStateChanged state =>
    some { s with
      ui := (s.ui.onConnectionStateChanged state).1
      wanted := s.wanted && state ≠ .disconnected && state ≠ .error && state ≠ .connected
      queue :=
        if .invokeOpenConnection ∈ (s.ui.onConnectionStateChanged state).2 then s.queue ++ [s.wanted] else s.queue }
  | .invoke =>
    match s.queue with
    | [] => none
    | wanted :: queue =>
      some { s with queue, invoked := s.invoked + 1, unwanted := if wanted then s.unwanted else s.unwanted + 1 }

/-- With a reconnection under way the user does not ask to close the connection, no error is reported, and no connection
comes up. -/
def Undisturbed (s : ReconnectRun) : UiEvent → Prop
  | .closeConnection => s.ui.pendingReconnect = false ∧ s.queue = []
  | .toggleConnection supported =>
    .closeConnection ∈ (s.ui.toggleConnection supported).2 → s.ui.pendingReconnect = false ∧ s.queue = []
  | .onConnectionStateChanged state => state = .error ∨ state = .connected → s.ui.pendingReconnect = false
  | _ => True

/-! ### What a step keeps -/

theorem toggleConnection_fst (ui : ConnectionUiController) (supported : Option ErrorCode) :
    (ui.toggleConnection supported).1 = ui := by
  unfold ConnectionUiController.toggleConnection ConnectionUiController.closeConnection
  split_ifs
  · rfl
  · rfl
  · split <;> rfl

section

variable (ui : ConnectionUiController) (state : ConnectionState)

@[simp] theorem state_onConnectionStateChanged : (ui.onConnectionStateChanged state).1.state = state := by
  cases state <;> rfl

@[simp] theorem pendingReconnect_onConnectionStateChanged :
    (ui.onConnectionStateChanged state).1.pendingReconnect = (ui.pendingReconnect && state ≠ .disconnected) := by
  cases state <;> simp [ConnectionUiController.onConnectionStateChanged]

@[simp] theorem invokeOpenConnection_mem_iff :
    .invokeOpenConnection ∈ (ui.onConnectionStateChanged state).2 ↔
      state = .disconnected ∧ ui.pendingReconnect = true := by
  cases state <;> simp [ConnectionUiController.onConnectionStateChanged]

end

/-- Nothing is pending in the state `Disconnected`, and every queued or invoked `openConnection` goes back to a call of
`reconnect`. -/
structure Counted (s : ReconnectRun) : Prop where
  resting : s.ui.state = .disconnected →
    s.ui.isConnected = false ∧ s.ui.isConnectionInProgress = false ∧ s.ui.pendingReconnect = false
  count : s.invoked + s.queue.length + s.ui.pendingReconnect.toNat ≤ s.reconnects

/-- The reconnection that is pending is wanted, and so is all that is queued. -/
structure Exact (s : ReconnectRun) : Prop where
  pending : s.ui.pendingReconnect = s.wanted
  queue : ∀ wanted ∈ s.queue, wanted = true
  unwanted : s.unwanted = 0

variable {s t : ReconnectRun}

theorem Counted.closed (h : s.Counted) : s.closed.Counted :=
  ⟨h.resting, by simpa [ReconnectRun.closed] using h.count⟩

theorem Exact.closed (h : s.Exact) (hidle : s.ui.pendingReconnect = false ∧ s.queue = []) : s.closed.Exact := by
  refine ⟨hidle.1, ?_, h.unwanted⟩
  simp [ReconnectRun.closed, hidle.2]

theorem Counted.tell (h : s.Counted) (state : ConnectionState) (wanted last : Bool) :
    Counted { s with
      ui := (s.ui.onConnectionStateChanged state).1
      wanted
      queue := if .invokeOpenConnection ∈ (s.ui.onConnectionStateChanged state).2 then s.queue ++ [last]
        else s.queue } := by
  have hcount := h.count
  refine ⟨fun hstate => ?_, ?_⟩
  · rw [state_onConnectionStateChanged] at hstate
    subst hstate
    exact ⟨rfl, rfl, rfl⟩
  · by_cases hstate : state = .disconnected <;> cases hpending : s.ui.pendingReconnect <;> simp_all
    omega

theorem Counted.step (h : s.Counted) {event : UiEvent} (hstep : s.step event = some t) : t.Counted := by
  have hcount := h.count
  cases event with
  | reconnect =>
    cases hstep
    by_cases hbusy : (s.ui.isConnected || s.ui.isConnectionInProgress) = true
    · refine ⟨fun hstate => ?_, ?_⟩
      · obtain ⟨hup, hgoing, -⟩ := h.resting (by simpa [ConnectionUiController.reconnect, hbusy] using hstate)
        simp [hup, hgoing] at hbusy
      · simp only [ConnectionUiController.reconnect, hbusy, if_true, Bool.toNat_true]
        omega
    · refine ⟨fun hstate => ?_, ?_⟩ <;> simp only [ConnectionUiController.reconnect, hbusy] at *
      · exact h.resting hstate
      · exact Nat.le_succ_of_le hcount
  | closeConnection =>
    cases hstep
    exact h.closed
  | toggleConnection supported =>
    cases hstep
    simp only [toggleConnection_fst]
    split_ifs
    · exact h.closed
    · exact h
  | onTranslationsUpdated =>
    cases hstep
    exact h.tell s.ui.state s.wanted false
  | onConnectionStateChanged state =>
    cases hstep
    exact h.tell state _ _
  | invoke =>
    cases hqueue : s.queue with
    | nil => simp [ReconnectRun.step, hqueue] at hstep
    | cons wanted queue =>
      simp only [ReconnectRun.step, hqueue, Option.some.injEq] at hstep
      subst hstep
      refine ⟨h.resting, ?_⟩
      simp only [hqueue, List.length_cons] at hcount ⊢
      omega

theorem Exact.step (h : s.Exact) (hcounted : s.Counted) {event : UiEvent} (hok : s.Undisturbed event)
    (hstep : s.step event = some t) : t.Exact := by
  cases event with
  | reconnect =>
    cases hstep
    refine ⟨?_, h.queue, h.unwanted⟩
    have hpending := h.pending
    by_cases hbusy : (s.ui.isConnected || s.ui.isConnectionInProgress) = true <;>
      simp_all [ConnectionUiController.reconnect, Bool.or_assoc]
  | closeConnection =>
    cases hstep
    exact h.closed hok
  | toggleConnection supported =>
    cases hstep
    simp only [toggleConnection_fst]
    split_ifs with hcloses
    · exact h.closed (hok hcloses)
    · exact h
  | onTranslationsUpdated =>
    cases hstep
    have hresting : ¬ (s.ui.state = .disconnected ∧ s.ui.pendingReconnect = true) :=
      fun hboth => absurd (hcounted.resting hboth.1).2.2 (by simp [hboth.2])
    simp only [ConnectionUiController.onTranslationsUpdated, invokeOpenConnection_mem_iff, if_neg hresting]
    refine ⟨?_, h.queue, h.unwanted⟩
    rw [pendingReconnect_onConnectionStateChanged, ← h.pending]
    cases hpending : s.ui.pendingReconnect <;> simp_all
  | onConnectionStateChanged state =>
    cases hstep
    have hends : state = .error ∨ state = .connected → s.ui.pendingReconnect = false := hok
    refine ⟨?_, fun wanted hmem => ?_, h.unwanted⟩
    · rw [pendingReconnect_onConnectionStateChanged, ← h.pending]
      cases state <;> simp_all
    · simp only [invokeOpenConnection_mem_iff] at hmem
      split_ifs at hmem with hreopens
      · rcases List.mem_append.mp hmem with hold | hnew
        · exact h.queue wanted hold
        · rw [List.mem_singleton.mp hnew, ← h.pending, hreopens.2]
      · exact h.queue wanted hmem
  | invoke =>
    cases hqueue : s.queue with
    | nil => simp [ReconnectRun.step, hqueue] at hstep
    | cons wanted queue =>
      simp only [ReconnectRun.step, hqueue, Option.some.injEq] at hstep
      subst hstep
      have hall := h.queue
      rw [hqueue, List.forall_mem_cons] at hall
      exact ⟨h.pending, hall.2, by rw [if_pos hall.1, h.unwanted]⟩

/-- **Reopening.** In every run `openConnection` is invoked automatically at most once for each call of `reconnect`. In
every run that does not disturb a reconnection it is invoked only for a `Disconnected` that ends the disconnection which
a call of `reconnect` has asked for, with no error, no later connection and no request to close in between. -/
theorem reopens_only_for_reconnect {events : List UiEvent} (hrun : Run.run step {} events = some s) :
    s.invoked + s.queue.length ≤ s.reconnects ∧ (Run.Meets step Undisturbed {} events → s.unwanted = 0) := by
  have hstart : Counted {} := ⟨fun _ => ⟨rfl, rfl, rfl⟩, Nat.le_refl _⟩
  refine ⟨?_, fun hmeets => ?_⟩
  · have hcounted := Run.run_invariant (fun _ _ _ h hstep => Counted.step h hstep) hstart hrun
    exact Nat.le_trans (Nat.le_add_right _ _) hcounted.count
  · have hexact : Exact {} := ⟨rfl, fun _ h => absurd h List.not_mem_nil, rfl⟩
    have hboth := Run.run_invariant_of_meets (I := fun s : ReconnectRun => s.Counted ∧ s.Exact)
      (fun _ _ _ h hok hstep => ⟨h.1.step hstep, h.2.step h.1 hok hstep⟩) ⟨hstart, hexact⟩ hmeets hrun
    exact hboth.2.unwanted

def reconnection : List UiEvent :=
  [.onConnectionStateChanged .connected, .reconnect, .onConnectionStateChanged .disconnecting,
    .onConnectionStateChanged .disconnected, .invoke]

theorem reconnected_once : ∃ s, Run.run step {} reconnection = some s ∧ s.invoked = 1 ∧ s.unwanted = 0 := by
  have hrun : Run.run step {} reconnection = some _ := rfl
  refine ⟨_, hrun, rfl, (reopens_only_for_reconnect hrun).2 ⟨fun _ => rfl, ?_⟩⟩
  rintro _ ⟨⟩
  refine ⟨trivial, ?_⟩
  rintro _ ⟨⟩
  refine ⟨nofun, ?_⟩
  rintro _ ⟨⟩
  refine ⟨nofun, ?_⟩
  rintro _ ⟨⟩
  exact ⟨trivial, fun _ _ => trivial⟩

/-- The user asks for another connection and then closes it while it is being disconnected; an error is reported instead
of the end of the disconnection. The connection is opened again each time. -/
theorem reopened_after_close_or_error :
    (∃ s, Run.run step {} [.onConnectionStateChanged .connected, .reconnect, .onConnectionStateChanged .disconnecting,
        .toggleConnection none, .onConnectionStateChanged .disconnected, .invoke] = some s ∧ s.unwanted = 1) ∧
      ∃ s, Run.run step {} [.onConnectionStateChanged .connected, .reconnect, .onConnectionStateChanged .error,
        .onConnectionStateChanged .disconnected, .invoke] = some s ∧ s.unwanted = 1 :=
  ⟨⟨_, rfl, rfl⟩, _, rfl, rfl⟩

end ReconnectRun

end FreshVpn
