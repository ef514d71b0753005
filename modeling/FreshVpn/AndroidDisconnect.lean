import FreshVpn.AndroidTunnels

/-! The end of a disconnection. The job stops the protocol object and then waits for the state `DISCONNECTED`. -/

namespace FreshVpn

/-- The service with what is remembered of the requests. -/
structure DisconnectRun where
  service : AmneziaVpnService
  /-- The jobs of the disconnections after whose requests no connection was asked for. -/
  undisturbed : List ℕ
  /-- The job for which `stopVpn` has returned in the last step. -/
  returned : Option ℕ

namespace DisconnectRun

open AmneziaVpnService

def initial : DisconnectRun := ⟨AmneziaVpnService.initial, [], none⟩

/-- `stopVpn` returns in the next step of the job: early, for an object without a tunnel, or after the tunnel is off. -/
def stopReturns (s : AmneziaVpnService) (i : ℕ) : Bool :=
  match s.phaseAt i, s.vpnProto with
  | some .disconnectProtocol, some o => !s.running o
  | some .stopping, _ => true
  | _, _ => false

def step (s : DisconnectRun) (a : Action) : Option DisconnectRun :=
  (s.service.step a).map fun t =>
    match a with
    | .connect _ _ => ⟨t, [], none⟩
    | .disconnect => ⟨t, if s.service.jobs.length < t.jobs.length then s.service.jobs.length :: s.undisturbed
        else s.undisturbed, none⟩
    | .job i _ => ⟨t, s.undisturbed, if stopReturns s.service i then some i else none⟩
    | _ => ⟨t, s.undisturbed, none⟩

def Over (s : AmneziaVpnService) (i : ℕ) : Prop :=
  s.protocolState = .disconnected ∧ ∃ t, s.step (.job i true) = some t ∧ t.phaseAt i = some .completed

/-- Every disconnection that has just stopped its object, and after which no connection was asked for, is over. -/
def Completes (s : DisconnectRun) : Prop := ∀ i, s.returned = some i → i ∈ s.undisturbed → Over s.service i

def FindsTunnel (s : DisconnectRun) : Action → Prop
  | .job i _ => i ∈ s.undisturbed → s.service.phaseAt i = some .disconnectProtocol →
      ∀ o, s.service.vpnProto = some o → s.service.running o = true ∨ s.service.protocolState = .disconnected
  | _ => True

/-! ### The return of the stop -/

variable {s : AmneziaVpnService} {a : Action} {i : ℕ}

theorem runJob_of_not_suspended {phase : Phase} (hat : s.phaseAt i = some phase) (hphase : phase.suspended = false)
    (answer : Bool) : runJob i answer s = proceed i phase answer s := by
  obtain ⟨job, hjob, rfl⟩ := Option.map_eq_some_iff.mp hat
  rw [runJob, hjob]
  dsimp only
  rw [hphase, Bool.and_false, if_neg Bool.false_ne_true]

/-- What the job finds when the stop has returned. -/
structure Returned (s t : AmneziaVpnService) (i : ℕ) : Prop where
  awaiting : t.phaseAt i = some .awaiting
  state : t.protocolState = if s.phaseAt i = some .stopping then .disconnected else s.protocolState

theorem returned_of_step (h : stopReturns s i = true) (answer : Bool) :
    ∃ t, s.step (.job i answer) = some t ∧ Returned s t i := by
  unfold stopReturns at h
  split at h
  · rename_i o hat hproto
    rw [Bool.not_eq_true'] at h
    have hstep : s.step (.job i answer) = some (enter i .awaiting s) := by
      change runJob i answer s = _
      rw [runJob_of_not_suspended hat rfl, proceed, hproto]
      dsimp only
      rw [h, if_neg Bool.false_ne_true]
    refine ⟨_, hstep, ?_, ?_⟩
    · exact (moves_enter hat .awaiting (fun _ => rfl) i).trans (if_pos rfl)
    · rw [hat, if_neg (by decide)]
      rfl
  · rename_i hat
    have hstep : s.step (.job i answer) = some (enter i .awaiting { s with protocolState := .disconnected }) := by
      change runJob i answer s = _
      rw [runJob_of_not_suspended hat rfl]
      rfl
    refine ⟨_, hstep, ?_, ?_⟩
    · exact (moves_enter hat .awaiting (fun _ => rfl) i).trans (if_pos rfl)
    · rw [hat, if_pos rfl]
      rfl
  · cases h

theorem over_of_awaiting (hat : s.phaseAt i = some .awaiting) (hstate : s.protocolState = .disconnected) :
    Over s i := by
  refine ⟨hstate, enter i .completed s, ?_, (moves_enter hat .completed (fun _ => rfl) i).trans (if_pos rfl)⟩
  obtain ⟨job, hjob, hphase⟩ := Option.map_eq_some_iff.mp hat
  change runJob i true s = _
  rw [runJob, hjob]
  dsimp only
  split_ifs
  · rfl
  · rw [hphase, proceed, if_pos (Or.inl hstate)]

theorem returned_eq_some {s t : DisconnectRun} (h : s.step a = some t) (hreturned : t.returned = some i) :
    ∃ answer, a = .job i answer ∧ stopReturns s.service i = true ∧ t.undisturbed = s.undisturbed := by
  obtain ⟨u, -, rfl⟩ := Option.map_eq_some_iff.mp h
  cases a with
  | job k answer =>
    dsimp only at hreturned
    split_ifs at hreturned with hstop
    · cases hreturned
      exact ⟨answer, rfl, hstop, rfl⟩
  | connect | disconnect | reconnect | watcher => cases hreturned

theorem completes_of_findsTunnel {s t : DisconnectRun} (hfinds : s.FindsTunnel a) (h : s.step a = some t) :
    t.Completes := by
  intro i hreturned hmem
  obtain ⟨answer, rfl, hstop, hundisturbed⟩ := returned_eq_some h hreturned
  obtain ⟨u, hu, hawaiting, hstate⟩ := returned_of_step hstop answer
  have ht : t.service = u := by
    rw [step, hu] at h
    cases h
    rfl
  rw [ht]
  refine over_of_awaiting hawaiting (hstate.trans ?_)
  unfold stopReturns at hstop
  split at hstop
  · rename_i o hat hproto
    rw [hat, if_neg (by decide)]
    rw [Bool.not_eq_true'] at hstop
    refine (hfinds (hundisturbed ▸ hmem) hat o hproto).resolve_left ?_
    rw [hstop]
    exact Bool.false_ne_true
  · rename_i hat
    exact if_pos hat
  · cases hstop

theorem not_completes_of_not_findsTunnel {s : DisconnectRun} (hnot : ¬ s.FindsTunnel a) :
    ∃ t, s.step a = some t ∧ ¬ t.Completes := by
  cases a with
  | job i answer =>
    obtain ⟨hmem, hrest⟩ := Classical.not_imp.mp hnot
    obtain ⟨hat, hrest⟩ := Classical.not_imp.mp hrest
    obtain ⟨o, hrest⟩ := not_forall.mp hrest
    obtain ⟨hproto, hrest⟩ := Classical.not_imp.mp hrest
    obtain ⟨hdown, hstate⟩ := not_or.mp hrest
    have hstop : stopReturns s.service i = true := by
      rw [stopReturns, hat, hproto]
      rw [Bool.not_eq_true']
      exact Bool.not_eq_true _ ▸ hdown
    obtain ⟨t, ht, -, hsame⟩ := returned_of_step hstop answer
    rw [hat, if_neg (by decide)] at hsame
    refine ⟨⟨t, s.undisturbed, some i⟩, ?_, fun hcompletes => ?_⟩
    · rw [step, ht, Option.map_some]
      dsimp only
      rw [if_pos hstop]
    · exact hstate (hsame ▸ (hcompletes i rfl hmem).1)
  | connect | disconnect | reconnect | watcher => exact absurd trivial hnot

end DisconnectRun

end FreshVpn
