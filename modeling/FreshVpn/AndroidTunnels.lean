import FreshVpn.AndroidService
import FreshVpn.LibraryRun

/-! When the service leaves no tunnel behind. -/

namespace FreshVpn

open Function

/-- The job of a request to connect or to reconnect, before its end. -/
def Phase.isConnection : Phase → Bool
  | .connectLaunched | .connectJoining _ | .connectJoined | .connectProtocol | .starting _ => true
  | .reconnectLaunched | .rebuilding _ | .establishing _ | .protecting _ => true
  | _ => false

namespace AmneziaVpnService

variable {u : AmneziaVpnService} {o : AwgProto} {phase : Phase} {i : ℕ} (s : AmneziaVpnService)

def phaseAt (i : ℕ) : Option Phase := s.jobs[i]?.map Job.phase

/-- The job may still bring a tunnel up. -/
def Connects (i : ℕ) : Prop := ∃ phase, s.phaseAt i = some phase ∧ phase.isConnection = true

def NoneRunning : Prop := ∀ o, s.running o = false

/-- Only the protocol that is chosen holds a tunnel. -/
def Current : Prop := ∀ o, s.running o = true → s.vpnProto = some o

def Recorded : Prop :=
  ∀ o, s.events.count (.turnOn o) = s.events.count (.turnOff o) + (s.running o).toNat

/-- The services agree on all that a job relies on. -/
structure Agrees (s u : AmneziaVpnService) : Prop where
  phaseAt : ∀ k, u.phaseAt k = s.phaseAt k
  connectionJob : u.connectionJob = s.connectionJob
  vpnProto : u.vpnProto = s.vpnProto
  running : u.running = s.running
  events : u.events = s.events
  protocolState : u.protocolState = s.protocolState

/-- What holds of the service while the job is in the phase. -/
def JobSound (i : ℕ) : Phase → Prop
  | .connectLaunched | .connectJoining _ | .connectJoined | .connectProtocol =>
    s.connectionJob = some i ∧ s.NoneRunning
  | .starting o | .establishing o => s.connectionJob = some i ∧ s.vpnProto = some o ∧ s.NoneRunning
  | .reconnectLaunched => s.connectionJob = some i
  | .rebuilding o => s.connectionJob = some i ∧ s.vpnProto = some o
  | .protecting o => s.connectionJob = some i ∧ s.vpnProto = some o ∧ s.running o = true
  | .disconnectJoining j => ∀ k, s.Connects k → k = j
  | .disconnectJoined | .disconnectProtocol | .awaiting => ∀ k, ¬ s.Connects k
  | .stopping => (∀ k, ¬ s.Connects k) ∧ s.NoneRunning
  | .disconnectLaunched | .completed => True

/-- The states in which there is nothing to disconnect. -/
def AtRest : Prop := s.protocolState = .disconnected ∨ s.protocolState = .unknown

/-- The invariant of the service under orderly requests. -/
structure Orderly : Prop where
  current : ∀ o, s.running o = true → s.vpnProto = some o
  recorded : ∀ o, s.events.count (.turnOn o) = s.events.count (.turnOff o) + (s.running o).toNat
  jobs : ∀ i phase, s.phaseAt i = some phase → s.JobSound i phase
  atRest : s.AtRest → s.NoneRunning ∧ ∀ i, ¬ s.Connects i

/-- A request or a step that keeps the service orderly: requests to connect come only from a state of rest and requests to
reconnect only while no job is pending, `reconnectVpn` does not throw before it has turned the old tunnel off, and a status
job that has found no tunnel reports it only if there is none and no job is pending. -/
def InOrder : Action → Prop
  | .connect _ _ => s.protocolState = .connected ∨ s.protocolState = .connecting ∨
      s.Quiet ∧ s.AtRest
  | .disconnect => True
  | .reconnect => s.protocolState ≠ .connected ∨ s.Quiet
  | .job i answer => ∀ o, s.phaseAt i = some (.rebuilding o) →
      s.running o = false ∨ answer = true ∧ s.configured o = true
  | .watcher i _ => ∀ o, s.watchers[i]? = some ⟨o, some false⟩ → s.Quiet ∧ s.NoneRunning

variable {s} {t : AmneziaVpnService}

theorem agrees_with {disconnectionJob : Option ℕ} {watchers : List Watcher} {configured : AwgProto → Bool} :
    Agrees s { s with disconnectionJob, watchers, configured } :=
  ⟨fun _ => rfl, rfl, rfl, rfl, rfl, rfl⟩

/-! ### What the invariant says of the jobs -/

theorem JobSound.connectionJob (h : s.JobSound i phase) (hphase : phase.isConnection = true) :
    s.connectionJob = some i := by
  cases phase with
  | starting | rebuilding | establishing | protecting | connectLaunched
  | connectJoining | connectJoined | connectProtocol =>
    exact h.1
  | reconnectLaunched => exact h
  | _ => cases hphase

theorem Orderly.eq_of_connects (h : s.Orderly) {j : ℕ} (hi : s.Connects i) (hj : s.Connects j) : i = j := by
  obtain ⟨phase, hat, hphase⟩ := hi
  obtain ⟨phase', hat', hphase'⟩ := hj
  have hci := (h.jobs i phase hat).connectionJob hphase
  rw [(h.jobs j phase' hat').connectionJob hphase'] at hci
  exact (Option.some.inj hci).symm

theorem Quiet.phaseAt (h : s.Quiet) (hat : s.phaseAt i = some phase) : phase = .completed := by
  obtain ⟨job, hjob, rfl⟩ := Option.map_eq_some_iff.mp hat
  exact h job (List.mem_of_getElem? hjob)

theorem Quiet.not_connects (h : s.Quiet) (i : ℕ) : ¬ s.Connects i := by
  rintro ⟨phase, hat, hphase⟩
  rw [h.phaseAt hat] at hphase
  cases hphase

/-- A job that is not one of those that connect is sound in every service in which fewer jobs connect, if the tunnels that
it has waited for are still down. -/
theorem JobSound.of_not_isConnection (h : s.JobSound i phase)
    (hphase : phase.isConnection = false) (hconnects : ∀ k, t.Connects k → s.Connects k)
    (hrunning : (∀ k, ¬ s.Connects k) → s.NoneRunning → t.NoneRunning) : t.JobSound i phase := by
  cases phase with
  | disconnectJoining | disconnectJoined | disconnectProtocol | awaiting => exact fun k hk => h k (hconnects k hk)
  | stopping => exact ⟨fun k hk => h.1 k (hconnects k hk), hrunning h.1 h.2⟩
  | disconnectLaunched => trivial
  | completed => trivial
  | _ => cases hphase

theorem JobSound.of_agree (h : s.JobSound i phase) (hjob : t.connectionJob = s.connectionJob)
    (hproto : t.vpnProto = s.vpnProto) (hrunning : t.running = s.running)
    (hconnects : ∀ k, t.Connects k → s.Connects k) : t.JobSound i phase := by
  have hnone : s.NoneRunning → t.NoneRunning := fun hs o => hrunning ▸ hs o
  cases phase with
  | connectLaunched | connectJoining | connectJoined | connectProtocol => exact ⟨hjob.trans h.1, hnone h.2⟩
  | reconnectLaunched => exact hjob.trans h
  | starting | establishing => exact ⟨hjob.trans h.1, hproto.trans h.2.1, hnone h.2.2⟩
  | rebuilding o => exact ⟨hjob.trans h.1, hproto.trans h.2⟩
  | protecting o => exact ⟨hjob.trans h.1, hproto.trans h.2.1, hrunning ▸ h.2.2⟩
  | _ => exact h.of_not_isConnection rfl hconnects fun _ => hnone

/-! ### How jobs move -/

@[simp] theorem phaseAt_cancel (j : Option ℕ) (s : AmneziaVpnService) (k : ℕ) :
    (cancel j s).phaseAt k = s.phaseAt k := by
  cases j with
  | none =>
    rfl
  | some j =>
    simp only [phaseAt, cancel, List.getElem?_modify]
    split <;> cases s.jobs[k]? <;> rfl

/-- Only this job changes its phase. -/
def Moves (s t : AmneziaVpnService) (i : ℕ) (phase : Phase) : Prop :=
  ∀ k, t.phaseAt k = if k = i then some phase else s.phaseAt k

variable {old : Phase} {answer : Bool}

theorem moves_enter (hat : s.phaseAt i = some old) (phase : Phase) (hu : ∀ k, u.phaseAt k = s.phaseAt k) :
    Moves s (enter i phase u) i phase := by
  intro k
  rw [← hu] at hat ⊢
  obtain ⟨job, hjob, -⟩ := Option.map_eq_some_iff.mp hat
  simp only [phaseAt, enter, List.getElem?_modify]
  by_cases hk : k = i
  · subst hk
    simp [hjob]
  · cases u.jobs[k]? <;> simp [hk, Ne.symm hk]

theorem moves_launch (phase : Phase) (s : AmneziaVpnService) : Moves s (launch phase s) s.jobs.length phase := by
  intro k
  simp only [phaseAt, launch, List.getElem?_append]
  split
  · rename_i hlt
    rw [if_neg (Nat.ne_of_lt hlt)]
  · rename_i hge
    by_cases hk : k = s.jobs.length
    · subst hk
      simp
    · rw [if_neg hk, List.getElem?_eq_none (by simp only [List.length_singleton]; omega),
        List.getElem?_eq_none (by omega)]

theorem Moves.connects (h : Moves s t i phase)
    (hphase : phase.isConnection = true → s.Connects i) {k : ℕ} (hk : t.Connects k) : s.Connects k := by
  obtain ⟨phase', hat, hconnection⟩ := hk
  rw [h k] at hat
  split at hat
  · rename_i heq
    cases hat
    rw [heq]
    exact hphase hconnection
  · exact ⟨phase', hat, hconnection⟩

/-- **What a step of a job may do to an orderly service**: if it changes what other jobs use, then no other job is about to
bring a tunnel up. -/
theorem Orderly.move (h : s.Orderly) (hmoves : Moves s t i phase) (hphase : phase.isConnection = true → s.Connects i)
    (hothers : t.connectionJob = s.connectionJob ∧ t.vpnProto = s.vpnProto ∧ t.running = s.running ∨
      ∀ k, k ≠ i → ¬ s.Connects k)
    (hdown : (∀ k, ¬ s.Connects k) → s.NoneRunning → t.NoneRunning) (hcurrent : t.Current) (hrecorded : t.Recorded)
    (hsound : t.JobSound i phase) (hrest : t.AtRest → t.NoneRunning ∧ ∀ k, ¬ t.Connects k) : t.Orderly := by
  refine ⟨hcurrent, hrecorded, ?_, hrest⟩
  intro k phase' hat
  rw [hmoves k] at hat
  split at hat
  · rename_i heq
    cases hat
    exact heq ▸ hsound
  · rename_i hne
    have hold := h.jobs k phase' hat
    rcases hothers with ⟨hjob, hproto, hrunning⟩ | hothers
    · exact hold.of_agree hjob hproto hrunning fun _ => hmoves.connects hphase
    · refine hold.of_not_isConnection ?_ (fun _ => hmoves.connects hphase) hdown
      rw [← Bool.not_eq_true]
      exact fun hconnection => hothers k hne ⟨phase', hat, hconnection⟩

theorem Orderly.enter_of_agrees (h : s.Orderly) (hat : s.phaseAt i = some old)
    (hphase : phase.isConnection = true → s.Connects i) (hu : Agrees s u)
    (hsound : (enter i phase u).JobSound i phase) : (enter i phase u).Orderly := by
  have hmoves := moves_enter hat phase hu.phaseAt
  have hnone : s.NoneRunning → (enter i phase u).NoneRunning := fun hs o => hu.running ▸ hs o
  refine h.move hmoves hphase (Or.inl ⟨hu.connectionJob, hu.vpnProto, hu.running⟩) (fun _ => hnone) ?_ ?_ hsound ?_
  · change u.Current
    rw [Current, hu.running, hu.vpnProto]
    exact h.current
  · change u.Recorded
    rw [Recorded, hu.running, hu.events]
    exact h.recorded
  · intro hrest
    rw [AtRest, show (enter i phase u).protocolState = s.protocolState from hu.protocolState] at hrest
    obtain ⟨hdown, hconnects⟩ := h.atRest hrest
    exact ⟨hnone hdown, fun k hk => hconnects k (hmoves.connects hphase hk)⟩

/-- **The handler of exceptions keeps the service orderly** if the object of the failed job holds no tunnel. -/
theorem Orderly.handle_exception (h : s.Orderly) (hat : s.phaseAt i = some old)
    (hconnection : old.isConnection = true) (hu : ∀ k, u.phaseAt k = s.phaseAt k) (hnone : u.NoneRunning)
    (hrecorded : u.Recorded) : (connectionExceptionHandler i u).Orderly := by
  have hmoves : Moves s (connectionExceptionHandler i u) i .completed := by
    intro k
    refine (phaseAt_cancel _ _ k).trans ((phaseAt_cancel _ _ k).trans ?_)
    exact moves_enter hat .completed hu k
  have hrunning : (connectionExceptionHandler i u).running = u.running := by
    unfold connectionExceptionHandler cancel
    split <;> split <;> rfl
  have hevents : (connectionExceptionHandler i u).events = u.events := by
    unfold connectionExceptionHandler cancel
    split <;> split <;> rfl
  have hdown : (connectionExceptionHandler i u).NoneRunning := fun o => hrunning ▸ hnone o
  have hothers : ∀ k, k ≠ i → ¬ s.Connects k :=
    fun k hk hconnects => hk (h.eq_of_connects hconnects ⟨old, hat, hconnection⟩)
  refine h.move hmoves (fun hphase => by cases hphase) (Or.inr hothers) (fun _ _ => hdown) ?_ ?_ trivial ?_
  · intro o ho
    rw [hdown o] at ho
    cases ho
  · rw [Recorded, hrunning, hevents]
    exact hrecorded
  · refine fun _ => ⟨hdown, fun k hk => ?_⟩
    have hconnects := hmoves.connects (fun hphase => by cases hphase) hk
    by_cases hki : k = i
    · obtain ⟨phase, hphase, hconnection'⟩ := hk
      rw [hmoves k, if_pos hki] at hphase
      cases hphase
      cases hconnection'
    · exact hothers k hki hconnects

/-! ### Tunnels -/

theorem turnOff_recorded (h : s.Orderly) (ho : s.running o = true) : (turnOff o s).Recorded := by
  intro o'
  have hrecorded := h.recorded o'
  by_cases heq : o' = o
  · subst heq
    simp [turnOff, List.count_append, hrecorded, ho]
  · simp [turnOff, List.count_append, hrecorded, update_of_ne heq, Ne.symm heq]

theorem turnOn_recorded (h : s.Orderly) (ho : s.running o = false) : (turnOn o s).Recorded := by
  intro o'
  have hrecorded := h.recorded o'
  by_cases heq : o' = o
  · subst heq
    simp [turnOn, List.count_append, hrecorded, ho]
  · simp [turnOn, List.count_append, hrecorded, update_of_ne heq, Ne.symm heq]

theorem Orderly.noneRunning_turnOff (h : s.Orderly) (hproto : s.vpnProto = some o) : (turnOff o s).NoneRunning := by
  intro o'
  by_cases heq : o' = o
  · subst heq
    exact update_self ..
  · have hold : s.running o' = false := by
      rw [← Bool.not_eq_true]
      intro ho'
      have hsame := h.current o' ho'
      rw [hproto] at hsame
      exact heq (Option.some.inj hsame).symm
    exact (update_of_ne heq _ _).trans hold

theorem Orderly.noneRunning (h : s.Orderly) (hproto : s.vpnProto = some o) (ho : s.running o = false) :
    s.NoneRunning := by
  intro o'
  rw [← Bool.not_eq_true]
  intro ho'
  have hsame := h.current o' ho'
  rw [hproto] at hsame
  rw [← Option.some.inj hsame, ho] at ho'
  cases ho'

/-! ### The steps -/

section
variable (h : s.Orderly) (hat : s.phaseAt i = some old)
include h hat

theorem Orderly.move_connection (hold : old.isConnection = true) (hu : Agrees s u)
    (hsound : (enter i phase u).JobSound i phase) : (enter i phase u).Orderly :=
  h.enter_of_agrees hat (fun _ => ⟨old, hat, hold⟩) hu hsound

theorem Orderly.move_tunnel (hold : old.isConnection = true) (hu : ∀ k, u.phaseAt k = s.phaseAt k)
    (hstate : u.protocolState = s.protocolState) (hcurrent : u.Current) (hrecorded : u.Recorded)
    (hsound : (enter i phase u).JobSound i phase) : (enter i phase u).Orderly := by
  have hconnects : s.Connects i := ⟨old, hat, hold⟩
  refine h.move (moves_enter hat phase hu) (fun _ => hconnects) (Or.inr fun k hk hk' => hk (h.eq_of_connects hk' hconnects))
    (fun hnone => absurd hconnects (hnone i)) hcurrent hrecorded hsound ?_
  intro hrest
  rw [AtRest, show (enter i phase u).protocolState = s.protocolState from hstate] at hrest
  exact absurd hconnects ((h.atRest hrest).2 i)

theorem Orderly.move_joined (hnone : ∀ k, ¬ s.Connects k) (hphase : phase.isConnection = false)
    (hu : ∀ k, u.phaseAt k = s.phaseAt k) (hdown : s.NoneRunning → u.NoneRunning) (hcurrent : u.Current)
    (hrecorded : u.Recorded) (hsound : (∀ k, ¬ (enter i phase u).Connects k) → (enter i phase u).JobSound i phase)
    (hrest : u.AtRest → u.NoneRunning) : (enter i phase u).Orderly := by
  have hmoves := moves_enter hat phase hu
  have hnot : phase.isConnection = true → s.Connects i := by
    rw [hphase]
    intro hfalse
    cases hfalse
  have hnone' : ∀ k, ¬ (enter i phase u).Connects k := fun k hk => hnone k (hmoves.connects hnot hk)
  exact h.move hmoves hnot (Or.inr fun k _ => hnone k) (fun _ => hdown) hcurrent hrecorded (hsound hnone')
    fun hr => ⟨hrest hr, hnone'⟩

theorem Orderly.move_disconnection (hphase : phase.isConnection = false) (hu : Agrees s u)
    (hsound : (∀ k, (enter i phase u).Connects k → s.Connects k) → (enter i phase u).JobSound i phase) :
    (enter i phase u).Orderly := by
  have hnot : phase.isConnection = true → s.Connects i := by
    rw [hphase]
    intro hfalse
    cases hfalse
  exact h.enter_of_agrees hat hnot hu (hsound fun _ => (moves_enter hat phase hu.phaseAt).connects hnot)

end

theorem not_connects_of_isCompleted {j : ℕ} (h : isCompleted j s = true) : ¬ s.Connects j := by
  rintro ⟨phase, hat, hconnection⟩
  obtain ⟨job, hjob, rfl⟩ := Option.map_eq_some_iff.mp hat
  rw [isCompleted, hjob] at h
  rw [eq_of_beq h] at hconnection
  cases hconnection

theorem orderly_proceed (h : s.Orderly) (hat : s.phaseAt i = some phase) (hinOrder : s.InOrder (.job i answer))
    (hstep : proceed i phase answer s = some t) : t.Orderly := by
  have hold := h.jobs i phase hat
  cases phase with
  | connectLaunched =>
    simp only [proceed] at hstep
    split at hstep
    · cases hstep
      exact h.move_connection hat rfl agrees_with hold
    · cases hstep
      exact h.move_connection hat rfl agrees_with hold
  | connectJoining j =>
    simp only [proceed] at hstep
    split at hstep
    · cases hstep
      exact h.move_connection hat rfl agrees_with hold
    · cases hstep
  | connectJoined =>
    cases hstep
    exact h.move_connection hat rfl agrees_with hold
  | connectProtocol =>
    simp only [proceed] at hstep
    split at hstep
    · cases hstep
      exact h.move_connection hat rfl agrees_with trivial
    · rename_i o hproto
      cases hstep
      exact h.move_connection hat rfl agrees_with ⟨hold.1, hproto, hold.2⟩
  | starting o =>
    simp only [proceed] at hstep
    split at hstep
    · cases hstep
      exact h.handle_exception hat rfl (fun _ => rfl) hold.2.2 h.recorded
    · rw [hold.2.2 o, if_neg Bool.false_ne_true] at hstep
      cases hstep
      exact h.move_connection hat rfl agrees_with hold
  | reconnectLaunched =>
    simp only [proceed] at hstep
    split at hstep
    · cases hstep
      exact h.move_connection hat rfl agrees_with trivial
    · rename_i o hproto
      cases hstep
      exact h.move_connection hat rfl agrees_with ⟨hold, hproto⟩
  | rebuilding o =>
    simp only [proceed] at hstep
    split at hstep
    · -- the interface cannot be built: by the order of the steps there is no old tunnel
      rename_i hfails
      cases hstep
      have hdown : s.running o = false := by
        rcases hinOrder o hat with hdown | ⟨hanswer, hconfigured⟩
        · exact hdown
        · rw [hanswer, hconfigured] at hfails
          cases hfails
      exact h.handle_exception hat rfl (fun _ => rfl) (h.noneRunning hold.2 hdown) h.recorded
    · cases hstep
      by_cases ho : s.running o = true
      · rw [if_pos ho]
        have hdown := h.noneRunning_turnOff hold.2
        refine h.move_tunnel hat rfl (fun _ => rfl) rfl ?_ (turnOff_recorded h ho) ⟨hold.1, hold.2, hdown⟩
        intro o' ho'
        rw [hdown o'] at ho'
        cases ho'
      · rw [if_neg ho]
        exact h.move_connection hat rfl agrees_with ⟨hold.1, hold.2, h.noneRunning hold.2 (Bool.eq_false_iff.mpr ho)⟩
  | establishing o =>
    simp only [proceed] at hstep
    split at hstep
    · cases hstep
      refine h.move_tunnel hat rfl (fun _ => rfl) rfl ?_ (turnOn_recorded h (hold.2.2 o))
        ⟨hold.1, hold.2.1, update_self ..⟩
      intro o' ho'
      by_cases heq : o' = o
      · rw [heq]
        exact hold.2.1
      · have hdown : (turnOn o s).running o' = false := (update_of_ne heq _ _).trans (hold.2.2 o')
        rw [hdown] at ho'
        cases ho'
    · cases hstep
      exact h.handle_exception hat rfl (fun _ => rfl) hold.2.2 h.recorded
  | protecting o =>
    simp only [proceed] at hstep
    split at hstep
    · cases hstep
      exact h.move_connection hat rfl agrees_with trivial
    · cases hstep
      exact h.handle_exception hat rfl (fun _ => rfl) (h.noneRunning_turnOff hold.2.1)
        (turnOff_recorded h hold.2.2)
  | disconnectLaunched =>
    simp only [proceed] at hstep
    split at hstep
    · rename_i hnone
      cases hstep
      refine h.move_disconnection hat rfl agrees_with fun hconnects k hk => ?_
      obtain ⟨phase, hphase, hconnection⟩ := hconnects k hk
      have hjob := (h.jobs k phase hphase).connectionJob hconnection
      rw [hnone] at hjob
      cases hjob
    · rename_i j hsome
      cases hstep
      refine h.move_disconnection hat rfl ⟨phaseAt_cancel _ s, rfl, rfl, rfl, rfl, rfl⟩ fun hconnects k hk => ?_
      obtain ⟨phase, hphase, hconnection⟩ := hconnects k hk
      have hjob := (h.jobs k phase hphase).connectionJob hconnection
      rw [hsome] at hjob
      exact (Option.some.inj hjob).symm
  | disconnectJoining j =>
    simp only [proceed] at hstep
    split at hstep
    · rename_i hcompleted
      cases hstep
      refine h.move_disconnection hat rfl agrees_with fun hconnects k hk => ?_
      have hkj := hold k (hconnects k hk)
      exact not_connects_of_isCompleted hcompleted (hkj ▸ hconnects k hk)
    · cases hstep
  | disconnectJoined =>
    cases hstep
    exact h.move_joined hat hold rfl (fun _ => rfl) (fun hdown => hdown) h.current h.recorded (fun hnone => hnone)
      fun hrest => (h.atRest hrest).1
  | disconnectProtocol =>
    simp only [proceed] at hstep
    split at hstep
    · cases hstep
      exact h.move_disconnection hat rfl agrees_with fun hconnects k hk => hold k (hconnects k hk)
    · rename_i o hproto
      split at hstep
      · rename_i ho
        cases hstep
        have hdown := h.noneRunning_turnOff hproto
        refine h.move_joined hat hold rfl (fun _ => rfl) (fun _ => hdown) ?_ (turnOff_recorded h ho)
          (fun hnone => ⟨hnone, hdown⟩) fun _ => hdown
        intro o' ho'
        rw [hdown o'] at ho'
        cases ho'
      · cases hstep
        exact h.move_disconnection hat rfl agrees_with fun hconnects k hk => hold k (hconnects k hk)
  | stopping =>
    cases hstep
    exact h.move_joined hat hold.1 rfl (fun _ => rfl) (fun hdown => hdown) h.current h.recorded (fun hnone => hnone)
      fun _ => hold.2
  | awaiting =>
    simp only [proceed] at hstep
    split at hstep
    · cases hstep
      exact h.move_disconnection hat rfl agrees_with fun _ => trivial
    · cases hstep
  | completed =>
    cases hstep

theorem orderly_runJob (h : s.Orderly) (hinOrder : s.InOrder (.job i answer)) (hstep : runJob i answer s = some t) :
    t.Orderly := by
  unfold runJob at hstep
  split at hstep
  · cases hstep
  · rename_i job hjob
    have hat : s.phaseAt i = some job.phase := by rw [phaseAt, hjob]; rfl
    split at hstep
    · cases hstep
      exact h.move_disconnection hat rfl agrees_with fun _ => trivial
    · exact orderly_proceed h hat hinOrder hstep

theorem orderly_runWatcher (h : s.Orderly) (hinOrder : s.InOrder (.watcher i answer))
    (hstep : runWatcher i answer s = some t) : t.Orderly := by
  have hkeep : ∀ watchers, Orderly { s with watchers := watchers } := fun watchers =>
    ⟨h.current, h.recorded, fun k phase hat => (h.jobs k phase hat).of_agree rfl rfl rfl fun _ hk => hk, h.atRest⟩
  unfold runWatcher at hstep
  split at hstep
  · cases hstep
  · split at hstep
    · cases hstep
      exact hkeep _
    · split at hstep
      · cases hstep
        exact hkeep _
      · cases hstep
        exact h
  · rename_i o report hwatcher
    cases hstep
    refine ⟨h.current, h.recorded, fun k phase hat => (h.jobs k phase hat).of_agree rfl rfl rfl fun _ hk => hk, ?_⟩
    intro hrest
    cases report with
    | true =>
      rcases hrest with hrest | hrest <;> cases hrest
    | false =>
      obtain ⟨hquiet, hdown⟩ := hinOrder o hwatcher
      exact ⟨hdown, hquiet.not_connects⟩

theorem Orderly.launch_of_quiet (h : s.Orderly) (hquiet : s.Quiet) (hmoves : Moves s t s.jobs.length phase)
    (hcurrent : t.Current) (hrunning : t.running = s.running) (hevents : t.events = s.events)
    (hsound : t.JobSound s.jobs.length phase) (hrest : ¬ t.AtRest) : t.Orderly := by
  refine ⟨hcurrent, by rw [hrunning, hevents]; exact h.recorded, ?_, fun hr => absurd hr hrest⟩
  intro k phase' hat
  rw [hmoves k] at hat
  split at hat
  · rename_i heq
    cases hat
    exact heq ▸ hsound
  · rw [hquiet.phaseAt hat]
    trivial

theorem orderly_connectToVpn (h : s.Orderly) {request : Option AwgProto} {permission : Bool}
    (hinOrder : s.InOrder (.connect request permission)) : (connectToVpn request permission s).Orderly := by
  unfold connectToVpn
  split
  · exact h
  · rename_i hstate
    have hrest : s.Quiet ∧ s.AtRest := by
      rcases hinOrder with hstate' | hstate' | hrest
      · exact absurd (Or.inl hstate') hstate
      · exact absurd (Or.inr hstate') hstate
      · exact hrest
    obtain ⟨hdown, hnone⟩ := h.atRest hrest.2
    -- what is not running is no matter of the protocol that is chosen
    have hcurrent : ∀ (proto : Option AwgProto) o, s.running o = true → proto = some o := by
      intro proto o ho
      rw [hdown o] at ho
      cases ho
    have hjobs : ∀ t : AmneziaVpnService, t.jobs = s.jobs → ∀ k phase, t.phaseAt k = some phase → t.JobSound k phase := by
      intro t ht k phase hat
      rw [phaseAt, ht] at hat
      rw [hrest.1.phaseAt hat]
      trivial
    split
    · exact ⟨h.current, h.recorded, hjobs _ rfl, fun _ => ⟨hdown, hnone⟩⟩
    · split
      · refine h.launch_of_quiet hrest.1 (moves_launch .connectLaunched s) (hcurrent _) rfl rfl ⟨rfl, hdown⟩ ?_
        rintro (hr | hr) <;> cases hr
      · exact ⟨hcurrent _, h.recorded, hjobs _ rfl, fun _ => ⟨hdown, hnone⟩⟩

theorem orderly_disconnect (h : s.Orderly) : (disconnect s).Orderly := by
  unfold disconnect
  split
  · exact h
  · refine h.move (moves_launch .disconnectLaunched s) (fun hphase => by cases hphase) (Or.inl ⟨rfl, rfl, rfl⟩)
      (fun _ hdown => hdown) h.current h.recorded trivial ?_
    rintro (hr | hr) <;> cases hr

theorem orderly_reconnect (h : s.Orderly) (hinOrder : s.InOrder .reconnect) : (reconnect s).Orderly := by
  unfold reconnect
  split
  · rename_i hstate
    have hquiet := hinOrder.resolve_left fun hne => hne hstate
    refine h.launch_of_quiet hquiet (moves_launch .reconnectLaunched s) h.current rfl rfl rfl ?_
    rintro (hr | hr) <;> cases hr
  · exact h

/-- **One step in order keeps the service orderly.** -/
theorem orderly_step {a : Action} (h : s.Orderly) (hinOrder : s.InOrder a) (hstep : step s a = some t) : t.Orderly := by
  cases a with
  | connect request permission =>
    cases hstep
    exact orderly_connectToVpn h hinOrder
  | disconnect =>
    cases hstep
    exact orderly_disconnect h
  | reconnect =>
    cases hstep
    exact orderly_reconnect h hinOrder
  | job i answer =>
    exact orderly_runJob h hinOrder hstep
  | watcher i answer =>
    exact orderly_runWatcher h hinOrder hstep

theorem orderly_initial : initial.Orderly := by
  refine ⟨?_, fun _ => rfl, ?_, fun _ => ⟨fun _ => rfl, ?_⟩⟩
  · intro o ho
    cases ho
  · intro i phase hat
    cases hat
  · rintro i ⟨phase, hat, -⟩
    cases hat

/-- **No tunnel runs behind a disconnected state** in any run whose steps are in order: whether or not a job is pending, in
a disconnected state no protocol object holds a tunnel, and every tunnel has been turned off by the object that turned it
on. -/
theorem all_stopped_of_inOrder (actions : List Action) (s : AmneziaVpnService)
    (hinOrder : Run.Meets step InOrder initial actions) (hrun : Run.run step initial actions = some s)
    (hstate : s.protocolState = .disconnected) : s.AllStopped := by
  have horderly : s.Orderly := Run.run_invariant_of_meets (fun _ _ _ => orderly_step) orderly_initial hinOrder hrun
  obtain ⟨hdown, -⟩ := horderly.atRest (Or.inl hstate)
  intro o
  refine ⟨hdown o, ?_⟩
  rw [horderly.recorded o, hdown o]
  rfl

def connectActions : List Action :=
  .connect (some .wireguard) true :: List.replicate 6 (.job 0 true) ++ List.replicate 2 (.watcher 0 true)

theorem stopped_after_disconnect : ∃ s,
    Run.run step initial (connectActions ++ .disconnect :: List.replicate 6 (.job 1 true)) = some s ∧
      s.Quiet ∧ s.protocolState = .disconnected ∧ s.events = [.turnOn .wireguard, .turnOff .wireguard] ∧
      s.AllStopped := by
  refine ⟨_, rfl, by decide, rfl, rfl, ?_⟩
  refine all_stopped_of_inOrder (connectActions ++ .disconnect :: List.replicate 6 (.job 1 true)) _ ?_ rfl
    rfl
  refine ⟨Or.inr (Or.inr ⟨by decide, Or.inr rfl⟩), ?_⟩
  rintro _ ⟨⟩
  iterate 8
    refine ⟨fun o ho => (by cases ho), ?_⟩
    rintro _ ⟨⟩
  refine ⟨trivial, ?_⟩
  rintro _ ⟨⟩
  iterate 6
    refine ⟨fun o ho => (by cases ho), ?_⟩
    rintro _ ⟨⟩
  trivial

/-- **One tunnel at a time** in any run whose steps are in order: at most one protocol object holds a tunnel, and at most
one job may still bring one up. -/
theorem one_tunnel_of_inOrder (actions : List Action) (s : AmneziaVpnService)
    (hinOrder : Run.Meets step InOrder initial actions) (hrun : Run.run step initial actions = some s) :
    (∀ o o', s.running o = true → s.running o' = true → o = o') ∧ ∀ i j, s.Connects i → s.Connects j → i = j := by
  have horderly : s.Orderly := Run.run_invariant_of_meets (fun _ _ _ => orderly_step) orderly_initial hinOrder hrun
  refine ⟨fun o o' ho ho' => ?_, fun i j => horderly.eq_of_connects⟩
  have hchosen := horderly.current o ho
  rw [horderly.current o' ho'] at hchosen
  exact (Option.some.inj hchosen).symm

theorem one_job_of_connect : ∃ s, Run.run step initial [.connect (some .awg) true] = some s ∧
    ∀ i j, s.Connects i → s.Connects j → i = j := by
  refine ⟨_, rfl, (one_tunnel_of_inOrder [.connect (some .awg) true] _ ?_ rfl).2⟩
  exact ⟨Or.inr (Or.inr ⟨by decide, Or.inr rfl⟩), fun _ _ => trivial⟩

/-- A tunnel is left behind when `reconnectVpn` throws before it has turned the old one off, and when another protocol is
asked for while a disconnection is pending and the permission is missing. -/
theorem tunnel_left_behind :
    (∃ s, Run.run step initial (connectActions ++ [.reconnect, .job 1 true, .job 1 false]) = some s ∧
      s.Quiet ∧ s.protocolState = .disconnected ∧ s.running .wireguard = true) ∧
    ∃ s, Run.run step initial
        (connectActions ++ .disconnect :: .connect (some .awg) false :: List.replicate 5 (.job 1 true)) = some s ∧
      s.Quiet ∧ s.protocolState = .disconnected ∧ s.running .wireguard = true :=
  ⟨⟨_, rfl, by decide, rfl, rfl⟩, ⟨_, rfl, by decide, rfl, rfl⟩⟩

end AmneziaVpnService

end FreshVpn
