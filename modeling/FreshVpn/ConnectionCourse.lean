import FreshVpn.ConnectionObserved

/-! The course of a request on the desktop as a stream of signals: attempt after attempt is announced, fails and has its
tail, until one is connected. -/

namespace FreshVpn

open Emit VpnProtocol

/-- Where the stream of signals stands. The number is that of the last attempt announced, or of the attempts made
before the request; `finished` also says whether the attempt that is connected had failed before. -/
inductive Course where
  | waiting (n : ℕ)
  | trying (n : ℕ)
  | ended (n : ℕ)
  | finished (n : ℕ) (hadFailed : Bool)
  | unexpected
  deriving DecidableEq

namespace Course

variable {signals : List VpnSignal}

def next : Course → VpnSignal → Course
  | .waiting n, signal =>
    if signal = ⟨n + 1, .connectionStateChanged .connecting⟩ then .trying (n + 1) else .unexpected
  | .trying n, ⟨attempt, kind⟩ =>
    if attempt ≠ n then .unexpected
    else
      match kind with
      | .vpnProtocolError _ => .trying n
      | .connectionStateChanged state =>
        match state with
        | .connecting => .trying n
        | .connected => .finished n false
        | .disconnected | .error => .ended n
        | .unknown | .preparing | .disconnecting | .reconnecting => .unexpected
  | .ended n, ⟨attempt, kind⟩ =>
    match kind with
    | .vpnProtocolError _ => .ended n
    | .connectionStateChanged state =>
      match state with
      | .connecting => if attempt = n + 1 then .trying (n + 1) else .unexpected
      | .connected => .finished n true
      | .disconnected | .error => if attempt ≤ n then .ended n else .unexpected
      | .unknown | .preparing | .disconnecting | .reconnecting => .unexpected
  | .finished n hadFailed, _ => .finished n hadFailed
  | .unexpected, _ => .unexpected

def after (course : Course) (signals : List VpnSignal) : Course := signals.foldl next course

variable (course : Course) {n : ℕ}

theorem after_nil : course.after [] = course := rfl

theorem after_cons (signal : VpnSignal) (signals : List VpnSignal) :
    course.after (signal :: signals) = (course.next signal).after signals := rfl

theorem after_append (signals more : List VpnSignal) :
    course.after (signals ++ more) = (course.after signals).after more :=
  List.foldl_append

theorem finished_after (n : ℕ) (hadFailed : Bool) (signals : List VpnSignal) :
    (finished n hadFailed).after signals = .finished n hadFailed := by
  induction signals with
  | nil => rfl
  | cons signal signals ih => exact ih

theorem unexpected_after (signals : List VpnSignal) : unexpected.after signals = .unexpected := by
  induction signals with
  | nil => rfl
  | cons signal signals ih => exact ih

/-- What the automaton reads as expected. -/
inductive Reads : Course → VpnSignal → Course → Prop
  | first (n : ℕ) : Reads (.waiting n) ⟨n + 1, .connectionStateChanged .connecting⟩ (.trying (n + 1))
  | error (n : ℕ) (code : ErrorCode) : Reads (.trying n) ⟨n, .vpnProtocolError code⟩ (.trying n)
  | again (n : ℕ) : Reads (.trying n) ⟨n, .connectionStateChanged .connecting⟩ (.trying n)
  | connected (n : ℕ) : Reads (.trying n) ⟨n, .connectionStateChanged .connected⟩ (.finished n false)
  | failed (n : ℕ) (state : ConnectionState) (hstate : state = .error ∨ state = .disconnected) :
      Reads (.trying n) ⟨n, .connectionStateChanged state⟩ (.ended n)
  | tailError (n attempt : ℕ) (code : ErrorCode) : Reads (.ended n) ⟨attempt, .vpnProtocolError code⟩ (.ended n)
  | tail (n attempt : ℕ) (state : ConnectionState) (hstate : state = .error ∨ state = .disconnected)
      (hattempt : attempt ≤ n) : Reads (.ended n) ⟨attempt, .connectionStateChanged state⟩ (.ended n)
  | connectedLate (n attempt : ℕ) :
      Reads (.ended n) ⟨attempt, .connectionStateChanged .connected⟩ (.finished n true)
  | announced (n : ℕ) : Reads (.ended n) ⟨n + 1, .connectionStateChanged .connecting⟩ (.trying (n + 1))
  | finished (n : ℕ) (hadFailed : Bool) (signal : VpnSignal) :
      Reads (.finished n hadFailed) signal (.finished n hadFailed)

theorem reads_next {course : Course} {signal : VpnSignal} (h : course.next signal ≠ .unexpected) :
    Reads course signal (course.next signal) := by
  obtain ⟨attempt, kind⟩ := signal
  cases course with
  | waiting n =>
    by_cases hfirst : (⟨attempt, kind⟩ : VpnSignal) = ⟨n + 1, .connectionStateChanged .connecting⟩
    · cases hfirst
      have hnext : (waiting n).next ⟨n + 1, .connectionStateChanged .connecting⟩ = .trying (n + 1) := if_pos rfl
      exact hnext ▸ Reads.first n
    · exact absurd (if_neg hfirst) h
  | trying n =>
    by_cases hattempt : attempt = n
    · cases hattempt
      cases kind with
      | vpnProtocolError code => simpa [next] using Reads.error attempt code
      | connectionStateChanged state =>
        cases state with
        | connecting => simpa [next] using Reads.again attempt
        | connected => simpa [next] using Reads.connected attempt
        | error => simpa [next] using Reads.failed attempt .error (Or.inl rfl)
        | disconnected => simpa [next] using Reads.failed attempt .disconnected (Or.inr rfl)
        | unknown | preparing | disconnecting | reconnecting => simp [next] at h
    · simp [next, hattempt] at h
  | ended n =>
    cases kind with
    | vpnProtocolError code => exact Reads.tailError n attempt code
    | connectionStateChanged state =>
      cases state with
      | connecting =>
        by_cases hattempt : attempt = n + 1
        · cases hattempt
          simpa [next] using Reads.announced n
        · simp [next, hattempt] at h
      | connected => exact Reads.connectedLate n attempt
      | error =>
        by_cases hattempt : attempt ≤ n
        · simpa [next, hattempt] using Reads.tail n attempt .error (Or.inl rfl) hattempt
        · simp [next, hattempt] at h
      | disconnected =>
        by_cases hattempt : attempt ≤ n
        · simpa [next, hattempt] using Reads.tail n attempt .disconnected (Or.inr rfl) hattempt
        · simp [next, hattempt] at h
      | unknown | preparing | disconnecting | reconnecting => exact absurd rfl h
  | finished n hadFailed => exact Reads.finished n hadFailed _
  | unexpected => exact absurd rfl h

theorem next_ne_unexpected {course : Course} {signal : VpnSignal}
    (h : course.after (signal :: signals) ≠ .unexpected) : course.next signal ≠ .unexpected := by
  intro hnext
  rw [after_cons, hnext, unexpected_after] at h
  exact h rfl

def number : Course → ℕ
  | .waiting n | .trying n | .ended n | .finished n _ => n
  | .unexpected => 0

theorem number_le_after (signals : List VpnSignal) (h : course.after signals ≠ .unexpected) :
    course.number ≤ (course.after signals).number := by
  induction signals generalizing course with
  | nil =>
    exact le_refl _
  | cons signal signals ih =>
    have hreads := reads_next (next_ne_unexpected h)
    have hle : course.number ≤ (course.next signal).number := by
      generalize course.next signal = course' at hreads
      cases hreads <;> simp [number]
    exact hle.trans (ih _ h)

theorem after_eq_waiting {course : Course} (h : course.after signals = .waiting n) :
    signals = [] ∧ course = .waiting n := by
  induction signals generalizing course with
  | nil =>
    exact ⟨rfl, h⟩
  | cons signal signals ih =>
    have hreads := reads_next (next_ne_unexpected (by rw [h]; exact Course.noConfusion))
    rw [(ih h).2] at hreads
    cases hreads

theorem ended_after (n : ℕ) (signals : List VpnSignal) (h : (ended n).after signals ≠ .unexpected) :
    (ended n).after signals = .ended n ∨ (ended n).after signals = .finished n true ∨
      n < ((ended n).after signals).number := by
  induction signals with
  | nil =>
    exact Or.inl rfl
  | cons signal signals ih =>
    have hreads := reads_next (next_ne_unexpected h)
    rw [after_cons] at h ⊢
    generalize (ended n).next signal = course at hreads h ⊢
    cases hreads with
    | tailError => exact ih h
    | tail => exact ih h
    | connectedLate => exact Or.inr (Or.inl (finished_after n true signals))
    | announced => exact Or.inr (Or.inr (number_le_after _ signals h))

theorem ended_after_tail (h : ∀ signal ∈ signals, signal.attempt ≤ n ∧ signal.isTail = true) :
    (ended n).after signals = .ended n := by
  induction signals with
  | nil =>
    rfl
  | cons signal signals ih =>
    rw [List.forall_mem_cons] at h
    obtain ⟨⟨hn, htail⟩, hrest⟩ := h
    have hsame : (ended n).next signal = .ended n := by
      obtain ⟨attempt, kind⟩ := signal
      cases kind with
      | vpnProtocolError error => rfl
      | connectionStateChanged state =>
        cases state with
        | disconnected | error => exact if_pos hn
        | _ => cases htail
    rw [after_cons, hsame]
    exact ih hrest

theorem trying_after_tail (h : ∀ signal ∈ signals, signal.attempt = n ∧ signal.isTail = true) :
    (trying n).after signals = .trying n ∨ (trying n).after signals = .ended n := by
  induction signals with
  | nil =>
    exact Or.inl rfl
  | cons signal signals ih =>
    rw [List.forall_mem_cons] at h
    obtain ⟨⟨hn, htail⟩, hrest⟩ := h
    obtain ⟨attempt, kind⟩ := signal
    cases hn
    rw [after_cons]
    cases kind with
    | vpnProtocolError error =>
      have hsame : (trying attempt).next ⟨attempt, .vpnProtocolError error⟩ = .trying attempt := by simp [next]
      rw [hsame]
      exact ih hrest
    | connectionStateChanged state =>
      have hends : (trying attempt).next ⟨attempt, .connectionStateChanged state⟩ = .ended attempt := by
        cases state with
        | disconnected | error => simp [next]
        | _ => cases htail
      rw [hends]
      exact Or.inr (ended_after_tail fun signal hsignal => ⟨(hrest signal hsignal).1.le, (hrest signal hsignal).2⟩)

theorem trying_after_errors (h : ∀ signal ∈ signals, signal.attempt = n ∧ signal.isError = true) :
    (trying n).after signals = .trying n := by
  induction signals with
  | nil =>
    rfl
  | cons signal signals ih =>
    rw [List.forall_mem_cons] at h
    obtain ⟨⟨hn, herror⟩, hrest⟩ := h
    obtain ⟨attempt, kind⟩ := signal
    cases hn
    cases kind with
    | connectionStateChanged state => cases herror
    | vpnProtocolError error =>
      have hsame : (trying attempt).next ⟨attempt, .vpnProtocolError error⟩ = .trying attempt := by simp [next]
      rw [after_cons, hsame]
      exact ih hrest

end Course

namespace VpnConnection

variable {v : VpnConnection} {signals : List ProtocolSignal}

/-- The attempt `n` is going on, and its object is connecting. -/
structure Going (v : VpnConnection) (n : ℕ) : Prop where
  attempt : v.attempt = n
  notConnected : v.connectionState ≠ .connected
  notReconnecting : v.connectionState ≠ .reconnecting
  alive : ∃ p, v.vpnProtocol = some p ∧ p.isAlive = true

structure Down (v : VpnConnection) (n : ℕ) : Prop where
  attempt : v.attempt = n
  notConnected : v.connectionState ≠ .connected
  notReconnecting : v.connectionState ≠ .reconnecting
  silent : v.StopsSilently

structure Recorded (v : VpnConnection) (n : ℕ) : Prop where
  attempt : v.attempt = n
  recorded : ∃ p, v.vpnProtocol = some p ∧ p.isRegular = true ∧ p.lastError ≠ .noError ∧
    p.lastError ≠ .internalError ∧ (n, p.lastError) ∈ v.errorLog

def StartsCleanly (platform : Platform) (container : DockerContainer) (answers : Answers) : Prop :=
  ∀ protocolClass, factory platform container = some protocolClass →
    protocolClass ≠ .ikev2 ∧ startsCleanly protocolClass answers.start = true

/-- There is an object, and its start records the error that it returns. -/
def RecordsStart (platform : Platform) (container : DockerContainer) (answers : Answers) : Prop :=
  ∃ protocolClass, factory platform container = some protocolClass ∧
    recordsStart protocolClass answers.start = true

variable {p : VpnProtocol} {event : ProtocolEvent}

theorem recorded_of_records {n : ℕ} (hregular : p.isRegular = true) (hrecords : p.records signals = true)
    (hobject : v.vpnProtocol = some p) (hattempt : v.attempt = n)
    (hlog : ∀ error, .errorLogged error ∈ signals → (n, error) ∈ v.errorLog) : v.Recorded n := by
  obtain ⟨hnoError, hinternal, hlogged⟩ := records_iff.mp hrecords
  exact ⟨hattempt, p, hobject, hregular, hnoError, hinternal, hlog p.lastError hlogged⟩

theorem startProtocol_course (hconnecting : v.connectionState = .connecting) (n : ℕ) {protocolClass : ProtocolClass}
    (answers : Answers) (hregular : (create protocolClass answers.uninitialised).isRegular = true)
    (hclean : startsCleanly protocolClass answers.start = true) :
    let x := v.startProtocol n (.create protocolClass answers.uninitialised) answers
    ((Course.trying n).after x.2 = .trying n ∧ x.1.Going n) ∨
      ((Course.trying n).after x.2 = .ended n ∧ x.1.Down n ∧
        (recordsStart protocolClass answers.start = true → x.1.Recorded n)) := by
  have hannounced : (Course.trying n).next ⟨n, .connectionStateChanged .connecting⟩ = .trying n := by
    simp [Course.next]
  unfold startProtocol
  dsimp only
  rcases start_create answers.uninitialised answers.start hregular with
    ⟨hnoError, halive, hsignals⟩ | ⟨herror, ⟨tail, hshape, htail⟩, hcleanly⟩
  · rw [hnoError, hsignals]
    refine Or.inl ⟨by simp [relay, relayOne, setConnectionState, Course.after, hannounced], rfl, ?_, ?_, _, rfl, halive⟩
    · intro h
      cases h
    · intro h
      cases h
  · -- What the object has reported by itself is followed by the error state of the returned error.
    obtain ⟨hsilent, hrecords⟩ := hcleanly hclean
    refine Or.inr ⟨?_, ?_, fun hrecordsStart => ?_⟩
    · have hreported : ∀ w : VpnConnection, w.connectionState = .connecting →
          (Course.trying n).after (w.relay n true
            ((create protocolClass answers.uninitialised).start answers.start).1.2).2 = .trying n ∨
          (Course.trying n).after (w.relay n true
            ((create protocolClass answers.uninitialised).start answers.start).1.2).2 = .ended n := by
        intro w hw
        rcases hshape with heq | heq
        · rw [heq]
          exact Course.trying_after_tail (relay_of_tail htail n true w).1
        · have hset : w.setConnectionState n .connecting =
              emit { w with connectionState := .connecting } ⟨n, .connectionStateChanged .connecting⟩ :=
            if_neg (by simp)
          rw [heq, relay, andThen_snd, relayOne, hset, emit_snd, List.singleton_append, Course.after_cons, hannounced]
          exact Course.trying_after_tail (relay_of_tail htail n true _).1
      rw [andThen_snd, if_neg herror, Course.after_append]
      rcases hreported { v with vpnProtocol := _, attempt := n } hconnecting with hsame | hended
      · rw [hsame]
        simp [setConnectionState, Course.after, Course.next]
      · rw [hended]
        simp [setConnectionState, Course.after, Course.next]
    · rw [andThen_fst, if_neg herror]
      refine ⟨by simp, ?_, ?_, fun p hp => ?_⟩
      · simp [setConnectionState]
      · simp [setConnectionState]
      · have hobject : ((create protocolClass answers.uninitialised).start answers.start).1.1 = p := by
          simpa using hp
        exact hobject ▸ hsilent
    · rw [andThen_fst, if_neg herror]
      refine recorded_of_records (isSilent.isRegular hsilent) (hrecords hrecordsStart) (by simp) (by simp) ?_
      intro error hlogged
      simp [mem_loggedErrors hlogged]

theorem connectOnDesktop_course (hsilent : v.StopsSilently) (platform : Platform) (n : ℕ)
    {container : DockerContainer} {answers : Answers} (hclean : StartsCleanly platform container answers)
    {course : Course} (hcourse : course = .waiting n ∨ course = .ended n) :
    let x := v.connectOnDesktop platform (n + 1) container answers
    (course.after x.2 = .trying (n + 1) ∧ x.1.Going (n + 1)) ∨
      (course.after x.2 = .ended (n + 1) ∧ x.1.Down (n + 1) ∧
        (RecordsStart platform container answers → x.1.Recorded (n + 1))) := by
  have hannounced : course.next ⟨n + 1, .connectionStateChanged .connecting⟩ = .trying (n + 1) := by
    rcases hcourse with rfl | rfl <;> simp [Course.next]
  dsimp only
  rw [connectOnDesktop_of_stopsSilently hsilent, andThen_snd, andThen_fst, emit_snd, emit_fst,
    List.singleton_append, Course.after_cons, hannounced]
  cases hfactory : factory platform container with
  | none =>
    refine Or.inr ⟨by simp [Course.after, Course.next], ⟨rfl, ?_, ?_, fun p hp => ?_⟩, fun hrecords => ?_⟩
    · intro h
      cases h
    · intro h
      cases h
    · cases hp
    · obtain ⟨protocolClass, hsome, -⟩ := hrecords
      rw [hfactory] at hsome
      cases hsome
  | some protocolClass =>
    obtain ⟨hclass, hstart⟩ := hclean protocolClass hfactory
    have hregular := create_isRegular answers.uninitialised hfactory (by simpa using hclass)
    rcases startProtocol_course (v := { v with connectionState := .connecting, vpnProtocol := none }) rfl (n + 1)
      answers hregular hstart with hgoing | ⟨hended, hdown, hrecorded⟩
    · exact Or.inl hgoing
    · refine Or.inr ⟨hended, hdown, fun hrecords => ?_⟩
      obtain ⟨protocolClass', hsome, hrecordsStart⟩ := hrecords
      rw [hfactory] at hsome
      cases hsome
      exact hrecorded hrecordsStart

/-- The events that end an attempt as the controller expects. -/
def EndsCleanly (v : VpnConnection) (event : ProtocolEvent) : Prop :=
  event.isRegular = true ∧ ∀ p, v.vpnProtocol = some p → p.stopsFirst event = false

theorem Going.handle {n : ℕ} (h : v.Going n) (hevent : v.EndsCleanly event) {p' : VpnProtocol}
    (hobject : v.vpnProtocol = some p) (hhandle : p.handle event = some (p', signals)) :
    let x := { v with vpnProtocol := some p' }.relay v.attempt true signals
    ((Course.trying n).after x.2 = .trying n ∧ x.1.Going n) ∨ (Course.trying n).after x.2 = .finished n false ∨
      ((Course.trying n).after x.2 = .ended n ∧ x.1.Down n ∧ (event.isSilentEnd = false → x.1.Recorded n)) := by
  obtain ⟨q, hq, halive⟩ := h.alive
  rw [hobject] at hq
  cases hq
  obtain rfl : v.attempt = n := h.attempt
  rcases handle_of_isAlive halive hevent.1 hhandle with ⟨halive', hquiet⟩ | rfl | ⟨hfails, hcleanly⟩
  · obtain ⟨herrors, hstate⟩ := relay_of_quiet hquiet v.attempt true { v with vpnProtocol := some p' }
    refine Or.inl ⟨Course.trying_after_errors herrors, by simp, ?_, ?_, p', by simp, halive'⟩
    · rw [hstate]
      exact h.notConnected
    · rw [hstate]
      exact h.notReconnecting
  · exact Or.inr (Or.inl (by simp [relay, relayOne, setConnectionState, Course.after, Course.next]))
  · obtain ⟨state, rest, hsignals, hstate, htail, hafter⟩ := relay_of_fails hfails v.attempt true
      (v := { v with vpnProtocol := some p' }) h.notReconnecting
    have hends : (Course.trying v.attempt).next ⟨v.attempt, .connectionStateChanged state⟩ = .ended v.attempt := by
      rcases hstate with rfl | rfl <;> simp [Course.next]
    obtain ⟨hsilent, hrecords⟩ := hcleanly (hevent.2 p hobject)
    refine Or.inr (Or.inr ⟨?_, ⟨by simp, ?_, ?_, fun q hq => ?_⟩, fun hend => ?_⟩)
    · rw [hsignals, Course.after_cons, hends]
      exact Course.ended_after_tail fun signal hsignal => ⟨(htail signal hsignal).1.le, (htail signal hsignal).2⟩
    · rcases hafter with hafter | hafter <;> rw [hafter] <;> decide
    · rcases hafter with hafter | hafter <;> rw [hafter] <;> decide
    · rw [relay_vpnProtocol] at hq
      cases hq
      exact hsilent
    · refine recorded_of_records (isSilent.isRegular hsilent) (hrecords hend) (by simp) (by simp) ?_
      intro error hlogged
      simp [mem_loggedErrors hlogged]

theorem Down.handle {n : ℕ} (h : v.Down n) (hevent : v.EndsCleanly event) {p' : VpnProtocol}
    (hobject : v.vpnProtocol = some p) (hhandle : p.handle event = some (p', signals)) :
    let x := { v with vpnProtocol := some p' }.relay v.attempt true signals
    ((Course.ended n).after x.2 = .ended n ∧ x.1.Down n) ∨ (Course.ended n).after x.2 = .finished n true := by
  obtain rfl : v.attempt = n := h.attempt
  rcases handle_of_isSilent (h.silent p hobject) hevent.1 (hevent.2 p hobject) hhandle with
    ⟨hsilent', htail⟩ | rfl
  · obtain ⟨htails, hafter⟩ := relay_of_tail htail v.attempt true { v with vpnProtocol := some p' }
    refine Or.inl ⟨Course.ended_after_tail fun signal hsignal => ⟨(htails signal hsignal).1.le, (htails signal hsignal).2⟩,
      by simp, ?_, ?_, fun q hq => ?_⟩
    · rcases hafter with hafter | hafter | hafter <;> rw [hafter]
      · exact h.notConnected
      · decide
      · decide
    · rcases hafter with hafter | hafter | hafter <;> rw [hafter]
      · exact h.notReconnecting
      · decide
      · decide
    · rw [relay_vpnProtocol] at hq
      cases hq
      exact hsilent'
  · exact Or.inr (by simp [relay, relayOne, setConnectionState, Course.after, Course.next])

end VpnConnection

end FreshVpn
