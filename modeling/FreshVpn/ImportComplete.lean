import FreshVpn.ImportSeries
import FreshVpn.LibraryRun

/-! Which codes a reassembled configuration comes from. Codes of any kind are scanned, of several series and with any
numbers in them. -/

namespace FreshVpn

open Stream ImportController

inductive QrEvent where
  | startDecodingQr
  | scan (code : String)

structure QrSession where
  controller : ImportController
  taken : List SeriesCode

namespace QrSession

def initial : QrSession := ⟨.initial, []⟩

/-- The codes taken when the next one is of a series; another total makes a new beginning. -/
def takenWith (t : QrSession) (series : SeriesCode) : List SeriesCode :=
  (if t.controller.totalQrCodeChunksCount ≠ series.chunksCount then [] else t.taken) ++ [series]

def scan (reader : ConfigReader) (t : QrSession) (code : String) : QrSession :=
  let next := (t.controller.parseQrCodeChunk reader code).1
  if t.controller.isQrCodeProcessed = false then ⟨next, t.taken⟩
  else
    match readSeriesCode code with
    | none => ⟨next, t.taken⟩
    -- A series that could not be read is dropped.
    | some series => ⟨next, if next.qrCodeChunks.entries = [] then [] else t.takenWith series⟩

def step (reader : ConfigReader) (t : QrSession) : QrEvent → Option QrSession
  | .startDecodingQr => some ⟨t.controller.startDecodingQr, []⟩
  | .scan code => some (t.scan reader code)

/-- Every piece is from a code taken since, with the total of now and a number below it. -/
def Sound (t : QrSession) : Prop :=
  ∀ i chunk, t.controller.qrCodeChunks.lookup i = some chunk →
    i < t.controller.totalQrCodeChunksCount ∧ ⟨t.controller.totalQrCodeChunksCount, i, chunk⟩ ∈ t.taken

theorem sound_of_empty (active : Bool) (total received : ℕ) (taken : List SeriesCode) :
    Sound ⟨⟨∅, active, total, received⟩, taken⟩ := by
  intro i chunk h
  cases h

variable {t : QrSession} {series : SeriesCode}

theorem Sound.receive (h : Sound t) (hindex : series.chunkId < series.chunksCount) :
    Sound ⟨t.controller.receive series, t.takenWith series⟩ := by
  intro i chunk hlookup
  rw [receive_qrCodeChunks] at hlookup
  change i < series.chunksCount ∧ (⟨series.chunksCount, i, chunk⟩ : SeriesCode) ∈ t.takenWith series
  by_cases hi : i = series.chunkId
  · rw [hi, AList.lookup_insert] at hlookup
    cases hlookup
    rw [hi]
    exact ⟨hindex, List.mem_append_right _ List.mem_cons_self⟩
  · rw [AList.lookup_insert_ne hi] at hlookup
    unfold takenWith
    split_ifs at hlookup ⊢ with htotal
    · cases hlookup
    · rw [not_not] at htotal
      rw [← htotal]
      obtain ⟨hlt, hmem⟩ := h i chunk hlookup
      exact ⟨hlt, List.mem_append_left _ hmem⟩

variable (reader : ConfigReader)

theorem parseSeriesCode_cases (c : ImportController) (series : SeriesCode) :
    (∃ active, (c.parseSeriesCode reader series).1 = { c.receive series with isQrCodeProcessed := active }) ∨
      (c.parseSeriesCode reader series).1.qrCodeChunks = ∅ := by
  unfold parseSeriesCode
  dsimp only
  cases (c.receive series).completed with
  | none => exact Or.inl ⟨_, rfl⟩
  | some data =>
    dsimp only
    split_ifs
    · exact Or.inl ⟨false, rfl⟩
    · exact Or.inr rfl

theorem parseSingleCode_cases (c : ImportController) (code : String) :
    ∃ active, (c.parseSingleCode reader code).1 = { c with isQrCodeProcessed := active } := by
  unfold parseSingleCode
  dsimp only
  split_ifs
  · exact ⟨false, rfl⟩
  · exact ⟨_, rfl⟩
  · exact ⟨false, rfl⟩
  · exact ⟨_, rfl⟩

theorem sound_scan (h : Sound t) {code : String}
    (hindex : ∀ series, readSeriesCode code = some series → series.chunkId < series.chunksCount) :
    Sound (t.scan reader code) := by
  unfold scan
  cases hactive : t.controller.isQrCodeProcessed with
  | false =>
    rw [if_pos rfl, parseQrCodeChunk_of_inactive hactive]
    exact h
  | true =>
    rw [if_neg (by decide)]
    cases hcode : readSeriesCode code with
    | none =>
      have hparse : t.controller.parseQrCodeChunk reader code = t.controller.parseSingleCode reader code := by
        rw [parseQrCodeChunk, hactive, hcode]
        rfl
      obtain ⟨active, hnext⟩ := parseSingleCode_cases reader t.controller code
      dsimp only
      rw [hparse, hnext]
      exact h
    | some series =>
      dsimp only
      rw [parseQrCodeChunk_of_series hactive reader hcode]
      rcases parseSeriesCode_cases reader t.controller series with ⟨active, hnext⟩ | hnext
      · have hsound := h.receive (hindex series hcode)
        rw [hnext, if_neg]
        · exact hsound
        · exact List.cons_ne_nil _ _
      · intro i chunk hlookup
        rw [hnext] at hlookup
        cases hlookup

/-- A code of a series has a number below its total. -/
def IndexBelowTotal (_ : QrSession) : QrEvent → Prop
  | .startDecodingQr => True
  | .scan code => ∀ series, readSeriesCode code = some series → series.chunkId < series.chunksCount

theorem sound_step (t : QrSession) (event : QrEvent) (t' : QrSession) (h : Sound t)
    (hindex : IndexBelowTotal t event) (hstep : step reader t event = some t') : Sound t' := by
  cases event with
  | startDecodingQr =>
    cases hstep
    exact sound_of_empty _ _ _ _
  | scan code =>
    cases hstep
    exact sound_scan reader h hindex

theorem sound_run {events : List QrEvent} (hmeets : Run.Meets (step reader) IndexBelowTotal initial events)
    (hrun : Run.run (step reader) initial events = some t) : Sound t :=
  Run.run_invariant_of_meets (sound_step reader) (sound_of_empty _ _ _ _) hmeets hrun

theorem length_of_success {reader : ConfigReader} {c : ImportController} {code : String}
    (hcode : readSeriesCode code = some series) (h : (c.parseQrCodeChunk reader code).2.success = true) :
    (c.receive series).qrCodeChunks.entries.length = series.chunksCount := by
  cases hactive : c.isQrCodeProcessed with
  | false =>
    rw [parseQrCodeChunk_of_inactive hactive] at h
    cases h
  | true =>
    rw [parseQrCodeChunk_of_series hactive reader hcode, parseSeriesCode] at h
    by_contra hlength
    have hcompleted : (c.receive series).completed = none := if_neg hlength
    rw [hcompleted] at h
    cases h

/-- **A reassembled configuration is complete.** In every run in which the codes of series have numbers below their
totals, a success with the total `n` has, for each number below `n`, the piece of a code with this number and this
total that was taken since the pieces were last dropped. -/
theorem reassembled_complete (reader : ConfigReader) {events : List QrEvent} {t : QrSession}
    (hmeets : Run.Meets (step reader) IndexBelowTotal initial events)
    (hrun : Run.run (step reader) initial events = some t) {code : String} {series : SeriesCode}
    (hcode : readSeriesCode code = some series) (hindex : IndexBelowTotal t (.scan code))
    (hsuccess : (t.controller.parseQrCodeChunk reader code).2.success = true) :
    ∀ i < series.chunksCount, ∃ s ∈ t.takenWith series, s.chunksCount = series.chunksCount ∧ s.chunkId = i ∧
      (t.controller.receive series).qrCodeChunks.lookup i = some s.chunk := by
  have hsound := (sound_run reader hmeets hrun).receive (hindex series hcode)
  have hbelow : ∀ i ∈ (t.controller.receive series).qrCodeChunks, i < series.chunksCount := by
    intro i hi
    obtain ⟨chunk, hchunk⟩ := Option.isSome_iff_exists.mp (AList.lookup_isSome.mpr hi)
    exact (hsound i chunk hchunk).1
  intro i hi
  have hmem := (length_entries_eq_iff hbelow).mp (length_of_success hcode hsuccess) i hi
  obtain ⟨chunk, hchunk⟩ := Option.isSome_iff_exists.mp (AList.lookup_isSome.mpr hmem)
  exact ⟨_, (hsound i chunk hchunk).2, rfl, rfl, hchunk⟩

end QrSession

/-! ### Codes with numbers of their own -/

def foreignCode (chunksCount chunkId : ℕ) (chunk : List UInt8) : String :=
  String.ofList (Base64.encode (putNumber 2 QrCodeUtils.qrMagicCode ++ putNumber 1 chunksCount ++
    putNumber 1 chunkId ++ putBytes chunk))

def shortJson : List UInt8 := "\x7b\"a\":1\x7d".toList.map fun c => UInt8.ofNat c.toNat

def shortReader : ConfigReader := readerOf shortJson [("a", .double 1)]

/-- Two codes with the numbers 1 and 0, each with its half of the text. -/
theorem both_halves_taken :
    ∃ t, Run.run (QrSession.step shortReader) .initial
        [.startDecodingQr, .scan (foreignCode 2 1 (shortJson.drop 3))] = some t ∧
      ∃ s ∈ t.takenWith ⟨2, 0, shortJson.take 3⟩, s.chunksCount = 2 ∧ s.chunkId = 1 ∧
        (t.controller.receive ⟨2, 0, shortJson.take 3⟩).qrCodeChunks.lookup 1 = some s.chunk := by
  have hsecond : readSeriesCode (foreignCode 2 0 (shortJson.take 3)) = some ⟨2, 0, shortJson.take 3⟩ :=
    readSeriesCode_encode (by decide) (by decide) (by decide)
  have hrun : Run.run (QrSession.step shortReader) .initial
      [.startDecodingQr, .scan (foreignCode 2 1 (shortJson.drop 3))] =
        some (QrSession.scan shortReader ⟨initial.startDecodingQr, []⟩
          (foreignCode 2 1 (shortJson.drop 3))) := rfl
  refine ⟨_, hrun, QrSession.reassembled_complete shortReader ?_ hrun hsecond ?_ (by decide +kernel) 1 (by decide)⟩
  · refine ⟨trivial, ?_⟩
    rintro _ ⟨⟩
    refine ⟨fun series hseries => ?_, ?_⟩
    · cases hseries
      decide
    · rintro _ ⟨⟩
      trivial
  · intro series hseries
    cases hseries
    decide

/-- A code with the number 7 counts as the second of two: the configuration is read without a second piece. -/
theorem foreign_number_completes :
    ∃ t, Run.run (QrSession.step shortReader) .initial [.startDecodingQr, .scan (foreignCode 2 0 shortJson)] = some t ∧
      readSeriesCode (foreignCode 2 7 []) = some ⟨2, 7, []⟩ ∧
      (t.controller.parseQrCodeChunk shortReader (foreignCode 2 7 [])).2.success = true ∧
      ¬ ∃ s ∈ t.takenWith ⟨2, 7, []⟩, s.chunkId = 1 :=
  ⟨_, rfl, by decide +kernel, by decide +kernel, by decide +kernel⟩

end FreshVpn
