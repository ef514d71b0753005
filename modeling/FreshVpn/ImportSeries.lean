import FreshVpn.ImportQr

/-! Series of QR codes and the configuration they come from. The codes of one series, scanned in any order and as
often as one likes, are put together to the configuration with the last code that was missing. -/

namespace FreshVpn

variable {data : List UInt8}

open Stream QrCodeUtils

/-! ### The codes -/

def chunksCount (data : List UInt8) : ℕ := (data.length + 849) / 850

def codeText (data : List UInt8) (i : ℕ) : String :=
  String.ofList (Base64.encode (chunkBytes data (chunksCount data % 256) (850 * i)))

def seriesCode (data : List UInt8) (i : ℕ) : SeriesCode := ⟨chunksCount data, i, piece 850 data i⟩

theorem chunksFrom_eq (data : List UInt8) (count fuel i : ℕ) (h : data.length ≤ i + fuel) :
    chunksFrom data count fuel i = (List.range ((data.length - i + 849) / 850)).map fun j =>
      String.ofList (Base64.encode (chunkBytes data count (i + 850 * j))) := by
  induction fuel generalizing i with
  | zero =>
    have hnone : (data.length - i + 849) / 850 = 0 := by omega
    rw [hnone]
    rfl
  | succ fuel ih =>
    rw [chunksFrom]
    split_ifs with hi
    · have hcount : (data.length - i + 849) / 850 = (data.length - (i + 850) + 849) / 850 + 1 := by omega
      rw [ih (i + 850) (by omega), hcount, List.range_succ_eq_map, List.map_cons, List.map_map]
      refine congrArg₂ List.cons rfl (List.map_congr_left fun j _ => ?_)
      change String.ofList (Base64.encode (chunkBytes data count (i + 850 + 850 * j))) =
        String.ofList (Base64.encode (chunkBytes data count (i + 850 * (j + 1))))
      rw [Nat.mul_succ, Nat.add_right_comm, Nat.add_assoc]
    · have hnone : (data.length - i + 849) / 850 = 0 := by omega
      rw [hnone]
      rfl

theorem generateQrCodeImageSeries_eq (data : List UInt8) :
    generateQrCodeImageSeries data = (List.range (chunksCount data)).map (codeText data) := by
  rw [generateQrCodeImageSeries, chunksFrom_eq data _ _ 0 (by omega), Nat.sub_zero]
  refine List.map_congr_left fun j _ => ?_
  rw [codeText, Nat.zero_add]
  rfl

theorem codeText_mem {i : ℕ} (hi : i < chunksCount data) : codeText data i ∈ generateQrCodeImageSeries data := by
  rw [generateQrCodeImageSeries_eq]
  exact List.mem_map_of_mem (List.mem_range.mpr hi)

theorem exists_of_mem_series {s : String} (h : s ∈ generateQrCodeImageSeries data) :
    ∃ i < chunksCount data, s = codeText data i := by
  rw [generateQrCodeImageSeries_eq, List.mem_map] at h
  obtain ⟨i, hi, rfl⟩ := h
  exact ⟨i, List.mem_range.mp hi, rfl⟩

theorem readSeriesCode_encode {count id : ℕ} {chunk : List UInt8} (hcount : count < 256) (hid : id < 256)
    (hchunk : chunk.length < 0xffffffff) :
    readSeriesCode (String.ofList (Base64.encode (putNumber 2 qrMagicCode ++ putNumber 1 count ++ putNumber 1 id ++
      putBytes chunk))) = some ⟨count, id, chunk⟩ := by
  have hend : getBytes (putBytes chunk) = (chunk, []) := by
    have hbytes := getBytes_putBytes hchunk []
    rwa [List.append_nil] at hbytes
  rw [readSeriesCode, String.toList_ofList, Base64.decode_encode, List.append_assoc, List.append_assoc,
    getNumber_putNumber (by decide : qrMagicCode < 256 ^ 2)]
  dsimp only
  rw [if_pos rfl, getNumber_putNumber (by omega : count < 256 ^ 1)]
  rw [getNumber_putNumber (by omega : id < 256 ^ 1)]
  dsimp only
  rw [hend]

theorem readSeriesCode_codeText (hle : data.length ≤ 255 * 850) {i : ℕ} (hi : i < chunksCount data) :
    readSeriesCode (codeText data i) = some (seriesCode data i) := by
  have hcount : chunksCount data < 256 := by
    rw [chunksCount]
    omega
  have hid : (2 * (850 * i) + 850) / (2 * 850) % 256 = i := by omega
  have hpiece : ((data.drop (850 * i)).take 850).length < 0xffffffff :=
    lt_of_le_of_lt (length_piece_le 850 data i) (by norm_num)
  rw [codeText, chunkBytes, hid, Nat.mod_eq_of_lt hcount]
  exact readSeriesCode_encode hcount (hi.trans hcount) hpiece

theorem codeText_inj (hle : data.length ≤ 255 * 850) {i j : ℕ} (hi : i < chunksCount data)
    (hj : j < chunksCount data) (h : codeText data i = codeText data j) : i = j := by
  have hread := readSeriesCode_codeText hle hi
  rw [h, readSeriesCode_codeText hle hj] at hread
  exact (congrArg SeriesCode.chunkId (Option.some.inj hread)).symm

/-! ### Collecting one series -/

/-- The controller holds the pieces of the codes that were scanned. -/
structure Collected (data : List UInt8) (scans : List String) (c : ImportController) : Prop where
  active : c.isQrCodeProcessed = true
  mem : ∀ i, i ∈ c.qrCodeChunks ↔ i < chunksCount data ∧ codeText data i ∈ scans
  lookup : ∀ i ∈ c.qrCodeChunks, c.qrCodeChunks.lookup i = some (piece 850 data i)
  empty : scans = [] → c.qrCodeChunks = ∅
  total : scans ≠ [] → c.totalQrCodeChunksCount = chunksCount data

namespace Collected

variable {data : List UInt8} {scans : List String} {c : ImportController}

theorem start (data : List UInt8) (c : ImportController) : Collected data [] c.startDecodingQr where
  active := rfl
  mem i := ⟨fun h => absurd h (AList.notMem_empty i), fun h => absurd h.2 List.not_mem_nil⟩
  lookup i h := absurd h (AList.notMem_empty i)
  empty _ := rfl
  total h := absurd rfl h

section
variable (h : Collected data scans c)
include h

theorem kept : (if c.totalQrCodeChunksCount ≠ chunksCount data then ∅ else c.qrCodeChunks) = c.qrCodeChunks := by
  split_ifs with htotal
  · have hscans : scans = [] := by
      by_contra hne
      exact htotal (h.total hne)
    exact (h.empty hscans).symm
  · rfl

theorem receive (hle : data.length ≤ 255 * 850) {i : ℕ} (hi : i < chunksCount data) :
    Collected data (scans ++ [codeText data i]) (c.receive (seriesCode data i)) := by
  have hchunks : (c.receive (seriesCode data i)).qrCodeChunks = c.qrCodeChunks.insert i (piece 850 data i) := by
    rw [ImportController.receive_qrCodeChunks, seriesCode, h.kept]
  refine ⟨h.active, fun j => ?_, fun j hj => ?_, fun hnil => ?_, fun _ => rfl⟩
  · rw [hchunks, AList.mem_insert, h.mem, List.mem_append, List.mem_singleton]
    constructor
    · rintro (rfl | ⟨hj, hscan⟩)
      · exact ⟨hi, Or.inr rfl⟩
      · exact ⟨hj, Or.inl hscan⟩
    · rintro ⟨hj, hscan | htext⟩
      · exact Or.inr ⟨hj, hscan⟩
      · exact Or.inl (codeText_inj hle hj hi htext)
  · rw [hchunks] at hj ⊢
    by_cases hji : j = i
    · rw [hji, AList.lookup_insert]
    · rw [AList.lookup_insert_ne hji]
      exact h.lookup j ((AList.mem_insert _).mp hj |>.resolve_left hji)
  · exact absurd hnil (List.append_ne_nil_of_right_ne_nil _ (List.cons_ne_nil _ _))

theorem length_entries (hle : data.length ≤ 255 * 850) (hscans : ∀ s ∈ scans, s ∈ generateQrCodeImageSeries data) :
    c.qrCodeChunks.entries.length = scans.dedup.length := by
  have hkeys : (c.qrCodeChunks.keys.map (codeText data)).Perm scans.dedup := by
    refine (List.perm_ext_iff_of_nodup ?_ (List.nodup_dedup scans)).mpr fun s => ?_
    · refine c.qrCodeChunks.keys_nodup.map_on fun i hi j hj htext => ?_
      exact codeText_inj hle ((h.mem i).mp hi).1 ((h.mem j).mp hj).1 htext
    · rw [List.mem_map, List.mem_dedup]
      constructor
      · rintro ⟨i, hi, rfl⟩
        exact ((h.mem i).mp hi).2
      · intro hs
        obtain ⟨i, hi, rfl⟩ := exists_of_mem_series (hscans s hs)
        exact ⟨i, (h.mem i).mpr ⟨hi, hs⟩, rfl⟩
  calc c.qrCodeChunks.entries.length
      = (c.qrCodeChunks.keys.map (codeText data)).length := by
        rw [List.length_map, AList.keys, List.keys, List.length_map]
    _ = scans.dedup.length := hkeys.length_eq

theorem length_entries_eq_iff :
    c.qrCodeChunks.entries.length = chunksCount data ↔ ∀ s ∈ generateQrCodeImageSeries data, s ∈ scans := by
  rw [Stream.length_entries_eq_iff fun i hi => ((h.mem i).mp hi).1, generateQrCodeImageSeries_eq, List.forall_mem_map]
  refine forall_congr' fun i => ?_
  rw [List.mem_range, h.mem]
  exact ⟨fun hmem hi => (hmem hi).2, fun hscan hi => ⟨hi, hscan hi⟩⟩

theorem assembled (hpos : 0 < data.length) (hall : ∀ s ∈ generateQrCodeImageSeries data, s ∈ scans) :
    c.assembled = data := by
  have htext : ∀ i ∈ List.range (chunksCount data), codeText data i ∈ scans := by
    rw [generateQrCodeImageSeries_eq, List.forall_mem_map] at hall
    exact hall
  have hlookup : ∀ i ∈ List.range (chunksCount data), (c.qrCodeChunks.lookup i).getD [] = piece 850 data i := by
    intro i hi
    rw [h.lookup i ((h.mem i).mpr ⟨List.mem_range.mp hi, htext i hi⟩)]
    rfl
  have hscans : scans ≠ [] := by
    have hzero := htext 0 (List.mem_range.mpr (by rw [chunksCount]; omega))
    exact List.ne_nil_of_mem hzero
  have hlong : data.length ≤ 850 * chunksCount data := by
    rw [chunksCount]
    omega
  calc c.assembled
      = (List.range (chunksCount data)).flatMap (piece 850 data) := by
        rw [ImportController.assembled, h.total hscans, List.flatMap_congr hlookup]
    _ = data.take (850 * chunksCount data) := flatMap_piece 850 data _
    _ = data := List.take_of_length_le hlong

end

end Collected

/-! ### Scanning one series -/

def AllScanned (data : List UInt8) (scans : List String) : Prop := ∀ s ∈ generateQrCodeImageSeries data, s ∈ scans

theorem AllScanned.append {scans : List String} (h : AllScanned data scans) (rest : List String) :
    AllScanned data (scans ++ rest) := fun s hs => List.mem_append_left _ (h s hs)

namespace ImportController

def scanAll (reader : ConfigReader) (c : ImportController) (scans : List String) : ImportController :=
  scans.foldl (fun c code => (c.parseQrCodeChunk reader code).1) c

theorem scanAll_concat (reader : ConfigReader) (c : ImportController) (scans : List String) (code : String) :
    c.scanAll reader (scans ++ [code]) = ((c.scanAll reader scans).parseQrCodeChunk reader code).1 := by
  rw [scanAll, List.foldl_append]
  rfl

variable {c : ImportController}

theorem parseQrCodeChunk_of_inactive (h : c.isQrCodeProcessed = false) (reader : ConfigReader) (code : String) :
    c.parseQrCodeChunk reader code =
      (c, { chunksReceived := c.receivedQrCodeChunksCount, chunksTotal := c.totalQrCodeChunksCount }) := if_pos h

theorem parseQrCodeChunk_of_series (h : c.isQrCodeProcessed = true) (reader : ConfigReader) {code : String}
    {series : SeriesCode} (hcode : readSeriesCode code = some series) :
    c.parseQrCodeChunk reader code = c.parseSeriesCode reader series := by
  rw [parseQrCodeChunk, if_neg (by rw [h]; exact Bool.true_eq_false ▸ id), hcode]

section
variable {reader : ConfigReader} {data : List UInt8} {scans : List String} {c : ImportController} {i : ℕ}

theorem parse_of_last (h : Collected data scans c) (hle : data.length ≤ 255 * 850) (hpos : 0 < data.length)
    (hi : i < chunksCount data) (hextract : (extractConfigFromQr reader data).errorCode = .noError)
    (hall : AllScanned data (scans ++ [codeText data i])) :
    (c.receive (seriesCode data i)).completed = some data ∧
      c.parseQrCodeChunk reader (codeText data i) = ({ c.receive (seriesCode data i) with isQrCodeProcessed := false },
        { success := true, importResult := extractConfigFromQr reader data, chunksReceived := chunksCount data,
          chunksTotal := chunksCount data }) := by
  have hnext := h.receive hle hi
  have hlength := hnext.length_entries_eq_iff.mpr hall
  have hcompleted : (c.receive (seriesCode data i)).completed = some data :=
    (if_pos hlength).trans (congrArg some (hnext.assembled hpos hall))
  refine ⟨hcompleted, ?_⟩
  rw [parseQrCodeChunk_of_series h.active reader (readSeriesCode_codeText hle hi), parseSeriesCode]
  rw [hcompleted]
  dsimp only
  rw [if_pos hextract, receive_received, receive_total, hlength]
  rfl

variable (hle : data.length ≤ 255 * 850) (hscans : ∀ s ∈ scans, s ∈ generateQrCodeImageSeries data)
include hle hscans

theorem parse_of_missing (h : Collected data scans c) (hi : i < chunksCount data)
    (hmissing : ¬ AllScanned data (scans ++ [codeText data i])) :
    c.parseQrCodeChunk reader (codeText data i) = (c.receive (seriesCode data i),
      { chunksReceived := (scans ++ [codeText data i]).dedup.length, chunksTotal := chunksCount data }) := by
  have hnext := h.receive hle hi
  have hscans' : ∀ s ∈ scans ++ [codeText data i], s ∈ generateQrCodeImageSeries data := by
    rw [List.forall_mem_append, List.forall_mem_singleton]
    exact ⟨hscans, codeText_mem hi⟩
  have hcompleted : (c.receive (seriesCode data i)).completed = none :=
    if_neg fun hlength => hmissing (hnext.length_entries_eq_iff.mp hlength)
  rw [parseQrCodeChunk_of_series h.active reader (readSeriesCode_codeText hle hi), parseSeriesCode]
  rw [hcompleted]
  rw [receive_received, receive_total, hnext.length_entries hle hscans']
  rfl

theorem collected_scanAll (hmissing : ¬ AllScanned data scans) :
    Collected data scans (c.startDecodingQr.scanAll reader scans) := by
  induction scans using List.reverseRecOn with
  | nil => exact Collected.start data c
  | append_singleton rest code ih =>
    rw [List.forall_mem_append, List.forall_mem_singleton] at hscans
    obtain ⟨i, hi, rfl⟩ := exists_of_mem_series hscans.2
    have hrest := ih hscans.1 fun hall => hmissing (hall.append _)
    rw [scanAll_concat, parse_of_missing hle hscans.1 hrest hi hmissing]
    exact hrest.receive hle hi

theorem inactive_scanAll (hpos : 0 < data.length)
    (hextract : (extractConfigFromQr reader data).errorCode = .noError) (hall : AllScanned data scans) :
    (c.startDecodingQr.scanAll reader scans).isQrCodeProcessed = false := by
  induction scans using List.reverseRecOn with
  | nil =>
    have hfirst : 0 < chunksCount data := by
      rw [chunksCount]
      omega
    exact absurd (hall _ (codeText_mem hfirst)) List.not_mem_nil
  | append_singleton rest code ih =>
    rw [List.forall_mem_append, List.forall_mem_singleton] at hscans
    obtain ⟨i, hi, rfl⟩ := exists_of_mem_series hscans.2
    rw [scanAll_concat]
    by_cases hbefore : AllScanned data rest
    · rw [parseQrCodeChunk_of_inactive (ih hscans.1 hbefore)]
      exact ih hscans.1 hbefore
    · rw [(parse_of_last (collected_scanAll hle hscans.1 hbefore) hle hpos hi hextract hall).2]

end

/-- **The round trip of a series.** Of any scans of the codes of one series, in any order and with any repetitions,
the one that brings the last missing code is the one that succeeds, and the data it passes on is the data of the
series; each scan before reports how many different codes were seen, and how many there are. -/
theorem series_round_trip (reader : ConfigReader) (c : ImportController) (data : List UInt8) (hpos : 0 < data.length)
    (hle : data.length ≤ 255 * 850) (hextract : (extractConfigFromQr reader data).errorCode = .noError)
    (scans : List String) (hscans : ∀ s ∈ scans, s ∈ generateQrCodeImageSeries data) (code : String)
    (hcode : code ∈ generateQrCodeImageSeries data) :
    let before := c.startDecodingQr.scanAll reader scans
    let result := (before.parseQrCodeChunk reader code).2
    (result.success = true ↔ ¬ AllScanned data scans ∧ AllScanned data (scans ++ [code])) ∧
      (result.success = true →
        (∃ series, readSeriesCode code = some series ∧ (before.receive series).completed = some data) ∧
          result.importResult = extractConfigFromQr reader data) ∧
      (¬ AllScanned data (scans ++ [code]) → result.chunksReceived = (scans ++ [code]).dedup.length ∧
        result.chunksTotal = (generateQrCodeImageSeries data).length) := by
  intro before result
  obtain ⟨i, hi, rfl⟩ := exists_of_mem_series hcode
  by_cases hbefore : AllScanned data scans
  · have hinactive : before.isQrCodeProcessed = false := inactive_scanAll hle hscans hpos hextract hbefore
    have hfailed : result.success = false := by
      rw [show result = _ from congrArg Prod.snd (parseQrCodeChunk_of_inactive hinactive reader (codeText data i))]
    rw [hfailed]
    exact ⟨⟨fun h => (by cases h), fun h => absurd hbefore h.1⟩, fun h => (by cases h),
      fun h => absurd (hbefore.append _) h⟩
  · have hcollected : Collected data scans before := collected_scanAll hle hscans hbefore
    by_cases hall : AllScanned data (scans ++ [codeText data i])
    · obtain ⟨hcompleted, hparse⟩ := parse_of_last hcollected hle hpos hi hextract hall
      have hresult : result = _ := congrArg Prod.snd hparse
      rw [hresult]
      exact ⟨⟨fun _ => ⟨hbefore, hall⟩, fun _ => rfl⟩,
        fun _ => ⟨⟨_, readSeriesCode_codeText hle hi, hcompleted⟩, rfl⟩, fun h => absurd hall h⟩
    · have hresult : result = _ := congrArg Prod.snd (parse_of_missing hle hscans hcollected hi hall)
      have htotal : (generateQrCodeImageSeries data).length = chunksCount data := by
        rw [generateQrCodeImageSeries_eq, List.length_map, List.length_range]
      rw [hresult, htotal]
      exact ⟨⟨fun h => (by cases h), fun h => absurd h.2 hall⟩, fun h => (by cases h), fun _ => ⟨rfl, rfl⟩⟩

end ImportController

def readerOf (text : List UInt8) (object : JsonObject) : ConfigReader where
  fromUtf8 bytes := String.ofList (bytes.map fun b => Char.ofNat b.toNat)
  toUtf8 text := text.toList.map fun c => UInt8.ofNat c.toNat
  fromJson ba := if ba = text then object else []
  qUncompress _ := []
  extractConfigFromData _ := { errorCode := .importInvalidConfigError }

theorem readerOf_fromJson (text : List UInt8) (object : JsonObject) : (readerOf text object).fromJson text = object :=
  if_pos rfl

def longJson : List UInt8 :=
  ("\x7b\"a\":\"".toList ++ List.replicate 900 'x' ++ "\"\x7d".toList).map fun c => UInt8.ofNat c.toNat

def longReader : ConfigReader := readerOf longJson [("a", .string (String.ofList (List.replicate 900 'x')))]

theorem longJson_length : longJson.length = 908 := by decide +kernel

theorem extract_longJson : (extractConfigFromQr longReader longJson).errorCode = .noError := by
  have hformat : checkConfigFormat (longReader.fromUtf8 longJson) = .invalid := by
    change checkConfigFormat (String.ofList (longJson.map fun b => Char.ofNat b.toNat)) = _
    simp only [checkConfigFormat, containsText, String.toList_ofList]
    decide +kernel
  have hjson := readerOf_fromJson longJson [("a", .string (String.ofList (List.replicate 900 'x')))]
  rw [extractConfigFromQr, hformat, longReader, hjson]
  rfl

/-- The codes of one series in the wrong order. -/
theorem second_code_completes_first :
    ((ImportController.initial.startDecodingQr.scanAll longReader [codeText longJson 1]).parseQrCodeChunk longReader
      (codeText longJson 0)).2.success = true := by
  have hcount : chunksCount longJson = 2 := by rw [chunksCount, longJson_length]
  have hle : longJson.length ≤ 255 * 850 := by rw [longJson_length]; omega
  have hpos : 0 < longJson.length := by rw [longJson_length]; omega
  have hzero : 0 < chunksCount longJson := by omega
  have hone : 1 < chunksCount longJson := by omega
  have htrip := ImportController.series_round_trip longReader .initial longJson hpos hle extract_longJson
    [codeText longJson 1] (List.forall_mem_singleton.mpr (codeText_mem hone)) (codeText longJson 0)
    (codeText_mem hzero)
  refine htrip.1.mpr ⟨fun hall => ?_, fun s hs => ?_⟩
  · have hfirst := List.mem_singleton.mp (hall _ (codeText_mem hzero))
    exact absurd (codeText_inj hle hzero hone hfirst) (by decide)
  · obtain ⟨i, hi, rfl⟩ := exists_of_mem_series hs
    obtain rfl | rfl : i = 0 ∨ i = 1 := by omega
    · exact List.mem_append_right _ List.mem_cons_self
    · exact List.mem_append_left _ List.mem_cons_self

end FreshVpn
