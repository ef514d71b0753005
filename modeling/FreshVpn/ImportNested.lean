import FreshVpn.ImportQr
import FreshVpn.LibraryLines

/-! Texts that lead to other texts: of a subscription, the first link is imported. -/

namespace FreshVpn

/-- The branches for links, in the order in which they are tried. -/
inductive LinkFormat where
  | vless | vmessNew | vmess | trojan | shadowSocks | ssd

namespace LinkFormat

def all : List LinkFormat := [.vless, .vmessNew, .vmess, .trojan, .shadowSocks, .ssd]

def accepts (config : String) : LinkFormat → Bool
  | .vless => "vless://".toList.isPrefixOf config.toList
  | .vmessNew => "vmess://".toList.isPrefixOf config.toList && containsText config "@"
  | .vmess => "vmess://".toList.isPrefixOf config.toList
  | .trojan => "trojan://".toList.isPrefixOf config.toList
  | .shadowSocks => "ss://".toList.isPrefixOf config.toList && !containsText config "plugin="
  | .ssd => "ssd://".toList.isPrefixOf config.toList

def configType : LinkFormat → ConfigTypes
  | .vless | .vmessNew | .vmess | .trojan => .xray
  | .shadowSocks | .ssd => .shadowSocks

end LinkFormat

/-- What the import of a text is given: the decoders of Qt, and what reads a configuration once its format is known. -/
structure TextReader where
  /-- `QByteArray::fromBase64` in either alphabet, nothing if there is an error. -/
  fromBase64 : List Char → List UInt8
  fromBase64Url : List Char → List UInt8
  fromUtf8 : List UInt8 → String
  /-- The text without `vpn://`, decoded and uncompressed. -/
  unpack : String → String
  /-- The configuration in a link, empty if it cannot be read. -/
  extractLink : LinkFormat → String → JsonObject
  /-- What is read from a configuration of the type, which came with the text. -/
  extract : ConfigTypes → String → String → ImportResult

/-! ### The links of a subscription -/

def schemes : List String := ["vless://", "vmess://", "trojan://", "ss://", "ssd://", "vpn://"]

def isUri (line : String) : Bool := schemes.any fun scheme => scheme.toList.isPrefixOf line.toList

def isLineEnd (c : Char) : Bool := c = '\r' || c = '\n'

def isRegexSpace (c : Char) : Bool := c = ' ' || (9 ≤ c.toNat && c.toNat ≤ 13)

def pickFirstUri (text : String) : String :=
  let lines := (text.toList.splitOnP isLineEnd).filter (· ≠ [])
  ((lines.map fun rawLine => trimmed (String.ofList rawLine)).find? isUri).getD ""

/-- A line with a link and nothing around it. -/
structure IsLink (line : String) : Prop where
  isUri : isUri line = true
  trimmed : trimmed line = line
  oneLine : ∀ c ∈ line.toList, isLineEnd c = false

theorem pickFirstUri_cases (text : String) : pickFirstUri text = "" ∨ IsLink (pickFirstUri text) := by
  unfold pickFirstUri
  dsimp only
  generalize hlines : ((text.toList.splitOnP isLineEnd).filter (· ≠ [])).map _ = lines
  cases hfind : lines.find? isUri with
  | none => exact Or.inl rfl
  | some line =>
    subst hlines
    obtain ⟨rawLine, hraw, rfl⟩ := List.mem_map.mp (List.mem_of_find?_eq_some hfind)
    refine Or.inr ⟨List.find?_some hfind, trimmed_trimmed _, fun c hc => ?_⟩
    apply Lines.forall_of_mem_splitOnP (List.mem_of_mem_filter hraw)
    -- what is trimmed is a part of the line
    rw [Option.getD_some, trimmed, String.toList_ofList, String.toList_ofList] at hc
    exact (List.dropWhile_suffix _).subset ((List.rdropWhile_prefix _ _).subset hc)

theorem IsLink.pickFirstUri {line : String} (h : IsLink line) : pickFirstUri line = line := by
  have hne : line.toList ≠ [] := by
    intro hnil
    have huri := h.isUri
    rw [FreshVpn.isUri, hnil] at huri
    exact absurd huri (by decide)
  rw [FreshVpn.pickFirstUri, List.splitOnP_eq_singleton h.oneLine]
  simp [hne, h.trimmed, h.isUri]

namespace TextReader

variable (reader : TextReader)

def firstUriFromSubscription (data : String) : String :=
  let direct := pickFirstUri data
  if direct ≠ "" then direct
  else
    let compact := data.toList.filter fun c => !isRegexSpace c
    if compact = [] then ""
    else
      let decoded := reader.fromBase64 compact
      let decoded := if decoded = [] then reader.fromBase64Url compact else decoded
      if decoded ≠ [] then pickFirstUri (reader.fromUtf8 decoded) else ""

theorem firstUri_cases (data : String) :
    reader.firstUriFromSubscription data = "" ∨ IsLink (reader.firstUriFromSubscription data) := by
  unfold firstUriFromSubscription
  dsimp only
  split_ifs
  · exact pickFirstUri_cases data
  · exact Or.inl rfl
  · exact pickFirstUri_cases _
  · exact Or.inl rfl
  · exact pickFirstUri_cases _

theorem firstUri_of_isLink {line : String} (h : IsLink line) (hne : line ≠ "") :
    reader.firstUriFromSubscription line = line := by
  rw [firstUriFromSubscription, h.pickFirstUri]
  exact if_pos hne

/-! ### The import of a text -/

/-- The first configuration that a branch for links finds. -/
def linkResult (config : String) : Option ImportResult :=
  (LinkFormat.all.filter (·.accepts config)).findSome? fun format =>
    let extracted := reader.extractLink format config
    if extracted ≠ [] then some { config := extracted, configType := format.configType } else none

def formatResult (data : String) : ImportResult :=
  let config := if checkConfigFormat data = .invalid then reader.unpack data else data
  reader.extract (checkConfigFormat config) config data

/-- The result with the texts of all nested calls, if these are not deeper than the first argument allows. -/
def extractConfigFromData : ℕ → String → Option (ImportResult × List String)
  | 0, _ => none
  | depth + 1, data =>
    match reader.linkResult data with
    | some result => some (result, [])
    | none =>
      let firstUri := reader.firstUriFromSubscription data
      if checkConfigFormat data = .invalid ∧ "vpn://".toList.isPrefixOf (trimmed data).toList = false ∧
          firstUri ≠ "" ∧ firstUri ≠ trimmed data then
        (extractConfigFromData depth firstUri).map fun (subResult, calls) =>
          (if subResult.errorCode = .noError ∧ subResult.config ≠ [] then subResult else reader.formatResult data,
            firstUri :: calls)
      else some (reader.formatResult data, [])

theorem extract_of_isLink {line : String} (h : IsLink line) (depth : ℕ) :
    ∃ result, reader.extractConfigFromData (depth + 1) line = some (result, []) := by
  rw [extractConfigFromData]
  split
  · exact ⟨_, rfl⟩
  · refine ⟨_, if_neg ?_⟩
    rintro ⟨-, -, hne, hother⟩
    -- the only link of the line is the line
    by_cases hline : line = ""
    · exact absurd h.isUri (by rw [hline]; decide)
    · exact hother ((reader.firstUri_of_isLink h hline).trans h.trimmed.symm)

/-- **An import is nested once at most.** For every text, however deep it may be nested, it makes at most one nested
call, and this one makes none. -/
theorem nested_import_bounded (reader : TextReader) (depth : ℕ) (data : String) : ∃ result calls,
    reader.extractConfigFromData (depth + 2) data = some (result, calls) ∧ calls.length ≤ 1 ∧
      ∀ text ∈ calls, ∃ subResult, reader.extractConfigFromData (depth + 1) text = some (subResult, []) := by
  rw [extractConfigFromData]
  split
  · exact ⟨_, [], rfl, Nat.zero_le 1, by simp⟩
  · dsimp only
    split_ifs with hnested
    · rcases reader.firstUri_cases data with hnone | hlink
      · exact absurd hnone hnested.2.2.1
      · obtain ⟨subResult, hcall⟩ := reader.extract_of_isLink hlink depth
        rw [hcall]
        exact ⟨_, [_], rfl, le_rfl, by simpa using ⟨subResult, hcall⟩⟩
    · exact ⟨_, [], rfl, Nat.zero_le 1, by simp⟩

end TextReader

end FreshVpn
