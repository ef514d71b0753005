import FreshVpn.LibraryBase64
import FreshVpn.LibraryStream
import FreshVpn.ServersJson
import FreshVpn.ConnectionStates
import Mathlib.Data.List.AList

/-! Configurations as series of QR codes. A configuration is cut into pieces; each code carries the number of pieces,
the number of its own piece and the piece. -/

namespace FreshVpn

open Stream

/-! ### The codes of a configuration -/

namespace QrCodeUtils

def qrMagicCode : ℕ := 1984

/-- The bytes of the code for the piece at `i`. The quotient and its rounding are exact for doubles of this size. -/
def chunkBytes (data : List UInt8) (chunksCount i : ℕ) : List UInt8 :=
  putNumber 2 qrMagicCode ++ putNumber 1 chunksCount ++ putNumber 1 ((2 * i + 850) / (2 * 850) % 256) ++
    putBytes ((data.drop i).take 850)

/-- The loop over the positions of the pieces; each turn goes forward, so that the length is enough fuel. -/
def chunksFrom (data : List UInt8) (chunksCount : ℕ) : ℕ → ℕ → List String
  | 0, _ => []
  | fuel + 1, i =>
    if i < data.length then
      String.ofList (Base64.encode (chunkBytes data chunksCount i)) :: chunksFrom data chunksCount fuel (i + 850)
    else []

def generateQrCodeImageSeries (data : List UInt8) : List String :=
  chunksFrom data ((data.length + 849) / 850 % 256) data.length 0

end QrCodeUtils

/-! ### Reading a configuration -/

inductive ConfigTypes where
  | amnezia | openVpn | wireGuard | awg | xray | shadowSocks | backup | invalid
deriving DecidableEq

/-- What is read from a configuration. -/
structure ImportResult where
  errorCode : ErrorCode := .noError
  config : JsonObject := []
  configType : ConfigTypes := .invalid

/-- What the import is given by Qt, and `extractConfigFromData`, which reads configurations in text. -/
structure ConfigReader where
  fromUtf8 : List UInt8 → String
  toUtf8 : String → List UInt8
  /-- The object of `QJsonDocument::fromJson`, empty if there is none. -/
  fromJson : List UInt8 → JsonObject
  qUncompress : List UInt8 → List UInt8
  extractConfigFromData : String → ImportResult

def checkConfigFormat (config : String) : ConfigTypes :=
  if containsText config "Servers/serversList" then .backup
  else if containsText config "containers" || containsText config "api_key" || containsText config "auth_data" ||
      (containsText config "hostName" && containsText config "userName" && containsText config "password") then .amnezia
  else if containsText config "[Interface]" && containsText config "[Peer]" then .wireGuard
  else if containsText config "inbounds" && containsText config "outbounds" then .xray
  else if containsText config "client" && (containsText config "dev tun" || containsText config "dev tap") then .openVpn
  else .invalid

/-- The configuration in the JSON text, which must not be empty. -/
def importJson (reader : ConfigReader) (ba : List UInt8) : ImportResult :=
  let config := reader.fromJson ba
  if config = [] then { errorCode := .importInvalidConfigError } else { config := config, configType := .amnezia }

def extractConfigFromQr (reader : ConfigReader) (data : List UInt8) : ImportResult :=
  let dataStr := reader.fromUtf8 data
  if checkConfigFormat dataStr ≠ .invalid then reader.extractConfigFromData dataStr
  else if reader.fromJson data ≠ [] then { config := reader.fromJson data, configType := .amnezia }
  else if reader.qUncompress data ≠ [] then importJson reader (reader.qUncompress data)
  else
    let ba := Base64.decode (data.map fun b => Char.ofNat b.toNat)
    let baUncompressed := reader.qUncompress ba
    let ba := if baUncompressed ≠ [] then baUncompressed else ba
    if ba ≠ [] then importJson reader ba else { errorCode := .importInvalidConfigError }

/-! ### Collecting the codes -/

structure SeriesCode where
  chunksCount : ℕ
  chunkId : ℕ
  chunk : List UInt8
deriving DecidableEq

/-- A text that is the code of a series begins with the magic number; what is missing at its end is read as zero. -/
def readSeriesCode (code : String) : Option SeriesCode :=
  let (magic, s) := getNumber 2 (Base64.decode code.toList)
  if magic = QrCodeUtils.qrMagicCode then
    let (chunksCount, s) := getNumber 1 s
    let (chunkId, s) := getNumber 1 s
    some ⟨chunksCount, chunkId, (getBytes s).1⟩
  else none

structure ImportController where
  qrCodeChunks : AList fun _ : ℕ => List UInt8
  isQrCodeProcessed : Bool
  totalQrCodeChunksCount : ℕ
  receivedQrCodeChunksCount : ℕ

structure QrParseResult where
  success : Bool := false
  importResult : ImportResult := {}
  chunksReceived : ℕ := 0
  chunksTotal : ℕ := 0

namespace ImportController

def initial : ImportController := ⟨∅, false, 0, 0⟩

def startDecodingQr (_ : ImportController) : ImportController := ⟨∅, true, 0, 0⟩

/-- The piece is kept under its number; pieces of a series with another total are dropped before. -/
def receive (c : ImportController) (code : SeriesCode) : ImportController :=
  let kept := if c.totalQrCodeChunksCount ≠ code.chunksCount then ∅ else c.qrCodeChunks
  let chunks := kept.insert code.chunkId code.chunk
  { c with
    qrCodeChunks := chunks
    totalQrCodeChunksCount := code.chunksCount
    receivedQrCodeChunksCount := chunks.entries.length }

variable (c : ImportController) (code : SeriesCode)

theorem receive_qrCodeChunks :
    (c.receive code).qrCodeChunks = (if c.totalQrCodeChunksCount ≠ code.chunksCount then ∅
      else c.qrCodeChunks).insert code.chunkId code.chunk := rfl

@[simp] theorem receive_total : (c.receive code).totalQrCodeChunksCount = code.chunksCount := rfl

@[simp] theorem receive_received :
    (c.receive code).receivedQrCodeChunksCount = (c.receive code).qrCodeChunks.entries.length := rfl

def assembled (c : ImportController) : List UInt8 :=
  (List.range c.totalQrCodeChunksCount).flatMap fun i => (c.qrCodeChunks.lookup i).getD []

/-- The bytes that are passed on to be read, when there are as many pieces as announced. -/
def completed (c : ImportController) : Option (List UInt8) :=
  if c.qrCodeChunks.entries.length = c.totalQrCodeChunksCount then some c.assembled else none

def parseSeriesCode (reader : ConfigReader) (c : ImportController) (code : SeriesCode) :
    ImportController × QrParseResult :=
  let c := c.receive code
  let parseResult : QrParseResult :=
    { chunksReceived := c.receivedQrCodeChunksCount, chunksTotal := c.totalQrCodeChunksCount }
  match c.completed with
  | none => (c, parseResult)
  | some data =>
    let result := extractConfigFromQr reader data
    if result.errorCode = .noError then
      ({ c with isQrCodeProcessed := false }, { parseResult with success := true, importResult := result })
    else
      ({ c with qrCodeChunks := ∅, totalQrCodeChunksCount := 0, receivedQrCodeChunksCount := 0 }, parseResult)

/-- A code that is not one of a series is read as the text it is, and then as the bytes it stands for. -/
def parseSingleCode (reader : ConfigReader) (c : ImportController) (code : String) : ImportController × QrParseResult :=
  let parseResult : QrParseResult :=
    { chunksReceived := c.receivedQrCodeChunksCount, chunksTotal := c.totalQrCodeChunksCount }
  let result := extractConfigFromQr reader (reader.toUtf8 code)
  let result :=
    if result.errorCode ≠ .noError then extractConfigFromQr reader (Base64.decode code.toList) else result
  if result.errorCode = .noError then
    ({ c with isQrCodeProcessed := false }, { parseResult with success := true, importResult := result })
  else (c, parseResult)

def parseQrCodeChunk (reader : ConfigReader) (c : ImportController) (code : String) :
    ImportController × QrParseResult :=
  if c.isQrCodeProcessed = false then
    (c, { chunksReceived := c.receivedQrCodeChunksCount, chunksTotal := c.totalQrCodeChunksCount })
  else
    match readSeriesCode code with
    | some series => c.parseSeriesCode reader series
    | none => c.parseSingleCode reader code

end ImportController

end FreshVpn
