import FreshVpn.LibraryIpv4
import FreshVpn.LibraryLines
import FreshVpn.LibraryRun
import FreshVpn.ServersJson

/-! The clients of a self-hosted WireGuard server. The configuration of the server is a text with one section for each
client. -/

namespace FreshVpn

open Lines

def isBase64 (c : Char) : Bool := c.isAlphanum || c = '+' || c = '/' || c = '='

/-- The characters that neither end a line nor begin a section. -/
def isPlain (c : Char) : Bool := c ≠ '\n' && c ≠ '['

structure WgKey where
  text : List Char
  length_eq : text.length = 44
  base64 : ∀ c ∈ text, isBase64 c = true

namespace WgKey

theorem not_mem {key : WgKey} {c : Char} (h : isBase64 c = false) : c ∉ key.text := by
  intro hmem
  rw [key.base64 c hmem] at h
  cases h

theorem ext {key other : WgKey} (h : key.text = other.text) : key = other := by
  cases key
  cases other
  cases h
  rfl

end WgKey

/-- What a server is set up with; `extra` are the lines that AmneziaWG adds to the section of the interface. -/
structure WgServer where
  privateKey : WgKey
  psk : WgKey
  subnetAddress : BitVec 32
  subnetCidr : ℕ
  port : ℕ
  extra : List (List Char)
  extra_plain : ∀ line ∈ extra, ∀ c ∈ line, isPlain c = true
  /-- The lines of the interface name no peer. -/
  extra_allowed : ∀ line ∈ extra, ¬ "AllowedIPs = ".toList <:+: line

namespace WgServer

/-- The lines of the interface after the first. -/
def interfaceBody (server : WgServer) : List (List Char) :=
  ["PrivateKey = ".toList ++ server.privateKey.text,
    "Address = ".toList ++ (Ipv4.chars server.subnetAddress ++ '/' :: Decimal.render server.subnetCidr),
    "ListenPort = ".toList ++ Decimal.render server.port] ++ server.extra

/-- The lines that `configure_container.sh` writes. -/
def interfaceLines (server : WgServer) : List (List Char) := "[Interface]".toList :: server.interfaceBody

end WgServer

namespace WireguardConfigurator

/-- The text of `\d+` and of `n` times `\.\d+` behind it, at the front of the text. -/
def dotted : ℕ → List Char → Option (List Char)
  | 0, text =>
    let digits := text.takeWhile Char.isDigit
    if digits = [] then none else some digits
  | n + 1, text =>
    let digits := text.takeWhile Char.isDigit
    if digits = [] then none
    else
      match text.dropWhile Char.isDigit with
      | [] => none
      | c :: rest => if c = '.' then (dotted n rest).map fun others => digits ++ '.' :: others else none

/-- What `AllowedIPs = (\d+\.\d+\.\d+\.\d+)` captures at the front of the text. -/
def captured (text : List Char) : Option (List Char) :=
  if "AllowedIPs = ".toList <+: text then dotted 3 (text.drop 13) else none

/-- The addresses that the expression captures and that are addresses. No match begins within another, since the first
character of a match does not occur again in it. -/
def getIpsFromConf : List Char → List (BitVec 32)
  | [] => []
  | c :: rest => ((captured (c :: rest)).bind Ipv4.read).toList ++ getIpsFromConf rest

/-- The next address after the last one, or after that of the subnet; the last octet is never 0 or 255. -/
def nextIp (subnetAddress : BitVec 32) (ips : List (BitVec 32)) : BitVec 32 :=
  let lastIp := ips.getLastD subnetAddress
  let lastOctet := lastIp.toNat % 256
  if lastOctet = 254 then lastIp + 3 else if lastOctet = 255 then lastIp + 2 else lastIp + 1

/-- The section that is appended for a client. -/
def configPart (psk clientPubKey : WgKey) (clientIP : BitVec 32) : List Char :=
  "[Peer]\nPublicKey = ".toList ++ clientPubKey.text ++ "\nPresharedKey = ".toList ++ psk.text ++
    "\nAllowedIPs = ".toList ++ Ipv4.chars clientIP ++ "/32\n\n".toList

/-- `cat conf | grep AllowedIPs` -/
def grepAllowedIPs (conf : List Char) : List Char :=
  unlines '\n' ((conf.splitOn '\n').filter fun line => containsChars "AllowedIPs".toList line)

/-- What the callback of `prepareWireguardConfig` makes of the pieces of the output. -/
def stdOut (pieces : List (List Char)) : List Char := pieces.flatMap fun data => data ++ ['\n']

/-- The pieces of an output: not empty, and not longer than the buffer. -/
def Pieces (output : List Char) (pieces : List (List Char)) : Prop :=
  pieces.flatten = output ∧ ∀ data ∈ pieces, data ≠ [] ∧ data.length ≤ 2048

instance (output : List Char) (pieces : List (List Char)) : Decidable (Pieces output pieces) :=
  inferInstanceAs (Decidable (_ ∧ _))

end WireguardConfigurator

structure WgState where
  config : List Char
  clients : List WgKey

/-- Creating a client with a new key, where the output of the first command comes in these pieces, and revoking the
client in a row of the table. -/
inductive WgEvent where
  | create (clientPubKey : WgKey) (pieces : List (List Char))
  | revoke (row : ℕ)

namespace WgState

open WireguardConfigurator

def initial (server : WgServer) : WgState := ⟨unlines '\n' server.interfaceLines, []⟩

def create (server : WgServer) (s : WgState) (clientPubKey : WgKey) (pieces : List (List Char)) : WgState where
  config := s.config ++
    configPart server.psk clientPubKey (nextIp server.subnetAddress (getIpsFromConf (stdOut pieces)))
  clients := s.clients ++ [clientPubKey]

def revokeWireGuard (s : WgState) (row : ℕ) : WgState :=
  match s.clients[row]? with
  | none => s
  | some clientId =>
    let configSections := (s.config.splitOn '[').filter fun part => part ≠ []
    let configSections :=
      match configSections.find? fun part => containsChars clientId.text part with
      | some part => configSections.erase part
      | none => configSections
    ⟨'[' :: ['['].intercalate configSections, s.clients.eraseIdx row⟩

def step (server : WgServer) (s : WgState) : WgEvent → Option WgState
  | .create clientPubKey pieces =>
    if Pieces (grepAllowedIPs s.config) pieces then some (s.create server clientPubKey pieces) else none
  | .revoke row => some (s.revokeWireGuard row)

end WgState

end FreshVpn
