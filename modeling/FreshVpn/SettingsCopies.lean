import FreshVpn.LibraryRun
import Mathlib.Data.List.Nodup

/-! Two settings that the client also keeps in memory: the list of `AllowedDnsController`, and the gateway of
`SecureAppSettingsRepository`, which goes with a stored environment. A stored setting is what its reader makes of it. -/

namespace FreshVpn

/-- The changes of the settings that pass by the memory. A backup has the setting or not. -/
inductive SettingsChange (β : Type) where
  | restoreAppConfigFromData (member : Option β)
  | clearSettings
  | resetSettingsKeepServers

namespace SettingsChange

variable {β : Type} (default stored : β)

def apply : SettingsChange β → β
  | .restoreAppConfigFromData member => member.getD stored
  | .clearSettings | .resetSettingsKeepServers => default

/-- The backup has nothing else than is stored, and what is cleared was as if never set. -/
def Keeps : SettingsChange β → Prop
  | .restoreAppConfigFromData member => member = none ∨ member = some stored
  | .clearSettings | .resetSettingsKeepServers => stored = default

theorem apply_eq_iff (change : SettingsChange β) : change.apply default stored = stored ↔ change.Keeps default stored := by
  rcases change with (_ | value) | _ | _ <;> simp [apply, Keeps, eq_comm]

end SettingsChange

/-! ### The allowed DNS servers -/

structure AllowedDnsController where
  dnsServers : List String
  /-- `SecureAppSettingsRepository::getAllowedDnsServers`. -/
  stored : List String
  deriving DecidableEq

namespace AllowedDnsController

def addDns (ip : String) (c : AllowedDnsController) : Bool × AllowedDnsController :=
  if ip ∈ c.dnsServers then (false, c) else (true, ⟨c.dnsServers ++ [ip], c.dnsServers ++ [ip]⟩)

def addDnsList (dnsServers : List String) (replaceExisting : Bool) (c : AllowedDnsController) : AllowedDnsController :=
  let servers := dnsServers.foldl (fun servers ip => if ip ∈ servers then servers else servers ++ [ip])
    (if replaceExisting then [] else c.dnsServers)
  ⟨servers, servers⟩

def removeDns (index : Int) (c : AllowedDnsController) : AllowedDnsController :=
  if index < 0 ∨ index ≥ c.dnsServers.length then c
  else ⟨c.dnsServers.eraseIdx index.toNat, c.dnsServers.eraseIdx index.toNat⟩

inductive Event where
  | addDns (ip : String)
  | addDnsList (dnsServers : List String) (replaceExisting : Bool)
  | removeDns (index : Int)
  | settings (change : SettingsChange (List String))

variable (c : AllowedDnsController)

def step : Event → Option AllowedDnsController
  | .addDns ip => some (c.addDns ip).2
  | .addDnsList dnsServers replaceExisting => some (c.addDnsList dnsServers replaceExisting)
  | .removeDns index => some (c.removeDns index)
  | .settings change => some { c with stored := change.apply [] c.stored }

/-- The list shown names no server twice and is the one stored. -/
def Agrees : Prop := c.dnsServers.Nodup ∧ c.dnsServers = c.stored

def Keeps : Event → Prop
  | .settings change => change.Keeps [] c.stored
  | _ => True

variable {servers : List String}

theorem nodup_concat (h : servers.Nodup) {ip : String} (hip : ip ∉ servers) : (servers ++ [ip]).Nodup := by
  simpa using List.Nodup.concat hip h

theorem nodup_foldl (h : servers.Nodup) (added : List String) :
    (added.foldl (fun servers ip => if ip ∈ servers then servers else servers ++ [ip]) servers).Nodup := by
  induction added generalizing servers with
  | nil => exact h
  | cons ip added ih =>
    rw [List.foldl_cons]
    split_ifs with hip
    · exact ih h
    · exact ih (nodup_concat h hip)

theorem agrees_step {c : AllowedDnsController} (h : c.Agrees) (event : Event) :
    ∃ c', c.step event = some c' ∧ (c'.Agrees ↔ c.Keeps event) := by
  obtain ⟨hnodup, heq⟩ := h
  cases event <;> refine ⟨_, rfl, ?_⟩
  case addDns ip =>
    apply iff_of_true _ trivial
    dsimp only [addDns]
    split_ifs with hip
    · exact ⟨hnodup, heq⟩
    · exact ⟨nodup_concat hnodup hip, rfl⟩
  case addDnsList dnsServers replaceExisting =>
    apply iff_of_true _ trivial
    refine ⟨nodup_foldl ?_ dnsServers, rfl⟩
    split_ifs
    · exact List.nodup_nil
    · exact hnodup
  case removeDns index =>
    apply iff_of_true _ trivial
    dsimp only [removeDns]
    split_ifs
    · exact ⟨hnodup, heq⟩
    · exact ⟨hnodup.sublist (List.eraseIdx_sublist _ _), rfl⟩
  case settings change =>
    rw [Keeps, ← SettingsChange.apply_eq_iff, Agrees, and_iff_right hnodup, heq, eq_comm]

/-- **The allowed DNS servers shown are those stored exactly as long as no change of the settings brings another list**,
for a controller that has read a list without duplicates. -/
theorem dns_servers_agree_iff (stored : List String) (events : List Event) :
    (∀ first c, first <+: events → Run.run step ⟨stored, stored⟩ first = some c → c.Agrees) ↔
      stored.Nodup ∧ Run.Meets step Keeps ⟨stored, stored⟩ events := by
  rw [Run.forall_reached_iff_of_step_iff fun _ event h => agrees_step h event, Agrees, and_iff_left rfl]

/-- A server is added and the settings are reset: it is still shown, and the kill switch is not given it. -/
theorem reset_leaves_dns_servers :
    Run.run step ⟨[], []⟩ [.addDns "1.1.1.1", .settings .resetSettingsKeepServers] = some ⟨["1.1.1.1"], []⟩ := by
  decide

end AllowedDnsController

/-! ### The gateway -/

/-- The gateway of `SecureAppSettingsRepository`; the stored copy of the address, which nothing reads, is left out. -/
structure GatewaySettings where
  gatewayEndpoint : String
  /-- `Conf/devGatewayEnv`. -/
  devGatewayEnv : Bool
  deriving DecidableEq

namespace GatewaySettings

def productionEndpoint := "https://gw.fr3sh.online/"

/-- `DEV_AGW_ENDPOINT`, a constant of the build. -/
def DevEndpoint := { endpoint : String // endpoint ≠ productionEndpoint }

variable (dev : DevEndpoint)

def getGatewayEndpoint (g : GatewaySettings) (isTestPurchase : Bool) : String :=
  if isTestPurchase then dev.1 else g.gatewayEndpoint

def isDevGatewayEnv (g : GatewaySettings) (isTestPurchase : Bool) : Bool :=
  if isTestPurchase then true else g.devGatewayEnv

/-- The constructor. -/
def create (devGatewayEnv : Bool) : GatewaySettings := ⟨productionEndpoint, devGatewayEnv⟩

inductive Event where
  | toggleDevGatewayEnv (enabled : Bool)
  | settings (change : SettingsChange Bool)
  | restart

def step (g : GatewaySettings) : Event → Option GatewaySettings
  | .toggleDevGatewayEnv enabled => some ⟨if enabled then dev.1 else productionEndpoint, enabled⟩
  | .settings change => some { g with devGatewayEnv := change.apply false g.devGatewayEnv }
  | .restart => some (create g.devGatewayEnv)

/-- Requests go to the development gateway exactly if they are encrypted for it. -/
def Agrees (g : GatewaySettings) : Prop :=
  ∀ isTestPurchase, g.getGatewayEndpoint dev isTestPurchase = dev.1 ↔ g.isDevGatewayEnv isTestPurchase = true

/-- The settings change only if the environment stays, and the client is restarted only in production. -/
def Keeps (g : GatewaySettings) : Event → Prop
  | .toggleDevGatewayEnv _ => True
  | .settings change => change.Keeps false g.devGatewayEnv
  | .restart => g.devGatewayEnv = false

variable {dev} {g : GatewaySettings}

theorem agrees_iff : g.Agrees dev ↔ (g.gatewayEndpoint = dev.1 ↔ g.devGatewayEnv = true) := by
  simp [Agrees, getGatewayEndpoint, isDevGatewayEnv]

theorem agrees_create_iff {devGatewayEnv : Bool} : (create devGatewayEnv).Agrees dev ↔ devGatewayEnv = false := by
  simp [agrees_iff, create, dev.2.symm]

theorem agrees_step (h : g.Agrees dev) (event : Event) :
    ∃ g', g.step dev event = some g' ∧ (g'.Agrees dev ↔ g.Keeps event) := by
  cases event <;> refine ⟨_, rfl, ?_⟩
  case toggleDevGatewayEnv enabled =>
    refine iff_of_true (agrees_iff.mpr ?_) trivial
    cases enabled <;> simp [dev.2.symm]
  case settings change =>
    rw [agrees_iff] at h ⊢
    rw [Keeps, ← SettingsChange.apply_eq_iff, h]
    exact Iff.comm.trans Bool.eq_iff_iff.symm
  case restart => exact agrees_create_iff

/-- **Requests are encrypted for the gateway they are sent to exactly as long as the client is started in production and
no change of the settings changes the environment.** -/
theorem gateway_agrees_iff (dev : DevEndpoint) (devGatewayEnv : Bool) (events : List Event) :
    (∀ first g, first <+: events → Run.run (step dev) (create devGatewayEnv) first = some g → g.Agrees dev) ↔
      devGatewayEnv = false ∧ Run.Meets (step dev) Keeps (create devGatewayEnv) events := by
  rw [Run.forall_reached_iff_of_step_iff fun _ event h => agrees_step h event, agrees_create_iff]

/-- The development gateway is switched on and the client restarted: requests that are encrypted for the development
gateway go to the other. -/
theorem restart_leaves_environment :
    let dev : DevEndpoint := ⟨"https://dev/", by decide⟩
    ∃ g, Run.run (step dev) (create false) [.toggleDevGatewayEnv true, .restart] = some g ∧
      g.getGatewayEndpoint dev false = productionEndpoint ∧ g.isDevGatewayEnv false = true :=
  ⟨_, rfl, rfl, rfl⟩

end GatewaySettings

end FreshVpn
