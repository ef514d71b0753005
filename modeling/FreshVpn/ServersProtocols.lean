import FreshVpn.ServersConfig
import FreshVpn.ServersFields

/-! The protocol models with a server configuration and, for the tunnels, a client configuration that is stored
as a document in the member `last_config` (`core/models/protocols`, all but Xray). -/

namespace FreshVpn

namespace ConfigKey

def config := "config"
def lastConfig := "last_config"

end ConfigKey

/-! ### Fields -/

def AwgServerConfig.fields : FieldTable where
  entries :=
    [("port", .text), ("transport_proto", .text), ("protocol_version", .text), ("subnet_address", .text),
      ("subnet_cidr", .text), ("Jc", .text), ("Jmin", .text), ("Jmax", .text), ("S1", .text), ("S2", .text),
      ("S3", .text), ("S4", .text), ("H1", .text), ("H2", .text), ("H3", .text), ("H4", .text), ("I1", .textAlways),
      ("I2", .textAlways), ("I3", .textAlways), ("I4", .textAlways), ("I5", .textAlways),
      ("isThirdPartyConfig", .flag false)]
  distinct := by decide +kernel

def AwgClientConfig.fields : FieldTable where
  entries :=
    [("config", .text), ("hostName", .text), ("port", .positive), ("client_ip", .text), ("client_priv_key", .text),
      ("client_pub_key", .text), ("server_pub_key", .text), ("psk_key", .text), ("clientId", .text),
      ("allowed_ips", .texts), ("persistent_keep_alive", .text), ("mtu", .text), ("Jc", .text), ("Jmin", .text),
      ("Jmax", .text), ("S1", .text), ("S2", .text), ("S3", .text), ("S4", .text), ("H1", .text), ("H2", .text),
      ("H3", .text), ("H4", .text), ("I1", .textAlways), ("I2", .textAlways), ("I3", .textAlways),
      ("I4", .textAlways), ("I5", .textAlways), ("isObfuscationEnabled", .flag false)]
  distinct := by decide +kernel

def WireGuardServerConfig.fields : FieldTable where
  entries :=
    [("port", .text), ("transport_proto", .text), ("subnet_address", .text), ("subnet_mask", .text),
      ("subnet_cidr", .text), ("isThirdPartyConfig", .flag false)]
  distinct := by decide +kernel

/-- The junk and header parameters of AmneziaWG are not among the fields. -/
def WireGuardClientConfig.fields : FieldTable where
  entries :=
    [("config", .text), ("hostName", .text), ("port", .positive), ("client_ip", .text), ("client_priv_key", .text),
      ("client_pub_key", .text), ("server_pub_key", .text), ("psk_key", .text), ("clientId", .text),
      ("allowed_ips", .texts), ("persistent_keep_alive", .text), ("mtu", .text),
      ("isObfuscationEnabled", .flag false)]
  distinct := by decide +kernel

def OpenVpnServerConfig.fields : FieldTable where
  entries :=
    [("port", .text), ("transport_proto", .text), ("subnet_address", .text), ("subnet_mask", .text),
      ("subnet_cidr", .text), ("cipher", .text), ("hash", .text), ("ncp_disable", .flag false),
      ("tls_auth", .flag true), ("additional_client_config", .text), ("additional_server_config", .text),
      ("isThirdPartyConfig", .flag false)]
  distinct := by decide +kernel

def OpenVpnClientConfig.fields : FieldTable where
  entries := [("config", .text), ("clientId", .text), ("block_outside_dns", .flagAlways false)]
  distinct := by decide +kernel

def Ikev2ServerConfig.fields : FieldTable where
  entries := [("hostName", .text), ("isThirdPartyConfig", .flag false)]
  distinct := by decide +kernel

def Ikev2ClientConfig.fields : FieldTable where
  entries :=
    [("config", .text), ("hostName", .text), ("userName", .text), ("cert", .text), ("password", .text),
      ("clientId", .text)]
  distinct := by decide +kernel

def SftpProtocolConfig.fields : FieldTable where
  entries := [("port", .text), ("userName", .text), ("password", .text)]
  distinct := by decide +kernel

def Socks5ProxyProtocolConfig.fields : FieldTable where
  entries := [("port", .text), ("userName", .text), ("password", .text)]
  distinct := by decide +kernel

def TorServerConfig.fields : FieldTable where
  entries := [("site", .text)]
  distinct := by decide +kernel

def DnsProtocolConfig.fields : FieldTable where
  entries := []
  distinct := List.nodup_nil

def MtProxyProtocolConfig.fields : FieldTable where
  entries :=
    [("port", .text), ("mtproxy_secret", .text), ("mtproxy_tag", .text), ("mtproxy_tg_link", .text),
      ("mtproxy_tme_link", .text), ("mtproxy_is_enabled", .flagAlways true), ("mtproxy_public_host", .text),
      ("mtproxy_transport_mode", .text), ("mtproxy_tls_domain", .text),
      ("mtproxy_additional_secrets", .nonEmptyTexts), ("mtproxy_workers_mode", .text), ("mtproxy_workers", .text),
      ("mtproxy_nat_enabled", .flagAlways false), ("mtproxy_nat_internal_ip", .text),
      ("mtproxy_nat_external_ip", .text)]
  distinct := by decide +kernel

def TelemtProtocolConfig.fields : FieldTable where
  entries :=
    [("port", .text), ("telemt_secret", .text), ("telemt_tag", .text), ("telemt_tg_link", .text),
      ("telemt_tme_link", .text), ("telemt_is_enabled", .flagAlways true), ("telemt_public_host", .text),
      ("telemt_transport_mode", .text), ("telemt_tls_domain", .text), ("telemt_mask_enabled", .flagAlways true),
      ("telemt_tls_emulation", .flagAlways false), ("telemt_use_middle_proxy", .flagAlways true),
      ("telemt_user_name", .text), ("telemt_additional_secrets", .nonEmptyTexts), ("telemt_workers_mode", .text),
      ("telemt_workers", .text), ("telemt_nat_enabled", .flagAlways false), ("telemt_nat_internal_ip", .text),
      ("telemt_nat_external_ip", .text)]
  distinct := by decide +kernel

/-! ### Models -/

/-- The alternatives of `ProtocolConfig::Variant` other than `XrayProtocolConfig`. -/
inductive ProtocolVariant where
  | awg | wireGuard | openVpn | sftp | socks5Proxy | mtProxy | telemt | ikev2 | tor | dns
  deriving DecidableEq

namespace ProtocolVariant

def serverFields : ProtocolVariant → FieldTable
  | .awg => AwgServerConfig.fields
  | .wireGuard => WireGuardServerConfig.fields
  | .openVpn => OpenVpnServerConfig.fields
  | .sftp => SftpProtocolConfig.fields
  | .socks5Proxy => Socks5ProxyProtocolConfig.fields
  | .mtProxy => MtProxyProtocolConfig.fields
  | .telemt => TelemtProtocolConfig.fields
  | .ikev2 => Ikev2ServerConfig.fields
  | .tor => TorServerConfig.fields
  | .dns => DnsProtocolConfig.fields

/-- The services have no client configuration. -/
def clientFields : ProtocolVariant → Option FieldTable
  | .awg => some AwgClientConfig.fields
  | .wireGuard => some WireGuardClientConfig.fields
  | .openVpn => some OpenVpnClientConfig.fields
  | .ikev2 => some Ikev2ClientConfig.fields
  | .sftp | .socks5Proxy | .mtProxy | .telemt | .tor | .dns => none

theorem lastConfig_notMem_serverFields (variant : ProtocolVariant) :
    ConfigKey.lastConfig ∉ variant.serverFields.entries.map Prod.fst := by
  cases variant <;> decide +kernel

theorem isStable_serverFields (variant : ProtocolVariant) :
    ∀ entry ∈ variant.serverFields.entries, entry.2.isStable = true := by
  cases variant <;> exact List.all_eq_true.mp rfl

theorem clientFields_spec {variant : ProtocolVariant} {fields : FieldTable} (h : variant.clientFields = some fields) :
    (∀ entry ∈ fields.entries, entry.2.isStable = true) ∧ (∀ entry ∈ fields.entries, entry.2.isFlat = true) ∧
      (ConfigKey.config, FieldKind.text) ∈ fields.entries := by
  cases variant <;> cases h <;>
    exact ⟨List.all_eq_true.mp rfl, List.all_eq_true.mp rfl, List.mem_cons_self⟩

end ProtocolVariant

/-- `AwgProtocolConfig` and its siblings; the services keep their fields as `serverConfig`. -/
structure TabledConfig where
  variant : ProtocolVariant
  serverConfig : Record
  clientConfig : Option Record

namespace TabledConfig

variable (text : JsonText)

def toJson (c : TabledConfig) : JsonObject :=
  let obj := c.variant.serverFields.toJson c.serverConfig
  match c.variant.clientFields, c.clientConfig with
  | some fields, some client => obj.insert ConfigKey.lastConfig (.string (text.compact (fields.toJson client)))
  | _, _ => obj

def fromJson (variant : ProtocolVariant) (json : JsonObject) : TabledConfig where
  variant
  serverConfig := variant.serverFields.fromJson json
  clientConfig := variant.clientFields.bind fun fields =>
    let lastConfigStr := Json.toString (json.value ConfigKey.lastConfig)
    if lastConfigStr = "" then none else (text.parse lastConfigStr).map fields.fromJson

/-- `AwgProtocolConfig{}` and so on. -/
def empty (variant : ProtocolVariant) : TabledConfig := fromJson text variant []

/-- All that is written is as it would be after reading it back. -/
structure Settled (c : TabledConfig) : Prop where
  server : c.variant.serverFields.Settled c.serverConfig
  client : ∀ fields client, c.variant.clientFields = some fields → c.clientConfig = some client →
    fields.Settled client

theorem settled_fromJson (variant : ProtocolVariant) (json : JsonObject) : (fromJson text variant json).Settled := by
  refine ⟨FieldTable.settled_fromJson variant.isStable_serverFields json, fun fields client hfields hclient => ?_⟩
  change variant.clientFields = some fields at hfields
  change variant.clientFields.bind _ = some client at hclient
  rw [hfields, Option.bind_some] at hclient
  dsimp only at hclient
  split_ifs at hclient
  obtain ⟨document, -, rfl⟩ := Option.map_eq_some_iff.mp hclient
  exact FieldTable.settled_fromJson (ProtocolVariant.clientFields_spec hfields).1 document

theorem value_toJson (c : TabledConfig) {key : String} (hkey : key ≠ ConfigKey.lastConfig) :
    (c.toJson text).value key = (c.variant.serverFields.toJson c.serverConfig).value key := by
  unfold toJson
  split
  · exact JsonObject.value_insert_of_ne _ hkey _
  · rfl

/-- **The round trip of a protocol's configuration.** Stored and read back, both parts write what they wrote. -/
theorem Settled.fromJson_toJson {c : TabledConfig} (h : c.Settled) :
    c.variant.serverFields.Alike (fromJson text c.variant (c.toJson text)).serverConfig c.serverConfig ∧
      ∀ fields, c.variant.clientFields = some fields →
        Option.Rel fields.Alike (fromJson text c.variant (c.toJson text)).clientConfig c.clientConfig := by
  refine ⟨h.server.write_fromJson fun entry hentry => value_toJson text c ?_, fun fields hfields => ?_⟩
  · exact fun heq => c.variant.lastConfig_notMem_serverFields (heq ▸ List.mem_map_of_mem hentry)
  · obtain ⟨-, hflat, -⟩ := ProtocolVariant.clientFields_spec hfields
    simp only [fromJson, toJson, hfields, Option.bind_some]
    cases hclient : c.clientConfig with
    | none =>
      rw [FieldTable.value_toJson_of_not_mem c.variant.lastConfig_notMem_serverFields]
      exact Option.Rel.none
    | some client =>
      obtain ⟨document, hparse, hvalue⟩ := text.parse_compact _ (FieldTable.isFlat_toJson hflat client)
      have hne : text.compact (fields.toJson client) ≠ "" := by
        intro hempty
        rw [hempty, text.parse_empty] at hparse
        cases hparse
      rw [JsonObject.value_insert_self, Json.toString, if_neg hne, hparse]
      exact Option.Rel.some ((h.client fields client hfields hclient).write_fromJson fun entry _ => hvalue entry.1)

end TabledConfig

end FreshVpn
