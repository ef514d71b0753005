import FreshVpn.ServersModels
import FreshVpn.ServersRepository

/-! Storing a decoded server and decoding it again: what the containers, the kind and the credentials become. -/

namespace FreshVpn

open Json (toObject toArray)
open ServerConfig

namespace ServerConfig

/-- The container an element of the `containers` array is read as. -/
def containerOf (value : Json) : DockerContainer :=
  DockerContainer.containerFromString (Json.toString ((toObject (some value)).value ConfigKey.container))

/-- Of several elements with the same container the last one counts. -/
def lastElement (values : List Json) (container : DockerContainer) : Option Json :=
  values.reverse.find? fun value => containerOf value = container

theorem foldl_insertContainer (values : List Json) (container : DockerContainer) :
    values.foldl insertContainer (fun _ => none) container =
      (lastElement values container).map fun value => ContainerConfig.fromJson (toObject (some value)) := by
  induction values using List.reverseRecOn with
  | nil =>
    rfl
  | append_singleton values last ih =>
    rw [List.foldl_append, List.foldl_cons, List.foldl_nil, lastElement, List.reverse_append, List.reverse_singleton,
      List.singleton_append, List.find?_cons]
    change Function.update _ (containerOf last) _ container = _
    by_cases heq : containerOf last = container
    · rw [heq, Function.update_self, decide_eq_true rfl]
      rfl
    · rw [Function.update_of_ne (Ne.symm heq), ih, decide_eq_false heq]
      rfl

theorem containerOf_of_lastElement {values : List Json} {container : DockerContainer} {value : Json}
    (h : lastElement values container = some value) : containerOf value = container ∧ value ∈ values := by
  exact ⟨of_decide_eq_true (List.find?_some (p := fun value => containerOf value = container) h),
    List.mem_reverse.mp (List.mem_of_find?_eq_some h)⟩

end ServerConfig

theorem find?_reverse_filterMap {κ β : Type*} [DecidableEq κ] {keys : List κ} {lookup : κ → Option β} {keyOf : β → κ}
    (hkeyOf : ∀ k b, lookup k = some b → keyOf b = k) {k : κ} (hk : k ∈ keys) :
    (keys.filterMap lookup).reverse.find? (fun b => keyOf b = k) = lookup k := by
  cases hlookup : lookup k with
  | none =>
    rw [List.find?_eq_none]
    intro b hb hkey
    obtain ⟨k', -, hb⟩ := List.mem_filterMap.mp (List.mem_reverse.mp hb)
    have heq : k' = k := (hkeyOf k' b hb).symm.trans (of_decide_eq_true hkey)
    rw [heq, hlookup] at hb
    cases hb
  | some b =>
    have hmem : b ∈ (keys.filterMap lookup).reverse :=
      List.mem_reverse.mpr (List.mem_filterMap.mpr ⟨k, hk, hlookup⟩)
    have hsome : ((keys.filterMap lookup).reverse.find? fun b => keyOf b = k).isSome :=
      List.find?_isSome.mpr ⟨b, hmem, decide_eq_true (hkeyOf k b hlookup)⟩
    obtain ⟨b', hfind⟩ := Option.isSome_iff_exists.mp hsome
    obtain ⟨k', -, hb'⟩ := List.mem_filterMap.mp (List.mem_reverse.mp (List.mem_of_find?_eq_some hfind))
    have hkey : keyOf b' = k := by simpa using List.find?_some hfind
    have heq : k' = k := (hkeyOf k' b' hb').symm.trans hkey
    rw [heq, hlookup] at hb'
    rw [hfind, hb']

theorem DockerContainer.mem_allContainers (container : DockerContainer) : container ∈ allContainers := by
  cases container <;> decide

theorem ContainerModel.containerOf_toJson (text : JsonText) (c : ContainerModel) :
    ServerConfig.containerOf (.object (c.toJson text)) = c.container := by
  have hname : (c.toJson text).value ConfigKey.container = some (.string c.container.containerToString) :=
    JsonObject.value_insert_of_ne _ (protoToString_ne_container _).symm _
  rw [containerOf, toObject, hname, Json.toString,
    DockerContainer.containerFromString_containerToString]

namespace ServerModel

variable (text : JsonText)

theorem containers_fromJson (json : JsonObject) (container : DockerContainer) :
    (fromJson text json).containers container =
      (ServerConfig.lastElement (toArray (json.value ConfigKey.containers)) container).map fun value =>
        ContainerModel.fromJson text (toObject (some value)) := by
  change Option.map (ContainerModel.ofStored text)
    ((toArray (json.value ConfigKey.containers)).foldl insertContainer (fun _ => none) container) = _
  rw [foldl_insertContainer, Option.map_map]
  rfl

/-- Every container stands under its own key and is one that a decoder returns, up to its client. -/
def Readable (m : ServerModel) : Prop :=
  ∀ container c, m.containers container = some c →
    c.container = container ∧ ProtocolModel.Readable text container.defaultProtocol c.protocolConfig

theorem readable_fromJson (json : JsonObject) : (fromJson text json).Readable text := by
  intro container c hc
  rw [containers_fromJson] at hc
  obtain ⟨value, hvalue, rfl⟩ := Option.map_eq_some_iff.mp hc
  obtain ⟨hcontainer, -⟩ := containerOf_of_lastElement hvalue
  refine ⟨hcontainer, ?_⟩
  rw [← hcontainer]
  exact ProtocolModel.readable_fromJson text _ _

/-- The object has the members that the encoders of all kinds write for the model. -/
def Encodes (m : ServerModel) (json : JsonObject) : Prop :=
  ∀ entry ∈ fields.entries, json.value entry.1 = entry.2.write (m.members text entry.1)

variable {text}

theorem toString_write_text (s : String) : Json.toString (FieldKind.write .text (.text s)) = s := by
  change Json.toString (if s = "" then none else some (.string s)) = s
  split_ifs with hs
  · exact hs.symm
  · rfl

variable {m : ServerModel}

theorem Encodes.toArray_containers {json : JsonObject} (h : m.Encodes text json) :
    toArray (json.value ConfigKey.containers) = m.containersArray text := by
  have hvalue := h ("containers", .array) (by simp [fields])
  change json.value ConfigKey.containers =
    if m.containersArray text = [] then none else some (.array (m.containersArray text)) at hvalue
  rw [hvalue]
  split_ifs with hnil
  · exact hnil.symm
  · rfl

theorem Readable.lastElement_containersArray (h : m.Readable text) (container : DockerContainer) :
    ServerConfig.lastElement (m.containersArray text) container =
      (m.containers container).map fun c => .object (c.toJson text) := by
  refine find?_reverse_filterMap (fun container' value hvalue => ?_) container.mem_allContainers
  obtain ⟨c, hc, rfl⟩ := Option.map_eq_some_iff.mp hvalue
  rw [ContainerModel.containerOf_toJson]
  exact (h container' c hc).1

/-- **A server read back.** The plain members are the ones that were stored, and every container is read from
what it was encoded as. -/
theorem Encodes.fromJson_eq {json : JsonObject} (h : m.Encodes text json) (hread : m.Readable text) :
    let m' := fromJson text json
    m'.description = m.description ∧ m'.hostName = m.hostName ∧ m'.defaultContainer = m.defaultContainer ∧
      m'.dns1 = m.dns1 ∧ m'.dns2 = m.dns2 ∧
      ∀ container, m'.containers container =
        (m.containers container).map fun c => ContainerModel.fromJson text (c.toJson text) := by
  have htext : ∀ key, (key, FieldKind.text) ∈ fields.entries →
      Json.toString (json.value key) = Json.toString (FieldKind.write .text (m.members text key)) :=
    fun key hmem => congrArg Json.toString (h _ hmem)
  refine ⟨(htext "description" (by simp [fields])).trans (toString_write_text _),
    (htext "hostName" (by simp [fields])).trans (toString_write_text _), ?_,
    (htext "dns1" (by simp [fields])).trans (toString_write_text _),
    (htext "dns2" (by simp [fields])).trans (toString_write_text _), fun container => ?_⟩
  · change DockerContainer.containerFromString (Json.toString (json.value "defaultContainer")) = _
    rw [htext "defaultContainer" (by simp [fields])]
    refine (congrArg _ (toString_write_text _)).trans ?_
    split_ifs with hnone
    · rw [hnone]
      rfl
    · exact DockerContainer.containerFromString_containerToString _
  · rw [containers_fromJson, h.toArray_containers, hread.lastElement_containersArray, Option.map_map]
    rfl

end ServerModel

/-! ### The third-party mark -/

/-- The protocols whose configuration has the mark. -/
def Proto.hasThirdPartyMark : Proto → Bool
  | .awg | .wireGuard | .openVpn | .ikev2 | .xray | .ssXray => true
  | _ => false

/-- The mark where the container's decoder looks for it. -/
def readsThirdPartyConfig (container : DockerContainer) (value : Json) : Bool :=
  container.defaultProtocol.hasThirdPartyMark &&
    Json.toBool ((toObject ((toObject (some value)).value
      container.defaultProtocol.protoToString)).value ConfigKey.isThirdPartyConfig)

/-- Some container is decoded as a third-party one. -/
def keepsThirdPartyConfig (json : JsonObject) : Bool :=
  DockerContainer.allContainers.any fun container =>
    (ServerConfig.lastElement (toArray (json.value ConfigKey.containers)) container).any
      (readsThirdPartyConfig container)

theorem ProtocolModel.isThirdPartyConfig_fromJson (text : JsonText) (json : JsonObject) (type : Proto) :
    (fromJson text json type).isThirdPartyConfig =
      (type.hasThirdPartyMark && Json.toBool (json.value ConfigKey.isThirdPartyConfig)) := by
  have hxray : (isThirdPartyConfig (.xray (XrayProtocolConfig.fromJson text json))) =
      Json.toBool (json.value ConfigKey.isThirdPartyConfig) := (XrayProtocolConfig.fromJson_spec text json).2
  have htabled : ∀ variant : ProtocolVariant,
      isThirdPartyConfig (.tabled (TabledConfig.fromJson text variant json)) =
        (variant.clientFields.isSome && Json.toBool (json.value ConfigKey.isThirdPartyConfig)) := by
    intro variant
    cases variant <;> rfl
  cases type with
  | xray | ssXray => exact hxray
  | unknown => rfl
  | awg | wireGuard | openVpn | ikev2 | sftp | socks5Proxy | mtProxy | telemt | torWebSite | dns => exact htabled _

namespace ServerModel

variable {text : JsonText}

def IsThirdParty (m : ServerModel) : Prop :=
  ∃ container c, m.containers container = some c ∧ c.protocolConfig.isThirdPartyConfig = true

theorem isThirdParty_fromJson (json : JsonObject) :
    (fromJson text json).IsThirdParty ↔ keepsThirdPartyConfig json = true := by
  have hread : ∀ container value, containerOf value = container →
      (ContainerModel.fromJson text (toObject (some value))).protocolConfig.isThirdPartyConfig =
        readsThirdPartyConfig container value := by
    rintro container value rfl
    exact ProtocolModel.isThirdPartyConfig_fromJson text _ _
  unfold keepsThirdPartyConfig
  rw [List.any_eq_true]
  constructor
  · rintro ⟨container, c, hc, hmark⟩
    rw [containers_fromJson] at hc
    obtain ⟨value, hvalue, rfl⟩ := Option.map_eq_some_iff.mp hc
    rw [hread container value (containerOf_of_lastElement hvalue).1] at hmark
    exact ⟨container, container.mem_allContainers, (Option.any_eq_true _ _).mpr ⟨value, hvalue, hmark⟩⟩
  · rintro ⟨container, -, hany⟩
    obtain ⟨value, hvalue, hmark⟩ := (Option.any_eq_true _ _).mp hany
    rw [← hread container value (containerOf_of_lastElement hvalue).1] at hmark
    refine ⟨container, _, ?_, hmark⟩
    rw [containers_fromJson, hvalue]
    rfl

theorem Encodes.hasThirdPartyConfig_iff {m : ServerModel} {json : JsonObject} (h : m.Encodes text json) :
    hasThirdPartyConfig json = true ↔ m.IsThirdParty := by
  unfold hasThirdPartyConfig
  rw [h.toArray_containers, List.any_eq_true]
  constructor
  · rintro ⟨value, hvalue, hmark⟩
    obtain ⟨container, -, hvalue⟩ := List.mem_filterMap.mp hvalue
    obtain ⟨c, hc, rfl⟩ := Option.map_eq_some_iff.mp hvalue
    exact ⟨container, c, hc, (ContainerModel.any_hasThirdPartyMember_toJson text c).symm.trans hmark⟩
  · rintro ⟨container, c, hc, hmark⟩
    refine ⟨.object (c.toJson text), List.mem_filterMap.mpr ⟨container, container.mem_allContainers, ?_⟩, ?_⟩
    · rw [hc]
      rfl
    · exact (ContainerModel.any_hasThirdPartyMember_toJson text c).trans hmark

end ServerModel

theorem hasThirdPartyConfig_of_keepsThirdPartyConfig {json : JsonObject} (h : keepsThirdPartyConfig json = true) :
    hasThirdPartyConfig json = true := by
  obtain ⟨container, -, hany⟩ := List.any_eq_true.mp h
  obtain ⟨value, hvalue, hmark⟩ := (Option.any_eq_true _ _).mp hany
  have hread := (Bool.and_eq_true_iff.mp hmark).2
  generalize hkey : container.defaultProtocol.protoToString = key at hread
  have hne : (key == ConfigKey.container) = false :=
    beq_false_of_ne (hkey ▸ ContainerModel.protoToString_ne_container _)
  refine List.any_eq_true.mpr ⟨value, (containerOf_of_lastElement hvalue).2, List.any_eq_true.mpr ?_⟩
  cases hproto : (toObject (some value)).value key with
  | none =>
    rw [hproto] at hread
    exact absurd hread Bool.false_ne_true
  | some protocol =>
    refine ⟨(key, protocol), JsonObject.mem_of_value_eq_some hproto, ?_⟩
    rw [hproto] at hread
    unfold hasThirdPartyMember JsonObject.contains
    dsimp only
    rw [hne, if_neg Bool.false_ne_true, hread, Bool.and_true]
    cases hvalue : (toObject (some protocol)).value ConfigKey.isThirdPartyConfig with
    | none =>
      rw [hvalue] at hread
      exact absurd hread Bool.false_ne_true
    | some mark => rfl

end FreshVpn
