import Mathlib.Data.List.Induction
import FreshVpn.RoutesPrefixes

/-! The route monitor of the macOS daemon. It reads the messages of the routing socket, keeps the default route of
each family, and sends the exclusion routes through it. `handleRtmDelete` sends for a protocol that it has not set
if the destination is of neither family; the value that is found there is part of the message that is handled. -/

namespace FreshVpn

open Function

inductive RtmType where
  | add
  | delete
  | change
  | get
  | other
deriving DecidableEq

/-! ### Socket addresses -/

variable (sa : List UInt8)

def saLen : ℕ := (sa.getD 0 0).toNat

def saFamily : ℕ := (sa.getD 1 0).toNat

def sdlIndex (sdl : List UInt8) : ℕ := (sdl.getD 2 0).toNat + 256 * (sdl.getD 3 0).toNat

/-- `AF_INET` and `AF_INET6`. -/
def inetFamily : Option AddressFamily :=
  match saFamily sa with
  | 2 => some .inet
  | 30 => some .inet6
  | _ => none

/-- The netmask of a default route: its address is zero, with the bytes after `sa_len` taken for zero, or its family is
`AF_UNSPEC`. -/
def isZeroMask : Bool :=
  let bytes := sa.take (saLen sa)
  match saFamily sa with
  | 2 => ((bytes.drop 4).take 4).all (· == 0)
  | 30 => ((bytes.drop 8).take 16).all (· == 0)
  | family => family = 0

def paddedSize (n : ℕ) : ℕ := if n = 0 ∨ n % 4 ≠ 0 then n + (4 - n % 4) else n

/-- The loop of `parseAddrList`; an address takes at least four bytes, so that the length of the payload is fuel enough.
-/
def parseAddrs : ℕ → List UInt8 → List (List UInt8)
  | 0, _ => []
  | fuel + 1, payload =>
    if payload.length < 2 then []
    else if payload.length < paddedSize (saLen payload) then []
    else payload.take (paddedSize (saLen payload)) :: parseAddrs fuel (payload.drop (paddedSize (saLen payload)))

def parseAddrList (payload : List UInt8) : List (List UInt8) := parseAddrs payload.length payload

theorem paddedSize_pos (n : ℕ) : 0 < paddedSize n := by
  unfold paddedSize
  split_ifs <;> omega

theorem ne_nil_of_mem_parseAddrs {fuel : ℕ} {payload sa : List UInt8} (h : sa ∈ parseAddrs fuel payload) : sa ≠ [] := by
  induction fuel generalizing payload with
  | zero => exact absurd h List.not_mem_nil
  | succ fuel ih =>
    rw [parseAddrs] at h
    split_ifs at h with hshort hcut
    · exact absurd h List.not_mem_nil
    · exact absurd h List.not_mem_nil
    · rcases List.mem_cons.mp h with rfl | hrest
      · have hpos := paddedSize_pos (saLen payload)
        intro hnil
        have hlen := congrArg List.length hnil
        rw [List.length_take, List.length_nil] at hlen
        omega
      · exact ih hrest

/-! ### Messages -/

structure RouteMessage where
  type : RtmType
  index : ℕ
  flags : ℕ
  addrs : ℕ
  pid : ℕ
  payload : List UInt8

namespace RouteMessage

variable (rtm : RouteMessage)

def address (i : ℕ) : List UInt8 := (parseAddrList rtm.payload).getD i []

/-- A default route, which is not one of the tunnel interface: destination, gateway and netmask are there
(`RTA_DST`, `RTA_GATEWAY`, `RTA_NETMASK`), the route is not scoped (`RTF_IFSCOPE`) and the netmask is zero. -/
def isDefault (tunnel : ℕ) : Bool :=
  rtm.index ≠ tunnel && rtm.addrs.testBit 0 && rtm.addrs.testBit 1 && rtm.addrs.testBit 2 &&
    3 ≤ (parseAddrList rtm.payload).length && !rtm.flags.testBit 24 && isZeroMask (rtm.address 2)

/-- The interface of the route, which `RTA_IFP` gives in its place in the list; `none` if the list ends before it. -/
def interface : Option ℕ :=
  if rtm.addrs.testBit 4 then
    (parseAddrList rtm.payload)[((List.range 4).filter rtm.addrs.testBit).length]?.map fun sdl =>
      if saFamily sdl = 18 then sdlIndex sdl else rtm.index
  else some rtm.index

theorem address_one_ne_nil {rtm : RouteMessage} {tunnel : ℕ} (h : rtm.isDefault tunnel = true) :
    rtm.address 1 ≠ [] := by
  simp only [isDefault, Bool.and_eq_true, decide_eq_true_iff] at h
  have hlt : 1 < (parseAddrList rtm.payload).length := by omega
  rw [address, List.getD_eq_getElem _ _ hlt]
  exact ne_nil_of_mem_parseAddrs (List.getElem_mem hlt)

end RouteMessage

/-- What the kernel reads of a message that the monitor sends; destination and netmask are one prefix. -/
structure SentMessage where
  action : RtmType
  destination : IpPrefix
  index : ℕ
  gateway : Option (List UInt8)

def IpPrefix.host (p : IpPrefix) : IpPrefix := ⟨p.address, p.address.maxMask, le_refl _⟩

/-- `sizeof(struct rt_msghdr)`, two addresses of the larger family and a `sockaddr_storage`. -/
def rtmMaxSize : ℕ := 92 + 28 * 2 + 128

/-- The length of the message with one more address; `none` if the address does not fit and is left out. -/
def rtmAppendAddr (msglen len : ℕ) : Option ℕ :=
  if rtmMaxSize < msglen + len then none
  else if (msglen + len) % 4 ≠ 0 then some (msglen + len + (4 - (msglen + len) % 4)) else some (msglen + len)

def rtmSendRoute (action : RtmType) (p : IpPrefix) (ifindex : ℕ) (gateway : Option (List UInt8)) : SentMessage :=
  let size := if p.family = .inet6 then 28 else 16
  let dst := (rtmAppendAddr 92 size).getD 92
  let via := gateway.bind fun sa => rtmAppendAddr dst (saLen sa)
  { action, index := ifindex
    destination := if (rtmAppendAddr (via.getD dst) size).isSome then p else p.host
    gateway := if via.isSome then gateway.map fun sa => sa.take (saLen sa) else none }

/-! ### The monitor -/

/-- `m_defaultGateway` and `m_defaultIfindex` of one family. -/
structure DefaultRoute where
  gateway : List UInt8 := []
  ifindex : ℕ := 0

def DefaultRoute.isKnown (d : DefaultRoute) : Bool := d.ifindex ≠ 0 && !d.gateway.isEmpty

structure MacosRouteMonitor where
  exclusionRoutes : List IpPrefix := []
  defaultRoute : AddressFamily → DefaultRoute := fun _ => {}

namespace MacosRouteMonitor

variable (tunnel pid : ℕ) (m : MacosRouteMonitor)

def ofProtocol (protocol : AddressFamily) : List IpPrefix := m.exclusionRoutes.filter (·.family = protocol)

/-- `protocol` is what the variable of that name holds before it is set. -/
def handleRtmDelete (protocol : AddressFamily) (rtm : RouteMessage) : MacosRouteMonitor × List SentMessage :=
  if rtm.isDefault tunnel then
    match inetFamily (rtm.address 0) with
    | some family =>
      ({ m with defaultRoute := update m.defaultRoute family {} },
        (m.ofProtocol family).map fun p => rtmSendRoute .delete p rtm.index none)
    | none => (m, (m.ofProtocol protocol).map fun p => rtmSendRoute .delete p rtm.index none)
  else (m, [])

def handleRtmUpdate (rtm : RouteMessage) : MacosRouteMonitor × List SentMessage :=
  if rtm.isDefault tunnel && !(rtm.pid = pid && rtm.type ≠ .get) then
    match rtm.interface, inetFamily (rtm.address 0) with
    | some ifindex, some family =>
      let action := if (m.defaultRoute family).ifindex ≠ 0 then RtmType.change else .add
      ({ m with defaultRoute := update m.defaultRoute family ⟨rtm.address 1, ifindex⟩ },
        (m.ofProtocol family).map fun p => rtmSendRoute action p ifindex (some (rtm.address 1)))
    | _, _ => (m, [])
  else (m, [])

def addExclusionRoute (p : IpPrefix) : MacosRouteMonitor × List SentMessage × Bool :=
  if p ∈ m.exclusionRoutes then (m, [], false)
  else
    let known := m.defaultRoute p.family
    ({ m with exclusionRoutes := m.exclusionRoutes ++ [p] },
      if known.isKnown then [rtmSendRoute .add p known.ifindex (some known.gateway)] else [], true)

def deleteExclusionRoute (p : IpPrefix) : MacosRouteMonitor × List SentMessage × Bool :=
  ({ m with exclusionRoutes := m.exclusionRoutes.filter (· ≠ p) },
    [rtmSendRoute .delete p (m.defaultRoute p.family).ifindex none], true)

def flushExclusionRoutes : MacosRouteMonitor × List SentMessage :=
  ({ m with exclusionRoutes := [] },
    m.exclusionRoutes.map fun p => rtmSendRoute .delete p (m.defaultRoute p.family).ifindex none)

end MacosRouteMonitor

/-- A message from the routing socket, with what the uninitialised variable holds, or a call. -/
inductive MacosCall where
  | message (protocol : AddressFamily) (rtm : RouteMessage)
  | addExclusionRoute (p : IpPrefix)
  | deleteExclusionRoute (p : IpPrefix)
  | flushExclusionRoutes

/-- The part of `rtsockReady` for one message, and the calls. -/
def MacosRouteMonitor.handle (tunnel pid : ℕ) (m : MacosRouteMonitor) : MacosCall →
    MacosRouteMonitor × List SentMessage
  | .message protocol rtm =>
    match rtm.type with
    | .delete => m.handleRtmDelete tunnel protocol rtm
    | .other => (m, [])
    | _ => m.handleRtmUpdate tunnel pid rtm
  | .addExclusionRoute p => ((m.addExclusionRoute p).1, (m.addExclusionRoute p).2.1)
  | .deleteExclusionRoute p => ((m.deleteExclusionRoute p).1, (m.deleteExclusionRoute p).2.1)
  | .flushExclusionRoutes => m.flushExclusionRoutes

/-! ### The kernel -/

structure KernelRoute where
  gateway : Option (List UInt8)
  index : ℕ
deriving DecidableEq

/-- The monitor and the exclusion routes of the kernel. -/
structure MacosSystem where
  monitor : MacosRouteMonitor := {}
  kernel : IpPrefix → Option KernelRoute := fun _ => none

def SentMessage.accept (kernel : IpPrefix → Option KernelRoute) (msg : SentMessage) : IpPrefix → Option KernelRoute :=
  match msg.action with
  | .add | .change => update kernel msg.destination (some ⟨msg.gateway, msg.index⟩)
  | .delete => update kernel msg.destination none
  | _ => kernel

/-- The route that a prefix has if its default route is this one. -/
def DefaultRoute.route (d : DefaultRoute) : Option KernelRoute :=
  if d.isKnown then some ⟨some (d.gateway.take (saLen d.gateway)), d.ifindex⟩ else none

namespace MacosSystem

def step (tunnel pid : ℕ) (s : MacosSystem) (call : MacosCall) : MacosSystem :=
  let after := s.monitor.handle tunnel pid call
  ⟨after.1, after.2.foldl SentMessage.accept s.kernel⟩

/-- The kernel holds a route for the prefixes in the list whose default route is known, and it is that route. -/
def Mirrors (s : MacosSystem) : Prop :=
  ∀ p, s.kernel p = if p ∈ s.monitor.exclusionRoutes then (s.monitor.defaultRoute p.family).route else none

end MacosSystem

/-- A default route that is lost has a destination of one of the two families, and one that is found has an interface
and a gateway that fits into a `sockaddr_storage`. -/
def MacosCall.Proper (tunnel : ℕ) : MacosCall → Prop
  | .message _ rtm =>
    rtm.isDefault tunnel = true →
      match rtm.type with
      | .delete => (inetFamily (rtm.address 0)).isSome = true
      | .other => True
      | _ => rtm.interface ≠ some 0 ∧ saLen (rtm.address 1) ≤ 128
  | _ => True

/-- The same step with another value in the uninitialised variable. -/
def MacosCall.withProtocol (protocol : AddressFamily) : MacosCall → MacosCall
  | .message _ rtm => .message protocol rtm
  | call => call

/-! ### What a message does -/

theorem rtmSendRoute_none (action : RtmType) (p : IpPrefix) (ifindex : ℕ) :
    rtmSendRoute action p ifindex none = ⟨action, p, ifindex, none⟩ := by
  unfold rtmSendRoute rtmAppendAddr rtmMaxSize
  split_ifs <;> simp_all

theorem rtmSendRoute_some (action : RtmType) (p : IpPrefix) (ifindex : ℕ) {sa : List UInt8} (hsa : saLen sa ≤ 128) :
    rtmSendRoute action p ifindex (some sa) = ⟨action, p, ifindex, some (sa.take (saLen sa))⟩ := by
  -- The message has room for two addresses of the family of the prefix beside a `sockaddr_storage`.
  have hroom : ∀ size : ℕ, size = 16 ∨ size = 28 → rtmAppendAddr 92 size = some (92 + size) ∧
      ∃ len, rtmAppendAddr (92 + size) (saLen sa) = some len ∧ (rtmAppendAddr len size).isSome = true := by
    rintro size (rfl | rfl) <;> unfold rtmAppendAddr rtmMaxSize <;> refine ⟨by simp, ?_⟩ <;> split_ifs <;>
      first | omega | exact ⟨_, rfl, by split_ifs <;> first | omega | rfl⟩
  unfold rtmSendRoute
  obtain ⟨hdst, len, hvia, hmask⟩ := hroom (if p.family = .inet6 then 28 else 16) (by split_ifs <;> simp)
  simp [hdst, hvia, hmask]

theorem foldl_accept {msg : IpPrefix → SentMessage} {route : Option KernelRoute}
    (hmsg : ∀ kernel p, SentMessage.accept kernel (msg p) = update kernel p route) (ps : List IpPrefix)
    (kernel : IpPrefix → Option KernelRoute) (q : IpPrefix) :
    (ps.map msg).foldl SentMessage.accept kernel q = if q ∈ ps then route else kernel q := by
  induction ps generalizing kernel with
  | nil => simp
  | cons p ps ih =>
    rw [List.map_cons, List.foldl_cons, ih, hmsg]
    by_cases hq : q = p <;> simp [hq]

theorem accept_delete (p : IpPrefix) (ifindex : ℕ) (kernel : IpPrefix → Option KernelRoute) :
    SentMessage.accept kernel (rtmSendRoute .delete p ifindex none) = update kernel p none := by
  rw [rtmSendRoute_none]
  rfl

theorem accept_route {action : RtmType} (haction : action = .add ∨ action = .change) {d : DefaultRoute}
    (hknown : d.isKnown = true) (hfits : saLen d.gateway ≤ 128) (p : IpPrefix)
    (kernel : IpPrefix → Option KernelRoute) :
    SentMessage.accept kernel (rtmSendRoute action p d.ifindex (some d.gateway)) =
      update kernel p d.route := by
  rw [rtmSendRoute_some _ _ _ hfits, DefaultRoute.route, if_pos hknown]
  rcases haction with rfl | rfl <;> rfl

/-! ### Runs -/

namespace MacosSystem

variable {tunnel pid : ℕ} {s : MacosSystem}

/-- The kernel mirrors the list, and each default gateway fits into a message. -/
structure Tracks (s : MacosSystem) : Prop where
  mirrors : s.Mirrors
  fits : ∀ family, saLen (s.monitor.defaultRoute family).gateway ≤ 128

theorem Tracks.reroute (h : s.Tracks) (family : AddressFamily) {d : DefaultRoute} (hfits : saLen d.gateway ≤ 128)
    {kernel : IpPrefix → Option KernelRoute}
    (hkernel : ∀ p, kernel p = if p ∈ s.monitor.ofProtocol family then d.route else s.kernel p) :
    Tracks ⟨{ s.monitor with defaultRoute := update s.monitor.defaultRoute family d }, kernel⟩ := by
  refine ⟨fun p => ?_, fun other => ?_⟩
  · simp only [hkernel, h.mirrors p, MacosRouteMonitor.ofProtocol, List.mem_filter, decide_eq_true_iff]
    by_cases hp : p.family = family
    · rw [hp, update_self]
      by_cases hmem : p ∈ s.monitor.exclusionRoutes <;> simp [hmem]
    · rw [update_of_ne hp, if_neg fun h => hp h.2]
  · show saLen (update s.monitor.defaultRoute family d other).gateway ≤ 128
    by_cases hother : other = family
    · rwa [hother, update_self]
    · rw [update_of_ne hother]
      exact h.fits other

variable {rtm : RouteMessage}

section
variable (h : s.Tracks)
include h

theorem Tracks.handleRtmDelete {protocol : AddressFamily}
    (hproper : rtm.isDefault tunnel = true → (inetFamily (rtm.address 0)).isSome = true) :
    let after := s.monitor.handleRtmDelete tunnel protocol rtm
    Tracks ⟨after.1, after.2.foldl SentMessage.accept s.kernel⟩ := by
  unfold MacosRouteMonitor.handleRtmDelete
  by_cases hdefault : rtm.isDefault tunnel = true
  · obtain ⟨family, hfamily⟩ := Option.isSome_iff_exists.mp (hproper hdefault)
    rw [if_pos hdefault, hfamily]
    refine h.reroute family (Nat.zero_le _) (foldl_accept ?_ _ _)
    exact fun kernel p => accept_delete p rtm.index kernel
  · rw [if_neg hdefault]
    exact h

theorem Tracks.handleRtmUpdate
    (hproper : rtm.isDefault tunnel = true → rtm.interface ≠ some 0 ∧ saLen (rtm.address 1) ≤ 128) :
    let after := s.monitor.handleRtmUpdate tunnel pid rtm
    Tracks ⟨after.1, after.2.foldl SentMessage.accept s.kernel⟩ := by
  unfold MacosRouteMonitor.handleRtmUpdate
  split_ifs with hhandled
  · have hdefault := (Bool.and_eq_true_iff.mp hhandled).1
    split
    · rename_i ifindex family hinterface hfamily
      have hknown : DefaultRoute.isKnown ⟨rtm.address 1, ifindex⟩ = true := by
        have hindex : ifindex ≠ 0 := fun h => (hproper hdefault).1 (h ▸ hinterface)
        simp [DefaultRoute.isKnown, hindex, RouteMessage.address_one_ne_nil hdefault]
      refine h.reroute family (hproper hdefault).2 (foldl_accept ?_ _ _)
      refine fun kernel p => accept_route ?_ hknown (hproper hdefault).2 p kernel
      split_ifs
      · exact Or.inr rfl
      · exact Or.inl rfl
    · exact h
  · exact h

theorem Tracks.addExclusionRoute (p : IpPrefix) :
    let after := s.monitor.addExclusionRoute p
    Tracks ⟨after.1, after.2.1.foldl SentMessage.accept s.kernel⟩ := by
  unfold MacosRouteMonitor.addExclusionRoute
  by_cases hp : p ∈ s.monitor.exclusionRoutes
  · rw [if_pos hp]
    exact h
  · rw [if_neg hp]
    refine ⟨fun q => ?_, h.fits⟩
    simp only [List.mem_append, List.mem_singleton]
    split_ifs with hknown hq hq
    · rw [List.foldl_cons, accept_route (Or.inl rfl) hknown (h.fits _), List.foldl_nil]
      rcases hq with hq | rfl
      · rw [update_of_ne (ne_of_mem_of_not_mem hq hp), h.mirrors q, if_pos hq]
      · rw [update_self]
    · rw [List.foldl_cons, accept_route (Or.inl rfl) hknown (h.fits _), List.foldl_nil,
        update_of_ne (fun h => hq (Or.inr h)), h.mirrors q, if_neg fun h => hq (Or.inl h)]
    · rw [List.foldl_nil, h.mirrors q]
      rcases hq with hq | rfl
      · rw [if_pos hq]
      · rw [if_neg hp, DefaultRoute.route, if_neg hknown]
    · rw [List.foldl_nil, h.mirrors q, if_neg fun h => hq (Or.inl h)]

theorem Tracks.deleteExclusionRoute (p : IpPrefix) :
    let after := s.monitor.deleteExclusionRoute p
    Tracks ⟨after.1, after.2.1.foldl SentMessage.accept s.kernel⟩ := by
  refine ⟨fun q => ?_, h.fits⟩
  show SentMessage.accept s.kernel (rtmSendRoute .delete p _ none) q =
    if q ∈ s.monitor.exclusionRoutes.filter (· ≠ p) then (s.monitor.defaultRoute q.family).route else none
  simp only [accept_delete, List.mem_filter, decide_eq_true_iff]
  by_cases hq : q = p
  · rw [hq, update_self, if_neg fun h => h.2 rfl]
  · rw [update_of_ne hq, h.mirrors q]
    simp [hq]

theorem Tracks.flushExclusionRoutes :
    let after := s.monitor.flushExclusionRoutes
    Tracks ⟨after.1, after.2.foldl SentMessage.accept s.kernel⟩ := by
  refine ⟨fun q => ?_, h.fits⟩
  refine (foldl_accept (fun kernel p => accept_delete p _ kernel) _ _ q).trans ?_
  rw [h.mirrors q]
  show (if q ∈ s.monitor.exclusionRoutes then none else _) = if q ∈ [] then _ else none
  split_ifs <;> simp_all

theorem Tracks.step {call : MacosCall} (hproper : call.Proper tunnel) : Tracks (s.step tunnel pid call) := by
  cases call with
  | message protocol rtm =>
    obtain ⟨type, index, flags, addrs, owner, payload⟩ := rtm
    cases type with
    | delete => exact h.handleRtmDelete hproper
    | other => exact h
    | add | change | get => exact h.handleRtmUpdate hproper
  | addExclusionRoute p => exact h.addExclusionRoute p
  | deleteExclusionRoute p => exact h.deleteExclusionRoute p
  | flushExclusionRoutes => exact h.flushExclusionRoutes

end

theorem handleRtmDelete_protocol {m : MacosRouteMonitor}
    (hproper : rtm.isDefault tunnel = true → (inetFamily (rtm.address 0)).isSome = true)
    (protocol other : AddressFamily) : m.handleRtmDelete tunnel protocol rtm = m.handleRtmDelete tunnel other rtm := by
  unfold MacosRouteMonitor.handleRtmDelete
  split_ifs with hdefault
  · obtain ⟨family, hfamily⟩ := Option.isSome_iff_exists.mp (hproper hdefault)
    rw [hfamily]
  · rfl

theorem step_withProtocol {call : MacosCall} (hproper : call.Proper tunnel) (protocol : AddressFamily) :
    s.step tunnel pid (call.withProtocol protocol) = s.step tunnel pid call := by
  cases call with
  | message old rtm =>
    obtain ⟨type, index, flags, addrs, owner, payload⟩ := rtm
    cases type with
    | delete =>
      have hsame := handleRtmDelete_protocol (m := s.monitor) hproper protocol old
      exact congrArg (fun after => MacosSystem.mk after.1 (after.2.foldl SentMessage.accept s.kernel)) hsame
    | _ => rfl
  | _ => rfl

/-- **The exclusion routes mirror the known default route**: in every run of proper steps the kernel holds, after each
of them, the routes for the prefixes in the list through the default route that is known, and the value of the
uninitialised variable counts in none. -/
theorem mirrors_of_proper (tunnel pid : ℕ) (calls : List MacosCall) (h : ∀ call ∈ calls, call.Proper tunnel) :
    (calls.foldl (step tunnel pid) {}).Mirrors ∧
      ∀ before call after, calls = before ++ call :: after → ∀ protocol,
        (before.foldl (step tunnel pid) {}).step tunnel pid (call.withProtocol protocol) =
          (before.foldl (step tunnel pid) {}).step tunnel pid call := by
  have hstart : Tracks {} := ⟨fun p => by simp, fun family => Nat.zero_le _⟩
  refine ⟨(List.foldlRecOn calls (step tunnel pid) hstart fun s hs call hcall => hs.step (h call hcall)).mirrors, ?_⟩
  rintro before call after rfl protocol
  exact step_withProtocol (h call (by simp)) protocol

/-! ### A default route, found and lost -/

def excludedHost : IpPrefix := ⟨⟨[203, 0, 113, 9], Or.inl rfl⟩, 32, by decide⟩

def gatewayAddress : List UInt8 := [16, 2, 0, 0, 192, 168, 1, 1, 0, 0, 0, 0, 0, 0, 0, 0]

/-- The default route through that gateway, with the address family of its destination and an unspecified netmask. -/
def defaultMessage (type : RtmType) (family : UInt8) : RouteMessage :=
  ⟨type, 4, 0, 7, 1, [16, family, 0, 0, 0, 0, 0, 0, 0, 0, 0, 0, 0, 0, 0, 0] ++ gatewayAddress ++ [0, 0, 0, 0]⟩

theorem default_route_found :
    let calls := [MacosCall.addExclusionRoute excludedHost, .message .unspec (defaultMessage .add 2)]
    (calls.foldl (step 9 100) {}).kernel excludedHost = some ⟨some gatewayAddress, 4⟩ ∧
      (calls.foldl (step 9 100) {}).Mirrors := by
  refine ⟨by decide +kernel, (mirrors_of_proper 9 100 _ ?_).1⟩
  intro call hcall
  rcases List.mem_pair.mp hcall with rfl | rfl
  · trivial
  · exact fun _ => ⟨by decide +kernel, by decide +kernel⟩

/-- A default route of an unspecified family is lost: whether the exclusion route is deleted, with the default route of
its own family still known, depends on what the uninitialised variable holds. -/
theorem unspecified_destination_deletes :
    let s := [MacosCall.addExclusionRoute excludedHost, .message .unspec (defaultMessage .add 2)].foldl (step 9 100) {}
    let lost := fun protocol => s.step 9 100 (.message protocol (defaultMessage .delete 0))
    (lost .inet).kernel excludedHost = none ∧ ¬ (lost .inet).Mirrors ∧
      (lost .inet6).kernel excludedHost = some ⟨some gatewayAddress, 4⟩ := by
  refine ⟨by decide +kernel, fun h => absurd (h excludedHost) (by decide +kernel), by decide +kernel⟩

end MacosSystem

end FreshVpn
