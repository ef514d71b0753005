import FreshVpn.MacosRoutes
import FreshVpn.LibraryBytes

/-! What the macOS route monitor reads of the routing socket. Both loops advance by lengths that the bytes themselves
give, and a field of a header is among the received bytes only if they reach so far. -/

namespace FreshVpn

/-- The end of a loop over bytes: its result, or a read past their end. A loop that has taken all the steps it is given
is still `running`. -/
inductive Reading (α : Type) where
  | finished (result : α)
  | outside
  | running

def Reading.map {α β : Type} (f : α → β) : Reading α → Reading β
  | .finished result => .finished (f result)
  | .outside => .outside
  | .running => .running

@[simp] theorem Reading.map_eq_finished {α β : Type} {f : α → β} {x : Reading α} {b : β} :
    x.map f = .finished b ↔ ∃ a, x = .finished a ∧ f a = b := by
  cases x <;> simp [Reading.map]

namespace MacosRouteMonitor

variable (tunnel : ℕ) (bytes : List UInt8)

/-- A field of a header, in the byte order of the machine. -/
def field (offset width : ℕ) : ℕ := Bytes.low ((bytes.drop offset).take width)

def msglen : ℕ := field bytes 0 2

def rtmType : ℕ → RtmType
  | 1 => .add
  | 2 => .delete
  | 3 => .change
  | 4 => .get
  | _ => .other

/-- The message at the start of the bytes. -/
def routeMessage : RouteMessage where
  type := rtmType (field bytes 3 1)
  index := field bytes 4 2
  flags := field bytes 8 4
  addrs := field bytes 12 4
  pid := field bytes 16 4
  payload := (bytes.take (msglen bytes)).drop 92

/-- The fields that are read of the message, as offset and width: `rtm_type`, and in the handlers `rtm_index`,
`rtm_addrs`, `rtm_flags` and `rtm_pid`, or `ifm_index`. -/
def headerReads : List (ℕ × ℕ) :=
  let rtm := routeMessage bytes
  let flags := if 3 ≤ (parseAddrList rtm.payload).length then [(8, 4), (16, 4)] else []
  (3, 1) ::
    match rtm.type with
    | .delete => (4, 2) :: if rtm.index = tunnel then [] else (12, 4) :: flags
    | .add | .change | .get => (4, 2) :: (12, 4) :: flags
    -- `RTM_IFINFO`
    | .other => if field bytes 3 1 = 14 then [(12, 2)] else []

/-- The loop of `rtsockReady`, from the message at the start of the bytes on. -/
def rtsockLoop : ℕ → List UInt8 → Reading (List RouteMessage)
  | 0, _ => .running
  | fuel + 1, bytes =>
    if bytes = [] then .finished []
    else if bytes.length < 2 then .outside
    else if bytes.length < msglen bytes then .finished []
    else if ∃ read ∈ headerReads tunnel bytes, bytes.length < read.1 + read.2 then .outside
    else (rtsockLoop fuel (bytes.drop (msglen bytes))).map (routeMessage bytes :: ·)

/-- The loop of `parseAddrList` with its reads of `sa_len`. -/
def readAddrs : ℕ → List UInt8 → Reading (List (List UInt8))
  | 0, _ => .running
  | fuel + 1, payload =>
    if payload.length < 2 then .finished []
    else
      match payload[0]? with
      | none => .outside
      | some len =>
        if payload.length < paddedSize len.toNat then .finished []
        else (readAddrs fuel (payload.drop (paddedSize len.toNat))).map (payload.take (paddedSize len.toNat) :: ·)

/-! ### Messages that can be read -/

/-- How far the header is read. -/
def headerSize : ℕ :=
  match (routeMessage bytes).type with
  | .delete => if (routeMessage bytes).index = tunnel then 6 else 16
  | .add | .change | .get => 16
  | .other => if field bytes 3 1 = 14 then 14 else 4

/-- The bytes are messages one after another: each has a length and is as long as its header is read, and the last one
may be cut off after its length. -/
inductive Framed : List UInt8 → Prop where
  | nil : Framed []
  | overflow {bytes : List UInt8} (hlen : 2 ≤ bytes.length) (hcut : bytes.length < msglen bytes) : Framed bytes
  | message {bytes : List UInt8} (hfits : msglen bytes ≤ bytes.length) (hpos : 0 < msglen bytes)
      (hheader : headerSize tunnel bytes ≤ bytes.length) (hrest : Framed (bytes.drop (msglen bytes))) : Framed bytes

variable {tunnel bytes}

theorem four_le_headerSize : 4 ≤ headerSize tunnel bytes := by
  unfold headerSize
  split <;> (try split_ifs) <;> omega

theorem headerReads_inside_iff :
    (∀ read ∈ headerReads tunnel bytes, read.1 + read.2 ≤ bytes.length) ↔ headerSize tunnel bytes ≤ bytes.length := by
  have hflags : 3 ≤ (parseAddrList (routeMessage bytes).payload).length → 20 ≤ bytes.length := by
    intro hthree
    by_contra hshort
    have hnil : (routeMessage bytes).payload = [] := List.drop_eq_nil_of_le (by rw [List.length_take]; omega)
    rw [hnil] at hthree
    cases hthree
  unfold headerReads headerSize
  dsimp only
  generalize (parseAddrList (routeMessage bytes).payload).length = addrs at hflags
  cases (routeMessage bytes).type with
  | add | delete | change | get | other => split_ifs <;> simp <;> omega

theorem framed_of_rtsockLoop {fuel : ℕ} {messages : List RouteMessage}
    (h : rtsockLoop tunnel fuel bytes = .finished messages) : Framed tunnel bytes := by
  induction fuel generalizing bytes messages with
  | zero => cases h
  | succ fuel ih =>
    rw [rtsockLoop] at h
    split_ifs at h with hnil hshort hcut hreads
    · exact hnil ▸ .nil
    · exact .overflow (Nat.not_lt.mp hshort) hcut
    · obtain ⟨rest, hrest, -⟩ := Reading.map_eq_finished.mp h
      have hframed := ih hrest
      rcases Nat.eq_zero_or_pos (msglen bytes) with hzero | hpos
      · -- the loop is at the same message again, with less fuel
        rwa [hzero, List.drop_zero] at hframed
      · refine .message (Nat.not_lt.mp hcut) hpos (headerReads_inside_iff.mp fun read hread => ?_) hframed
        by_contra hout
        exact hreads ⟨read, hread, Nat.not_le.mp hout⟩

theorem Framed.finishes (h : Framed tunnel bytes) :
    ∃ fuel messages, rtsockLoop tunnel fuel bytes = .finished messages := by
  induction h with
  | nil => exact ⟨1, [], rfl⟩
  | @overflow bytes hlen hcut =>
    refine ⟨1, [], ?_⟩
    have hnil : bytes ≠ [] := List.ne_nil_of_length_pos (by omega)
    rw [rtsockLoop, if_neg hnil, if_neg (Nat.not_lt.mpr hlen), if_pos hcut]
  | @message bytes hfits hpos hheader hrest ih =>
    obtain ⟨fuel, messages, hloop⟩ := ih
    have hfour : 4 ≤ headerSize tunnel bytes := four_le_headerSize
    have hnil : bytes ≠ [] := List.ne_nil_of_length_pos (by omega)
    refine ⟨fuel + 1, routeMessage bytes :: messages, ?_⟩
    rw [rtsockLoop, if_neg hnil, if_neg (by omega), if_neg (by omega), if_neg ?_, hloop]
    · rfl
    · rintro ⟨read, hread, hout⟩
      exact absurd (headerReads_inside_iff.mpr hheader read hread) (Nat.not_le.mpr hout)

theorem readAddrs_eq {fuel : ℕ} {payload : List UInt8} (h : payload.length ≤ fuel) :
    readAddrs (fuel + 1) payload = .finished (parseAddrs fuel payload) := by
  induction fuel generalizing payload with
  | zero =>
    obtain rfl := List.length_eq_zero_iff.mp (Nat.le_zero.mp h)
    rfl
  | succ fuel ih =>
    rw [readAddrs, parseAddrs]
    cases payload with
    | nil => rfl
    | cons len rest =>
      have hpos := paddedSize_pos len.toNat
      change (if _ then _ else if _ < paddedSize len.toNat then _ else _) =
        Reading.finished (if _ then _ else if _ < paddedSize len.toNat then _ else _)
      split_ifs
      · rfl
      · rfl
      · rw [ih (by rw [List.length_drop]; omega)]
        rfl

/-- **Reading the routing socket is safe exactly if the received bytes are framed**: the loop over the messages comes
to an end and reads no field of a header past the received bytes. The parser of a list of addresses always does. -/
theorem reading_safe_iff (tunnel : ℕ) (received : List UInt8) :
    ((∃ fuel messages, rtsockLoop tunnel fuel received = .finished messages) ∧
      ∀ payload, ∃ fuel, readAddrs fuel payload = .finished (parseAddrList payload)) ↔ Framed tunnel received := by
  constructor
  · rintro ⟨⟨fuel, messages, hloop⟩, -⟩
    exact framed_of_rtsockLoop hloop
  · intro hframed
    exact ⟨hframed.finishes, fun payload => ⟨payload.length + 1, readAddrs_eq (le_refl _)⟩⟩

/-- A message of length zero is read for ever, and the type of one that is two bytes long is not among them. -/
theorem short_messages_unsafe :
    (¬ ∃ fuel messages, rtsockLoop 0 fuel [0, 0, 5, 0] = .finished messages) ∧ rtsockLoop 0 1 [2, 0] = .outside := by
  have hrunning : ∀ fuel, rtsockLoop 0 fuel [0, 0, 5, 0] = .running := by
    intro fuel
    induction fuel with
    | zero => rfl
    | succ fuel ih =>
      change (rtsockLoop 0 fuel [0, 0, 5, 0]).map _ = .running
      rw [ih]
      rfl
  refine ⟨?_, rfl⟩
  rintro ⟨fuel, messages, hloop⟩
  rw [hrunning] at hloop
  cases hloop

end MacosRouteMonitor

end FreshVpn
