import FreshVpn.LibraryBytes

/-! The addresses of the Android client's route arithmetic. An address is an array of bytes; each loop over them is
related here to what it does to the number that they write. -/

namespace FreshVpn

open Bytes

/-- An address of one of the two families; `java.net.InetAddress` is its bytes too. -/
structure IpAddress where
  address : List UInt8
  size_eq : address.length = 4 ∨ address.length = 16
deriving DecidableEq

inductive RangeException where
  | addressOverflow
  | mixedFamilies (start last : IpAddress)
  | startAfterEnd (start last : IpAddress)
deriving DecidableEq

namespace IpAddress

variable (ip : IpAddress)

def size : ℕ := ip.address.length

def maxMask : ℕ := ip.size * 8

def isIpv4 : Bool := ip.size = 4

def get (i : ℕ) : UInt8 := ip.address.getD i 0

def set (i : ℕ) (b : UInt8) : IpAddress :=
  ⟨ip.address.set i b, by rw [List.length_set]; exact ip.size_eq⟩

def fill (value : UInt8) (fromByte : ℕ) : IpAddress where
  address := ip.address.take fromByte ++ List.replicate (ip.size - fromByte) value
  size_eq := by
    have hsize := ip.size_eq
    simp only [size, List.length_append, List.length_take, List.length_replicate]
    omega

@[simp] theorem set_size (i : ℕ) (b : UInt8) : (ip.set i b).size = ip.size := by
  simp [size, set]

@[simp] theorem fill_size (value : UInt8) (fromByte : ℕ) : (ip.fill value fromByte).size = ip.size := by
  simp only [size, fill, List.length_append, List.length_take, List.length_replicate]
  omega

/-- The loop of `inc`, over the bytes from the last one on. -/
def incLoop : List UInt8 → List UInt8
  | [] => []
  | b :: rest => if b + 1 ≠ 0 then (b + 1) :: rest else (b + 1) :: incLoop rest

/-- The loop of `dec`, over the bytes from the last one on. -/
def decLoop : List UInt8 → List UInt8
  | [] => []
  | b :: rest => if b - 1 ≠ 0xff then (b - 1) :: rest else (b - 1) :: decLoop rest

theorem length_incLoop (bytes : List UInt8) : (incLoop bytes).length = bytes.length := by
  induction bytes with
  | nil => rfl
  | cons b rest ih =>
    unfold incLoop
    split_ifs
    · rfl
    · rw [List.length_cons, ih, List.length_cons]

theorem length_decLoop (bytes : List UInt8) : (decLoop bytes).length = bytes.length := by
  induction bytes with
  | nil => rfl
  | cons b rest ih =>
    unfold decLoop
    split_ifs
    · rfl
    · rw [List.length_cons, ih, List.length_cons]

def isMinIp : Bool := ip.address.all (· == 0)

def isMaxIp : Bool := ip.address.all (· == 0xff)

def inc : Except RangeException IpAddress :=
  if ip.address.all (· == 0xff) then .error .addressOverflow
  else .ok ⟨(incLoop ip.address.reverse).reverse, by simpa [length_incLoop] using ip.size_eq⟩

def dec : Except RangeException IpAddress :=
  if ip.address.all (· == 0) then .error .addressOverflow
  else .ok ⟨(decLoop ip.address.reverse).reverse, by simpa [length_decLoop] using ip.size_eq⟩

/-- The difference of the first bytes that differ. -/
def compareBytes : List UInt8 → List UInt8 → ℤ
  | a :: as, b :: bs => if (a.toNat : ℤ) - b.toNat ≠ 0 then a.toNat - b.toNat else compareBytes as bs
  | _, _ => 0

def compareTo (ip other : IpAddress) : ℤ :=
  if ip.size ≠ other.size then ip.size - other.size else compareBytes ip.address other.address

instance : LT IpAddress := ⟨fun ip other => ip.compareTo other < 0⟩

instance : LE IpAddress := ⟨fun ip other => ip.compareTo other ≤ 0⟩

instance (ip other : IpAddress) : Decidable (ip < other) := inferInstanceAs (Decidable (ip.compareTo other < 0))

instance (ip other : IpAddress) : Decidable (ip ≤ other) := inferInstanceAs (Decidable (ip.compareTo other ≤ 0))

/-- The number that the bytes write. -/
def value : ℕ := Bytes.value ip.address

/-- The place of an address on the line of all addresses. -/
def point : ℕ := if ip.size = 4 then ip.value else 2 ^ 128 + ip.value

/-! ### Values and points -/

theorem size_cases : ip.size = 4 ∨ ip.size = 16 := ip.size_eq

theorem value_lt : ip.value < 2 ^ ip.maxMask := by
  have hlt := Bytes.value_lt ip.address
  rwa [show (256 : ℕ) = 2 ^ 8 from rfl, ← pow_mul, Nat.mul_comm] at hlt

theorem eq_of_value_eq {ip other : IpAddress} (hsize : ip.size = other.size) (h : ip.value = other.value) :
    ip = other := by
  obtain ⟨address, hip⟩ := ip
  obtain ⟨address', hother⟩ := other
  obtain rfl : address = address' := value_inj hsize h
  rfl

theorem point_cases :
    (ip.size = 4 ∧ ip.point = ip.value ∧ ip.value < 2 ^ 32) ∨
      (ip.size = 16 ∧ ip.point = 2 ^ 128 + ip.value ∧ ip.value < 2 ^ 128) := by
  have hlt := ip.value_lt
  unfold maxMask at hlt
  rcases ip.size_cases with hsize | hsize
  · rw [hsize] at hlt
    exact Or.inl ⟨hsize, if_pos hsize, hlt⟩
  · rw [hsize] at hlt
    exact Or.inr ⟨hsize, if_neg (by omega), hlt⟩

theorem point_inj {ip other : IpAddress} (h : ip.point = other.point) : ip = other := by
  rcases ip.point_cases with ⟨hsize, hpoint, hlt⟩ | ⟨hsize, hpoint, hlt⟩ <;>
    rcases other.point_cases with ⟨hsize', hpoint', hlt'⟩ | ⟨hsize', hpoint', hlt'⟩
  · exact eq_of_value_eq (hsize.trans hsize'.symm) (by omega)
  · omega
  · omega
  · exact eq_of_value_eq (hsize.trans hsize'.symm) (by omega)

theorem exists_point_eq {x : ℕ} (h : x < 2 ^ 32 ∨ 2 ^ 128 ≤ x ∧ x < 2 ^ 129) : ∃ ip : IpAddress, ip.point = x := by
  rcases h with hlt | ⟨hle, hlt⟩
  · obtain ⟨bytes, hlen, hvalue⟩ := exists_value_eq (n := 4) (v := x) (by omega)
    exact ⟨⟨bytes, Or.inl hlen⟩, (if_pos hlen).trans hvalue⟩
  · obtain ⟨bytes, hlen, hvalue⟩ := exists_value_eq (n := 16) (v := x - 2 ^ 128) (by omega)
    have hsize : bytes.length ≠ 4 := by omega
    refine ⟨⟨bytes, Or.inr hlen⟩, (if_neg hsize).trans ?_⟩
    change 2 ^ 128 + Bytes.value bytes = x
    omega

theorem compareBytes_cases {as bs : List UInt8} (hlen : as.length = bs.length) :
    (compareBytes as bs < 0 ∧ Bytes.value as < Bytes.value bs) ∨ (compareBytes as bs = 0 ∧ as = bs) ∨
      (0 < compareBytes as bs ∧ Bytes.value bs < Bytes.value as) := by
  induction as generalizing bs with
  | nil =>
    obtain rfl := List.length_eq_zero_iff.mp hlen.symm
    exact Or.inr (Or.inl ⟨rfl, rfl⟩)
  | cons a as ih =>
    obtain _ | ⟨b, bs⟩ := bs
    · cases hlen
    · have hlen' : as.length = bs.length := Nat.succ.inj hlen
      unfold compareBytes
      split_ifs with hdiff
      · rcases Nat.lt_trichotomy a.toNat b.toNat with hlt | heq | hgt
        · exact Or.inl ⟨by omega, value_cons_lt_value_cons hlen' hlt⟩
        · omega
        · exact Or.inr (Or.inr ⟨by omega, value_cons_lt_value_cons hlen'.symm hgt⟩)
      · obtain rfl : a = b := UInt8.toNat_inj.mp (by omega)
        rw [value_cons, value_cons, hlen', List.cons.injEq]
        rcases ih hlen' with ⟨hlt, hvalue⟩ | ⟨heq, rfl⟩ | ⟨hgt, hvalue⟩
        · exact Or.inl ⟨hlt, Nat.add_lt_add_left hvalue _⟩
        · exact Or.inr (Or.inl ⟨heq, rfl, rfl⟩)
        · exact Or.inr (Or.inr ⟨hgt, Nat.add_lt_add_left hvalue _⟩)

theorem compareTo_cases (ip other : IpAddress) :
    (ip.compareTo other < 0 ∧ ip.point < other.point) ∨ (ip.compareTo other = 0 ∧ ip = other) ∨
      (0 < ip.compareTo other ∧ other.point < ip.point) := by
  unfold compareTo
  split_ifs with hsize
  · rcases ip.point_cases with ⟨hip, hpoint, hlt⟩ | ⟨hip, hpoint, hlt⟩ <;>
      rcases other.point_cases with ⟨hother, hpoint', hlt'⟩ | ⟨hother, hpoint', hlt'⟩ <;> omega
  · have hsame : ip.size = other.size := not_not.mp hsize
    have hpoints : ip.point < other.point ↔ ip.value < other.value := by
      unfold point
      split_ifs <;> omega
    have hpoints' : other.point < ip.point ↔ other.value < ip.value := by
      unfold point
      split_ifs <;> omega
    rw [hpoints, hpoints']
    rcases compareBytes_cases hsame with h | ⟨h, heq⟩ | h
    · exact Or.inl h
    · exact Or.inr (Or.inl ⟨h, eq_of_value_eq hsame (congrArg Bytes.value heq)⟩)
    · exact Or.inr (Or.inr h)

theorem lt_iff (ip other : IpAddress) : ip < other ↔ ip.point < other.point := by
  change ip.compareTo other < 0 ↔ _
  rcases ip.compareTo_cases other with ⟨hlt, hpoint⟩ | ⟨heq, rfl⟩ | ⟨hgt, hpoint⟩ <;> omega

theorem le_iff (ip other : IpAddress) : ip ≤ other ↔ ip.point ≤ other.point := by
  change ip.compareTo other ≤ 0 ↔ _
  rcases ip.compareTo_cases other with ⟨hlt, hpoint⟩ | ⟨heq, rfl⟩ | ⟨hgt, hpoint⟩ <;> omega

/-! ### The next address and the one before -/

theorem low_incLoop {bytes : List UInt8} (h : ∃ b ∈ bytes, b ≠ 255) : low (incLoop bytes) = low bytes + 1 := by
  induction bytes with
  | nil => simp at h
  | cons b rest ih =>
    unfold incLoop
    have hlt := b.toNat_lt
    have hnext : (b + 1).toNat = (b.toNat + 1) % 256 := UInt8.toNat_add b 1
    split_ifs with hcarry
    · have hne : b.toNat ≠ 255 := by
        intro heq
        exact hcarry (UInt8.toNat_inj.mp (by rw [hnext, heq]; rfl))
      rw [low_cons, low_cons, hnext, Nat.mod_eq_of_lt (by omega)]
      omega
    · -- The byte was 255, and the carry goes on.
      have hzero : (b + 1).toNat = 0 := congrArg UInt8.toNat (not_not.mp hcarry)
      have hmax : b.toNat = 255 := by omega
      have hrest : ∃ c ∈ rest, c ≠ 255 := by
        obtain ⟨c, hc, hne⟩ := h
        rcases List.mem_cons.mp hc with rfl | hc
        · exact absurd (UInt8.toNat_inj.mp hmax) hne
        · exact ⟨c, hc, hne⟩
      rw [low_cons, low_cons, hzero, hmax, ih hrest]
      omega

theorem low_decLoop {bytes : List UInt8} (h : ∃ b ∈ bytes, b ≠ 0) : low (decLoop bytes) + 1 = low bytes := by
  induction bytes with
  | nil => simp at h
  | cons b rest ih =>
    unfold decLoop
    have hlt := b.toNat_lt
    have hnext : (b - 1).toNat = (256 - 1 + b.toNat) % 256 := UInt8.toNat_sub b 1
    split_ifs with hborrow
    · have hne : b.toNat ≠ 0 := by
        intro heq
        exact hborrow (UInt8.toNat_inj.mp (by rw [hnext, heq]; rfl))
      rw [low_cons, low_cons, hnext]
      omega
    · -- The byte was 0, and the borrow goes on.
      have hmax : (b - 1).toNat = 255 := congrArg UInt8.toNat (not_not.mp hborrow)
      have hzero : b.toNat = 0 := by omega
      have hrest : ∃ c ∈ rest, c ≠ 0 := by
        obtain ⟨c, hc, hne⟩ := h
        rcases List.mem_cons.mp hc with rfl | hc
        · exact absurd (UInt8.toNat_inj.mp hzero) hne
        · exact ⟨c, hc, hne⟩
      have hrec := ih hrest
      rw [low_cons, low_cons, hmax, hzero]
      omega

theorem isMaxIp_iff : ip.isMaxIp = true ↔ ip.value + 1 = 2 ^ ip.maxMask := by
  have hpow : 2 ^ ip.maxMask = 256 ^ ip.address.length := by
    rw [show (256 : ℕ) = 2 ^ 8 from rfl, ← pow_mul, Nat.mul_comm]
    rfl
  rw [hpow, value, value_eq_max_iff, isMaxIp, List.all_eq_true]
  simp only [beq_iff_eq]

theorem isMinIp_iff : ip.isMinIp = true ↔ ip.value = 0 := by
  rw [value, value_eq_zero_iff, isMinIp, List.all_eq_true]
  simp only [beq_iff_eq]

theorem inc_of_not_max {ip : IpAddress} (h : ip.isMaxIp = false) :
    ∃ next, ip.inc = .ok next ∧ next.size = ip.size ∧ next.value = ip.value + 1 := by
  have hbyte : ∃ b ∈ ip.address.reverse, b ≠ 255 := by
    obtain ⟨b, hb, hne⟩ := List.all_eq_false.mp h
    exact ⟨b, List.mem_reverse.mpr hb, by simpa using hne⟩
  refine ⟨_, if_neg (by rw [← isMaxIp, h]; exact Bool.false_ne_true), ?_, ?_⟩
  · simp [size, length_incLoop]
  · rw [value, value_reverse, low_incLoop hbyte]
    rfl

theorem dec_of_not_min {ip : IpAddress} (h : ip.isMinIp = false) :
    ∃ previous, ip.dec = .ok previous ∧ previous.size = ip.size ∧ previous.value + 1 = ip.value := by
  have hbyte : ∃ b ∈ ip.address.reverse, b ≠ 0 := by
    obtain ⟨b, hb, hne⟩ := List.all_eq_false.mp h
    exact ⟨b, List.mem_reverse.mpr hb, by simpa using hne⟩
  refine ⟨_, if_neg (by rw [← isMinIp, h]; exact Bool.false_ne_true), ?_, ?_⟩
  · simp [size, length_decLoop]
  · rw [value, value_reverse, low_decLoop hbyte]
    rfl

theorem point_of_size_eq {ip other : IpAddress} (hsize : ip.size = other.size) :
    (ip.point : ℤ) - other.point = ip.value - other.value := by
  unfold point
  split_ifs <;> omega

theorem inc_eq_ok_iff {ip : IpAddress} (h : ip.isMaxIp = false) (other : IpAddress) :
    ip.inc = .ok other ↔ ip.point + 1 = other.point := by
  obtain ⟨next, hnext, hsize, hvalue⟩ := inc_of_not_max h
  have hpoint := point_of_size_eq hsize
  rw [hnext, Except.ok.injEq]
  constructor
  · rintro rfl
    omega
  · intro hsucc
    exact point_inj (by omega)

theorem dec_eq_ok_iff {ip : IpAddress} (h : ip.isMinIp = false) (other : IpAddress) :
    ip.dec = .ok other ↔ other.point + 1 = ip.point := by
  obtain ⟨previous, hprevious, hsize, hvalue⟩ := dec_of_not_min h
  have hpoint := point_of_size_eq hsize
  rw [hprevious, Except.ok.injEq]
  constructor
  · rintro rfl
    omega
  · intro hsucc
    exact point_inj (by omega)

end IpAddress

end FreshVpn
