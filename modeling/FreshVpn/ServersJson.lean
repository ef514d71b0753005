import Mathlib.Data.List.DropRight
import Mathlib.Data.Rat.Defs

/-! JSON values as the client's Qt classes present them, and the string operations the server code
applies to them. A missing member is `none` (Qt's `Undefined`), and every conversion is total: it returns
the default of its target type on a value of another type, as `QJsonValue` does. -/

namespace FreshVpn

/-- A `QJsonValue`; an object is the list of its members in key order. -/
inductive Json where
  | null
  | bool (value : Bool)
  | double (value : ℚ)
  | string (value : String)
  | array (elements : List Json)
  | object (members : List (String × Json))

abbrev JsonObject := List (String × Json)

namespace Json

def toString : Option Json → String
  | some (.string value) => value
  | _ => ""

def toBool : Option Json → Bool
  | some (.bool value) => value
  | _ => false

/-- `QJsonValue::toInt`: a double that is a whole number of the `int` range, else the default. -/
def toInt (value : Option Json) (default : Int) : Int :=
  match value with
  | some (.double q) => if q.den = 1 ∧ -2147483648 ≤ q.num ∧ q.num ≤ 2147483647 then q.num else default
  | _ => default

def toArray : Option Json → List Json
  | some (.array elements) => elements
  | _ => []

def toObject : Option Json → JsonObject
  | some (.object members) => members
  | _ => []

@[simp] theorem toArray_array (elements : List Json) : toArray (some (.array elements)) = elements := rfl

@[simp] theorem toObject_object (members : JsonObject) : toObject (some (.object members)) = members := rfl

end Json

namespace JsonObject

/-- `QJsonObject::value`; `none` stands for `Undefined`. -/
def value (object : JsonObject) (key : String) : Option Json := object.lookup key

def contains (object : JsonObject) (key : String) : Bool := (object.value key).isSome

def remove (object : JsonObject) (key : String) : JsonObject := object.filter fun member => member.1 != key

/-- `QJsonObject::insert`: overwrites the member of that key, or adds it at its place in key order. -/
def insert : JsonObject → String → Json → JsonObject
  | [], key, json => [(key, json)]
  | (k, v) :: rest, key, json =>
    if key = k then (key, json) :: rest
    else if key < k then (key, json) :: (k, v) :: rest
    else (k, v) :: insert rest key json

variable (object : JsonObject)

@[simp] theorem value_insert_self (key : String) (json : Json) : (object.insert key json).value key = some json := by
  induction object with
  | nil =>
    simp [insert, value]
  | cons member rest ih =>
    obtain ⟨k, v⟩ := member
    by_cases hk : key = k
    · simp [insert, value, hk]
    · by_cases hlt : key < k
      · simp [insert, value, hk, hlt]
      · have hne : (key == k) = false := by simpa using hk
        simp only [insert, hk, hlt, if_false]
        rw [value, List.lookup_cons, hne]
        exact ih

variable {key : String}

theorem value_insert_of_ne {key' : String} (hne : key' ≠ key) (json : Json) :
    (object.insert key json).value key' = object.value key' := by
  have hother : (key' == key) = false := by simpa using hne
  induction object with
  | nil =>
    simp [insert, value, hne]
  | cons member rest ih =>
    obtain ⟨k, v⟩ := member
    by_cases hk : key = k
    · subst hk
      simp [insert, value, List.lookup_cons, hother]
    · by_cases hlt : key < k
      · simp [insert, value, hk, hlt, List.lookup_cons, hother]
      · simp only [insert, hk, hlt, if_false]
        simp only [value, List.lookup_cons] at ih ⊢
        rw [ih]

theorem mem_keys_iff (key : String) : key ∈ object.map Prod.fst ↔ (object.value key).isSome := by
  induction object with
  | nil =>
    simp [value]
  | cons member rest ih =>
    obtain ⟨k, v⟩ := member
    simp only [value, List.lookup_cons]
    by_cases hk : key = k
    · simp [hk]
    · have hne : (key == k) = false := by simpa using hk
      simp [hk, hne]

theorem mem_of_value_eq_some {object : JsonObject} {json : Json} (h : object.value key = some json) :
    (key, json) ∈ object := by
  obtain ⟨before, after, rfl, -⟩ := List.lookup_eq_some_iff.mp h
  exact List.mem_append_right _ List.mem_cons_self

theorem value_remove_of_ne {key' : String} (hne : key' ≠ key) : (object.remove key).value key' = object.value key' := by
  induction object with
  | nil =>
    rfl
  | cons member rest ih =>
    obtain ⟨k, v⟩ := member
    simp only [remove, value, List.filter_cons, List.lookup_cons] at ih ⊢
    by_cases hk : key' = k
    · subst hk
      simp [hne]
    · have hother : (key' == k) = false := by simpa using hk
      split_ifs
      · rw [List.lookup_cons, hother, ih]
      · rw [hother, ih]

theorem remove_eq_self {object : JsonObject} (h : object.value key = none) : object.remove key = object := by
  rw [remove, List.filter_eq_self]
  intro member hmem
  rw [bne_iff_ne]
  rintro rfl
  have hkey := (mem_keys_iff object member.1).mp (List.mem_map_of_mem hmem)
  rw [h] at hkey
  cases hkey

@[simp] theorem remove_insert_self (key : String) (json : Json) :
    (object.insert key json).remove key = object.remove key := by
  induction object with
  | nil =>
    simp [insert, remove]
  | cons member rest ih =>
    obtain ⟨k, v⟩ := member
    by_cases hk : key = k
    · subst hk
      simp [insert, remove]
    · by_cases hlt : key < k
      · simp [insert, remove, hk, hlt]
      · simp only [insert, hk, hlt, if_false]
        simp only [remove, List.filter_cons] at ih ⊢
        rw [ih]

@[simp] theorem remove_remove (key : String) : (object.remove key).remove key = object.remove key := by
  simp [remove]

end JsonObject

/-! ### String operations -/

/-- `QChar::isSpace`. -/
def isSpace (c : Char) : Bool :=
  let n := c.toNat
  n = 0x20 || (0x09 ≤ n && n ≤ 0x0d) || n = 0x85 || n = 0xa0 || n = 0x1680 || (0x2000 ≤ n && n ≤ 0x200a) ||
    n = 0x2028 || n = 0x2029 || n = 0x202f || n = 0x205f || n = 0x3000

def trimmed (s : String) : String := String.ofList ((s.toList.dropWhile isSpace).rdropWhile isSpace)

theorem trimmed_trimmed (s : String) : trimmed (trimmed s) = trimmed s := by
  have hfront : ((s.toList.dropWhile isSpace).rdropWhile isSpace).dropWhile isSpace =
      (s.toList.dropWhile isSpace).rdropWhile isSpace := by
    -- Cutting at the end keeps the first character, which is already not a space.
    rw [List.dropWhile_eq_self_iff]
    intro hl
    have hpre : (s.toList.dropWhile isSpace).rdropWhile isSpace <+: s.toList.dropWhile isSpace :=
      List.rdropWhile_prefix _ _
    have hlong : 0 < (s.toList.dropWhile isSpace).length := hl.trans_le hpre.length_le
    rw [List.IsPrefix.getElem hpre hl]
    exact List.dropWhile_eq_self_iff.mp (List.dropWhile_idempotent isSpace s.toList) hlong
  rw [trimmed, trimmed, String.toList_ofList, hfront, List.rdropWhile_idempotent]

/-- `QString::contains`, on the characters. -/
def containsChars (needle : List Char) : List Char → Bool
  | [] => needle.isEmpty
  | c :: rest => needle.isPrefixOf (c :: rest) || containsChars needle rest

def containsText (text needle : String) : Bool := containsChars needle.toList text.toList

end FreshVpn
