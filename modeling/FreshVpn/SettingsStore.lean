import Mathlib.Data.List.AList
import Mathlib.Logic.Function.Basic
import FreshVpn.ServersContainers
import FreshVpn.ServersJson

/-! The settings of the client (`SecureQSettings`): a file, of which one key is encrypted with secrets from the
system keychain, and the values a process has cached. Qt, the cipher and the keychain are parameters with their
documented behaviour. -/

namespace FreshVpn

/-- A `QVariant`, by the types the settings distinguish. -/
inductive Variant where
  | invalid
  | bool (value : Bool)
  | int (value : Int)
  | string (value : String)
  | byteArray (value : List UInt8)
  /-- A value of another type (lists, maps, dates), by its text. -/
  | other (text : String)
  deriving DecidableEq

/-- What the settings use of Qt. -/
structure Qt where
  /-- `QVariant::toBool`. -/
  toBool : Variant → Bool
  toBool_bool : ∀ b, toBool (.bool b) = b
  toBool_invalid : toBool .invalid = false
  /-- `QVariant::toInt`. -/
  toInt : Variant → Int
  /-- `QVariant::toString`. -/
  toString : Variant → String
  toString_string : ∀ s, toString (.string s) = s
  /-- `QVariant::toByteArray`. -/
  toByteArray : Variant → List UInt8
  toByteArray_byteArray : ∀ bytes, toByteArray (.byteArray bytes) = bytes
  /-- `QVariant::toMap`, `toStringList`, `toJsonArray` and `toDateTime`, by the text of the result. -/
  toStructured : Variant → String
  /-- `QJsonDocument::fromJson(text).array()`. -/
  documentArray : List UInt8 → List Json
  documentArray_nil : documentArray [] = []
  /-- `QJsonValue::fromVariant` and `QJsonValue::toVariant`. -/
  fromVariant : Variant → Json
  toVariant : Json → Variant
  toVariant_ne_byteArray : ∀ json bytes, toVariant json ≠ .byteArray bytes
  /-- `QDataStream << QVariant` and `QDataStream >> QVariant`. -/
  writeStream : Variant → List UInt8
  readStream : List UInt8 → Variant
  readStream_writeStream : ∀ v, readStream (writeStream v) = v

/-- The two entries of the keychain. -/
inductive SecTag where
  | settingsKeyTag | settingsIvTag
  deriving DecidableEq

/-- What surrounds the store. The faults are given by the number of the call: `keychainReadFails n` says
that the `n`th read of the keychain yields no bytes, `encryptionThrows n` that the `n`th encryption throws. -/
structure SettingsEnvironment (qt : Qt) where
  platform : Platform
  encryptionEnabled : Bool
  /-- `QBlockCipher::encryptAesBlockCipher(value, key, iv)`. -/
  encryptAesBlockCipher : List UInt8 → List UInt8 → List UInt8 → List UInt8
  /-- `QBlockCipher::decryptAesBlockCipher(value, key, iv)`, `none` if it throws. -/
  decryptAesBlockCipher : List UInt8 → List UInt8 → List UInt8 → Option (List UInt8)
  decrypt_encrypt : ∀ value key iv, decryptAesBlockCipher (encryptAesBlockCipher value key iv) key iv = some value
  /-- `QBlockCipher::generatePrivateSalt(32)`, by the number of the draw. -/
  generatePrivateSalt : ℕ → List UInt8
  generatePrivateSalt_ne_nil : ∀ n, generatePrivateSalt n ≠ []
  keychainReadFails : ℕ → Bool
  encryptionThrows : ℕ → Bool

/-- The keychain is not used on Linux. -/
def SettingsEnvironment.encryptionRequired {qt : Qt} (env : SettingsEnvironment qt) : Bool :=
  if env.encryptionEnabled = false then false else if env.platform = .linux then false else true

structure SecureQSettings where
  /-- `m_settings`, the file. -/
  settings : AList fun _ : String => Variant
  /-- The keychain; an entry that is not there is empty. -/
  keychain : SecTag → List UInt8
  /-- `m_cache`. -/
  cache : String → Option Variant
  /-- `m_key` and `m_iv`. -/
  loaded : SecTag → List UInt8
  saltsDrawn : ℕ
  keychainReads : ℕ
  encryptions : ℕ

namespace SecureQSettings

def encryptedKeys : List String := ["Servers/serversList"]

/-- The bytes of `EncData`. -/
def magicString : List UInt8 := [69, 110, 99, 68, 97, 116, 97]

/-- What follows the mark in a value that is marked as encrypted. -/
def encryptedPart : Variant → Option (List UInt8)
  | .byteArray bytes => if magicString.isPrefixOf bytes then some (bytes.drop magicString.length) else none
  | _ => none

theorem encryptedPart_magicString_append (bytes : List UInt8) :
    encryptedPart (.byteArray (magicString ++ bytes)) = some bytes := by
  unfold encryptedPart
  dsimp only
  rw [if_pos (List.isPrefixOf_iff_prefix.mpr (List.prefix_append _ _)), List.drop_left]

/-! ### The keychain -/

section Keychain

variable {qt : Qt} (env : SettingsEnvironment qt) (tag : SecTag)

def getSecTag (s : SecureQSettings) : List UInt8 × SecureQSettings :=
  (if env.keychainReadFails s.keychainReads then [] else s.keychain tag,
    { s with keychainReads := s.keychainReads + 1 })

def setSecTag (data : List UInt8) (s : SecureQSettings) : SecureQSettings :=
  { s with keychain := Function.update s.keychain tag data }

/-- Keeps what was read of the keychain in `m_key` or `m_iv`. -/
def setLoaded (data : List UInt8) (s : SecureQSettings) : SecureQSettings :=
  { s with loaded := Function.update s.loaded tag data }

variable (s : SecureQSettings)

/-- `generatePrivateSalt(32)`. -/
def drawSalt : List UInt8 × SecureQSettings :=
  (env.generatePrivateSalt s.saltsDrawn, { s with saltsDrawn := s.saltsDrawn + 1 })

/-- Stores a new entry and reads it back. -/
def createSecTag (s : SecureQSettings) : List UInt8 × SecureQSettings :=
  let (key, s) := s.drawSalt env
  let (data, s) := (s.setSecTag tag key).getSecTag env tag
  let s := s.setLoaded tag data
  if key ≠ data then ([], s) else (data, s)

/-- `getEncKey` and `getEncIv`: an entry that cannot be read is replaced by a new one. -/
def getEnc (s : SecureQSettings) : List UInt8 × SecureQSettings :=
  if s.loaded tag ≠ [] then (s.loaded tag, s)
  else
    let (data, s) := s.getSecTag env tag
    let s := s.setLoaded tag data
    if data = [] then s.createSecTag env tag else (data, s)

def getEncKey : List UInt8 × SecureQSettings := s.getEnc env .settingsKeyTag

def getEncIv : List UInt8 × SecureQSettings := s.getEnc env .settingsIvTag

/-- `!getEncKey().isEmpty() && !getEncIv().isEmpty()`. -/
def keysAvailable : Bool × SecureQSettings :=
  let (key, s) := s.getEncKey env
  if key = [] then (false, s)
  else
    let (iv, s) := s.getEncIv env
    (iv != [], s)

end Keychain

/-! ### Reading and writing -/

section Access

variable {qt : Qt} (env : SettingsEnvironment qt)

/-- Empty if the cipher throws. -/
def encryptText (value : List UInt8) (s : SecureQSettings) : List UInt8 × SecureQSettings :=
  let (key, s) := s.getEncKey env
  let (iv, s) := s.getEncIv env
  (if env.encryptionThrows s.encryptions then [] else env.encryptAesBlockCipher value key iv,
    { s with encryptions := s.encryptions + 1 })

/-- Empty if the cipher throws. -/
def decryptText (value : List UInt8) (s : SecureQSettings) : List UInt8 × SecureQSettings :=
  let (key, s) := s.getEncKey env
  let (iv, s) := s.getEncIv env
  ((env.decryptAesBlockCipher value key iv).getD [], s)

variable (key : String)

def insertCache (value : Variant) (s : SecureQSettings) : SecureQSettings :=
  { s with cache := Function.update s.cache key (some value) }

def writeFile (value : Variant) (s : SecureQSettings) : SecureQSettings :=
  { s with settings := s.settings.insert key value }

/-- What `value` does with a value marked as encrypted. -/
def decryptValue (encryptedValue : List UInt8) (s : SecureQSettings) : Variant × SecureQSettings :=
  let (available, s) := s.keysAvailable env
  if available then
    let (decryptedValue, s) := s.decryptText env encryptedValue
    let value := qt.readStream decryptedValue
    (value, s.insertCache key value)
  else (.invalid, s)

def value (defaultValue : Variant) (s : SecureQSettings) : Variant × SecureQSettings :=
  match s.cache key with
  | some value => (value, s)
  | none =>
    match s.settings.lookup key with
    | none => (defaultValue, s)
    | some stored =>
      match encryptedPart stored with
      | none => (stored, s.insertCache key stored)
      | some encryptedValue => s.decryptValue env key encryptedValue

/-- What `setValue` does with a key that is to be encrypted. -/
def encryptValue (value : Variant) (s : SecureQSettings) : SecureQSettings :=
  let (available, s) := s.keysAvailable env
  if available then
    let (encryptedValue, s) := s.encryptText env (qt.writeStream value)
    (s.writeFile key (.byteArray (magicString ++ encryptedValue))).insertCache key value
  else s

def setValue (value : Variant) (s : SecureQSettings) : SecureQSettings :=
  if env.encryptionRequired ∧ key ∈ encryptedKeys then s.encryptValue env key value
  else (s.writeFile key value).insertCache key value

def clearSettings (s : SecureQSettings) : SecureQSettings := { s with settings := ∅, cache := fun _ => none }

/-- Reads a value and writes it back, encrypted if it was not. -/
def convert (s : SecureQSettings) (key : String) : SecureQSettings :=
  let (val, s) := s.value env key .invalid
  s.setValue env key val

def start (s : SecureQSettings) : SecureQSettings :=
  let s := { s with cache := fun _ => none, loaded := fun _ => [] }
  let encrypted := qt.toBool ((s.settings.lookup "Conf/encrypted").getD .invalid)
  if env.encryptionRequired ∧ encrypted = false then
    ((s.settings.keys.filter (· ∈ encryptedKeys)).foldl (convert env) s).writeFile "Conf/encrypted" (.bool true)
  else s

end Access

end SecureQSettings

/-! ### A small environment -/

namespace SmallEnvironment

def unary (ns : List ℕ) : List UInt8 := ns.flatMap fun n => List.replicate n 1 ++ [0]

def readUnary : ℕ → List UInt8 → List ℕ
  | _, [] => []
  | n, byte :: rest => if byte = 0 then n :: readUnary 0 rest else readUnary (n + 1) rest

theorem readUnary_replicate (m n : ℕ) (rest : List UInt8) :
    readUnary m (List.replicate n 1 ++ 0 :: rest) = (m + n) :: readUnary 0 rest := by
  induction n generalizing m with
  | zero =>
    rfl
  | succ n ih =>
    rw [List.replicate_succ, List.cons_append, readUnary, if_neg (by decide), ih, Nat.add_right_comm, Nat.add_assoc]

theorem readUnary_unary (ns : List ℕ) : readUnary 0 (unary ns) = ns := by
  induction ns with
  | nil =>
    rfl
  | cons n ns ih =>
    rw [unary, List.flatMap_cons, List.append_assoc, List.singleton_append, readUnary_replicate, Nat.zero_add]
    exact congrArg _ ih

def numbers : Variant → List ℕ
  | .invalid => []
  | .bool b => [1, b.toNat]
  | .int i => [2, i.toNat, (-i).toNat]
  | .string s => 3 :: s.toList.map Char.toNat
  | .byteArray bytes => 4 :: bytes.map UInt8.toNat
  | .other s => 5 :: s.toList.map Char.toNat

def ofNumbers : List ℕ → Variant
  | [1, b] => .bool (b = 1)
  | [2, m, n] => .int (m - n)
  | 3 :: ns => .string (String.ofList (ns.map Char.ofNat))
  | 4 :: ns => .byteArray (ns.map UInt8.ofNat)
  | 5 :: ns => .other (String.ofList (ns.map Char.ofNat))
  | _ => .invalid

theorem ofNumbers_numbers (v : Variant) : ofNumbers (numbers v) = v := by
  have htext : ∀ s : String, String.ofList ((s.toList.map Char.toNat).map Char.ofNat) = s := by
    intro s
    rw [List.map_map, show Char.ofNat ∘ Char.toNat = id from funext Char.ofNat_toNat, List.map_id, String.ofList_toList]
  cases v with
  | invalid => rfl
  | bool b => cases b <;> rfl
  | int i =>
    change Variant.int _ = _
    congr 1
    omega
  | string s => exact congrArg Variant.string (htext s)
  | byteArray bytes =>
    change Variant.byteArray _ = _
    rw [List.map_map, show UInt8.ofNat ∘ UInt8.toNat = id from funext fun _ => UInt8.ofNat_toNat, List.map_id]
  | other s => exact congrArg Variant.other (htext s)

def text (bytes : List UInt8) : String := String.ofList (bytes.map fun byte => Char.ofNat byte.toNat)

/-- Every byte of a document stands for a server at the host of that name. -/
def qt : Qt where
  toBool v := v = .bool true
  toBool_bool b := by cases b <;> rfl
  toBool_invalid := rfl
  toInt
    | .int i => i
    | _ => 0
  toString
    | .string s => s
    | .byteArray bytes => text bytes
    | .bool true => "true"
    | .bool false => "false"
    | _ => ""
  toString_string _ := rfl
  toByteArray
    | .byteArray bytes => bytes
    | .string s => s.toList.map fun c => UInt8.ofNat c.toNat
    | _ => []
  toByteArray_byteArray _ := rfl
  toStructured
    | .other t => t
    | _ => ""
  documentArray bytes := bytes.map fun byte => .object [("hostName", .string (text [byte]))]
  documentArray_nil := rfl
  fromVariant
    | .invalid => .null
    | .bool b => .bool b
    | .int i => .double i
    | .string s => .string s
    | .byteArray bytes => .string (text bytes)
    | .other t => .array [.string t]
  toVariant
    | .bool b => .bool b
    | .double q => .int q.num
    | .string s => .string s
    | .array [.string t] => .other t
    | _ => .invalid
  toVariant_ne_byteArray json bytes h := by
    split at h <;> cases h
  writeStream v := unary (numbers v)
  readStream bytes := ofNumbers (readUnary 0 bytes)
  readStream_writeStream v := by rw [readUnary_unary, ofNumbers_numbers]

/-- An encryption puts the key and the IV in front of the text. -/
def environment (platform : Platform) (keychainReadFails encryptionThrows : ℕ → Bool) :
    SettingsEnvironment qt where
  platform
  encryptionEnabled := true
  encryptAesBlockCipher value key iv := key ++ iv ++ value
  decryptAesBlockCipher value key iv :=
    if (key ++ iv).isPrefixOf value then some (value.drop (key ++ iv).length) else none
  decrypt_encrypt value key iv := by
    rw [if_pos (List.isPrefixOf_iff_prefix.mpr (List.prefix_append _ _)), List.drop_left]
  generatePrivateSalt n := [UInt8.ofNat (n + 1)]
  generatePrivateSalt_ne_nil n := List.cons_ne_nil _ _
  keychainReadFails
  encryptionThrows

end SmallEnvironment

end FreshVpn
