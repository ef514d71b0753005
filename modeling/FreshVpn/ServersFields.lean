import Mathlib.Data.Rat.Cast.Defs
import FreshVpn.LibraryFields
import FreshVpn.ServersJson

/-! The fields of the stored configurations. -/

namespace FreshVpn

open Fields Function

namespace Json

/-- `QJsonValue::toString(defaultValue)`. -/
def toStringOr (defaultValue : String) : Option Json → String
  | some (.string value) => value
  | _ => defaultValue

/-- `QJsonValue::toBool(defaultValue)`. -/
def toBoolOr (defaultValue : Bool) : Option Json → Bool
  | some (.bool value) => value
  | _ => defaultValue

theorem toInt_range {defaultValue : Int} (hdefault : -2147483648 ≤ defaultValue ∧ defaultValue ≤ 2147483647)
    (member : Option Json) : -2147483648 ≤ toInt member defaultValue ∧ toInt member defaultValue ≤ 2147483647 := by
  unfold toInt
  split
  · split_ifs with hrange
    · exact hrange.2
    · exact hdefault
  · exact hdefault

theorem toInt_double {i : Int} (hi : -2147483648 ≤ i ∧ i ≤ 2147483647) (defaultValue : Int) :
    toInt (some (.double i)) defaultValue = i := by
  rw [toInt, Rat.num_intCast, Rat.den_intCast, if_pos ⟨rfl, hi⟩]

end Json

/-- The value of a field, by the type of the member variable. -/
inductive FieldValue where
  | text (value : String)
  | flag (value : Bool)
  | number (value : Int)
  | texts (values : List String)
  | array (elements : List Json)
  | object (members : JsonObject)

namespace FieldValue

def asText : FieldValue → String
  | .text value => value
  | _ => ""

def asFlag : FieldValue → Bool
  | .flag value => value
  | _ => false

def asNumber : FieldValue → Int
  | .number value => value
  | _ => 0

def asTexts : FieldValue → List String
  | .texts values => values
  | _ => []

def asArray : FieldValue → List Json
  | .array elements => elements
  | _ => []

def asObject : FieldValue → JsonObject
  | .object members => members
  | _ => []

end FieldValue

inductive FieldKind where
  /-- `toString()`, written if not empty. -/
  | text
  /-- `toString()`, always written. -/
  | textAlways
  /-- `toString(defaultValue)`, written if not empty. -/
  | textOr (defaultValue : String)
  /-- `toBool(defaultValue)`, written if it is not the default. -/
  | flag (defaultValue : Bool)
  /-- `toBool(defaultValue)`, always written. -/
  | flagAlways (defaultValue : Bool)
  /-- `toBool()` if the object contains it, else `missing`; always written. -/
  | flagPresent (missing : Bool)
  /-- `toInt(0)`, written if positive. -/
  | positive
  /-- `toInt(defaultValue)`, always written. -/
  | number (defaultValue : Int)
  /-- The elements' `toString()`, written if there are any. -/
  | texts
  /-- The elements' `toString()` without the empty ones, written if there are any. -/
  | nonEmptyTexts
  /-- `toArray()`, written if not empty. -/
  | array
  /-- `toObject()`, written if not empty. -/
  | object
  /-- `toObject()`, always written. -/
  | objectAlways

namespace FieldKind

variable {kind : FieldKind}

def read : FieldKind → Option Json → FieldValue
  | .text, member | .textAlways, member => .text (Json.toString member)
  | .textOr defaultValue, member => .text (Json.toStringOr defaultValue member)
  | .flag defaultValue, member | .flagAlways defaultValue, member => .flag (Json.toBoolOr defaultValue member)
  | .flagPresent missing, none => .flag missing
  | .flagPresent _, some json => .flag (Json.toBool (some json))
  | .positive, member => .number (Json.toInt member 0)
  | .number defaultValue, member => .number (Json.toInt member defaultValue)
  | .texts, member => .texts ((Json.toArray member).map fun json => Json.toString (some json))
  | .nonEmptyTexts, member =>
    .texts (((Json.toArray member).map fun json => Json.toString (some json)).filter (· ≠ ""))
  | .array, member => .array (Json.toArray member)
  | .object, member | .objectAlways, member => .object (Json.toObject member)

def write : FieldKind → FieldValue → Option Json
  | .text, v | .textOr _, v => if v.asText = "" then none else some (.string v.asText)
  | .textAlways, v => some (.string v.asText)
  | .flag defaultValue, v => if v.asFlag = defaultValue then none else some (.bool v.asFlag)
  | .flagAlways _, v | .flagPresent _, v => some (.bool v.asFlag)
  | .positive, v => if 0 < v.asNumber then some (.double v.asNumber) else none
  | .number _, v => some (.double v.asNumber)
  | .texts, v | .nonEmptyTexts, v => if v.asTexts = [] then none else some (.array (v.asTexts.map Json.string))
  | .array, v => if v.asArray = [] then none else some (.array v.asArray)
  | .object, v => if v.asObject = [] then none else some (.object v.asObject)
  | .objectAlways, v => some (.object v.asObject)

def field (kind : FieldKind) : Fields.Field Json FieldValue := ⟨kind.read, kind.write⟩

/-- The kinds whose default cannot be mistaken for a value that was left out. -/
def isStable : FieldKind → Bool
  | .textOr _ => false
  | .number defaultValue => -2147483648 ≤ defaultValue ∧ defaultValue ≤ 2147483647
  | _ => true

theorem settled_of_none {v : FieldValue} (hwrite : kind.write v = none) (hread : kind.write (kind.read none) = none) :
    kind.field.Settled v := by
  change kind.write (kind.read (kind.write v)) = kind.write v
  rw [hwrite, hread]

theorem settled_of_some {v : FieldValue} {j : Json} (hwrite : kind.write v = some j)
    (hread : kind.write (kind.read (some j)) = some j) : kind.field.Settled v := by
  change kind.write (kind.read (kind.write v)) = kind.write v
  rw [hwrite, hread]

theorem settled_text (v : FieldValue) : text.field.Settled v := by
  by_cases hs : v.asText = ""
  · exact settled_of_none (if_pos hs) rfl
  · exact settled_of_some (if_neg hs) (if_neg hs)

theorem settled_flag (defaultValue b : Bool) : (flag defaultValue).field.Settled (.flag b) := by
  by_cases hb : b = defaultValue
  · exact settled_of_none (if_pos hb) (if_pos rfl)
  · exact settled_of_some (if_neg hb) (if_neg hb)

theorem settled_positive {i : Int} (hi : -2147483648 ≤ i ∧ i ≤ 2147483647) : positive.field.Settled (.number i) := by
  by_cases hpos : 0 < i
  · refine settled_of_some (if_pos hpos) ?_
    change write .positive (.number (Json.toInt (some (.double i)) 0)) = _
    rw [Json.toInt_double hi]
    exact if_pos hpos
  · exact settled_of_none (if_neg hpos) rfl

theorem map_toString_map_string (l : List String) :
    (l.map Json.string).map (fun json => Json.toString (some json)) = l := by
  rw [List.map_map]
  exact List.map_id' l

theorem settled_texts (l : List String) : texts.field.Settled (.texts l) := by
  by_cases hl : l = []
  · exact settled_of_none (if_pos hl) rfl
  · refine settled_of_some (j := .array (l.map Json.string)) (if_neg hl) ?_
    change write .texts (.texts ((l.map Json.string).map fun json => Json.toString (some json))) = _
    rw [map_toString_map_string]
    exact if_neg hl

theorem settled_nonEmptyTexts {l : List String} (hne : l.filter (· ≠ "") = l) :
    nonEmptyTexts.field.Settled (.texts l) := by
  by_cases hl : l = []
  · exact settled_of_none (if_pos hl) rfl
  · refine settled_of_some (j := .array (l.map Json.string)) (if_neg hl) ?_
    change write .nonEmptyTexts
      (.texts (((l.map Json.string).map fun json => Json.toString (some json)).filter (· ≠ ""))) = _
    rw [map_toString_map_string, hne]
    exact if_neg hl

theorem settled_array (elements : List Json) : array.field.Settled (.array elements) := by
  by_cases hnil : elements = []
  · exact settled_of_none (if_pos hnil) rfl
  · exact settled_of_some (if_neg hnil) (if_neg hnil)

theorem settled_object (members : JsonObject) : object.field.Settled (.object members) := by
  by_cases hnil : members = []
  · exact settled_of_none (if_pos hnil) rfl
  · exact settled_of_some (if_neg hnil) (if_neg hnil)

theorem settled_read (hstable : kind.isStable = true) (member : Option Json) :
    kind.field.Settled (kind.read member) := by
  cases kind with
  | text => exact settled_text _
  | textAlways | flagAlways | objectAlways => rfl
  | textOr defaultValue => exact absurd hstable Bool.false_ne_true
  | flag defaultValue => exact settled_flag defaultValue _
  | flagPresent missing => cases member <;> rfl
  | positive => exact settled_positive (Json.toInt_range (by decide) member)
  | number defaultValue =>
    have hrange := Json.toInt_range (of_decide_eq_true hstable) member
    refine settled_of_some (j := .double (Json.toInt member defaultValue)) rfl ?_
    change some (Json.double (Json.toInt (some (.double (Json.toInt member defaultValue))) defaultValue)) = _
    rw [Json.toInt_double hrange]
  | texts => exact settled_texts _
  | nonEmptyTexts => exact settled_nonEmptyTexts (by simp [List.filter_filter])
  | array => exact settled_array _
  | object => exact settled_object _

/-- The kinds that read back every value that they have read. -/
def isExact : FieldKind → Bool
  | .text | .flag _ => true
  | _ => false

theorem read_write_read (hexact : kind.isExact = true) (member : Option Json) :
    kind.read (kind.write (kind.read member)) = kind.read member := by
  cases kind with
  | text =>
    change FieldValue.text (Json.toString (if Json.toString member = "" then none else _)) = _
    split_ifs with hempty
    · exact congrArg FieldValue.text hempty.symm
    · rfl
  | flag defaultValue =>
    change FieldValue.flag (Json.toBoolOr _ (if Json.toBoolOr defaultValue member = defaultValue then none else _)) = _
    split_ifs with hdefault
    · exact congrArg FieldValue.flag hdefault.symm
    · rfl
  | _ => cases hexact

end FieldKind

/-! ### Tables -/

def jsonMembers : Fields.Members JsonObject String Json where
  insert := JsonObject.insert
  value := JsonObject.value
  value_insert_self := JsonObject.value_insert_self
  value_insert_of_ne o _ _ json hne := o.value_insert_of_ne hne json

/-- The fields of a model by key. -/
abbrev Record := String → FieldValue

/-- The fields a model has, in the order in which it writes them. -/
structure FieldTable where
  entries : List (String × FieldKind)
  distinct : (entries.map Prod.fst).Nodup

namespace FieldTable

variable {record record' : Record} {kind : FieldKind} {key : String} (table : FieldTable)

def fields : List (String × Fields.Field Json FieldValue) :=
  table.entries.map fun entry => (entry.1, entry.2.field)

def toJson (record : Record) : JsonObject := Fields.writeRecord jsonMembers table.fields record []

def fromJson (json : JsonObject) : Record := Fields.readRecord jsonMembers table.fields (.text "") json

theorem map_fst_fields : table.fields.map Prod.fst = table.entries.map Prod.fst := by
  rw [fields, List.map_map]
  rfl

theorem nodup_fields : (table.fields.map Prod.fst).Nodup := table.map_fst_fields ▸ table.distinct

variable {table}

theorem mem_fields (hmem : (key, kind) ∈ table.entries) : (key, kind.field) ∈ table.fields :=
  List.mem_map_of_mem (f := fun entry : String × FieldKind => (entry.1, entry.2.field)) hmem

theorem value_toJson (hmem : (key, kind) ∈ table.entries) (record : Record) :
    (table.toJson record).value key = kind.write (record key) :=
  (value_writeRecord_of_mem jsonMembers table.nodup_fields record [] (mem_fields hmem)).trans Option.or_none

theorem value_toJson_of_not_mem (hkey : key ∉ table.entries.map Prod.fst) (record : Record) :
    (table.toJson record).value key = none :=
  value_writeRecord_of_not_mem jsonMembers record [] (table.map_fst_fields ▸ hkey)

theorem value_toJson_congr (table : FieldTable) (h : record key = record' key) :
    (table.toJson record).value key = (table.toJson record').value key := by
  by_cases hkey : key ∈ table.entries.map Prod.fst
  · obtain ⟨⟨key, kind⟩, hmem, rfl⟩ := List.mem_map.mp hkey
    rw [value_toJson hmem, value_toJson hmem, h]
  · rw [value_toJson_of_not_mem hkey, value_toJson_of_not_mem hkey]

theorem fromJson_of_mem (hmem : (key, kind) ∈ table.entries) (json : JsonObject) :
    table.fromJson json key = kind.read (json.value key) :=
  readRecord_of_mem jsonMembers table.nodup_fields _ json (mem_fields hmem)

theorem fromJson_of_not_mem (hkey : key ∉ table.entries.map Prod.fst) (json : JsonObject) :
    table.fromJson json key = .text "" :=
  readRecord_of_not_mem jsonMembers _ json (table.map_fst_fields ▸ hkey)

theorem fromJson_toJson_of_mem (hmem : (key, kind) ∈ table.entries)
    (hexact : kind.read (kind.write (record key)) = record key) :
    table.fromJson (table.toJson record) key = record key := by
  rw [fromJson_of_mem hmem, value_toJson hmem, hexact]

/-- The two records are written alike. -/
def Alike (table : FieldTable) (record record' : Record) : Prop :=
  ∀ entry ∈ table.entries, entry.2.write (record entry.1) = entry.2.write (record' entry.1)

section
variable (h : table.Alike record record')
include h

theorem Alike.toJson_eq : table.toJson record = table.toJson record' := by
  refine writeRecord_congr jsonMembers (fun entry hentry => ?_) []
  obtain ⟨entry', hmem, rfl⟩ := List.mem_map.mp hentry
  exact h entry' hmem

theorem Alike.asText_eq (hmem : (key, .text) ∈ table.entries) : (record key).asText = (record' key).asText := by
  have hwrite := h _ hmem
  change (if _ then none else some _) = (if _ then none else some _) at hwrite
  split_ifs at hwrite with hempty hempty'
  · exact hempty.trans hempty'.symm
  · exact Json.string.inj (Option.some.inj hwrite)

theorem Alike.update (key : String) (v : FieldValue) :
    table.Alike (Function.update record key v) (Function.update record' key v) := by
  intro entry hmem
  by_cases heq : entry.1 = key
  · rw [heq, update_self, update_self]
  · rw [update_of_ne heq, update_of_ne heq]
    exact h entry hmem

end

/-- Every field of the record is written as it would be after reading it back. -/
def Settled (table : FieldTable) (record : Record) : Prop :=
  ∀ entry ∈ table.entries, entry.2.field.Settled (record entry.1)

theorem settled_fromJson (hstable : ∀ entry ∈ table.entries, entry.2.isStable = true) (json : JsonObject) :
    table.Settled (table.fromJson json) := by
  intro entry hmem
  rw [fromJson_of_mem hmem]
  exact FieldKind.settled_read (hstable entry hmem) _

theorem Settled.update_text (h : table.Settled record) (hmem : (key, .text) ∈ table.entries) (s : String) :
    table.Settled (Function.update record key (.text s)) := by
  intro entry hentry
  by_cases heq : entry.1 = key
  · have hkind : entry = (key, .text) := List.inj_on_of_nodup_map table.distinct hentry hmem heq
    subst hkind
    exact FieldKind.settled_text _
  · rw [update_of_ne heq]
    exact h entry hentry

theorem Settled.write_fromJson (h : table.Settled record) {json : JsonObject}
    (hsame : ∀ entry ∈ table.entries, json.value entry.1 = (table.toJson record).value entry.1) :
    table.Alike (table.fromJson json) record := by
  intro entry hmem
  exact write_readRecord_writeRecord jsonMembers table.nodup_fields (mem_fields hmem) (h entry hmem) rfl
    (hsame entry hmem) _

end FieldTable

/-! ### Documents in strings -/

namespace Json

/-- The values a client configuration consists of: texts, flags, numbers and lists of texts. -/
def IsFlat : Json → Prop
  | .string _ | .bool _ | .double _ => True
  | .array elements => ∀ json ∈ elements, ∃ s, json = .string s
  | .null | .object _ => False

end Json

/-- `QJsonDocument`: `parse` is `fromJson` followed by `object()`, `none` if the text is not an object, and
`compact` is `toJson(Compact)`. A flat object is read back with the same members. -/
structure JsonText where
  parse : String → Option JsonObject
  compact : JsonObject → String
  parse_empty : parse "" = none
  parse_compact : ∀ object : JsonObject, (∀ member ∈ object, member.2.IsFlat) →
    ∃ object', parse (compact object) = some object' ∧ ∀ key, object'.value key = object.value key

namespace JsonObject

theorem mem_insert {object : JsonObject} {key : String} {json : Json} {member : String × Json}
    (h : member ∈ object.insert key json) : member = (key, json) ∨ member ∈ object := by
  induction object with
  | nil =>
    exact Or.inl (List.mem_singleton.mp h)
  | cons head rest ih =>
    obtain ⟨k, v⟩ := head
    unfold insert at h
    split_ifs at h
    · rcases List.mem_cons.mp h with h | h
      · exact Or.inl h
      · exact Or.inr (List.mem_cons_of_mem _ h)
    · exact List.mem_cons.mp h
    · rcases List.mem_cons.mp h with h | h
      · exact Or.inr (h ▸ List.mem_cons_self)
      · exact (ih h).imp_right (List.mem_cons_of_mem _)

end JsonObject

namespace FieldKind

def isFlat : FieldKind → Bool
  | .array | .object | .objectAlways => false
  | _ => true

theorem isFlat_write {kind : FieldKind} (hflat : kind.isFlat = true) {v : FieldValue} {json : Json}
    (hwrite : kind.write v = some json) : json.IsFlat := by
  have htexts : ∀ l : List String, (Json.array (l.map Json.string)).IsFlat := by
    intro l json hjson
    obtain ⟨s, -, rfl⟩ := List.mem_map.mp hjson
    exact ⟨s, rfl⟩
  cases kind <;> simp only [isFlat, Bool.false_eq_true] at hflat <;> simp only [write] at hwrite <;>
    (try split_ifs at hwrite) <;> cases hwrite <;> first | trivial | exact htexts _

end FieldKind

theorem FieldTable.isFlat_toJson {table : FieldTable} (hflat : ∀ entry ∈ table.entries, entry.2.isFlat = true)
    (record : Record) : ∀ member ∈ table.toJson record, member.2.IsFlat := by
  have hfold : ∀ (entries : List (String × FieldKind)) (object : JsonObject),
      (∀ entry ∈ entries, entry.2.isFlat = true) → (∀ member ∈ object, member.2.IsFlat) →
      ∀ member ∈ writeRecord jsonMembers (entries.map fun entry => (entry.1, entry.2.field)) record object,
        member.2.IsFlat := by
    intro entries
    induction entries with
    | nil =>
      intro object _ hobject
      exact hobject
    | cons entry entries ih =>
      intro object hentries hobject
      refine ih _ (fun e he => hentries e (List.mem_cons_of_mem _ he)) fun member hmember => ?_
      cases hwrite : entry.2.field.write (record entry.1) with
      | none =>
        simp only [hwrite] at hmember
        exact hobject member hmember
      | some json =>
        simp only [hwrite] at hmember
        rcases JsonObject.mem_insert hmember with rfl | hmember
        · exact FieldKind.isFlat_write (hentries entry List.mem_cons_self) hwrite
        · exact hobject member hmember
  exact hfold table.entries [] hflat fun member hmember => absurd hmember List.not_mem_nil

/-! ### A document format -/

namespace TokenText

/-- Texts one after the other: every character of a text is marked, and every text is ended. -/
def ofTokens (tokens : List (List Char)) : List Char :=
  tokens.flatMap fun token => token.flatMap (fun c => ['+', c]) ++ ['.']

def toTokens : List Char → List Char → List (List Char)
  | current, '+' :: c :: rest => toTokens (current ++ [c]) rest
  | current, _ :: rest => current :: toTokens [] rest
  | _, [] => []

theorem toTokens_ofTokens (tokens : List (List Char)) : toTokens [] (ofTokens tokens) = tokens := by
  have htoken : ∀ (token current rest : List Char),
      toTokens current (token.flatMap (fun c => ['+', c]) ++ '.' :: rest) = (current ++ token) :: toTokens [] rest := by
    intro token
    induction token with
    | nil =>
      intro current rest
      rw [List.append_nil]
      rfl
    | cons c token ih =>
      intro current rest
      refine (ih (current ++ [c]) rest).trans ?_
      rw [List.append_assoc]
      rfl
  induction tokens with
  | nil =>
    rfl
  | cons token tokens ih =>
    refine (congrArg (toTokens []) (List.append_assoc _ ['.'] (ofTokens tokens))).trans ?_
    refine (htoken token [] (ofTokens tokens)).trans ?_
    rw [ih, List.nil_append]

def units (n : ℕ) : List Char := List.replicate n 'x'

/-- The tag and the payload of a flat value. -/
def ofValue : Json → List Char × List Char
  | .string s => (['s'], s.toList)
  | .bool b => (['b'], if b then ['t'] else [])
  | .array elements => (['a'], ofTokens (elements.map fun json => (Json.toString (some json)).toList))
  | .double q => (['n'], ofTokens [units q.num.toNat, units (-q.num).toNat, units q.den])
  | .null | .object _ => ([], [])

def toValue (tag payload : List Char) : Json :=
  match tag with
  | ['s'] => .string (String.ofList payload)
  | ['b'] => .bool (payload = ['t'])
  | ['a'] => .array ((toTokens [] payload).map fun token => .string (String.ofList token))
  | _ =>
    match toTokens [] payload with
    | [positive, negative, den] => .double (mkRat (positive.length - negative.length) den.length)
    | _ => .null

theorem toValue_ofValue {json : Json} (h : json.IsFlat) : toValue (ofValue json).1 (ofValue json).2 = json := by
  cases json with
  | null => cases h
  | object members => cases h
  | string s => exact congrArg Json.string String.ofList_toList
  | bool b => cases b <;> rfl
  | array elements =>
    change Json.array ((toTokens [] (ofTokens _)).map _) = _
    rw [toTokens_ofTokens, List.map_map]
    refine congrArg Json.array ((List.map_congr_left fun json hjson => ?_).trans (List.map_id elements))
    obtain ⟨s, rfl⟩ := h json hjson
    exact congrArg Json.string String.ofList_toList
  | double q =>
    change (match toTokens [] (ofTokens _) with
      | [positive, negative, den] => Json.double (mkRat (positive.length - negative.length) den.length)
      | _ => .null) = _
    rw [toTokens_ofTokens]
    simp only [units, List.length_replicate]
    have hnum : (q.num.toNat : ℤ) - ((-q.num).toNat : ℤ) = q.num := by omega
    rw [hnum, Rat.mkRat_self]

def ofMembers (object : JsonObject) : List (List Char) :=
  object.flatMap fun member => [member.1.toList, (ofValue member.2).1, (ofValue member.2).2]

def toMembers : List (List Char) → JsonObject
  | key :: tag :: payload :: rest => (String.ofList key, toValue tag payload) :: toMembers rest
  | _ => []

theorem toMembers_ofMembers {object : JsonObject} (h : ∀ member ∈ object, member.2.IsFlat) :
    toMembers (ofMembers object) = object := by
  induction object with
  | nil =>
    rfl
  | cons member rest ih =>
    change (String.ofList member.1.toList, toValue (ofValue member.2).1 (ofValue member.2).2) ::
      toMembers (ofMembers rest) = _
    rw [ih fun m hm => h m (List.mem_cons_of_mem _ hm), toValue_ofValue (h member List.mem_cons_self),
      String.ofList_toList]

end TokenText

/-- A document format for which all this can be evaluated. -/
def JsonText.tokens : JsonText where
  parse s :=
    match TokenText.toTokens [] s.toList with
    | ['o'] :: rest => some (TokenText.toMembers rest)
    | _ => none
  compact object := String.ofList (TokenText.ofTokens (['o'] :: TokenText.ofMembers object))
  parse_empty := rfl
  parse_compact object h := by
    refine ⟨object, ?_, fun _ => rfl⟩
    rw [String.toList_ofList, TokenText.toTokens_ofTokens]
    exact congrArg some (TokenText.toMembers_ofMembers h)

end FreshVpn
