import FreshVpn.LibraryRun
import FreshVpn.LibraryUtf16
import FreshVpn.ServersJson
import Mathlib.Data.Rat.Defs
import Mathlib.Algebra.Order.Ring.Unbundled.Rat

/-! JSON texts, as `QJsonDocument::fromJson` reads them. The characters are first made into tokens; a string is
collected in UTF-16, as a `QString` is. A stack of open objects and arrays then takes the tokens. -/

namespace FreshVpn

namespace QJsonDocument

open Run

/-! ### Tokens -/

inductive Token where
  | openObject | closeObject | openArray | closeArray | colon | comma
  | string (value : String)
  | number (value : ℚ)
  | bool (value : Bool)
  | null
  deriving DecidableEq

/-- What the characters read so far have begun. -/
inductive Mode where
  | between
  | string (units : List ℕ)
  | escape (units : List ℕ)
  /-- After `\u`, with the value of the digits that have come; `left` more follow the next one. -/
  | hex (units : List ℕ) (left value : ℕ)
  | number (chars : List Char)
  | word (chars : List Char)
  deriving DecidableEq

def isJsonSpace (c : Char) : Bool := c = ' ' || c = '\t' || c = '\n' || c = '\r'

def hexValue (c : Char) : Option ℕ :=
  if '0' ≤ c ∧ c ≤ '9' then some (c.toNat - 48)
  else if 'a' ≤ c ∧ c ≤ 'f' then some (c.toNat - 87)
  else if 'A' ≤ c ∧ c ≤ 'F' then some (c.toNat - 55)
  else none

/-- The character after a backslash; one that has no meaning stands for itself. -/
def unescaped (c : Char) : List ℕ :=
  if c = 'b' then [8] else if c = 'f' then [12] else if c = 'n' then [10] else if c = 'r' then [13]
  else if c = 't' then [9] else Utf16.units c

def digitsValue (digits : List Char) : ℕ := digits.foldl (fun value c => 10 * value + (c.toNat - 48)) 0

/-- The exponent of a number, which is the rest of its text. -/
def exponentOf : List Char → Option ℤ
  | [] => some 0
  | e :: rest =>
    if e = 'e' ∨ e = 'E' then
      let negative := rest.head? = some '-'
      let digits := if rest.head? = some '-' ∨ rest.head? = some '+' then rest.tail else rest
      if digits ≠ [] ∧ digits.all Char.isDigit then
        some (if negative then - (digitsValue digits : ℤ) else digitsValue digits)
      else none
    else none

/-- A number: a sign, digits without a leading zero, a fraction, and an exponent. -/
def numberOf (chars : List Char) : Option ℚ := do
  let negative := chars.head? = some '-'
  let unsigned := if negative then chars.tail else chars
  let (whole, rest) := unsigned.span Char.isDigit
  if whole = [] ∨ (whole.head? = some '0' ∧ whole ≠ ['0']) then none
  let (fraction, rest) := if rest.head? = some '.' then rest.tail.span Char.isDigit else ([], rest)
  let exponent ← exponentOf rest
  let magnitude : ℚ := digitsValue (whole ++ fraction) * (10 : ℚ) ^ (exponent - fraction.length)
  pure (if negative then - magnitude else magnitude)

def wordOf (chars : List Char) : Option Token :=
  if chars = "true".toList then some (.bool true)
  else if chars = "false".toList then some (.bool false)
  else if chars = "null".toList then some .null
  else none

/-- A character that begins a token, or is one. -/
def begin (c : Char) : Option (List Token × Mode) :=
  if isJsonSpace c then some ([], .between)
  else if c = '"' then some ([], .string [])
  else if c.isDigit ∨ c = '-' then some ([], .number [c])
  else if c.isAlpha then some ([], .word [c])
  else match c with
    | '{' => some ([.openObject], .between)
    | '}' => some ([.closeObject], .between)
    | '[' => some ([.openArray], .between)
    | ']' => some ([.closeArray], .between)
    | ':' => some ([.colon], .between)
    | ',' => some ([.comma], .between)
    | _ => none

/-- The token comes before what the character begins. -/
def beginAfter (token : Option Token) (c : Char) : Option (List Token × Mode) := do
  let token ← token
  let (tokens, mode) ← begin c
  pure (token :: tokens, mode)

def scan : Mode → Char → Option (List Token × Mode)
  | .between, c => begin c
  | .string units, c =>
    if c = '"' then some ([.string (String.ofList (Utf16.decode units))], .between)
    else if c = '\\' then some ([], .escape units)
    else some ([], .string (units ++ Utf16.units c))
  | .escape units, c => some ([], if c = 'u' then .hex units 3 0 else .string (units ++ unescaped c))
  | .hex units left value, c => do
    let digit ← hexValue c
    match left with
    | 0 => pure ([], .string (units ++ [16 * value + digit]))
    | left + 1 => pure ([], .hex units left (16 * value + digit))
  | .number chars, c =>
    if c.isDigit ∨ c = '.' ∨ c = 'e' ∨ c = 'E' ∨ c = '+' ∨ c = '-' then some ([], .number (chars ++ [c]))
    else beginAfter ((numberOf chars).map Token.number) c
  | .word chars, c => if c.isAlpha then some ([], .word (chars ++ [c])) else beginAfter (wordOf chars) c

/-! ### Values -/

/-- An object with the key whose value is awaited, or an array. -/
inductive Frame where
  | object (members : JsonObject) (key : String)
  | array (elements : List Json)

/-- What the next token may be. -/
inductive Expect where
  | document
  | value
  | valueOrClose
  | keyOrClose
  | key
  | colon
  | commaOrClose
  | nothing (document : Json)

structure Reader where
  stack : List Frame
  expect : Expect

def nestingLimit : ℕ := 1024

variable (r : Reader)

def Reader.push (frame : Frame) (expect : Expect) : Option Reader :=
  if r.stack.length < nestingLimit then some ⟨frame :: r.stack, expect⟩ else none

def complete (json : Json) : List Frame → Reader
  | [] => ⟨[], .nothing json⟩
  | .object members key :: stack => ⟨.object (members.insert key json) key :: stack, .commaOrClose⟩
  | .array elements :: stack => ⟨.array (elements ++ [json]) :: stack, .commaOrClose⟩

def close (token : Token) : List Frame → Option Reader
  | .object members _ :: stack => if token = .closeObject then some (complete (.object members) stack) else none
  | .array elements :: stack => if token = .closeArray then some (complete (.array elements) stack) else none
  | [] => none

def Reader.value : Token → Option Reader
  | .openObject => r.push (.object [] "") .keyOrClose
  | .openArray => r.push (.array []) .valueOrClose
  | .string value => some (complete (.string value) r.stack)
  | .number value => some (complete (.double value) r.stack)
  | .bool value => some (complete (.bool value) r.stack)
  | .null => some (complete .null r.stack)
  | _ => none

def Reader.setKey : Token → Option Reader
  | .string key => match r.stack with
    | .object members _ :: stack => some ⟨.object members key :: stack, .colon⟩
    | _ => none
  | _ => none

/-- After a comma an object wants a key, and an array a value. -/
def Reader.next : Option Reader :=
  match r.stack with
  | .object _ _ :: _ => some { r with expect := .key }
  | .array _ :: _ => some { r with expect := .value }
  | [] => none

def Reader.take (token : Token) : Option Reader :=
  match r.expect with
  | .document => if token = .openObject ∨ token = .openArray then r.value token else none
  | .value => r.value token
  | .valueOrClose => if token = .closeArray then close token r.stack else r.value token
  | .keyOrClose => if token = .closeObject then close token r.stack else r.setKey token
  | .key => r.setKey token
  | .colon => if token = .colon then some { r with expect := .value } else none
  | .commaOrClose => if token = .comma then r.next else close token r.stack
  | .nothing _ => none

def document (tokens : List Token) : Option Json := do
  let r ← run Reader.take ⟨[], .document⟩ tokens
  match r.expect with
  | .nothing json => pure json
  | _ => none

/-- `QJsonDocument::fromJson`, on the characters of the text. -/
def fromJson (text : List Char) : Option Json := do
  let (tokens, mode) ← transduce scan .between text
  if mode = .between then document tokens else none

/-! ### Strings -/

def hexDigit (d : ℕ) : Char := Char.ofNat (if d < 10 then 48 + d else 87 + d)

theorem hexValue_hexDigit {d : ℕ} (h : d < 16) : hexValue (hexDigit d) = some d := by
  have hall : ∀ d : Fin 16, hexValue (hexDigit d) = some d.val := by decide +kernel
  exact hall ⟨d, h⟩

theorem scan_hex_succ {d : ℕ} (h : d < 16) (units : List ℕ) (left value : ℕ) :
    scan (.hex units (left + 1) value) (hexDigit d) = some ([], .hex units left (16 * value + d)) := by
  rw [scan, hexValue_hexDigit h]
  rfl

theorem scan_hex_zero {d : ℕ} (h : d < 16) (units : List ℕ) (value : ℕ) :
    scan (.hex units 0 value) (hexDigit d) = some ([], .string (units ++ [16 * value + d])) := by
  rw [scan, hexValue_hexDigit h]
  rfl

theorem transduce_hex {u : ℕ} (hu : u < 0x10000) (units : List ℕ) :
    transduce scan (.string units)
        ['\\', 'u', hexDigit (u / 4096), hexDigit (u / 256 % 16), hexDigit (u / 16 % 16), hexDigit (u % 16)] =
      some ([], .string (units ++ [u])) := by
  have hvalue : 16 * (16 * (16 * (16 * 0 + u / 4096) + u / 256 % 16) + u / 16 % 16) + u % 16 = u := by omega
  calc
    _ = transduce scan (.escape units) _ := transduce_cons_silent rfl _
    _ = transduce scan (.hex units 3 0) _ := transduce_cons_silent rfl _
    _ = transduce scan (.hex units 2 _) _ := transduce_cons_silent (scan_hex_succ (by omega) ..) _
    _ = transduce scan (.hex units 1 _) _ := transduce_cons_silent (scan_hex_succ (by omega) ..) _
    _ = transduce scan (.hex units 0 _) _ := transduce_cons_silent (scan_hex_succ (by omega) ..) _
    _ = transduce scan (.string (units ++ [_])) [] := transduce_cons_silent (scan_hex_zero (by omega) ..) _
    _ = some ([], .string (units ++ [u])) := by rw [hvalue, transduce]

theorem transduce_plain {c : Char} (hquote : c ≠ '"') (hbackslash : c ≠ '\\') (units : List ℕ) :
    transduce scan (.string units) [c] = some ([], .string (units ++ Utf16.units c)) := by
  simp [transduce, scan, hquote, hbackslash]

theorem transduce_quote (text : List Char) :
    transduce scan (.string (Utf16.encode text)) ['"'] = some ([.string (String.ofList text)], .between) := by
  simp [transduce, scan, Utf16.decode_encode]

end QJsonDocument

end FreshVpn
