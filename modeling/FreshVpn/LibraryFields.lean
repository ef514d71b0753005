import Mathlib.Data.List.Basic
import Mathlib.Data.List.Nodup

/-! Records written to, and read from, objects with named members, by a table of the keys with the way each is read and
written. -/

namespace Fields

/-- Objects with members, as far as records need them. -/
structure Members (O κ J : Type*) where
  insert : O → κ → J → O
  value : O → κ → Option J
  value_insert_self : ∀ o k j, value (insert o k j) k = some j
  value_insert_of_ne : ∀ o k k' j, k' ≠ k → value (insert o k j) k' = value o k'

/-- How a field is read from its member and written to it; `none` is the missing member. -/
structure Field (J V : Type*) where
  read : Option J → V
  write : V → Option J

/-- What the field writes is not changed by reading it back. -/
def Field.Settled {J V : Type*} (field : Field J V) (v : V) : Prop :=
  field.write (field.read (field.write v)) = field.write v

variable {O κ J V : Type*} [DecidableEq κ] (M : Members O κ J)

def Members.put (o : O) (k : κ) : Option J → O
  | none => o
  | some j => M.insert o k j

def writeRecord (table : List (κ × Field J V)) (record : κ → V) (o : O) : O :=
  table.foldl (fun o entry => M.put o entry.1 (entry.2.write (record entry.1))) o

/-- A key outside the table reads as `default`. -/
def readRecord (table : List (κ × Field J V)) (default : V) (o : O) (k : κ) : V :=
  match table.lookup k with
  | none => default
  | some field => field.read (M.value o k)

omit [DecidableEq κ] in
theorem Members.value_put_self (o : O) (k : κ) (member : Option J) :
    M.value (M.put o k member) k = member.or (M.value o k) := by
  cases member with
  | none => rfl
  | some j => exact M.value_insert_self o k j

variable {k : κ} {field : Field J V}

omit [DecidableEq κ] in
theorem Members.value_put_of_ne (o : O) {k' : κ} (hne : k' ≠ k) (member : Option J) :
    M.value (M.put o k member) k' = M.value o k' := by
  cases member with
  | none => rfl
  | some j => exact M.value_insert_of_ne o k k' j hne

variable {table : List (κ × Field J V)}

omit [DecidableEq κ] in
theorem value_writeRecord_of_not_mem (record : κ → V) (o : O) (hk : k ∉ table.map Prod.fst) :
    M.value (writeRecord M table record o) k = M.value o k := by
  induction table generalizing o with
  | nil =>
    rfl
  | cons entry table ih =>
    rw [List.map_cons, List.mem_cons, not_or] at hk
    rw [writeRecord, List.foldl_cons, ← writeRecord, ih _ hk.2, M.value_put_of_ne _ hk.1]

section
variable (hnodup : (table.map Prod.fst).Nodup)
include hnodup

omit [DecidableEq κ] in
theorem value_writeRecord_of_mem (record : κ → V) (o : O) (hmem : (k, field) ∈ table) :
    M.value (writeRecord M table record o) k = (field.write (record k)).or (M.value o k) := by
  induction table generalizing o with
  | nil =>
    cases hmem
  | cons entry table ih =>
    rw [List.map_cons, List.nodup_cons] at hnodup
    rw [writeRecord, List.foldl_cons, ← writeRecord]
    rcases List.mem_cons.mp hmem with rfl | hmem
    · rw [value_writeRecord_of_not_mem M record _ hnodup.1, M.value_put_self]
    · have hne : k ≠ entry.1 := fun heq => hnodup.1 (heq ▸ List.mem_map_of_mem hmem)
      rw [ih hnodup.2 _ hmem, M.value_put_of_ne _ hne]

theorem lookup_of_mem_table (hmem : (k, field) ∈ table) : table.lookup k = some field := by
  induction table with
  | nil =>
    cases hmem
  | cons entry table ih =>
    rw [List.map_cons, List.nodup_cons] at hnodup
    rcases List.mem_cons.mp hmem with rfl | hmem
    · rw [List.lookup_cons, beq_self_eq_true]
    · have hne : (k == entry.1) = false :=
        beq_false_of_ne fun heq => hnodup.1 (heq ▸ List.mem_map_of_mem hmem)
      rw [List.lookup_cons, hne]
      exact ih hnodup.2 hmem

theorem readRecord_of_mem (default : V) (o : O) (hmem : (k, field) ∈ table) :
    readRecord M table default o k = field.read (M.value o k) := by
  rw [readRecord, lookup_of_mem_table hnodup hmem]

end

theorem readRecord_of_not_mem (default : V) (o : O) (hk : k ∉ table.map Prod.fst) :
    readRecord M table default o k = default := by
  have hlookup : table.lookup k = none := by
    rw [List.lookup_eq_none_iff]
    intro entry hentry
    rw [bne_iff_ne]
    rintro rfl
    exact hk (List.mem_map_of_mem hentry)
  rw [readRecord, hlookup]

omit [DecidableEq κ] in
theorem writeRecord_congr {record record' : κ → V}
    (h : ∀ entry ∈ table, entry.2.write (record entry.1) = entry.2.write (record' entry.1)) (o : O) :
    writeRecord M table record o = writeRecord M table record' o := by
  induction table generalizing o with
  | nil =>
    rfl
  | cons entry table ih =>
    rw [writeRecord, writeRecord, List.foldl_cons, List.foldl_cons, h entry List.mem_cons_self]
    exact ih (fun e he => h e (List.mem_cons_of_mem _ he)) _

/-- **The round trip.** A settled field, written to an object without its member and read from any object with
the same member, writes the same again. -/
theorem write_readRecord_writeRecord (hnodup : (table.map Prod.fst).Nodup) {record : κ → V}
    (hmem : (k, field) ∈ table) (hsettled : field.Settled (record k)) {o o' : O} (hmissing : M.value o k = none)
    (hsame : M.value o' k = M.value (writeRecord M table record o) k) (default : V) :
    field.write (readRecord M table default o' k) = field.write (record k) := by
  rw [readRecord_of_mem M hnodup default o' hmem, hsame, value_writeRecord_of_mem M hnodup record o hmem,
    hmissing, Option.or_none]
  exact hsettled

end Fields
