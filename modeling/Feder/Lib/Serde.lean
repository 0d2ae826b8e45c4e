import Mathlib.Algebra.Group.Int.Defs
import Mathlib.Algebra.Group.Nat.Defs
import Mathlib.Data.List.Nodup
import Mathlib.Tactic.Common

/-!
# Derived JSON codecs

JSON documents and the pieces from which a derived codec is put together: the reading of a
struct (from an object or from a positional array), its required, optional and defaulted
fields, unit variants and untagged choices; and, on the writing side, an object whose absent
fields are skipped.

* `Json.collapse`     the reading of a document as a generic value (the last of several equal
                      keys wins);
* `slots`             what a struct visitor finds for each field name;
* `slots_ofFields`      a written object is read back field by field;
* `Written.collapse`    a document without repeated keys is its own generic value;
* `required_given`, `optional_written`, `untagged_left`, ...   one rule per piece.
-/

namespace Serde

/-- a JSON document: the fields of an object in the order of the text, repeated keys included -/
inductive Json where
  | null
  | bool (b : Bool)
  | int (n : Int)
  | decimal (mantissa exponent : Int)
  | str (s : String)
  | arr (items : List Json)
  | obj (fields : List (String × Json))

namespace Json

/-- the value under a key of an object -/
def get (key : String) : Json → Option Json
  | .obj fields => fields.lookup key
  | _ => none

def asStr : Json → Option String
  | .str s => some s
  | _ => none

def isObject : Json → Bool
  | .obj _ => true
  | _ => false

@[simp] theorem get_obj (key : String) (fields : List (String × Json)) :
    (Json.obj fields).get key = fields.lookup key := rfl
@[simp] theorem get_str (key s : String) : (Json.str s).get key = none := rfl
@[simp] theorem get_arr (key : String) (items : List Json) : (Json.arr items).get key = none := rfl
@[simp] theorem asStr_str (s : String) : (Json.str s).asStr = some s := rfl
@[simp] theorem asStr_obj (fields : List (String × Json)) : (Json.obj fields).asStr = none := rfl
@[simp] theorem asStr_arr (items : List Json) : (Json.arr items).asStr = none := rfl
@[simp] theorem isObject_str (s : String) : (Json.str s).isObject = false := rfl
@[simp] theorem isObject_obj (fields : List (String × Json)) : (Json.obj fields).isObject = true := rfl

/-! ## repeated keys -/

/-- of several fields with one key only the last is kept -/
def lastWins {α : Type} : List (String × α) → List (String × α)
  | [] => []
  | (k, v) :: rest => if k ∈ rest.map Prod.fst then lastWins rest else (k, v) :: lastWins rest

theorem lastWins_of_nodup {α : Type} (fields : List (String × α))
    (h : (fields.map Prod.fst).Nodup) : lastWins fields = fields := by
  induction fields with
  | nil => rfl
  | cons f rest ih =>
    obtain ⟨k, v⟩ := f
    rw [List.map_cons, List.nodup_cons] at h
    show (if k ∈ rest.map Prod.fst then lastWins rest else (k, v) :: lastWins rest) = _
    rw [if_neg h.1, ih h.2]

mutual

/-- the document read as a generic value, whose objects have no repeated key -/
def collapse : Json → Json
  | .null => .null
  | .bool b => .bool b
  | .int n => .int n
  | .decimal m e => .decimal m e
  | .str s => .str s
  | .arr items => .arr (collapseItems items)
  | .obj fields => .obj (lastWins (collapseFields fields))

def collapseItems : List Json → List Json
  | [] => []
  | j :: rest => collapse j :: collapseItems rest

def collapseFields : List (String × Json) → List (String × Json)
  | [] => []
  | (k, j) :: rest => (k, collapse j) :: collapseFields rest

end

/-! ## what a text can carry -/

/-- A document that the libraries read back from its text: integers of 64 bits, no repeated key,
and arrays and objects nested at most to the given depth. -/
inductive Written : Nat → Json → Prop where
  | null {n : Nat} : Written n .null
  | bool {n : Nat} (b : Bool) : Written n (.bool b)
  | int {n : Nat} {k : Int} (low : -2 ^ 63 ≤ k) (high : k < 2 ^ 64) : Written n (.int k)
  | str {n : Nat} (s : String) : Written n (.str s)
  | arr {n : Nat} {items : List Json} (h : ∀ j ∈ items, Written n j) :
      Written (n + 1) (.arr items)
  | obj {n : Nat} {fields : List (String × Json)} (keys : (fields.map Prod.fst).Nodup)
      (h : ∀ f ∈ fields, Written n f.2) : Written (n + 1) (.obj fields)

theorem Written.mono {n m : Nat} {j : Json} (h : Written n j) (hle : n ≤ m) : Written m j := by
  induction h generalizing m with
  | null => exact .null
  | bool b => exact .bool b
  | int low high => exact .int low high
  | str s => exact .str s
  | arr _ ih =>
    obtain ⟨m, rfl⟩ := Nat.exists_eq_add_of_le' hle
    exact .arr fun j hj => ih j hj (Nat.le_add_left ..)
  | obj keys _ ih =>
    obtain ⟨m, rfl⟩ := Nat.exists_eq_add_of_le' hle
    exact .obj keys fun f hf => ih f hf (Nat.le_add_left ..)

theorem collapseItems_eq (items : List Json) (h : ∀ j ∈ items, collapse j = j) :
    collapseItems items = items := by
  induction items with
  | nil => rfl
  | cons j rest ih =>
    show collapse j :: collapseItems rest = _
    rw [h j (List.mem_cons_self ..), ih (fun j' h' => h j' (List.mem_cons_of_mem _ h'))]

theorem collapseFields_eq (fields : List (String × Json)) (h : ∀ f ∈ fields, collapse f.2 = f.2) :
    collapseFields fields = fields := by
  induction fields with
  | nil => rfl
  | cons f rest ih =>
    obtain ⟨k, j⟩ := f
    show (k, collapse j) :: collapseFields rest = _
    rw [h (k, j) (List.mem_cons_self ..), ih (fun f' h' => h f' (List.mem_cons_of_mem _ h'))]

/-- **A document without repeated keys is its own generic value.** -/
theorem Written.collapse {n : Nat} {j : Json} (h : Written n j) : j.collapse = j := by
  induction h with
  | null | bool | int | str => rfl
  | arr _ ih =>
    show Json.arr (collapseItems _) = _
    rw [collapseItems_eq _ ih]
  | obj keys _ ih =>
    show Json.obj (lastWins (collapseFields _)) = _
    rw [collapseFields_eq _ ih, lastWins_of_nodup _ keys]

end Json

open Json

/-! ## reading a struct -/

/-- what the visitor of a struct finds for one field: a value, no such key in the object, or the
end of the positional array -/
inductive Slot where
  | given (j : Json)
  | missing
  | ended

/-- the slot of a key that an object may lack -/
def Slot.ofKey : Option Json → Slot
  | some j => .given j
  | none => .missing

/-- the slot of a position that an array may lack -/
def Slot.ofPosition : Option Json → Slot
  | some j => .given j
  | none => .ended

/-- The fields of a struct named `names`, in the order of its declaration.  A known key that is
repeated and an array that is too long are errors; unknown keys are ignored. -/
def slots (names : List String) : Json → Option (String → Slot)
  | .obj fields =>
    if names.all (fun n => fields.countP (fun f => f.1 == n) ≤ 1) then
      some (fun n => .ofKey (fields.lookup n))
    else none
  | .arr items =>
    if items.length ≤ names.length then some (fun n => .ofPosition items[names.idxOf n]?) else none
  | _ => none

/-- a field that has to be there -/
def required {α : Type} (de : Json → Option α) : Slot → Option α
  | .given j => de j
  | _ => none

/-- an optional field: `null` and an absent key are the absent value -/
def optional {α : Type} (de : Json → Option α) : Slot → Option (Option α)
  | .given .null => some none
  | .given j => (de j).map some
  | .missing => some none
  | .ended => none

/-- a field with a default for an absent value -/
def defaulted {α : Type} (dflt : α) (de : Json → Option α) : Slot → Option α
  | .given j => de j
  | _ => some dflt

/-- a variant without data: its name, or an object with its name over `null` -/
def unitVariant {α : Type} (variants : List (String × α)) : Json → Option α
  | .str s => variants.lookup s
  | .obj [(s, .null)] => variants.lookup s
  | _ => none

/-- an untagged choice: the first variant that reads the document -/
def untagged {α : Type} (first second : Json → Option α) (j : Json) : Option α :=
  match first j with
  | some a => some a
  | none => second j

def deString : Json → Option String
  | .str s => some s
  | _ => none

def deVec {α : Type} (de : Json → Option α) : Json → Option (List α)
  | .arr items => items.mapM de
  | _ => none

def deU64 : Json → Option UInt64
  | .int n => if 0 ≤ n ∧ n.toNat < UInt64.size then some (UInt64.ofNat n.toNat) else none
  | _ => none

/-! ## writing a struct -/

/-- the object of a struct, without the fields that are skipped -/
def ofFields (fields : List (String × Option Json)) : Json :=
  .obj (fields.filterMap fun f => f.2.map fun j => (f.1, j))

theorem keys_written (fields : List (String × Option Json)) :
    ((fields.filterMap fun f => f.2.map fun j => (f.1, j)).map Prod.fst).Sublist
      (fields.map Prod.fst) := by
  induction fields with
  | nil => exact List.Sublist.refl _
  | cons f rest ih =>
    obtain ⟨k, v⟩ := f
    cases v with
    | none => simpa using ih.cons k
    | some j => simpa using ih.cons_cons k

theorem lookup_written (fields : List (String × Option Json)) (h : (fields.map Prod.fst).Nodup)
    (n : String) :
    (fields.filterMap fun f => f.2.map fun j => (f.1, j)).lookup n = (fields.lookup n).join := by
  induction fields with
  | nil => rfl
  | cons f rest ih =>
    obtain ⟨k, v⟩ := f
    rw [List.map_cons, List.nodup_cons] at h
    have ih' := ih h.2
    by_cases e : n = k
    · subst e
      cases v with
      | some j => simp
      | none =>
        have hn : rest.lookup n = none := by
          rw [List.lookup_eq_none_iff]
          intro p hp
          have hne : n ≠ p.1 := fun e => h.1 (List.mem_map.mpr ⟨p, hp, e.symm⟩)
          simpa using hne
        simp [ih', hn]
    · have hb : (n == k) = false := by simpa using e
      cases v with
      | some j => simp [List.lookup_cons, hb, ih']
      | none => simp [List.lookup_cons, hb, ih']

theorem countP_key_le_one {α : Type} (fields : List (String × α)) (h : (fields.map Prod.fst).Nodup)
    (n : String) : fields.countP (fun f => f.1 == n) ≤ 1 := by
  have e : fields.countP (fun f => f.1 == n) = (fields.map Prod.fst).count n := by
    rw [List.count, List.countP_map]
    rfl
  rw [e]
  exact List.nodup_iff_count_le_one.mp h n

/-- **A written object is read back field by field.** -/
theorem slots_ofFields (names : List String) (fields : List (String × Option Json))
    (h : (fields.map Prod.fst).Nodup) :
    slots names (ofFields fields) = some (fun n => .ofKey (fields.lookup n).join) := by
  have hk := h.sublist (keys_written fields)
  have hall : names.all (fun n => (fields.filterMap fun f => f.2.map fun j => (f.1, j)).countP
      (fun f => f.1 == n) ≤ 1) = true := by
    rw [List.all_eq_true]
    intro n _
    simpa using countP_key_le_one _ hk n
  show (if _ then _ else _) = _
  rw [if_pos hall]
  simp only [lookup_written fields h]

theorem get_ofFields (fields : List (String × Option Json)) (h : (fields.map Prod.fst).Nodup)
    (n : String) : (ofFields fields).get n = (fields.lookup n).join :=
  lookup_written fields h n

theorem written_ofFields {n : Nat} (fields : List (String × Option Json))
    (hk : (fields.map Prod.fst).Nodup) (h : ∀ f ∈ fields, ∀ j ∈ f.2, Written n j) :
    Written (n + 1) (ofFields fields) := by
  refine .obj (hk.sublist (keys_written fields)) fun f hf => ?_
  obtain ⟨g, hg, hgf⟩ := List.mem_filterMap.mp hf
  obtain ⟨j, hj, rfl⟩ := Option.map_eq_some_iff.mp hgf
  exact h g hg j hj

theorem ofFields_ne_null (fields : List (String × Option Json)) : ofFields fields ≠ .null :=
  Json.noConfusion

/-! ## one rule per piece -/

@[simp] theorem ofKey_some (j : Json) : Slot.ofKey (some j) = .given j := rfl
@[simp] theorem ofKey_none : Slot.ofKey none = .missing := rfl

@[simp] theorem required_given {α : Type} (de : Json → Option α) (j : Json) :
    required de (.given j) = de j := rfl

theorem required_eq_some {α : Type} {de : Json → Option α} {s : Slot} {a : α} :
    required de s = some a ↔ ∃ j, s = .given j ∧ de j = some a := by
  cases s <;> simp [required]

@[simp] theorem defaulted_given {α : Type} (dflt : α) (de : Json → Option α) (j : Json) :
    defaulted dflt de (.given j) = de j := rfl

@[simp] theorem defaulted_missing {α : Type} (dflt : α) (de : Json → Option α) :
    defaulted dflt de .missing = some dflt := rfl

@[simp] theorem optional_missing {α : Type} (de : Json → Option α) :
    optional de .missing = some none := rfl

theorem optional_given {α : Type} (de : Json → Option α) (j : Json) (h : j ≠ .null) :
    optional de (.given j) = (de j).map some := by
  cases j with
  | null => exact absurd rfl h
  | _ => rfl

theorem optional_written {α β : Type} {ser : α → Json} {de : Json → Option β} {f : α → β}
    (hnull : ∀ a, ser a ≠ .null) (hread : ∀ a, de (ser a) = some (f a)) (o : Option α) :
    optional de (.ofKey (o.map ser)) = some (o.map f) := by
  cases o with
  | none => rfl
  | some a =>
    show optional de (.given (ser a)) = _
    rw [optional_given de _ (hnull a), hread a]
    rfl

theorem untagged_left {α : Type} {first second : Json → Option α} {j : Json} {a : α}
    (h : first j = some a) : untagged first second j = some a := by
  simp [untagged, h]

theorem untagged_right {α : Type} {first second : Json → Option α} {j : Json}
    (h : first j = none) : untagged first second j = second j := by
  simp [untagged, h]

@[simp] theorem deString_str (s : String) : deString (.str s) = some s := rfl

theorem deVec_written {α β : Type} {ser : α → Json} {de : Json → Option β} {f : α → β}
    (l : List α) (hread : ∀ a ∈ l, de (ser a) = some (f a)) :
    deVec de (.arr (l.map ser)) = some (l.map f) := by
  show (l.map ser).mapM de = _
  induction l with
  | nil => rfl
  | cons a rest ih =>
    rw [List.map_cons, List.mapM_cons, hread a (List.mem_cons_self ..),
      ih (fun b hb => hread b (List.mem_cons_of_mem _ hb))]
    rfl

theorem deU64_written (n : UInt64) : deU64 (.int n.toNat) = some n := by
  rw [deU64, if_pos ⟨Int.natCast_nonneg _, n.toNat_lt_size⟩, Int.toNat_natCast, UInt64.ofNat_toNat]

/-! ## text -/

/-- the depth to which the reader follows arrays and objects -/
def maxDepth : Nat := 127

/-- The text of JSON documents, as `to_string`, `from_str`, `to_vec` and `from_slice` write and
read it. -/
class JsonText where
  toString : Json → String
  fromStr : String → Option Json
  fromStr_toString : ∀ j, Written maxDepth j → fromStr (toString j) = some j
  toVec : Json → List UInt8
  fromSlice : List UInt8 → Option Json
  fromSlice_toVec : ∀ j, Written maxDepth j → fromSlice (toVec j) = some j

section
variable [JsonText] {α β : Type}

/-- the value read from a text -/
def ofText (de : Json → Option α) (s : String) : Option α := (JsonText.fromStr s).bind de

theorem ofText_toString (de : Json → Option α) {n : Nat} {j : Json} (h : Written n j)
    (hn : n ≤ maxDepth) : ofText de (JsonText.toString j) = de j := by
  rw [ofText, JsonText.fromStr_toString j (h.mono hn), Option.bind_some]

/-- A codec that reads back what it wrote, up to a normal form, and leaves alone what it has
read, from a text or from a generic value. -/
structure CodecLaws (ser : α → Json) (de : Json → Option α) (norm : α → α) : Prop where
  read : ∀ v, ofText de (JsonText.toString (ser v)) = some (norm v)
  fixed : ∀ j v, de j = some v → ofText de (JsonText.toString (ser v)) = some v
  fixedText : ∀ s v, ofText de s = some v → ofText de (JsonText.toString (ser v)) = some v

theorem CodecLaws.of_norm {ser : α → Json} {de : Json → Option α} {norm : α → α} {n : Nat}
    (hwritten : ∀ v, Written n (ser v)) (hn : n ≤ maxDepth)
    (hread : ∀ v, de (ser v) = some (norm v)) (hnorm : ∀ j v, de j = some v → norm v = v) :
    CodecLaws ser de norm := by
  have hfixed : ∀ j v, de j = some v → ofText de (JsonText.toString (ser v)) = some v := by
    intro j v h
    rw [ofText_toString de (hwritten v) hn, hread, hnorm j v h]
  refine ⟨fun v => ?_, hfixed, fun s v h => ?_⟩
  · rw [ofText_toString de (hwritten v) hn, hread]
  · obtain ⟨j, _, hj⟩ := Option.bind_eq_some_iff.mp h
    exact hfixed j v hj

end

end Serde
