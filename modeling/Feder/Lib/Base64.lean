import Mathlib.Tactic.Common

/-!
# Base64

The standard alphabet with padding: three bytes as four characters, six bits each.

* `decode_encode`     what was encoded is decoded again;
* `encode_alphabet`   the characters of an encoded text.
-/

namespace Base64

/-- the character of a six-bit value -/
def charOf (n : Nat) : Char :=
  if n < 26 then Char.ofNat (65 + n)
  else if n < 52 then Char.ofNat (71 + n)
  else if n < 62 then Char.ofNat (n - 4)
  else if n = 62 then '+'
  else '/'

def valueOf (c : Char) : Option Nat :=
  if 'A' ≤ c ∧ c ≤ 'Z' then some (c.toNat - 65)
  else if 'a' ≤ c ∧ c ≤ 'z' then some (c.toNat - 71)
  else if '0' ≤ c ∧ c ≤ '9' then some (c.toNat + 4)
  else if c = '+' then some 62
  else if c = '/' then some 63
  else none

def encodeChars : List UInt8 → List Char
  | a :: b :: c :: rest =>
    charOf (a.toNat / 4) :: charOf (a.toNat % 4 * 16 + b.toNat / 16) ::
      charOf (b.toNat % 16 * 4 + c.toNat / 64) :: charOf (c.toNat % 64) :: encodeChars rest
  | [a, b] =>
    [charOf (a.toNat / 4), charOf (a.toNat % 4 * 16 + b.toNat / 16), charOf (b.toNat % 16 * 4), '=']
  | [a] => [charOf (a.toNat / 4), charOf (a.toNat % 4 * 16), '=', '=']
  | [] => []

/-- the bytes of four values -/
def bytes3 (w x y z : Nat) : List UInt8 :=
  [UInt8.ofNat (w * 4 + x / 16), UInt8.ofNat (x % 16 * 16 + y / 4), UInt8.ofNat (y % 4 * 64 + z)]

/-- the reader; the bits that padding leaves over have to be zero -/
def decodeChars : List Char → Option (List UInt8)
  | w :: x :: y :: z :: rest =>
    match valueOf w, valueOf x with
    | some w, some x =>
      match valueOf y, valueOf z with
      | some y, some z => (decodeChars rest).map (bytes3 w x y z ++ ·)
      | some y, none =>
        if z = '=' ∧ rest = [] ∧ y % 4 = 0 then some ((bytes3 w x y 0).take 2) else none
      | none, _ =>
        if y = '=' ∧ z = '=' ∧ rest = [] ∧ x % 16 = 0 then some ((bytes3 w x 0 0).take 1) else none
    | _, _ => none
  | [] => some []
  | _ => none

def encode (bytes : List UInt8) : String := String.ofList (encodeChars bytes)
def decode (s : String) : Option (List UInt8) := decodeChars s.toList

theorem valueOf_charOf {n : Nat} (h : n < 64) : valueOf (charOf n) = some n := by
  revert n
  decide

theorem values_lt (a b c : UInt8) : a.toNat / 4 < 64 ∧ a.toNat % 4 * 16 + b.toNat / 16 < 64 ∧
    b.toNat % 16 * 4 + c.toNat / 64 < 64 ∧ c.toNat % 64 < 64 := by
  have ha : a.toNat < 256 := a.toNat_lt
  have hb : b.toNat < 256 := b.toNat_lt
  have hc : c.toNat < 256 := c.toNat_lt
  omega

theorem bytes3_values (a b c : UInt8) :
    bytes3 (a.toNat / 4) (a.toNat % 4 * 16 + b.toNat / 16) (b.toNat % 16 * 4 + c.toNat / 64)
      (c.toNat % 64) = [a, b, c] := by
  have ha : a.toNat < 256 := a.toNat_lt
  have hb : b.toNat < 256 := b.toNat_lt
  have hc : c.toNat < 256 := c.toNat_lt
  have h1 : a.toNat / 4 * 4 + (a.toNat % 4 * 16 + b.toNat / 16) / 16 = a.toNat := by omega
  have h2 : (a.toNat % 4 * 16 + b.toNat / 16) % 16 * 16 +
      (b.toNat % 16 * 4 + c.toNat / 64) / 4 = b.toNat := by omega
  have h3 : (b.toNat % 16 * 4 + c.toNat / 64) % 4 * 64 + c.toNat % 64 = c.toNat := by omega
  unfold bytes3
  rw [h1, h2, h3, UInt8.ofNat_toNat, UInt8.ofNat_toNat, UInt8.ofNat_toNat]

theorem valueOf_pad : valueOf '=' = none := by decide

theorem decodeChars_encodeChars (bytes : List UInt8) :
    decodeChars (encodeChars bytes) = some bytes := by
  induction bytes using encodeChars.induct with
  | case1 a b c rest ih =>
    obtain ⟨hw, hx, hy, hz⟩ := values_lt a b c
    rw [encodeChars, decodeChars, valueOf_charOf hw, valueOf_charOf hx, valueOf_charOf hy,
      valueOf_charOf hz]
    dsimp only
    rw [ih, bytes3_values]
    rfl
  | case2 a b =>
    obtain ⟨hw, hx, hy, _⟩ := values_lt a b 0
    have hbytes := bytes3_values a b 0
    have hrest : b.toNat % 16 * 4 % 4 = 0 := by omega
    change _ + 0 < 64 at hy
    rw [Nat.add_zero] at hy
    rw [encodeChars, decodeChars, valueOf_charOf hw, valueOf_charOf hx, valueOf_charOf hy,
      valueOf_pad]
    dsimp only
    rw [if_pos ⟨rfl, rfl, hrest⟩]
    change bytes3 _ _ (_ + 0) 0 = _ at hbytes
    rw [Nat.add_zero] at hbytes
    rw [hbytes]
    rfl
  | case3 a =>
    obtain ⟨hw, hx, _, _⟩ := values_lt a 0 0
    have hbytes := bytes3_values a 0 0
    have hrest : a.toNat % 4 * 16 % 16 = 0 := by omega
    change _ + 0 < 64 at hx
    rw [Nat.add_zero] at hx
    rw [encodeChars, decodeChars, valueOf_charOf hw, valueOf_charOf hx, valueOf_pad]
    dsimp only
    rw [if_pos ⟨rfl, rfl, rfl, hrest⟩]
    change bytes3 _ (_ + 0) 0 0 = _ at hbytes
    rw [Nat.add_zero] at hbytes
    rw [hbytes]
    rfl
  | case4 => rfl

/-- **What was encoded is decoded again.** -/
theorem decode_encode (bytes : List UInt8) : decode (encode bytes) = some bytes := by
  unfold decode encode
  rw [String.toList_ofList, decodeChars_encodeChars]

theorem charOf_alphabet {n : Nat} (h : n < 64) :
    (charOf n).isAlphanum = true ∨ charOf n = '+' ∨ charOf n = '/' ∨ charOf n = '=' := by
  revert n
  decide

theorem encode_alphabet (bytes : List UInt8) (c : Char) (h : c ∈ (encode bytes).toList) :
    c.isAlphanum = true ∨ c = '+' ∨ c = '/' ∨ c = '=' := by
  unfold encode at h
  rw [String.toList_ofList] at h
  induction bytes using encodeChars.induct with
  | case1 a b d rest ih =>
    obtain ⟨hw, hx, hy, hz⟩ := values_lt a b d
    rw [encodeChars, List.mem_cons, List.mem_cons, List.mem_cons, List.mem_cons] at h
    rcases h with rfl | rfl | rfl | rfl | h
    · exact charOf_alphabet hw
    · exact charOf_alphabet hx
    · exact charOf_alphabet hy
    · exact charOf_alphabet hz
    · exact ih h
  | case2 a b =>
    obtain ⟨hw, hx, hy, _⟩ := values_lt a b 0
    rw [encodeChars, List.mem_cons, List.mem_cons, List.mem_cons, List.mem_singleton] at h
    rcases h with rfl | rfl | rfl | rfl
    · exact charOf_alphabet hw
    · exact charOf_alphabet hx
    · exact charOf_alphabet hy
    · exact Or.inr (Or.inr (Or.inr rfl))
  | case3 a =>
    obtain ⟨hw, hx, _, _⟩ := values_lt a 0 0
    rw [encodeChars, List.mem_cons, List.mem_cons, List.mem_cons, List.mem_singleton] at h
    rcases h with rfl | rfl | rfl | rfl
    · exact charOf_alphabet hw
    · exact charOf_alphabet hx
    · exact Or.inr (Or.inr (Or.inr rfl))
    · exact Or.inr (Or.inr (Or.inr rfl))
  | case4 => cases h

end Base64
