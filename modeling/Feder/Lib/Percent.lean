import Feder.Lib.Text

/-!
# Percent-encoding

An encoding keeps some ASCII characters and writes every other byte as an escape of a percent sign
and two upper-case hexadecimal digits; decoding reads the escapes in either letter case and leaves
everything else as it is.

* `decode_encode`   what was encoded is decoded again, so that `encode` is injective;
* `isEncoded_iff`   the grammar of the encoded texts: those that decoding and encoding restore;
* `decodeText_eq_some`   a text whose escapes spell UTF-8.
-/

namespace Percent
open Text

/-- the bytes that are kept stand for themselves, as characters -/
def encode (keep : Char → Bool) (bytes : List UInt8) : List Char :=
  bytes.flatMap fun b =>
    let c := Char.ofNat b.toNat
    if keep c then [c] else ['%', hexDigit (b.toNat / 16), hexDigit (b.toNat % 16)]

/-- the percent encoding of the UTF-8 encoding -/
def encodeText (keep : Char → Bool) (s : String) : String := String.ofList (encode keep (utf8 s))

def isUpperHex (c : Char) : Bool :=
  (48 ≤ c.toNat && c.toNat ≤ 57) || (65 ≤ c.toNat && c.toNat ≤ 70)

/-- the value of a hexadecimal digit -/
def hexValue (c : Char) : Option Nat :=
  if 48 ≤ c.toNat ∧ c.toNat ≤ 57 then some (c.toNat - 48)
  else if 65 ≤ c.toNat ∧ c.toNat ≤ 70 then some (c.toNat - 55)
  else if 97 ≤ c.toNat ∧ c.toNat ≤ 102 then some (c.toNat - 87)
  else none

/-- the byte of an escape -/
def escaped (high low : Char) : Option UInt8 :=
  match hexValue high, hexValue low with
  | some high, some low => some (UInt8.ofNat (16 * high + low))
  | _, _ => none

/-- the bytes behind a text; a percent sign that starts no escape is kept -/
def decode : List Char → List UInt8
  | [] => []
  | '%' :: high :: low :: rest =>
    match escaped high low with
    | some b => b :: decode rest
    | none => 37 :: decode (high :: low :: rest)
  | c :: rest => String.utf8EncodeChar c ++ decode rest

/-- the text behind a text, if its bytes are UTF-8 -/
def decodeText (s : String) : Option String := String.fromUTF8? ⟨(decode s.toList).toArray⟩

/-- kept characters and upper-case escapes of bytes that are not kept -/
def isEncoded (keep : Char → Bool) : List Char → Bool
  | [] => true
  | '%' :: high :: low :: rest =>
    isUpperHex high && isUpperHex low &&
      (escaped high low).any (fun b => !keep (Char.ofNat b.toNat)) && isEncoded keep rest
  | c :: rest => keep c && isEncoded keep rest

/-! ## digits -/

theorem toNat_hexDigit {n : Nat} (h : n < 16) :
    (hexDigit n).toNat = if n < 10 then 48 + n else 55 + n := by
  have hvalid : ∀ m < 128, (Char.ofNat m).toNat = m := by
    intro m hm
    rw [Char.ofNat, dif_pos (show m.isValidChar from Or.inl (by omega))]
    rfl
  unfold hexDigit
  split
  · exact hvalid _ (by omega)
  · exact hvalid _ (by omega)

theorem hexValue_hexDigit {n : Nat} (h : n < 16) : hexValue (hexDigit n) = some n := by
  have hnat := toNat_hexDigit h
  unfold hexValue
  split at hnat
  · rw [if_pos (by omega)]
    exact congrArg some (by omega)
  · rw [if_neg (by omega), if_pos (by omega)]
    exact congrArg some (by omega)

theorem isUpperHex_hexDigit {n : Nat} (h : n < 16) : isUpperHex (hexDigit n) = true := by
  have hnat := toNat_hexDigit h
  rw [isUpperHex, Bool.or_eq_true, Bool.and_eq_true, Bool.and_eq_true]
  simp only [decide_eq_true_eq]
  split at hnat <;> omega

theorem hexDigit_of_isUpperHex {c : Char} (h : isUpperHex c = true) :
    ∃ n < 16, hexValue c = some n ∧ hexDigit n = c := by
  rw [isUpperHex, Bool.or_eq_true, Bool.and_eq_true, Bool.and_eq_true] at h
  simp only [decide_eq_true_eq] at h
  have hdigit : ∀ n < 16, (hexDigit n).toNat = c.toNat → hexDigit n = c :=
    fun n _ e => Char.toNat_inj.mp e
  unfold hexValue
  rcases h with h | h
  · refine ⟨c.toNat - 48, by omega, if_pos h, hdigit _ (by omega) ?_⟩
    rw [toNat_hexDigit (by omega), if_pos (by omega)]
    omega
  · refine ⟨c.toNat - 55, by omega, ?_, hdigit _ (by omega) ?_⟩
    · rw [if_neg (by omega), if_pos h]
    · rw [toNat_hexDigit (by omega), if_neg (by omega)]
      omega

theorem escaped_hexDigits (b : UInt8) :
    escaped (hexDigit (b.toNat / 16)) (hexDigit (b.toNat % 16)) = some b := by
  have hlt : b.toNat < 256 := b.toNat_lt
  unfold escaped
  rw [hexValue_hexDigit (by omega), hexValue_hexDigit (by omega)]
  dsimp only
  rw [Nat.div_add_mod, UInt8.ofNat_toNat]

theorem hexDigits_of_escaped {high low : Char} (hhigh : isUpperHex high = true)
    (hlow : isUpperHex low = true) :
    ∃ b, escaped high low = some b ∧ hexDigit (b.toNat / 16) = high ∧
      hexDigit (b.toNat % 16) = low := by
  obtain ⟨x, hx, hxvalue, rfl⟩ := hexDigit_of_isUpperHex hhigh
  obtain ⟨y, hy, hyvalue, rfl⟩ := hexDigit_of_isUpperHex hlow
  have hnat : (UInt8.ofNat (16 * x + y)).toNat = 16 * x + y :=
    Nat.mod_eq_of_lt (by omega)
  refine ⟨UInt8.ofNat (16 * x + y), ?_, ?_, ?_⟩
  · unfold escaped
    rw [hxvalue, hyvalue]
  · rw [hnat, show (16 * x + y) / 16 = x by omega]
  · rw [hnat, show (16 * x + y) % 16 = y by omega]

/-! ## the round trip -/

theorem decode_escape {high low : Char} {b : UInt8} (h : escaped high low = some b)
    (rest : List Char) : decode ('%' :: high :: low :: rest) = b :: decode rest := by
  show (match escaped high low with
    | some b => b :: decode rest
    | none => 37 :: decode (high :: low :: rest)) = _
  rw [h]

theorem decode_cons {c : Char} (hc : c ≠ '%') (rest : List Char) :
    decode (c :: rest) = String.utf8EncodeChar c ++ decode rest :=
  decode.eq_3 c rest fun _ _ _ e => absurd e hc

section
variable {keep : Char → Bool}

/-- what is kept is ASCII, and never the percent sign -/
def Keeps (keep : Char → Bool) : Prop := ∀ c, keep c = true → c.toNat < 128 ∧ c ≠ '%'

theorem encode_cons (b : UInt8) (bytes : List UInt8) :
    encode keep (b :: bytes) =
      (if keep (Char.ofNat b.toNat) then [Char.ofNat b.toNat]
      else ['%', hexDigit (b.toNat / 16), hexDigit (b.toNat % 16)]) ++ encode keep bytes :=
  List.flatMap_cons ..

/-- **What was encoded is decoded again.** -/
theorem decode_encode (hkeep : Keeps keep) (bytes : List UInt8) :
    decode (encode keep bytes) = bytes := by
  induction bytes with
  | nil => rfl
  | cons b bytes ih =>
    rw [encode_cons]
    by_cases hb : keep (Char.ofNat b.toNat) = true
    · obtain ⟨hascii, hpercent⟩ := hkeep _ hb
      rw [if_pos hb, List.singleton_append, decode_cons hpercent, ih,
        utf8EncodeChar_ascii hascii, toNat_ofNat_byte, UInt8.ofNat_toNat]
      rfl
    · rw [if_neg hb]
      show decode ('%' :: _ :: _ :: encode keep bytes) = _
      rw [decode_escape (escaped_hexDigits b), ih]

theorem encode_inj (hkeep : Keeps keep) {a b : List UInt8} (h : encode keep a = encode keep b) :
    a = b := by
  rw [← decode_encode hkeep a, h, decode_encode hkeep]

theorem encodeText_inj (hkeep : Keeps keep) {a b : String}
    (h : encodeText keep a = encodeText keep b) : a = b :=
  utf8_inj (encode_inj hkeep (String.ofList_injective h))

/-- an encoded text has no characters but those that are kept and those of escapes -/
theorem not_mem_encode {c : Char} (hc : keep c = false) (hpercent : c ≠ '%')
    (hdigit : isUpperHex c = false) (bytes : List UInt8) : c ∉ encode keep bytes := by
  induction bytes with
  | nil => exact List.not_mem_nil
  | cons b bytes ih =>
    have hlt : b.toNat < 256 := b.toNat_lt
    rw [encode_cons, List.mem_append, not_or]
    refine ⟨?_, ih⟩
    by_cases hb : keep (Char.ofNat b.toNat) = true
    · rw [if_pos hb, List.mem_singleton]
      rintro rfl
      rw [hb] at hc
      cases hc
    · rw [if_neg hb]
      intro hmem
      rcases List.mem_cons.mp hmem with rfl | hmem
      · exact hpercent rfl
      · have hhex : isUpperHex c = true := by
          rcases List.mem_cons.mp hmem with rfl | hmem
          · exact isUpperHex_hexDigit (by omega)
          · cases List.mem_singleton.mp hmem
            exact isUpperHex_hexDigit (by omega)
        rw [hhex] at hdigit
        cases hdigit

/-! ## encoded texts -/

theorem isEncoded_cons (hkeep : Keeps keep) {c : Char} (hc : keep c = true) (rest : List Char) :
    isEncoded keep (c :: rest) = isEncoded keep rest := by
  rw [isEncoded.eq_3 keep c rest fun _ _ _ e => absurd e (hkeep c hc).2, hc, Bool.true_and]

theorem isEncoded_encode (hkeep : Keeps keep) (bytes : List UInt8) :
    isEncoded keep (encode keep bytes) = true := by
  induction bytes with
  | nil => rfl
  | cons b bytes ih =>
    rw [encode_cons]
    by_cases hb : keep (Char.ofNat b.toNat) = true
    · rw [if_pos hb, List.singleton_append, isEncoded_cons hkeep hb, ih]
    · have hlt : b.toNat < 256 := b.toNat_lt
      rw [if_neg hb]
      show (_ && _ && _ && isEncoded keep (encode keep bytes)) = true
      rw [ih, isUpperHex_hexDigit (by omega), isUpperHex_hexDigit (by omega), escaped_hexDigits,
        Option.any_some, Bool.eq_false_iff.mpr hb]
      rfl

theorem encode_decode (hkeep : Keeps keep) {s : List Char} (h : isEncoded keep s = true) :
    encode keep (decode s) = s := by
  induction s using isEncoded.induct with
  | case1 => rfl
  | case2 high low rest ih =>
    change (isUpperHex high && isUpperHex low &&
      (escaped high low).any (fun b => !keep (Char.ofNat b.toNat)) && isEncoded keep rest) = true at h
    simp only [Bool.and_eq_true] at h
    obtain ⟨⟨⟨hhigh, hlow⟩, hescaped⟩, hrest⟩ := h
    obtain ⟨b, hb, hhigh', hlow'⟩ := hexDigits_of_escaped hhigh hlow
    rw [hb, Option.any_some, Bool.not_eq_true'] at hescaped
    rw [decode_escape hb, encode_cons, hescaped, if_neg Bool.false_ne_true, hhigh', hlow', ih hrest]
    rfl
  | case3 c rest hc ih =>
    rw [isEncoded.eq_3 keep c rest hc, Bool.and_eq_true] at h
    obtain ⟨hascii, hpercent⟩ := hkeep c h.1
    have hbyte : Char.ofNat (UInt8.ofNat c.toNat).toNat = c := by
      have hnat : (UInt8.ofNat c.toNat).toNat = c.toNat := Nat.mod_eq_of_lt (by omega)
      rw [hnat, Char.ofNat_toNat]
    rw [decode_cons hpercent, utf8EncodeChar_ascii hascii, List.singleton_append, encode_cons, hbyte,
      if_pos h.1, ih h.2]
    rfl

/-- **The encoded texts are those that decoding and encoding restore.** -/
theorem isEncoded_iff (hkeep : Keeps keep) {s : List Char} :
    isEncoded keep s = true ↔ encode keep (decode s) = s :=
  ⟨encode_decode hkeep, fun h => h ▸ isEncoded_encode hkeep (decode s)⟩

end

/-! ## texts -/

theorem decodeText_eq_some {s t : String} : decodeText s = some t ↔ utf8 t = decode s.toList := by
  unfold decodeText String.fromUTF8?
  constructor
  · intro h
    split at h
    · cases h
      rfl
    · cases h
  · intro h
    have hbytes : (⟨(decode s.toList).toArray⟩ : ByteArray) = t.toByteArray := by
      apply ByteArray.ext
      rw [← h, utf8, Array.toArray_toList]
    rw [hbytes]
    exact dif_pos t.isValidUTF8

theorem decodeText_encodeText {keep : Char → Bool} (hkeep : Keeps keep) (s : String) :
    decodeText (encodeText keep s) = some s := by
  apply decodeText_eq_some.mpr
  rw [encodeText, String.toList_ofList, decode_encode hkeep]

end Percent
