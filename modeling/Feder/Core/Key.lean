import Feder.Lib.Text
import Mathlib.Data.List.Forall2

/-!
# Actor keys and draft-Cavage signatures

`key.rs`.  The RSA, SHA-256 and base64 implementations are a parameter (`Crypto`); the signing
string is the source's own.

* `signatureBase_inj`     the signing string determines the method up to letter case, the target
                          and the headers up to letter case of the names and trimming;
* `signatureBase_eq_iff`  it determines nothing else.
-/

namespace Feder
open Text

/-- the cryptography that `key.rs` calls -/
class Crypto where
  PrivateKey : Type
  PublicKey : Type
  decEqPublicKey : DecidableEq PublicKey
  /-- `RsaPrivateKey::from_pkcs8_pem` -/
  fromPkcs8Pem : String → Option PrivateKey
  /-- `RsaPublicKey::from_public_key_pem` -/
  fromPublicKeyPem : String → Option PublicKey
  /-- `RsaPublicKey::from` -/
  publicKey : PrivateKey → PublicKey
  /-- the bytes of an RSA-SHA256 signature -/
  sign : PrivateKey → List UInt8 → List UInt8
  /-- `Signature::try_from` succeeds -/
  isSignature : List UInt8 → Bool
  verify : PublicKey → List UInt8 → List UInt8 → Bool
  sha256 : List UInt8 → List UInt8
  /-- `STANDARD.encode` -/
  encode : List UInt8 → String
  /-- `STANDARD.decode` -/
  decode : String → Option (List UInt8)
  decode_encode : ∀ bytes, decode (encode bytes) = some bytes
  encode_alphabet : ∀ bytes, ∀ c ∈ (encode bytes).toList,
    c.isAlphanum = true ∨ c = '+' ∨ c = '/' ∨ c = '='

instance [Crypto] : DecidableEq Crypto.PublicKey := Crypto.decEqPublicKey

inductive KeyError where
  | Generation
  | PrivateKeyEncoding
  | PublicKeyEncoding
  | InvalidPrivateKey
  | InvalidPublicKey
  | MismatchedKeyPair
deriving DecidableEq

@[ext] structure ActorKeyPair where
  privateKeyPem : String
  publicKeyPem : String
deriving DecidableEq

inductive HttpSignatureError where
  | InvalidPrivateKey
deriving DecidableEq

inductive HttpSignatureVerificationError where
  | InvalidPublicKey
  | InvalidSignatureEncoding
  | InvalidSignature
  | Verification
deriving DecidableEq

section
variable [Crypto]

def ActorKeyPair.fromPem (privateKeyPem publicKeyPem : String) : Except KeyError ActorKeyPair :=
  match Crypto.fromPkcs8Pem privateKeyPem with
  | none => .error .InvalidPrivateKey
  | some privateKey =>
    match Crypto.fromPublicKeyPem publicKeyPem with
    | none => .error .InvalidPublicKey
    | some publicKey =>
      if Crypto.publicKey privateKey ≠ publicKey then .error .MismatchedKeyPair
      else .ok ⟨privateKeyPem, publicKeyPem⟩

def createSha256DigestHeader (body : List UInt8) : String :=
  "SHA-256=" ++ Crypto.encode (Crypto.sha256 body)

end

/-! ## the signing string -/

def requestTargetLine (method requestTarget : String) : String :=
  "(request-target): " ++ toAsciiLowercase method ++ " " ++ requestTarget

def headerLine (header : String × String) : String :=
  toAsciiLowercase header.1 ++ ": " ++ trim header.2

def draftCavageSignatureBase (method requestTarget : String) (headers : List (String × String)) :
    String :=
  join "\n" (requestTargetLine method requestTarget :: headers.map headerLine)

section
variable [Crypto]

/-- the base64 text of the signature in the header -/
def signatureValue (keyPair : ActorKeyPair) (method requestTarget : String)
    (headers : List (String × String)) : Except HttpSignatureError String :=
  match Crypto.fromPkcs8Pem keyPair.privateKeyPem with
  | none => .error .InvalidPrivateKey
  | some privateKey =>
    .ok (Crypto.encode (Crypto.sign privateKey
      (utf8 (draftCavageSignatureBase method requestTarget headers))))

def signDraftCavage (keyPair : ActorKeyPair) (keyId method requestTarget : String)
    (headers : List (String × String)) : Except HttpSignatureError String :=
  match signatureValue keyPair method requestTarget headers with
  | .error e => .error e
  | .ok signature =>
    let signedHeaders := join " " (headers.map fun h => toAsciiLowercase h.1)
    .ok ("keyId=\"" ++ keyId ++ "\",algorithm=\"rsa-sha256\",headers=\"(request-target) " ++
      signedHeaders ++ "\",signature=\"" ++ signature ++ "\"")

def verifyDraftCavage (publicKeyPem method requestTarget : String)
    (headers : List (String × String)) (signature : String) :
    Except HttpSignatureVerificationError Unit :=
  match Crypto.fromPublicKeyPem publicKeyPem with
  | none => .error .InvalidPublicKey
  | some publicKey =>
    match Crypto.decode signature with
    | none => .error .InvalidSignatureEncoding
    | some bytes =>
      if Crypto.isSignature bytes then
        if Crypto.verify publicKey (utf8 (draftCavageSignatureBase method requestTarget headers))
            bytes then .ok ()
        else .error .Verification
      else .error .InvalidSignature

theorem verifyDraftCavage_ok {publicKeyPem method requestTarget signature : String}
    {headers : List (String × String)}
    (h : verifyDraftCavage publicKeyPem method requestTarget headers signature = .ok ()) :
    ∃ publicKey bytes, Crypto.fromPublicKeyPem publicKeyPem = some publicKey ∧
      Crypto.decode signature = some bytes ∧ Crypto.verify publicKey
        (utf8 (draftCavageSignatureBase method requestTarget headers)) bytes = true := by
  unfold verifyDraftCavage at h
  split at h
  · cases h
  · rename_i publicKey hkey
    split at h
    · cases h
    · rename_i bytes hbytes
      split at h
      · split at h
        · rename_i hverify
          exact ⟨publicKey, bytes, hkey, hbytes, hverify⟩
        · cases h
      · cases h

end

/-! ## the signing string is unambiguous -/

/-- a character of an HTTP token -/
def isTokenChar (c : Char) : Bool :=
  c.isAlphanum || c ∈ ['!', '#', '$', '%', '&', '\'', '*', '+', '-', '.', '^', '_', '\x60', '|', '~']

/-- a non-empty text of token characters -/
def isToken (s : String) : Bool := !s.toList.isEmpty && s.toList.all isTokenChar

theorem not_mem_token {c : Char} {s : String} (hs : isToken s = true) (hc : isTokenChar c = false) :
    c ∉ s.toList := by
  intro h
  rw [isToken, Bool.and_eq_true, List.all_eq_true] at hs
  rw [hs.2 c h] at hc
  cases hc

theorem isTokenChar_toLower {c : Char} (h : isTokenChar c = true) :
    isTokenChar c.toLower = true := by
  have hnat := toNat_toLower c
  split at hnat
  · have hletter : c.toLower.isAlphanum = true := isAlphanum_iff.mpr (by omega)
    rw [isTokenChar, hletter, Bool.true_or]
  · rwa [Char.toNat_inj.mp hnat]

theorem isToken_lower {s : String} (h : isToken s = true) :
    isToken (toAsciiLowercase s) = true := by
  rw [isToken, Bool.and_eq_true, List.all_eq_true] at h
  rw [isToken, toList_lower, List.isEmpty_map, h.1, Bool.true_and, List.all_eq_true]
  intro c hc
  obtain ⟨d, hd, rfl⟩ := List.mem_map.mp hc
  exact isTokenChar_toLower (h.2 d hd)

/-- no line break -/
def isLine (s : String) : Prop := '\n' ∉ s.toList

theorem not_mem_lower_token {c : Char} {s : String} (hs : isToken s = true)
    (hc : isTokenChar c = false) (hl : ¬ (97 ≤ c.toNat ∧ c.toNat ≤ 122)) :
    c ∉ (toAsciiLowercase s).toList :=
  not_mem_lower hl (not_mem_token hs hc)

theorem toList_requestTargetLine (method target : String) :
    (requestTargetLine method target).toList = "(request-target): ".toList ++
      ((toAsciiLowercase method).toList ++ ' ' :: target.toList) := by
  have h : ∀ a b c : String, (a ++ b ++ " " ++ c).toList =
      a.toList ++ (b.toList ++ ' ' :: c.toList) := by
    intro a b c
    simp
  exact h _ _ _

theorem toList_headerLine (h : String × String) :
    (headerLine h).toList
      = (toAsciiLowercase h.1).toList ++ ':' :: (' ' :: (trim h.2).toList) := by
  have hsep : ": ".toList = [':', ' '] := by decide
  rw [headerLine, String.toList_append, String.toList_append, hsep, List.append_assoc]
  rfl

theorem requestTargetLine_isLine {method target : String} (hm : isToken method = true)
    (ht : isLine target) : isLine (requestTargetLine method target) := by
  unfold isLine
  rw [toList_requestTargetLine, List.mem_append, List.mem_append, List.mem_cons]
  rintro (h | h | h | h)
  · revert h; decide
  · exact not_mem_lower_token hm (by decide) (by decide) h
  · cases h
  · exact ht h

theorem headerLine_isLine {h : String × String} (hn : isToken h.1 = true) (hv : isLine h.2) :
    isLine (headerLine h) := by
  unfold isLine
  rw [toList_headerLine, List.mem_append, List.mem_cons, List.mem_cons]
  rintro (hm | hm | hm | hm)
  · exact not_mem_lower_token hn (by decide) (by decide) hm
  · cases hm
  · cases hm
  · exact hv (mem_trim hm)

theorem headerLine_inj {h h' : String × String} (hn : isToken h.1 = true)
    (hn' : isToken h'.1 = true) (e : headerLine h = headerLine h') :
    toAsciiLowercase h.1 = toAsciiLowercase h'.1 ∧ trim h.2 = trim h'.2 := by
  have el := congrArg String.toList e
  rw [toList_headerLine, toList_headerLine] at el
  obtain ⟨e1, e2⟩ := sep_inj (not_mem_lower_token hn (by decide) (by decide))
    (not_mem_lower_token hn' (by decide) (by decide)) el
  exact ⟨String.toList_inj.mp e1, String.toList_inj.mp (List.cons.inj e2).2⟩

theorem requestTargetLine_inj {m m' t t' : String} (hm : isToken m = true)
    (hm' : isToken m' = true) (e : requestTargetLine m t = requestTargetLine m' t') :
    toAsciiLowercase m = toAsciiLowercase m' ∧ t = t' := by
  have el := congrArg String.toList e
  rw [toList_requestTargetLine, toList_requestTargetLine] at el
  obtain ⟨e1, e2⟩ := sep_inj (not_mem_lower_token hm (by decide) (by decide))
    (not_mem_lower_token hm' (by decide) (by decide)) (List.append_cancel_left el)
  exact ⟨String.toList_inj.mp e1, String.toList_inj.mp e2⟩

/-- what of a header the signing string fixes -/
def signedPart (h : String × String) : String × String := (toAsciiLowercase h.1, trim h.2)

/-- the signing string depends on nothing else of the headers, and on the method up to letter
case -/
theorem signatureBase_congr {m m' : String} (t : String) {hs hs' : List (String × String)}
    (hm : toAsciiLowercase m = toAsciiLowercase m')
    (hh : hs.map signedPart = hs'.map signedPart) :
    draftCavageSignatureBase m t hs = draftCavageSignatureBase m' t hs' := by
  have hline : ∀ hs : List (String × String), hs.map headerLine =
      (hs.map signedPart).map fun p => p.1 ++ ": " ++ p.2 := by
    intro hs
    rw [List.map_map]
    rfl
  unfold draftCavageSignatureBase requestTargetLine
  rw [hline hs, hline hs', hm, hh]

theorem map_headerLine_inj {hs hs' : List (String × String)} (hn : ∀ h ∈ hs, isToken h.1 = true)
    (hn' : ∀ h ∈ hs', isToken h.1 = true) (e : hs.map headerLine = hs'.map headerLine) :
    hs.map signedPart = hs'.map signedPart := by
  induction hs generalizing hs' with
  | nil =>
    cases hs' with
    | nil => rfl
    | cons _ _ => cases e
  | cons h rest ih =>
    cases hs' with
    | nil => cases e
    | cons h' rest' =>
      obtain ⟨e1, e2⟩ := List.cons.inj e
      obtain ⟨hname, hvalue⟩ := headerLine_inj (hn h (List.mem_cons_self ..))
        (hn' h' (List.mem_cons_self ..)) e1
      rw [List.map_cons, List.map_cons, ih (fun x hx => hn x (List.mem_cons_of_mem _ hx))
        (fun x hx => hn' x (List.mem_cons_of_mem _ hx)) e2]
      show (_, _) :: _ = (_, _) :: _
      rw [hname, hvalue]

/-- **The signing string is unambiguous**: it determines the method up to letter case, the
target, and the headers up to letter case of the names and trimming of the values. -/
theorem signatureBase_inj {m m' t t' : String} {hs hs' : List (String × String)}
    (hm : isToken m = true) (hm' : isToken m' = true) (ht : isLine t) (ht' : isLine t')
    (hn : ∀ h ∈ hs, isToken h.1 = true ∧ isLine h.2)
    (hn' : ∀ h ∈ hs', isToken h.1 = true ∧ isLine h.2)
    (e : draftCavageSignatureBase m t hs = draftCavageSignatureBase m' t' hs') :
    toAsciiLowercase m = toAsciiLowercase m' ∧ t = t' ∧
      hs.map signedPart = hs'.map signedPart := by
  have lines : ∀ {m t : String} {hs : List (String × String)}, isToken m = true → isLine t →
      (∀ h ∈ hs, isToken h.1 = true ∧ isLine h.2) →
      ∀ l ∈ (requestTargetLine m t :: hs.map headerLine).map String.toList, '\n' ∉ l := by
    intro m t hs hm ht hn l hl
    obtain ⟨s, hs', rfl⟩ := List.mem_map.mp hl
    rcases List.mem_cons.mp hs' with rfl | hmem
    · exact requestTargetLine_isLine hm ht
    · obtain ⟨h, hh, rfl⟩ := List.mem_map.mp hmem
      exact headerLine_isLine (hn h hh).1 (hn h hh).2
  have el := congrArg String.toList e
  unfold draftCavageSignatureBase join at el
  rw [String.toList_intercalate, String.toList_intercalate] at el
  have ej := intercalate_inj (lines hm ht hn) (lines hm' ht' hn') (by simp) (by simp) el
  have ej' := List.map_injective_iff.mpr (fun _ _ => String.toList_inj.mp) ej
  obtain ⟨e1, e2⟩ := List.cons.inj ej'
  obtain ⟨hmethod, htarget⟩ := requestTargetLine_inj hm hm' e1
  exact ⟨hmethod, htarget,
    map_headerLine_inj (fun h hh => (hn h hh).1) (fun h hh => (hn' h hh).1) e2⟩

/-- one header in the eyes of the signing string: its name up to letter case and its value up to
the white space around it -/
def SamePart (h h' : String × String) : Prop :=
  eqIgnoreAsciiCase h.1 h'.1 = true ∧ trim h.2 = trim h'.2

theorem map_signedPart_eq_iff {hs hs' : List (String × String)} :
    hs.map signedPart = hs'.map signedPart ↔ List.Forall₂ SamePart hs hs' := by
  have hpart : ∀ h h', signedPart h = signedPart h' ↔ SamePart h h' := by
    intro h h'
    rw [signedPart, signedPart, Prod.mk.injEq, SamePart, eqIgnoreAsciiCase_iff]
  rw [← List.forall₂_eq_eq_eq, List.forall₂_map_left_iff, List.forall₂_map_right_iff]
  simp only [hpart]

/-- **What two signing strings have in common.**  They are equal exactly if the methods are equal up
to letter case, the targets are equal and the headers are the same one by one; so whenever the
headers of two requests are not the same one by one, different bytes are signed, whatever else the
requests have in common. -/
theorem signatureBase_eq_iff {m m' t t' : String} {hs hs' : List (String × String)}
    (hm : isToken m = true) (hm' : isToken m' = true) (ht : isLine t) (ht' : isLine t')
    (hn : ∀ h ∈ hs, isToken h.1 = true ∧ isLine h.2)
    (hn' : ∀ h ∈ hs', isToken h.1 = true ∧ isLine h.2) :
    (draftCavageSignatureBase m t hs = draftCavageSignatureBase m' t' hs' ↔
      eqIgnoreAsciiCase m m' = true ∧ t = t' ∧ List.Forall₂ SamePart hs hs') ∧
    (¬ List.Forall₂ SamePart hs hs' →
      utf8 (draftCavageSignatureBase m t hs) ≠ utf8 (draftCavageSignatureBase m' t' hs')) := by
  have hdetermined : draftCavageSignatureBase m t hs = draftCavageSignatureBase m' t' hs' →
      eqIgnoreAsciiCase m m' = true ∧ t = t' ∧ List.Forall₂ SamePart hs hs' := by
    intro e
    obtain ⟨hmethod, htarget, hparts⟩ := signatureBase_inj hm hm' ht ht' hn hn' e
    exact ⟨eqIgnoreAsciiCase_iff.mpr hmethod, htarget, map_signedPart_eq_iff.mp hparts⟩
  refine ⟨⟨hdetermined, ?_⟩, fun hdiffer hbytes => ?_⟩
  · rintro ⟨hmethod, rfl, hsame⟩
    exact signatureBase_congr t (eqIgnoreAsciiCase_iff.mp hmethod) (map_signedPart_eq_iff.mpr hsame)
  · obtain ⟨_, _, hsame⟩ := hdetermined (utf8_inj hbytes)
    exact hdiffer hsame

/-- letter case and the white space around a value are not signed, but the number of headers is -/
theorem signatureBase_eq_iff_of_post :
    draftCavageSignatureBase "POST" "/inbox" [("Host", "a.x "), ("date", "x: y")] =
      draftCavageSignatureBase "post" "/inbox" [("host", "a.x"), ("Date", " x: y")] ∧
    utf8 (draftCavageSignatureBase "POST" "/inbox" [("date", "x: y")]) ≠
      utf8 (draftCavageSignatureBase "POST" "/inbox" [("date", "x: y"), ("x", "y")]) := by
  have hline : ∀ s ∈ ["/inbox", "a.x ", "a.x", "x: y", " x: y", "y"], isLine s := by
    unfold isLine
    decide
  have hnames : ∀ s ∈ ["POST", "post", "Host", "host", "date", "Date", "x"], isToken s = true := by
    decide
  constructor
  · refine (signatureBase_eq_iff (hnames _ (by simp)) (hnames _ (by simp)) (hline _ (by simp))
      (hline _ (by simp)) ?_ ?_).1.mpr ⟨by decide, rfl, ?_⟩
    · simp [hnames, hline]
    · simp [hnames, hline]
    · exact .cons ⟨by decide, by decide⟩ (.cons ⟨by decide, by decide⟩ .nil)
  · refine (signatureBase_eq_iff (hnames _ (by simp)) (hnames _ (by simp)) (hline _ (by simp))
      (hline _ (by simp)) ?_ ?_).2 ?_
    · simp [hnames, hline]
    · simp [hnames, hline]
    · intro h
      cases h with
      | cons _ hrest => cases hrest

end Feder
