import Feder.Server.Libraries

/-!
# Signing, reading and verifying are inverse

What `sign_draft_cavage` writes for any list of headers is read back by `parse_signature_header`,
and the signature in it is good for the same request, whatever the letter case of its method and
header names and the white space around its values.

* `signDraftCavage_eq`   the header that is written;
* `sign_parse_verify`    it is read as it was written, and its signature verifies.
-/

namespace Feder
open Text

/-- what is relied on of the signatures: they verify, and their texts are not empty -/
structure CorrectSigning [Crypto] : Prop where
  verify_sign : ∀ privateKey message, Crypto.verify (Crypto.publicKey privateKey) message
    (Crypto.sign privateKey message) = true
  isSignature_sign : ∀ privateKey message,
    Crypto.isSignature (Crypto.sign privateKey message) = true
  encode_sign : ∀ privateKey message, Crypto.encode (Crypto.sign privateKey message) ≠ ""

/-! ## the same request -/

/-- one text with any white space around it -/
def SameValue (value value' : String) : Prop :=
  ∃ core before after before' after' : List Char,
    (∀ c ∈ before ++ after ++ before' ++ after', isWhitespace c = true) ∧
    value.toList = before ++ core ++ after ∧ value'.toList = before' ++ core ++ after'

/-- one header, up to the letter case of its name and the white space around its value -/
def SameHeader (h h' : String × String) : Prop :=
  eqIgnoreAsciiCase h.1 h'.1 = true ∧ SameValue h.2 h'.2

theorem SameValue.trim_eq {value value' : String} (h : SameValue value value') :
    trim value = trim value' := by
  obtain ⟨core, before, after, before', after', hblank, hvalue, hvalue'⟩ := h
  simp only [List.mem_append, or_imp, forall_and] at hblank
  obtain ⟨⟨⟨hbefore, hafter⟩, hbefore'⟩, hafter'⟩ := hblank
  rw [trim, trim, hvalue, hvalue', trimChars_surround hbefore hafter,
    trimChars_surround hbefore' hafter']

theorem map_signedPart {headers headers' : List (String × String)}
    (h : List.Forall₂ SameHeader headers headers') :
    headers.map signedPart = headers'.map signedPart := by
  induction h with
  | nil => rfl
  | @cons h h' rest rest' hsame _ ih =>
    obtain ⟨hname, hvalue⟩ := hsame
    rw [List.map_cons, List.map_cons, ih]
    show (_, _) :: _ = (_, _) :: _
    rw [eqIgnoreAsciiCase_iff.mp hname, hvalue.trim_eq]

/-! ## the round trip -/

section
variable [Crypto]

theorem ActorKeyPair.keys_of_fromPem {keyPair : ActorKeyPair}
    (h : ActorKeyPair.fromPem keyPair.privateKeyPem keyPair.publicKeyPem = .ok keyPair) :
    ∃ privateKey, Crypto.fromPkcs8Pem keyPair.privateKeyPem = some privateKey ∧
      Crypto.fromPublicKeyPem keyPair.publicKeyPem = some (Crypto.publicKey privateKey) := by
  unfold ActorKeyPair.fromPem at h
  split at h
  · cases h
  · rename_i privateKey hprivate
    split at h
    · cases h
    · rename_i publicKey hpublic
      split at h
      · cases h
      · rename_i hmatch
        rw [not_not] at hmatch
        exact ⟨privateKey, hprivate, hmatch ▸ hpublic⟩

theorem signDraftCavage_eq {keyPair : ActorKeyPair} {privateKey : Crypto.PrivateKey}
    (h : Crypto.fromPkcs8Pem keyPair.privateKeyPem = some privateKey) (keyId method target : String)
    (headers : List (String × String)) :
    signDraftCavage keyPair keyId method target headers =
      .ok (signatureHeader keyId (headers.map fun h => toAsciiLowercase h.1)
        (Crypto.encode (Crypto.sign privateKey
          (utf8 (draftCavageSignatureBase method target headers))))) := by
  unfold signDraftCavage signatureValue
  rw [h]
  rfl

/-- **Signing, reading and verifying are inverse.**  For the key pair of an actor, a key id that
can stand between quotes and headers whose names are tokens, the header that is written is read as
the key id, the algorithm, the lower-cased names in their order and a signature that is good for
the same request. -/
theorem sign_parse_verify (hsigning : CorrectSigning) {keyPair : ActorKeyPair}
    (hpair : ActorKeyPair.fromPem keyPair.privateKeyPem keyPair.publicKeyPem = .ok keyPair)
    {keyId : String} (hkeyId : IsPlain keyId.toList) (hne : keyId ≠ "") (method target : String)
    {headers : List (String × String)} (hnames : ∀ h ∈ headers, isToken h.1 = true) :
    ∃ header signature, signDraftCavage keyPair keyId method target headers = .ok header ∧
      parseSignatureHeader header = some ⟨keyId, some "rsa-sha256",
        "(request-target)" :: headers.map (fun h => toAsciiLowercase h.1), signature⟩ ∧
      ∀ method' headers', eqIgnoreAsciiCase method method' = true →
        List.Forall₂ SameHeader headers headers' →
        verifyDraftCavage keyPair.publicKeyPem method' target headers' signature = .ok () := by
  obtain ⟨privateKey, hprivate, hpublic⟩ := ActorKeyPair.keys_of_fromPem hpair
  refine ⟨_, _, signDraftCavage_eq hprivate keyId method target headers,
    parseSignatureHeader_sign hkeyId hne ?_ ?_ (isPlain_encode _) (hsigning.encode_sign _ _), ?_⟩
  · intro name hname
    obtain ⟨h, hh, rfl⟩ := List.mem_map.mp hname
    exact isToken_lower (hnames h hh)
  · intro name hname
    obtain ⟨h, _, rfl⟩ := List.mem_map.mp hname
    exact toAsciiLowercase_idem h.1
  · intro method' headers' hmethod hheaders
    rw [signatureBase_congr target (eqIgnoreAsciiCase_iff.mp hmethod) (map_signedPart hheaders)]
    unfold verifyDraftCavage
    rw [hpublic]
    dsimp only
    rw [Crypto.decode_encode]
    dsimp only
    rw [if_pos (hsigning.isSignature_sign _ _), if_pos (hsigning.verify_sign _ _)]

end

section
attribute [local instance] libraries

theorem libraries_correctSigning : CorrectSigning where
  verify_sign := libraries_verify_sign
  isSignature_sign _ _ := rfl
  encode_sign := libraries_encode_sign

/-- a request of alice with two headers, verified with other letters and other white space -/
theorem sign_parse_verify_of_alice : ∃ header signature,
    signDraftCavage Peer.alice.keyPair Peer.alice.keyId.str "POST" "/inbox"
      [("Host", "a.x"), ("date", "")] = .ok header ∧
    parseSignatureHeader header = some ⟨Peer.alice.keyId.str, some "rsa-sha256",
      ["(request-target)", "host", "date"], signature⟩ ∧
    verifyDraftCavage Peer.alice.keyPair.publicKeyPem "post" "/inbox"
      [("HOST", " a.x "), ("Date", "  ")] signature = .ok () := by
  have hpair : ActorKeyPair.fromPem Peer.alice.keyPair.privateKeyPem
      Peer.alice.keyPair.publicKeyPem = .ok Peer.alice.keyPair := rfl
  have hkeyId : IsPlain Peer.alice.keyId.str.toList := by decide
  have hnames : ∀ h ∈ [("Host", "a.x"), ("date", "")], isToken h.1 = true := by decide
  obtain ⟨header, signature, hsign, hparse, hverify⟩ := sign_parse_verify libraries_correctSigning
    hpair hkeyId (by decide) "POST" "/inbox" hnames
  refine ⟨header, signature, hsign, hparse, hverify _ _ (by decide) ?_⟩
  have hblank : ∀ c ∈ [' ', ' '], isWhitespace c = true :=
    List.all_eq_true.mp (show [' ', ' '].all isWhitespace = true by decide)
  have hhost : SameHeader ("Host", "a.x") ("HOST", " a.x ") :=
    ⟨by decide, ['a', '.', 'x'], [], [], [' '], [' '], hblank, rfl, rfl⟩
  have hdate : SameHeader ("date", "") ("Date", "  ") :=
    ⟨by decide, [], [], [], [' '], [' '], hblank, rfl, rfl⟩
  exact .cons hhost (.cons hdate .nil)

/-- a signature with an empty key id is not read -/
theorem empty_keyId_unread : ¬ ∀ keyId : String, IsPlain keyId.toList →
    ∃ header parsed, signDraftCavage Peer.alice.keyPair keyId "POST" "/" [] = .ok header ∧
      parseSignatureHeader header = some parsed := by
  intro h
  obtain ⟨header, parsed, hsign, hparse⟩ := h "" (by decide)
  obtain ⟨privateKey, hprivate, _⟩ := Peer.exists_privateKey .alice
  rw [signDraftCavage_eq hprivate] at hsign
  cases hsign
  unfold parseSignatureHeader at hparse
  rw [parseParameters_sign (by decide) (by decide) (isPlain_encode _)] at hparse
  cases hparse

end

end Feder
