import Feder.Server.Signature

/-!
# Signed and sent requests

The loop over the signed headers, the signing string and the digest check together: a request
that passes agrees with any sent request whose signing string it carries.

* `collectSignedHeaders_some`   the headers that the loop collects;
* `body_of_digest`              a digest header that is sent for a body fits no other body;
* `sameSigned_of_base`          one signing string shows that two requests agree.
-/

namespace Feder
open Serde Text

/-- no two bodies have one digest -/
def CollisionFree [Crypto] : Prop :=
  ∀ body body' : List UInt8, Crypto.sha256 body = Crypto.sha256 body' → body = body'

/-- what the cryptography is trusted with: a signature verifies only for the message that it was
made for, and no two bodies have one digest -/
structure SecureCrypto [Crypto] : Prop where
  binds : ∀ publicKey privateKey message message',
    Crypto.verify publicKey message' (Crypto.sign privateKey message) = true → message' = message
  collisionFree : CollisionFree

/-! ## the signed headers -/

/-- a header of the request that the loop has read: its only value, as a text -/
def IsHeaderOf (headers : HeaderMap) (h : String × String) : Prop :=
  ∃ value, headers.getAll h.1 = [value] ∧ toStr value = some h.2

theorem collectSignedHeaders_some {headers : HeaderMap} {seen names : List String}
    {collected result : List (String × String)}
    (h : collectSignedHeaders headers seen collected names = some result) :
    ∃ added, result = collected ++ added ∧ added.map Prod.fst = names ∧
      ∀ a ∈ added, IsHeaderOf headers a := by
  induction names generalizing seen collected with
  | nil =>
    cases h
    exact ⟨[], (List.append_nil _).symm, rfl, by simp⟩
  | cons name names ih =>
    unfold collectSignedHeaders at h
    split at h
    · cases h
    · split at h
      · rename_i value hvalue
        split at h
        · rename_i text htext
          obtain ⟨added, rfl, hnames, hall⟩ := ih h
          refine ⟨(name, text) :: added, by simp, by simp [hnames], ?_⟩
          intro a ha
          rcases List.mem_cons.mp ha with rfl | ha
          · exact ⟨value, hvalue, htext⟩
          · exact hall a ha
        · cases h
      · cases h

theorem signedHeaders_lower {header : String} {signature : ParsedSignature}
    (h : parseSignatureHeader header = some signature) :
    ∀ name ∈ signature.signedHeaders, toAsciiLowercase name = name := by
  unfold parseSignatureHeader at h
  simp only [Option.bind_eq_bind, Option.bind_eq_some_iff] at h
  obtain ⟨parameters, _, keyId, _, headers, _, signatureText, _, h⟩ := h
  split at h
  · cases h
  · cases h
    intro name hname
    obtain ⟨word, _, rfl⟩ := List.mem_map.mp hname
    exact toAsciiLowercase_idem word

theorem signed_wellFormed {headers : HeaderMap} {h : String × String}
    (hh : IsHeaderOf headers h) (hlower : toAsciiLowercase h.1 = h.1) :
    isToken h.1 = true ∧ isLine h.2 := by
  obtain ⟨value, hvalue, htext⟩ := hh
  have hname := HeaderMap.name_ok (hvalue ▸ List.mem_singleton.mpr rfl)
  rw [hlower, isHeaderName, Bool.and_eq_true] at hname
  exact ⟨hname.1, isLine_of_toStr htext⟩

section
variable [Crates]

/-! ## the digest -/

theorem digestHeader_toList (body : List UInt8) :
    (createSha256DigestHeader body).toList =
      "SHA-256".toList ++ '=' :: (Crypto.encode (Crypto.sha256 body)).toList := by
  rw [createSha256DigestHeader, String.toList_append]
  rfl

theorem mem_digestHeader {body : List UInt8} {c : Char}
    (h : c ∈ (createSha256DigestHeader body).toList) : isWhitespace c = false ∧ c ≠ ',' := by
  have hplain : ∀ c : Char, c.isAlphanum = true ∨ c = '+' ∨ c = '/' ∨ c = '=' →
      isWhitespace c = false ∧ c ≠ ',' := by
    intro c hc
    rcases hc with hc | rfl | rfl | rfl
    · exact ⟨isWhitespace_of_isAlphanum hc, by rintro rfl; revert hc; decide⟩
    all_goals decide
  rw [digestHeader_toList, List.mem_append, List.mem_cons] at h
  rcases h with h | rfl | h
  · have hname : "SHA-256".toList.all (fun c => isWhitespace c = false ∧ c ≠ ',') = true := by decide
    exact of_decide_eq_true (List.all_eq_true.mp hname c h)
  · decide
  · exact hplain c (Crypto.encode_alphabet _ c h)

theorem splitOnce_digestHeader (body : List UInt8) :
    splitOnce '=' (createSha256DigestHeader body).toList =
      some ("SHA-256".toList, (Crypto.encode (Crypto.sha256 body)).toList) := by
  rw [digestHeader_toList]
  exact splitOnce_of_not_mem (by decide)

theorem encode_inj {a b : List UInt8} (h : Crypto.encode a = Crypto.encode b) : a = b := by
  have hd := congrArg Crypto.decode h
  rw [Crypto.decode_encode, Crypto.decode_encode] at hd
  exact Option.some.inj hd

/-- **A digest header that is sent for a body fits no other body.** -/
theorem body_of_digest (hcollision : CollisionFree) {headers : HeaderMap} {body sent : List UInt8}
    {text : String} (hheader : (headers.get "digest").bind toStr = some text)
    (htrim : trim text = trim (createSha256DigestHeader sent))
    (h : verifyRequestDigest headers body = .ok ()) : body = sent := by
  have hsent : trimChars text.toList = (createSha256DigestHeader sent).toList := by
    have e := congrArg String.toList htrim
    rw [trim_eq_self fun c hc => (mem_digestHeader hc).1] at e
    rwa [trim, String.toList_ofList] at e
  have hcomma : ',' ∉ text.toList := by
    intro hc
    have hmem := mem_trimChars_of_mem (by decide) hc
    rw [hsent] at hmem
    exact (mem_digestHeader hmem).2 rfl
  unfold verifyRequestDigest at h
  rw [hheader] at h
  dsimp only at h
  rw [split_of_not_mem hcomma] at h
  split at h
  · rename_i hany
    rw [List.any_cons, List.any_nil, Bool.or_false] at hany
    unfold digestEntryMatches at hany
    rw [hsent, splitOnce_digestHeader, splitOnce_digestHeader] at hany
    dsimp only at hany
    rw [Bool.and_eq_true, beq_iff_eq] at hany
    have hencode := encode_inj (String.toList_inj.mp hany.2)
    exact hcollision body sent hencode.symm
  · cases h

/-! ## sent and received requests -/

/-- the requests agree in everything that a signature covers -/
structure SameSigned (request : InboxRequest) (r : OutgoingRequest) : Prop where
  method : toAsciiLowercase request.method.str = toAsciiLowercase r.method
  target : request.uri.requestTarget = r.requestTarget
  body : request.body = r.body
  headers : ∀ name ∈ ["content-type", "date", "digest", "host"], ∃ value text sent,
    request.headers.getAll name = [value] ∧ toStr value = some text ∧
      (name, sent) ∈ r.headers ∧ trim text = trim sent

theorem signatureValue_ok {keyPair : ActorKeyPair} {method target signature : String}
    {headers : List (String × String)}
    (h : signatureValue keyPair method target headers = .ok signature) :
    ∃ privateKey, signature = Crypto.encode (Crypto.sign privateKey
      (utf8 (draftCavageSignatureBase method target headers))) := by
  unfold signatureValue at h
  split at h
  · cases h
  · rename_i privateKey _
    cases h
    exact ⟨privateKey, rfl⟩

/-- **One signing string shows that two requests agree.** -/
theorem sameSigned_of_base (hcollision : CollisionFree) {resolver : ActorResolver} {now : Int}
    {request : InboxRequest} {activityActorId expectedInbox : Iri} {actor : Actor}
    {signature : ParsedSignature} {signedHeaders : List (String × String)}
    {publicKey : CryptographicKey}
    (hv : VerifiedRequest resolver now request activityActorId expectedInbox actor signature
      signedHeaders publicKey)
    {now' : Int} {localActor : Actor} {keyPair : ActorKeyPair} {activity : Json}
    {r : OutgoingRequest} (hr : BuiltRequest now' localActor keyPair activity r)
    (hbase : draftCavageSignatureBase request.method.str request.uri.requestTarget signedHeaders =
      draftCavageSignatureBase r.method r.requestTarget r.headers) : SameSigned request r := by
  obtain ⟨header, _, hparse⟩ := hv.header
  obtain ⟨added, hadded, hnames, hheaders⟩ := collectSignedHeaders_some hv.collected
  rw [List.nil_append] at hadded
  subst hadded
  have hlower : ∀ h ∈ signedHeaders, toAsciiLowercase h.1 = h.1 := by
    intro h hh
    apply signedHeaders_lower hparse
    apply List.mem_of_mem_drop (i := 1)
    rw [← hnames]
    exact List.mem_map_of_mem hh
  obtain ⟨host, hsent⟩ := hr.headers
  have hsentNames : ∀ h ∈ r.headers, isToken h.1 = true ∧ toAsciiLowercase h.1 = h.1 := by
    rw [hsent]
    simp only [Feder.signedHeaders, List.forall_mem_cons, List.not_mem_nil, false_implies,
      implies_true, and_true]
    decide
  have hpost : isToken r.method = true := by
    rw [hr.method]
    decide
  have htarget : isLine r.requestTarget := by
    rw [hr.target]
    exact requestTarget_isLine r.url
  obtain ⟨hmethod, htargets, hparts⟩ := signatureBase_inj request.method.token hpost
    request.uri.requestTarget_isLine htarget
    (fun h hh => signed_wellFormed (hheaders h hh) (hlower h hh))
    (fun h hh => ⟨(hsentNames h hh).1, isLine_of_isHeaderValue (hr.values h hh)⟩) hbase
  have hfind : ∀ h ∈ r.headers, ∃ value text, request.headers.getAll h.1 = [value] ∧
      toStr value = some text ∧ trim text = trim h.2 := by
    intro h hh
    have hpart : signedPart h ∈ signedHeaders.map signedPart := by
      rw [hparts]
      exact List.mem_map_of_mem hh
    obtain ⟨h', hh', e⟩ := List.mem_map.mp hpart
    obtain ⟨hname, htrim⟩ := Prod.mk.inj e
    rw [hlower h' hh', (hsentNames h hh).2] at hname
    obtain ⟨value, hvalue, htext⟩ := hheaders h' hh'
    exact ⟨value, h'.2, hname ▸ hvalue, htext, htrim⟩
  refine ⟨hmethod, htargets, ?_, ?_⟩
  · have hmem : ("digest", createSha256DigestHeader r.body) ∈ r.headers := by
      rw [hsent]
      simp [Feder.signedHeaders]
    obtain ⟨value, text, hvalue, htext, htrim⟩ := hfind _ hmem
    have hget : (request.headers.get "digest").bind toStr = some text := by
      rw [HeaderMap.get_of_getAll hvalue]
      exact htext
    exact body_of_digest hcollision hget htrim hv.digest
  · intro name hname
    have hmem : name ∈ r.headers.map Prod.fst := by
      rw [hsent]
      exact hname
    obtain ⟨sent, hsentMem, rfl⟩ := List.mem_map.mp hmem
    obtain ⟨value, text, hvalue, htext, htrim⟩ := hfind sent hsentMem
    exact ⟨value, text, sent.2, hvalue, htext, hsentMem, htrim⟩

/-- a signature that fits two requests was made for one signing string -/
theorem sameSigned_of_verified (hcrypto : SecureCrypto) {resolver : ActorResolver} {now : Int}
    {request : InboxRequest} {activityActorId expectedInbox : Iri} {actor : Actor}
    {signature : ParsedSignature} {signedHeaders : List (String × String)}
    {publicKey : CryptographicKey}
    (hv : VerifiedRequest resolver now request activityActorId expectedInbox actor signature
      signedHeaders publicKey)
    {now' : Int} {localActor : Actor} {keyPair : ActorKeyPair} {activity : Json}
    {r : OutgoingRequest} (hr : BuiltRequest now' localActor keyPair activity r)
    (hsignature : signatureValue keyPair r.method r.requestTarget r.headers =
      .ok signature.signature) : SameSigned request r := by
  obtain ⟨privateKey, hmade⟩ := signatureValue_ok hsignature
  obtain ⟨key, bytes, _, hdecode, hverify⟩ := verifyDraftCavage_ok hv.verified
  rw [hmade, Crypto.decode_encode] at hdecode
  cases hdecode
  exact sameSigned_of_base hcrypto.collisionFree hv hr (utf8_inj (hcrypto.binds _ _ _ _ hverify))

end

end Feder
