import Feder.Server.Actor

/-!
# What the resolver accepts

The documents that `fetch_document` takes, and the actors and keys that are read out of them.  What
matters of a body is what has come before its first failure, in whatever chunks.

* `readBody_eq`             the loop over the chunks;
* `fetchDocument_ok_iff`    the documents that are fetched;
* `resolver_accepts_iff`    the actors and keys that are accepted.
-/

namespace Feder
open Serde Text

/-! ## the loop over the chunks -/

/-- what has come of a body before its first failure -/
def received : List (Option (List UInt8)) → List UInt8
  | some chunk :: rest => chunk ++ received rest
  | none :: _ | [] => []

/-- **The body is what has come**, unless that is too large or a chunk fails; the limit is checked
first. -/
theorem readBody_eq (chunks : List (Option (List UInt8))) {body : List UInt8}
    (h : body.length ≤ MAX_ACTOR_BODY_SIZE) :
    readBody body chunks =
      if MAX_ACTOR_BODY_SIZE < (body ++ received chunks).length then .error .ResponseTooLarge
      else if none ∈ chunks then .error .Request
      else .ok (body ++ received chunks) := by
  induction chunks generalizing body with
  | nil =>
    have hfits : ¬ MAX_ACTOR_BODY_SIZE < (body ++ received []).length := by
      rw [received, List.append_nil]
      omega
    rw [if_neg hfits, if_neg List.not_mem_nil, received, List.append_nil]
    rfl
  | cons chunk rest ih =>
    cases chunk with
    | none =>
      have hfits : ¬ MAX_ACTOR_BODY_SIZE < (body ++ received (none :: rest)).length := by
        rw [received, List.append_nil]
        omega
      rw [if_neg hfits, if_pos List.mem_cons_self]
      rfl
    | some chunk =>
      have hmem : none ∈ some chunk :: rest ↔ none ∈ rest := by simp
      unfold readBody received
      rw [← List.append_assoc]
      simp only [hmem]
      by_cases hlarge : body.length + chunk.length > MAX_ACTOR_BODY_SIZE
      · have htotal : MAX_ACTOR_BODY_SIZE < (body ++ chunk ++ received rest).length := by
          rw [List.length_append, List.length_append]
          omega
        rw [if_pos hlarge, if_pos htotal]
      · rw [if_neg hlarge]
        apply ih
        rw [List.length_append]
        omega

theorem readBody_ok_iff {chunks : List (Option (List UInt8))} {body : List UInt8} :
    readBody [] chunks = .ok body ↔
      none ∉ chunks ∧ body = received chunks ∧ body.length ≤ MAX_ACTOR_BODY_SIZE := by
  rw [readBody_eq chunks (Nat.zero_le _), List.nil_append]
  split
  · rename_i hlarge
    constructor
    · intro h
      cases h
    · rintro ⟨_, rfl, hlength⟩
      omega
  · rename_i hlarge
    split
    · rename_i hfails
      constructor
      · intro h
        cases h
      · exact fun h => absurd hfails h.1
    · rename_i hwhole
      constructor
      · intro h
        cases h
        exact ⟨hwhole, rfl, Nat.le_of_not_lt hlarge⟩
      · rintro ⟨_, rfl, _⟩
        rfl

/-! ## what is fetched -/

section
variable [Crates]

/-- the response is one that the resolver takes a body from -/
structure HttpResponse.Acceptable (response : HttpResponse) : Prop where
  success : 200 ≤ response.status ∧ response.status < 300
  activitypub : isActivitypubContentType ((response.contentType.bind toStr).getD "") = true
  announced : ∀ length ∈ response.contentLength, length ≤ MAX_ACTOR_BODY_SIZE

/-- a body is fetched for a resource -/
def Fetched (addressPolicy : OutboundAddressPolicy) (get : Url → Option HttpResponse)
    (resourceId : Iri) (body : List UInt8) : Prop :=
  ∃ url response, HttpSyntax.parseUrl resourceId.str = some url ∧ url.isHttp = true ∧
    validateLiteralHost url.host addressPolicy = .ok () ∧ get url = some response ∧
    response.Acceptable ∧ none ∉ response.chunks ∧ body = received response.chunks ∧
    body.length ≤ MAX_ACTOR_BODY_SIZE

omit [Crates] in
theorem any_length_iff {length : Option Nat} :
    ¬ (length.any fun length => length > MAX_ACTOR_BODY_SIZE) = true ↔
      ∀ n ∈ length, n ≤ MAX_ACTOR_BODY_SIZE := by
  cases length with
  | none => simp
  | some n => simp

/-- **The documents that are fetched.** -/
theorem fetchDocument_ok_iff {addressPolicy : OutboundAddressPolicy}
    {get : Url → Option HttpResponse} {resourceId : Iri} {body : List UInt8} :
    fetchDocument addressPolicy get resourceId = .ok body ↔
      Fetched addressPolicy get resourceId body := by
  unfold Fetched
  constructor
  · intro h
    unfold fetchDocument at h
    split at h
    · cases h
    rename_i url hurl
    obtain ⟨hhttp, h⟩ := ite_error_eq_ok.mp h
    split at h
    · cases h
    rename_i u haddress
    split at h
    · cases h
    rename_i response hget
    obtain ⟨hstatus, h⟩ := ite_error_eq_ok.mp h
    obtain ⟨hcontent, h⟩ := ite_error_eq_ok.mp h
    obtain ⟨hlength, h⟩ := ite_error_eq_ok.mp h
    obtain ⟨hwhole, hbody, hsize⟩ := readBody_ok_iff.mp h
    exact ⟨url, response, hurl, not_not.mp hhttp, haddress, hget,
      ⟨not_not.mp hstatus, not_not.mp hcontent, any_length_iff.mp hlength⟩, hwhole, hbody, hsize⟩
  · rintro ⟨url, response, hurl, hhttp, haddress, hget, ⟨hstatus, hcontent, hlength⟩, hbody⟩
    unfold fetchDocument
    rw [hurl]
    dsimp only
    rw [if_neg (not_not.mpr hhttp), haddress]
    dsimp only
    rw [hget]
    dsimp only
    rw [if_neg (not_not.mpr hstatus), if_neg (not_not.mpr hcontent),
      if_neg (any_length_iff.mpr hlength)]
    exact readBody_ok_iff.mpr hbody

/-! ## what is read out of it -/

theorem resolve_ok_iff {resolver : ActorResolver} {actorId : Iri} {actor : Actor} :
    resolver.resolve actorId = .ok actor ↔ ∃ body document,
      Fetched resolver.addressPolicy resolver.actorResponse actorId body ∧
      ofSlice ActorDocument.deserialize body = some document ∧ document.intoActor = actor ∧
      actor.id = actorId := by
  unfold ActorResolver.resolve
  constructor
  · intro h
    split at h
    · cases h
    rename_i body hfetch
    split at h
    · cases h
    rename_i document hdocument
    obtain ⟨hid, h⟩ := ite_error_eq_ok.mp h
    cases h
    exact ⟨body, document, fetchDocument_ok_iff.mp hfetch, hdocument, rfl, not_not.mp hid⟩
  · rintro ⟨body, document, hfetched, hdocument, rfl, hid⟩
    rw [fetchDocument_ok_iff.mpr hfetched]
    dsimp only
    rw [hdocument]
    dsimp only
    rw [if_neg (not_not.mpr hid)]

/-- the document is the key itself -/
def IsKeyDocument (keyId : Iri) (body : List UInt8) (key : CryptographicKey) : Prop :=
  ofSlice CryptographicKey.deserialize body = some key ∧ key.id = keyId

/-- the document is that of an actor with the key in it -/
def EmbedsKey (keyId : Iri) (body : List UInt8) (key : CryptographicKey) : Prop :=
  ∃ document, ofSlice ActorDocument.deserialize body = some document ∧
    document.publicKey = some (.object key) ∧ key.id = keyId

theorem embeddedKey_eq_some {keyId : Iri} {body : List UInt8} {key : CryptographicKey} :
    ActorResolver.embeddedKey keyId body = some key ↔ EmbedsKey keyId body key := by
  unfold ActorResolver.embeddedKey EmbedsKey
  cases ofSlice ActorDocument.deserialize body with
  | none => simp
  | some document =>
    cases hkey : document.publicKey with
    | none => simp [hkey]
    | some reference =>
      cases reference with
      | id i => simp [hkey]
      | object k =>
        by_cases hid : k.id = keyId
        · simp only [hkey, if_pos hid, Option.some.injEq, exists_eq_left', Reference.object.injEq]
          constructor
          · rintro rfl
            exact ⟨rfl, hid⟩
          · exact And.left
        · simp only [hkey, if_neg hid, Option.some.injEq, exists_eq_left', Reference.object.injEq,
            reduceCtorEq, false_iff, not_and]
          rintro rfl
          exact hid

theorem filter_key_eq_some {keyId : Iri} {body : List UInt8} {key : CryptographicKey} :
    (ofSlice CryptographicKey.deserialize body).filter (fun key => key.id = keyId) = some key ↔
      IsKeyDocument keyId body key := by
  rw [Option.filter_eq_some_iff, decide_eq_true_eq]
  rfl

theorem resolveKey_ok_iff {resolver : ActorResolver} {keyId : Iri} {key : CryptographicKey} :
    resolver.resolveKey keyId = .ok key ↔ ∃ body,
      Fetched resolver.addressPolicy resolver.keyResponse keyId body ∧
      (IsKeyDocument keyId body key ∨
        (∀ other, ¬ IsKeyDocument keyId body other) ∧ EmbedsKey keyId body key) := by
  unfold ActorResolver.resolveKey
  constructor
  · intro h
    split at h
    · cases h
    rename_i body hfetch
    refine ⟨body, fetchDocument_ok_iff.mp hfetch, ?_⟩
    split at h
    · rename_i key' hkey
      cases h
      exact Or.inl (filter_key_eq_some.mp hkey)
    · rename_i hnone
      split at h
      · rename_i key' hkey
        cases h
        refine Or.inr ⟨fun other hother => ?_, embeddedKey_eq_some.mp hkey⟩
        rw [filter_key_eq_some.mpr hother] at hnone
        cases hnone
      · cases h
  · rintro ⟨body, hfetched, hkey⟩
    rw [fetchDocument_ok_iff.mpr hfetched]
    dsimp only
    rcases hkey with hkey | ⟨hnone, hkey⟩
    · rw [filter_key_eq_some.mpr hkey]
    · have hfilter : (ofSlice CryptographicKey.deserialize body).filter
          (fun key => key.id = keyId) = none := by
        cases hfound : (ofSlice CryptographicKey.deserialize body).filter
            (fun key => key.id = keyId) with
        | none => rfl
        | some other => exact absurd (filter_key_eq_some.mp hfound) (hnone other)
      rw [hfilter]
      dsimp only
      rw [embeddedKey_eq_some.mpr hkey]

/-- **What the resolver accepts.**  An actor is exactly what the document under its id says, a key
what the document under its id is, or else what the actor document there embeds: a document of a
successful response with an ActivityPub type, whose body has come whole, in any chunks, and is
within the limit. -/
theorem resolver_accepts_iff (resolver : ActorResolver) :
    (∀ actorId actor, resolver.resolve actorId = .ok actor ↔ ∃ body document,
      Fetched resolver.addressPolicy resolver.actorResponse actorId body ∧
      ofSlice ActorDocument.deserialize body = some document ∧ document.intoActor = actor ∧
      actor.id = actorId) ∧
    ∀ keyId key, resolver.resolveKey keyId = .ok key ↔ ∃ body,
      Fetched resolver.addressPolicy resolver.keyResponse keyId body ∧
      (IsKeyDocument keyId body key ∨
        (∀ other, ¬ IsKeyDocument keyId body other) ∧ EmbedsKey keyId body key) :=
  ⟨fun _ _ => resolve_ok_iff, fun _ _ => resolveKey_ok_iff⟩

end

end Feder
