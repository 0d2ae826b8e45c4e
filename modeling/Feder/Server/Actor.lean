import Feder.Core.Follow
import Feder.Server.Http
import Feder.Vocab.Codec

/-!
# The actor resolver

`actor.rs`: the fetching of a remote document, the actor document and the key in it.  The network
is a parameter of each resolver: what answers a request for a key and a request for an actor.

* `ActorDocument.deserialize_serialize`   a written actor is read as a document of it;
* `vocabulary_codecLaws`                  the codec laws of the vocabulary;
* `resolve_id`, `resolveKey_id`           a resolved actor or key has the id that was asked for.
-/

namespace Feder
open Serde Text

def MAX_ACTOR_BODY_SIZE : Nat := 1048576

structure HttpResponse where
  status : Nat
  contentType : Option (List UInt8)
  contentLength : Option Nat
  /-- the chunks of the body in order; reading one of them can fail -/
  chunks : List (Option (List UInt8))

structure ActorResolver where
  addressPolicy : OutboundAddressPolicy
  /-- the response to the request for a key -/
  keyResponse : Url → Option HttpResponse
  /-- the response to the request for an actor -/
  actorResponse : Url → Option HttpResponse

inductive ActorResolveError where
  | InvalidResourceId (resource : String)
  | PrivateResourceAddress (resource : String) (address : IpAddr)
  | Request
  | UnsuccessfulStatus (resource : String) (status : Nat)
  | UnsupportedContentType (contentType : String)
  | ResponseTooLarge
  | Deserialize
  | ActorIdMismatch (requested returned : String)
  | KeyNotFound (key : String)
deriving DecidableEq

variable [Crates]

/-! ## the document of an actor -/

structure ActorDocument where
  kind : ActorType
  id : Iri
  inbox : Iri
  outbox : Iri
  followers : Option Iri
  preferredUsername : Option String
  name : Option String
  endpoints : Option Endpoints
  publicKey : Option (Reference CryptographicKey)

def ActorDocument.deserialize (j : Json) : Option ActorDocument := do
  let field ← slots ["type", "id", "inbox", "outbox", "followers", "preferredUsername", "name",
    "endpoints", "publicKey"] j
  let kind ← required ActorType.deserialize (field "type")
  let id ← required Iri.deserialize (field "id")
  let inbox ← required Iri.deserialize (field "inbox")
  let outbox ← required Iri.deserialize (field "outbox")
  let followers ← optional Iri.deserialize (field "followers")
  let preferredUsername ← optional deString (field "preferredUsername")
  let name ← optional deString (field "name")
  let endpoints ← optional Endpoints.deserialize (field "endpoints")
  let publicKey ← optional (Reference.deserialize CryptographicKey.deserialize)
    (field "publicKey")
  return ⟨kind, id, inbox, outbox, followers, preferredUsername, name, endpoints, publicKey⟩

def ActorDocument.intoActor (d : ActorDocument) : Actor where
  context := none
  kind := d.kind
  id := d.id
  inbox := d.inbox
  outbox := d.outbox
  followers := d.followers
  preferredUsername := d.preferredUsername
  name := d.name
  endpoints := d.endpoints
  publicKey := d.publicKey

/-- **A written actor is read as a document of it**: all its fields but the context. -/
theorem ActorDocument.deserialize_serialize (a : Actor) :
    ∃ d, ActorDocument.deserialize a.serialize = some d ∧
      d.intoActor = { a with context := none } := by
  refine ⟨⟨a.kind, a.id, a.inbox, a.outbox, a.followers, a.preferredUsername, a.name,
    a.endpoints, a.publicKey⟩, ?_, rfl⟩
  unfold ActorDocument.deserialize Actor.serialize
  rw [slots_ofFields _ _ (by simp)]
  have hendpoints : optional Endpoints.deserialize (.ofKey (a.endpoints.map Endpoints.serialize))
      = some a.endpoints := by
    rw [optional_written Endpoints.serialize_ne_null Endpoints.deserialize_serialize,
      Option.map_id']
  simp [List.lookup_cons, hendpoints, optional_publicKey]

/-- **Codec laws of the vocabulary.**  Every value is read back from its JSON text up to its
normal form, what was read is a fixed point, and an actor's text is read as its document. -/
theorem vocabulary_codecLaws :
    CodecLaws Actor.serialize Actor.deserialize (fun a => a) ∧
    CodecLaws Note.serialize Note.deserialize Note.norm ∧
    CodecLaws Follow.serialize Follow.deserialize (fun f => f) ∧
    CodecLaws Accept.serialize Accept.deserialize (fun a => a) ∧
    CodecLaws Undo.serialize Undo.deserialize (fun u => u) ∧
    CodecLaws (Create.serialize Note.serialize) (Create.deserialize Note.deserialize)
      (Create.norm Note.norm) ∧
    CodecLaws (OrderedCollection.serialize Iri.serialize)
      (OrderedCollection.deserialize Iri.deserialize) (fun c => c) ∧
    (∀ a : Actor, ∃ d, ofText ActorDocument.deserialize (JsonText.toString a.serialize) = some d ∧
      d.intoActor = { a with context := none }) := by
  refine ⟨.of_norm Actor.serialize_written (by decide) Actor.deserialize_serialize
      fun _ _ _ => rfl,
    .of_norm Note.serialize_written (by decide) Note.deserialize_serialize
      fun _ _ => Note.norm_of_deserialize,
    .of_norm Follow.serialize_written (by decide) Follow.deserialize_serialize fun _ _ _ => rfl,
    .of_norm Accept.serialize_written (by decide) Accept.deserialize_serialize fun _ _ _ => rfl,
    .of_norm Undo.serialize_written (by decide) Undo.deserialize_serialize fun _ _ _ => rfl,
    .of_norm (Create.serialize_written (n := 0) Note.serialize_written) (by decide)
      (Create.deserialize_serialize (fun _ => rfl) Note.deserialize_serialize)
      fun _ _ => Create.norm_of_deserialize (fun _ _ => Note.norm_of_deserialize),
    .of_norm (OrderedCollection.serialize_written (n := 0) Iri.serialize_written) (by decide)
      (OrderedCollection.deserialize_serialize Iri.deserialize_serialize)
      fun _ _ _ => rfl, fun a => ?_⟩
  rw [ofText_toString _ a.serialize_written (by decide)]
  exact ActorDocument.deserialize_serialize a

/-! ## fetching -/

def isActivitypubContentType (contentType : String) : Bool :=
  let mediaType := String.ofList (trimChars
    (match splitOnce ';' contentType.toList with
    | some (mediaType, _) => mediaType
    | none => contentType.toList))
  eqIgnoreAsciiCase mediaType "application/activity+json" ||
    eqIgnoreAsciiCase mediaType "application/ld+json"

/-- the body put together from its chunks, as long as it stays within the limit -/
def readBody (body : List UInt8) :
    List (Option (List UInt8)) → Except ActorResolveError (List UInt8)
  | [] => .ok body
  | none :: _ => .error .Request
  | some chunk :: rest =>
    if body.length + chunk.length > MAX_ACTOR_BODY_SIZE then .error .ResponseTooLarge
    else readBody (body ++ chunk) rest

/-- a URL that requests may go to: HTTP, without user information, with a host -/
def Url.isHttp (url : Url) : Bool :=
  (url.scheme == "http" || url.scheme == "https") && url.username.isEmpty &&
    url.password.isNone && url.host.isSome

def fetchDocument (addressPolicy : OutboundAddressPolicy) (get : Url → Option HttpResponse)
    (resourceId : Iri) : Except ActorResolveError (List UInt8) :=
  match HttpSyntax.parseUrl resourceId.str with
  | none => .error (.InvalidResourceId resourceId.str)
  | some url =>
    if ¬ url.isHttp then .error (.InvalidResourceId resourceId.str)
    else
      match validateLiteralHost url.host addressPolicy with
      | .error address => .error (.PrivateResourceAddress resourceId.str address)
      | .ok () =>
        match get url with
        | none => .error .Request
        | some response =>
          if ¬ (200 ≤ response.status ∧ response.status < 300) then
            .error (.UnsuccessfulStatus resourceId.str response.status)
          else
            let contentType := (response.contentType.bind toStr).getD ""
            if ¬ isActivitypubContentType contentType then
              .error (.UnsupportedContentType contentType)
            else if response.contentLength.any (fun length => length > MAX_ACTOR_BODY_SIZE) then
              .error .ResponseTooLarge
            else readBody [] response.chunks

/-- the value that the bytes of a document hold -/
def ofSlice {α : Type} (de : Json → Option α) (body : List UInt8) : Option α :=
  (JsonText.fromSlice body).bind de

namespace ActorResolver

def resolve (resolver : ActorResolver) (actorId : Iri) : Except ActorResolveError Actor :=
  match fetchDocument resolver.addressPolicy resolver.actorResponse actorId with
  | .error e => .error e
  | .ok body =>
    match ofSlice ActorDocument.deserialize body with
    | none => .error .Deserialize
    | some document =>
      let actor := document.intoActor
      if actor.id ≠ actorId then .error (.ActorIdMismatch actorId.str actor.id.str)
      else .ok actor

/-- the key embedded in an actor document, if it has the id -/
def embeddedKey (keyId : Iri) (body : List UInt8) : Option CryptographicKey :=
  match ofSlice ActorDocument.deserialize body with
  | some document =>
    match document.publicKey with
    | some (.object key) => if key.id = keyId then some key else none
    | _ => none
  | none => none

def resolveKey (resolver : ActorResolver) (keyId : Iri) :
    Except ActorResolveError CryptographicKey :=
  match fetchDocument resolver.addressPolicy resolver.keyResponse keyId with
  | .error e => .error e
  | .ok body =>
    -- the document is the key itself, or an actor with the key in it
    match (ofSlice CryptographicKey.deserialize body).filter (fun key => key.id = keyId) with
    | some key => .ok key
    | none =>
      match embeddedKey keyId body with
      | some key => .ok key
      | none => .error (.KeyNotFound keyId.str)

theorem resolve_id {resolver : ActorResolver} {actorId : Iri} {actor : Actor}
    (h : resolver.resolve actorId = .ok actor) : actor.id = actorId := by
  unfold resolve at h
  split at h
  · cases h
  · split at h
    · cases h
    · obtain ⟨hid, h⟩ := ite_error_eq_ok.mp h
      cases h
      exact not_not.mp hid

theorem resolveKey_id {resolver : ActorResolver} {keyId : Iri} {key : CryptographicKey}
    (h : resolver.resolveKey keyId = .ok key) : key.id = keyId := by
  unfold resolveKey at h
  split at h
  · cases h
  · split at h
    · rename_i k hk
      cases h
      simpa using (Option.filter_eq_some_iff.mp hk).2
    · split at h
      · rename_i k hk
        cases h
        unfold embeddedKey at hk
        split at hk
        · split at hk
          · split at hk
            · cases hk
              assumption
            · cases hk
          · cases hk
        · cases hk
      · cases h

/-- **A published actor is resolved**, all but its context. -/
theorem resolve_of_fetch {resolver : ActorResolver} {actor : Actor}
    (h : fetchDocument resolver.addressPolicy resolver.actorResponse actor.id =
      .ok (JsonText.toVec actor.serialize)) :
    resolver.resolve actor.id = .ok { actor with context := none } := by
  obtain ⟨d, hd, hactor⟩ := ActorDocument.deserialize_serialize actor
  have hread : ofSlice ActorDocument.deserialize (JsonText.toVec actor.serialize) = some d := by
    unfold ofSlice
    rw [JsonText.fromSlice_toVec _ (actor.serialize_written.mono (by decide)), Option.bind_some, hd]
  unfold resolve
  rw [h]
  dsimp only
  rw [hread]
  dsimp only
  rw [hactor, if_neg (not_not.mpr rfl)]

/-- **A published key is resolved.** -/
theorem resolveKey_of_fetch {resolver : ActorResolver} {key : CryptographicKey}
    (h : fetchDocument resolver.addressPolicy resolver.keyResponse key.id =
      .ok (JsonText.toVec key.serialize)) : resolver.resolveKey key.id = .ok key := by
  have hread : ofSlice CryptographicKey.deserialize (JsonText.toVec key.serialize) = some key := by
    unfold ofSlice
    rw [JsonText.fromSlice_toVec _ (key.serialize_written.mono (by decide)), Option.bind_some,
      CryptographicKey.deserialize_serialize]
  unfold resolveKey
  rw [h]
  dsimp only
  rw [hread, Option.filter_some_pos (by simp)]

end ActorResolver

/-- a response that holds a document in one piece -/
def published (body : List UInt8) : HttpResponse :=
  ⟨200, some (utf8 "application/activity+json"), none, [some body]⟩

theorem fetchDocument_of_published {addressPolicy : OutboundAddressPolicy}
    {get : Url → Option HttpResponse} {resourceId : Iri} {url : Url} {body : List UInt8}
    (hurl : HttpSyntax.parseUrl resourceId.str = some url) (hhttp : url.isHttp = true)
    (hhost : validateLiteralHost url.host addressPolicy = .ok ())
    (hget : get url = some (published body)) (hsize : body.length ≤ MAX_ACTOR_BODY_SIZE) :
    fetchDocument addressPolicy get resourceId = .ok body := by
  have hcontent : isActivitypubContentType
      (((published body).contentType.bind toStr).getD "") = true := by
    show isActivitypubContentType ((toStr (utf8 "application/activity+json")).getD "") = true
    decide
  unfold fetchDocument
  rw [hurl]
  dsimp only
  rw [if_neg (not_not.mpr hhttp), hhost]
  dsimp only
  rw [hget]
  dsimp only
  rw [if_neg (by rw [not_not]; exact ⟨Nat.le_refl 200, (by decide : 200 < 300)⟩),
    if_neg (not_not.mpr hcontent), if_neg (by exact Bool.false_ne_true)]
  show readBody [] [some body] = _
  unfold readBody
  rw [if_neg (by rw [List.length_nil, Nat.zero_add]; exact Nat.not_lt.mpr hsize), List.nil_append]
  rfl

end Feder
