import Feder.Server.Documents
import Feder.Server.Fetching
import Feder.Server.Libraries
import Feder.Server.WebFinger

/-!
# Discovery

What one server finds out about the actors of another one: WebFinger leads to the id, the document
under the id to the actor, and to its key if it is in there.

* `acceptsActivitypub_resolver`   a resolver accepts what the document handlers serve;
* `fetched_of_brings`             a document that is served is fetched as it is;
* `actor_discovered`              the actor and the key that are found.
-/

namespace Feder
open Serde Text

def ACTIVITYPUB_ACCEPT : String :=
  "application/activity+json, application/ld+json; profile=\"https://www.w3.org/ns/activitystreams\""

/-- the headers of a request of the resolver, as they arrive -/
def resolverHeaders : HeaderMap where
  entries := [("accept", utf8 ACTIVITYPUB_ACCEPT)]
  names := by decide
  values := by decide +kernel

def StatusCode.asU16 : StatusCode → Nat
  | .OK => 200
  | .ACCEPTED => 202
  | .BAD_REQUEST => 400
  | .UNAUTHORIZED => 401
  | .NOT_FOUND => 404
  | .NOT_ACCEPTABLE => 406
  | .UNSUPPORTED_MEDIA_TYPE => 415
  | .INTERNAL_SERVER_ERROR => 500
  | .BAD_GATEWAY => 502

section
variable [Crates]

/-- the response of a handler; one that fails answers with its status only -/
def respond : Except StatusCode Response → Response
  | .ok response => response
  | .error status => ⟨status, [], none⟩

/-- the bytes of a body -/
def Response.bytes (response : Response) : List UInt8 :=
  match response.body with
  | some j => JsonText.toVec j
  | none => []

/-- a response of a handler as a client sees it: whole, in any chunks, with its length or without -/
structure Response.Arrives (response : Response) (http : HttpResponse) : Prop where
  status : http.status = response.status.asU16
  contentType : http.contentType = (response.headers.lookup "content-type").map utf8
  length : ∀ length ∈ http.contentLength, length = response.bytes.length
  whole : none ∉ http.chunks
  body : received http.chunks = response.bytes

/-- a request for a resource is let out, and comes back with the response of a handler -/
def Brings (addressPolicy : OutboundAddressPolicy) (get : Url → Option HttpResponse)
    (resourceId : Iri) (result : Except StatusCode Response) : Prop :=
  ∃ url http, HttpSyntax.parseUrl resourceId.str = some url ∧ url.isHttp = true ∧
    validateLiteralHost url.host addressPolicy = .ok () ∧ get url = some http ∧
    (respond result).Arrives http

/-- the `mime` crate reads a media type without a quality -/
def ReadsMime (s essence : String) : Prop :=
  ∃ mediaType, HttpSyntax.parseMime s = some mediaType ∧ mediaType.essence = essence ∧
    mediaType.getParam "q" = none

/-- it reads the two that the resolver accepts -/
structure ReadsAccept : Prop where
  activity : ReadsMime "application/activity+json" "application/activity+json"
  ld : ReadsMime "application/ld+json; profile=\"https://www.w3.org/ns/activitystreams\""
    "application/ld+json"

/-- **A resolver accepts what the document handlers serve.** -/
theorem acceptsActivitypub_resolver (hmime : ReadsAccept) :
    acceptsActivitypub resolverHeaders = true := by
  obtain ⟨activity, hactivity, hessence, hq⟩ := hmime.activity
  obtain ⟨ld, hld, hessence', hq'⟩ := hmime.ld
  have hentries : (((resolverHeaders.getAll "accept").filterMap toStr).flatMap fun value =>
      split ',' value.toList).map (fun entry => String.ofList (trimChars entry)) =
      ["application/activity+json",
        "application/ld+json; profile=\"https://www.w3.org/ns/activitystreams\""] := by
    decide +kernel
  have hranges : acceptedRanges resolverHeaders = [⟨activity, 1000, 0⟩, ⟨ld, 1000, 1⟩] := by
    unfold acceptedRanges
    dsimp only
    have hparsed := congrArg (List.filterMap HttpSyntax.parseMime) hentries
    rw [List.filterMap_map] at hparsed
    rw [show (fun entry => HttpSyntax.parseMime (String.ofList (trimChars entry))) =
      HttpSyntax.parseMime ∘ (fun entry => String.ofList (trimChars entry)) from rfl, hparsed]
    simp [hactivity, hld, mediaRange, hq, hq']
  unfold acceptsActivitypub
  rw [hranges]
  simp [preferred, hessence, hessence', ACTIVITYPUB_MEDIA_TYPES, HTML_MEDIA_TYPES]

theorem fetched_of_brings {addressPolicy : OutboundAddressPolicy} {get : Url → Option HttpResponse}
    {resourceId : Iri} {j : Json} (h : Brings addressPolicy get resourceId (.ok (document j)))
    {body : List UInt8} :
    Fetched addressPolicy get resourceId body ↔
      body = JsonText.toVec j ∧ (JsonText.toVec j).length ≤ MAX_ACTOR_BODY_SIZE := by
  obtain ⟨url, http, hurl, hhttp, haddress, hget, hstatus, hcontent, hlength, hwhole, hbody⟩ := h
  constructor
  · rintro ⟨url', response, hurl', _, _, hget', _, _, rfl, hsize⟩
    rw [hurl] at hurl'
    cases hurl'
    rw [hget] at hget'
    cases hget'
    rw [hbody] at hsize ⊢
    exact ⟨rfl, hsize⟩
  · rintro ⟨rfl, hsize⟩
    refine ⟨url, http, hurl, hhttp, haddress, hget, ⟨?_, ?_, fun length hmem => ?_⟩, hwhole,
      hbody.symm, hsize⟩
    · rw [hstatus]
      show 200 ≤ 200 ∧ 200 < 300
      omega
    · rw [hcontent]
      show isActivitypubContentType ((toStr (utf8 "application/activity+json")).getD "") = true
      decide
    · rw [hlength length hmem]
      exact hsize

theorem actor_not_key (actor : Actor) : CryptographicKey.deserialize actor.serialize = none := by
  unfold CryptographicKey.deserialize Actor.serialize
  rw [slots_ofFields _ _ (by simp)]
  simp [List.lookup_cons, required, defaulted]

theorem ofSlice_written {α : Type} {de : Json → Option α} {j : Json} (h : j.Written maxDepth) :
    ofSlice de (JsonText.toVec j) = de j := by
  unfold ofSlice
  rw [JsonText.fromSlice_toVec _ h]
  rfl

/-- **What is discovered of an actor.**  Asked for the account of an actor at its host, WebFinger
names the actor's id, and the document that the server serves there comes back to a resolver in any
chunks: the actor is found, all but its context, exactly if the document is within the limit, and
under the id of a key the key is found exactly if moreover the document embeds that key. -/
theorem actor_discovered (hmime : ReadsAccept) {server : FederServer} {handleHost : String}
    {identifier host : String} {actor : Actor}
    (hactor : server.getActor identifier = .ok (some actor)) (hidentifier : identifier ≠ "")
    (hhost : host ≠ "" ∧ '@' ∉ host.toList ∧ eqIgnoreAsciiCase host handleHost = true)
    {resolver : ActorResolver}
    (hbrings : Brings resolver.addressPolicy resolver.actorResponse actor.id
      (Get.actor server identifier resolverHeaders)) :
    webfinger server handleHost (some (acct identifier host)) =
      .ok ⟨.OK, [("content-type", "application/jrd+json")],
        some (webFingerResponse (acct identifier host) actor).serialize⟩ ∧
    (webFingerResponse (acct identifier host) actor).links =
      [⟨"self", "application/activity+json", actor.id.str⟩] ∧
    (∀ found, resolver.resolve actor.id = .ok found ↔
      (JsonText.toVec actor.serialize).length ≤ MAX_ACTOR_BODY_SIZE ∧
        found = { actor with context := none }) ∧
    ∀ keyId, Brings resolver.addressPolicy resolver.keyResponse keyId
        (Get.actor server identifier resolverHeaders) →
      ∀ key, resolver.resolveKey keyId = .ok key ↔
        (JsonText.toVec actor.serialize).length ≤ MAX_ACTOR_BODY_SIZE ∧
          actor.publicKey = some (.object key) ∧ key.id = keyId := by
  obtain ⟨hhost, hat, hequal⟩ := hhost
  have hserved : Get.actor server identifier resolverHeaders = .ok (document actor.serialize) := by
    unfold Get.actor
    rw [if_neg (not_not.mpr (acceptsActivitypub_resolver hmime)), hactor]
  have hwritten : actor.serialize.Written maxDepth := actor.serialize_written.mono (by decide)
  obtain ⟨d, hd, hdocument⟩ := ActorDocument.deserialize_serialize actor
  rw [hserved] at hbrings ⊢
  refine ⟨webfinger_ok_iff.mpr ⟨identifier, host, actor, rfl, hidentifier, hhost, hat, hequal,
    hactor, rfl⟩, rfl, fun found => ?_, fun keyId hkey key => ?_⟩
  · rw [resolve_ok_iff]
    simp only [fetched_of_brings hbrings]
    constructor
    · rintro ⟨_, document, ⟨rfl, hsize⟩, hread, rfl, _⟩
      rw [ofSlice_written hwritten, hd] at hread
      cases hread
      exact ⟨hsize, hdocument⟩
    · rintro ⟨hsize, rfl⟩
      exact ⟨_, d, ⟨rfl, hsize⟩, (ofSlice_written hwritten).trans hd, hdocument, rfl⟩
  · have hpublicKey : d.publicKey = actor.publicKey := congrArg Actor.publicKey hdocument
    rw [resolveKey_ok_iff]
    simp only [fetched_of_brings hkey]
    constructor
    · rintro ⟨_, ⟨rfl, hsize⟩, ⟨hread, _⟩ | ⟨_, document, hread, hembedded, hid⟩⟩
      · rw [ofSlice_written hwritten, actor_not_key] at hread
        cases hread
      · rw [ofSlice_written hwritten, hd] at hread
        cases hread
        exact ⟨hsize, hpublicKey ▸ hembedded, hid⟩
    · rintro ⟨hsize, hembedded, hid⟩
      refine ⟨_, ⟨rfl, hsize⟩, Or.inr ⟨fun other hother => ?_, d, ?_, hpublicKey ▸ hembedded, hid⟩⟩
      · have hread := hother.1
        rw [ofSlice_written hwritten, actor_not_key] at hread
        cases hread
      · rw [ofSlice_written hwritten, hd]

end

section
attribute [local instance] libraries

theorem libraries_readsAccept : ReadsAccept where
  activity := ⟨⟨"application/activity+json", []⟩, by decide +kernel, rfl, rfl⟩
  ld := ⟨⟨"application/ld+json", [("profile", "\"https://www.w3.org/ns/activitystreams\"")]⟩,
    by decide +kernel, rfl, by decide⟩

/-- an actor with its key in its document -/
def Peer.keyed (p : Peer) : Actor := { p.actor with publicKey := some (.object p.key) }

/-- a network that brings a document of an actor in two chunks -/
def Peer.network (p : Peer) : ActorResolver where
  addressPolicy := .PublicOnly
  keyResponse _ := some (inChunks (JsonText.toVec p.keyed.serialize))
  actorResponse _ := some (inChunks (JsonText.toVec p.keyed.serialize))
where
  inChunks (body : List UInt8) : HttpResponse :=
    ⟨200, some (utf8 "application/activity+json"), some body.length,
      [some (body.take 10), some (body.drop 10)]⟩

theorem Peer.network_brings (p : Peer) {get : Url → Option HttpResponse}
    (hget : ∀ url, get url = some (Peer.network.inChunks (JsonText.toVec p.keyed.serialize)))
    {resourceId : Iri} {url : Url} (hurl : HttpSyntax.parseUrl resourceId.str = some url)
    (hhttp : url.isHttp = true) (haddress : validateLiteralHost url.host .PublicOnly = .ok ()) :
    Brings .PublicOnly get resourceId (.ok (document p.keyed.serialize)) := by
  refine ⟨url, _, hurl, hhttp, haddress, hget url, rfl, rfl, fun length h => ?_, ?_, ?_⟩
  · cases h
    rfl
  · simp [Peer.network.inChunks]
  · show _ ++ (_ ++ []) = JsonText.toVec p.keyed.serialize
    rw [List.append_nil, List.take_append_drop]

/-- alice and her key are found -/
theorem actor_discovered_of_alice :
    Peer.alice.network.resolve Peer.alice.actor.id = .ok Peer.alice.keyed ∧
    Peer.alice.network.resolveKey Peer.alice.keyId = .ok Peer.alice.key := by
  let server : FederServer :=
    { Peer.alice.server with getActor := fun _ => .ok (some Peer.alice.keyed) }
  have hserved : Get.actor server "alice" resolverHeaders =
      .ok (document Peer.alice.keyed.serialize) := by
    unfold Get.actor
    rw [if_neg (not_not.mpr (acceptsActivitypub_resolver libraries_readsAccept))]
  have hsize : (JsonText.toVec Peer.alice.keyed.serialize).length ≤ MAX_ACTOR_BODY_SIZE :=
    published_size (by decide +kernel)
  obtain ⟨_, _, hactor, hkey⟩ := @actor_discovered _ libraries_readsAccept server "a.x" "alice" "a.x"
    Peer.alice.keyed rfl (by decide) ⟨by decide, by decide, by decide⟩ Peer.alice.network
    (hserved ▸ Peer.alice.network_brings (fun _ => rfl) rfl (by decide) rfl)
  refine ⟨(hactor _).mpr ⟨hsize, rfl⟩, (hkey Peer.alice.keyId ?_ _).mpr ⟨hsize, rfl, rfl⟩⟩
  rw [hserved]
  exact Peer.alice.network_brings (fun _ => rfl) rfl (by decide) rfl

end

end Feder
