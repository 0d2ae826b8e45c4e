import Feder.Server.Actor

/-!
# Sending activities

`send.rs`: the request that `send_activity` builds for an inbox, and the errors on the way to it.

* `buildRequest_ok`   what a request that was built consists of.
-/

namespace Feder
open Serde Text

inductive SendError where
  | MissingActorKey (actor : String)
  | ActorKeyMismatch (actor : String)
  | InvalidInbox (inbox : String)
  | PrivateInboxAddress (inbox : String) (address : IpAddr)
  | Sign (error : HttpSignatureError)
  | Request
  | UnsuccessfulStatus (inbox : String) (status : Nat)
deriving DecidableEq

/-- a request on its way to an inbox -/
structure OutgoingRequest where
  url : Url
  method : String
  requestTarget : String
  /-- the headers under the signature, in the order in which they are signed -/
  headers : List (String × String)
  signature : String
  body : List UInt8

/-- the path and the query of a URL -/
def Url.requestTarget (url : Url) : String :=
  match url.query with
  | some query => url.path ++ "?" ++ query
  | none => url.path

theorem requestTarget_isLine (url : Url) : isLine url.requestTarget := by
  unfold Url.requestTarget
  cases hq : url.query with
  | none => exact url.path_line
  | some query =>
    have happ : ∀ a b c : String, (a ++ b ++ c).toList = a.toList ++ (b.toList ++ c.toList) := by
      intro a b c
      simp
    unfold isLine
    rw [happ, List.mem_append, List.mem_append, not_or, not_or]
    exact ⟨url.path_line, by decide, url.query_line query hq⟩

variable [Crates]

/-- the id of the key that the actor advertises, if it goes with the key pair -/
def sendKeyId (localActor : Actor) (keyPair : ActorKeyPair) : Except SendError Iri :=
  match localActor.publicKey with
  | some (.id keyId) => .ok keyId
  | some (.object key) =>
    if key.owner ≠ localActor.id ∨ key.publicKeyPem ≠ keyPair.publicKeyPem then
      .error (.ActorKeyMismatch localActor.id.str)
    else .ok key.id
  | none => .error (.MissingActorKey localActor.id.str)

/-- the value of the `Host` header: the host, with its port where the URL has one -/
def hostHeader (host : Host) (port : Option UInt16) : String :=
  match port with
  | some port => HttpSyntax.hostToString host ++ ":" ++ toString port.toNat
  | none => HttpSyntax.hostToString host

def signedHeaders (now : Int) (body : List UInt8) (host : String) : List (String × String) :=
  [("content-type", "application/activity+json"), ("date", HttpSyntax.fmtHttpDate now),
    ("digest", createSha256DigestHeader body), ("host", host)]

/-- the part of `send_activity` before the request goes out -/
def buildRequest (addressPolicy : OutboundAddressPolicy) (now : Int) (localActor : Actor)
    (keyPair : ActorKeyPair) (activity : Json) (inbox : Iri) : Except SendError OutgoingRequest :=
  match sendKeyId localActor keyPair with
  | .error e => .error e
  | .ok keyId =>
    let body := JsonText.toVec activity
    match HttpSyntax.parseUrl inbox.str with
    | none => .error (.InvalidInbox inbox.str)
    | some url =>
      if ¬ url.isHttp then .error (.InvalidInbox inbox.str)
      else
        match validateLiteralHost url.host addressPolicy with
        | .error address => .error (.PrivateInboxAddress inbox.str address)
        | .ok () =>
          match url.host with
          | none => .error (.InvalidInbox inbox.str)
          | some host =>
            let headers := signedHeaders now body (hostHeader host url.port)
            match signDraftCavage keyPair keyId.str "POST" url.requestTarget headers with
            | .error e => .error (.Sign e)
            | .ok signature =>
              -- the client refuses a text that is no header value
              if headers.all (fun h => isHeaderValue h.2) && isHeaderValue signature then
                .ok ⟨url, "POST", url.requestTarget, headers, signature, body⟩
              else .error .Request

/-- what a request that was built consists of -/
structure BuiltRequest (now : Int) (localActor : Actor) (keyPair : ActorKeyPair) (activity : Json)
    (r : OutgoingRequest) : Prop where
  method : r.method = "POST"
  target : r.requestTarget = r.url.requestTarget
  body : r.body = JsonText.toVec activity
  headers : ∃ host, r.headers = signedHeaders now r.body host
  values : ∀ h ∈ r.headers, isHeaderValue h.2 = true
  signatureValue : isHeaderValue r.signature = true
  signed : ∃ keyId, sendKeyId localActor keyPair = .ok keyId ∧
    signDraftCavage keyPair keyId.str r.method r.requestTarget r.headers = .ok r.signature

theorem buildRequest_ok {addressPolicy : OutboundAddressPolicy} {now : Int} {localActor : Actor}
    {keyPair : ActorKeyPair} {activity : Json} {inbox : Iri} {r : OutgoingRequest}
    (h : buildRequest addressPolicy now localActor keyPair activity inbox = .ok r) :
    BuiltRequest now localActor keyPair activity r := by
  unfold buildRequest at h
  split at h
  · cases h
  · rename_i keyId hkey
    split at h
    · cases h
    · rename_i url hurl
      obtain ⟨_, h⟩ := ite_error_eq_ok.mp h
      split at h
      · cases h
      · split at h
        · cases h
        · rename_i host hhost
          dsimp only at h
          split at h
          · cases h
          · rename_i signature hsign
            split at h
            · rename_i hvalues
              cases h
              rw [Bool.and_eq_true, List.all_eq_true] at hvalues
              exact ⟨rfl, rfl, rfl, ⟨_, rfl⟩, hvalues.1, hvalues.2, keyId, hkey, hsign⟩
            · cases h

theorem buildRequest_url {addressPolicy : OutboundAddressPolicy} {now : Int} {localActor : Actor}
    {keyPair : ActorKeyPair} {activity : Json} {inbox : Iri} {r : OutgoingRequest}
    (h : buildRequest addressPolicy now localActor keyPair activity inbox = .ok r) :
    HttpSyntax.parseUrl inbox.str = some r.url ∧ r.url.isHttp = true ∧
      validateLiteralHost r.url.host addressPolicy = .ok () ∧ ∃ host, r.url.host = some host ∧
      r.headers = signedHeaders now (JsonText.toVec activity) (hostHeader host r.url.port) := by
  unfold buildRequest at h
  split at h
  · cases h
  · split at h
    · cases h
    · rename_i url hurl
      obtain ⟨hhttp, h⟩ := ite_error_eq_ok.mp h
      split at h
      · cases h
      · rename_i haddress
        split at h
        · cases h
        · rename_i host hhost
          dsimp only at h
          split at h
          · cases h
          · split at h
            · cases h
              exact ⟨hurl, not_not.mp hhttp, haddress, host, hhost, rfl⟩
            · cases h

end Feder
