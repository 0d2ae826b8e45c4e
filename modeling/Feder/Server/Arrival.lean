import Feder.Server.Inbox
import Feder.Server.Receive

/-!
# Activities that arrive as they were sent

A Follow or an Accept that Feder has written and that arrives in a verified request is acted on: the
raw look at the JSON value and the typed one find the same actor and type.

* `parseInboxRequest_received`   the body is read as the activity that was sent;
* `authenticate_of_verified`     the request is verified as the actor of the activity;
* `decide_written_follow`, `decide_written_accept`   what is then decided.
-/

namespace Feder
open Serde Text

variable [Crates]

/-! ## the raw look at written activities -/

theorem get_follow (follow : Follow) (name : String) : follow.serialize.get name =
    ([("@context", follow.context.map Iri.serialize), ("type", some follow.kind.serialize),
      ("id", some follow.id.serialize), ("actor", some (follow.actor.serialize Actor.serialize)),
      ("object", some (follow.object.serialize Actor.serialize))].lookup name).join :=
  get_ofFields _ (by simp) name

theorem get_accept (accept : Accept) (name : String) : accept.serialize.get name =
    ([("@context", accept.context.map Iri.serialize), ("type", some accept.kind.serialize),
      ("id", some accept.id.serialize), ("actor", some (accept.actor.serialize Actor.serialize)),
      ("object", some (accept.object.serialize Follow.serialize))].lookup name).join :=
  get_ofFields _ (by simp) name

theorem get_create (create : Create Note) (name : String) :
    (create.serialize Note.serialize).get name =
      ([("@context", create.context.map Iri.serialize), ("type", some create.kind.serialize),
        ("id", some create.id.serialize), ("actor", some (create.actor.serialize Actor.serialize)),
        ("object", some (create.object.serialize Note.serialize)),
        ("to", create.to_.field Iri.serialize),
        ("cc", create.cc.field Iri.serialize)].lookup name).join :=
  get_ofFields _ (by simp) name

theorem activityType_follow (follow : Follow) : activityType follow.serialize = some "Follow" := by
  unfold activityType
  rw [get_follow]
  rfl

theorem activityType_accept (accept : Accept) : activityType accept.serialize = some "Accept" := by
  unfold activityType
  rw [get_accept]
  rfl

theorem activityType_create (create : Create Note) :
    activityType (create.serialize Note.serialize) = some "Create" := by
  unfold activityType
  rw [get_create]
  rfl

theorem valueReferenceId_actor (reference : Reference Actor) :
    valueReferenceId (reference.serialize Actor.serialize) = some (referenceId reference) := by
  cases reference with
  | id i => exact Iri.parse_str i
  | object actor =>
    have hid : actor.serialize.get "id" = some actor.id.serialize := by
      unfold Actor.serialize
      rw [get_ofFields _ (by simp)]
      rfl
    show valueReferenceId actor.serialize = some actor.id
    unfold valueReferenceId
    rw [hid]
    exact Iri.parse_str actor.id

theorem activityActorId_follow (follow : Follow) :
    activityActorId follow.serialize = some (referenceId follow.actor) := by
  unfold activityActorId
  rw [get_follow]
  exact valueReferenceId_actor follow.actor

theorem activityActorId_accept (accept : Accept) :
    activityActorId accept.serialize = some (referenceId accept.actor) := by
  unfold activityActorId
  rw [get_accept]
  exact valueReferenceId_actor accept.actor

theorem activityActorId_create (create : Create Note) :
    activityActorId (create.serialize Note.serialize) = some (referenceId create.actor) := by
  unfold activityActorId
  rw [get_create]
  exact valueReferenceId_actor create.actor

/-! ## the arrival -/

/-- a media type of the inboxes -/
def IsActivity (request : InboxRequest) : Prop :=
  (((request.headers.get "content-type").bind toStr).bind HttpSyntax.parseMime).any
    (fun mediaType => ACTIVITYPUB_CONTENT_TYPES.contains mediaType.essence) = true

theorem parseInboxRequest_of_body {request : InboxRequest} {activity : Json}
    (hmime : IsActivity request) (hbody : request.body = JsonText.toVec activity)
    (hwritten : activity.Written maxDepth) :
    parseInboxRequest request = .ok (request, activity) := by
  have hread : JsonText.fromSlice request.body = some activity := by
    rw [hbody, JsonText.fromSlice_toVec _ hwritten]
  unfold IsActivity at hmime
  unfold parseInboxRequest
  dsimp only
  rw [if_neg (not_not.mpr hmime), hread]
  dsimp only
  rw [hwritten.collapse]

section
variable {now : Int} {localActor : Actor} {keyPair : ActorKeyPair} {activity : Json}
  {r : OutgoingRequest}

theorem isActivity_received (h : BuiltRequest now localActor keyPair activity r)
    (hmime : (HttpSyntax.parseMime "application/activity+json").any
      (fun mediaType => ACTIVITYPUB_CONTENT_TYPES.contains mediaType.essence) = true) :
    IsActivity h.received := by
  have hmem : ("content-type", "application/activity+json") ∈ r.allHeaders := by
    obtain ⟨host, hheaders⟩ := h.headers
    unfold OutgoingRequest.allHeaders
    rw [hheaders]
    exact List.mem_cons_self ..
  unfold IsActivity
  rw [h.get_received hmem (by decide)]
  exact hmime

/-- **The body is read as the activity that was sent.** -/
theorem parseInboxRequest_received (h : BuiltRequest now localActor keyPair activity r)
    (hwritten : activity.Written maxDepth)
    (hmime : (HttpSyntax.parseMime "application/activity+json").any
      (fun mediaType => ACTIVITYPUB_CONTENT_TYPES.contains mediaType.essence) = true) :
    parseInboxRequest h.received = .ok (h.received, activity) :=
  parseInboxRequest_of_body (isActivity_received h hmime) h.body hwritten

end

theorem authenticate_of_verified {d : Delivery} {actor : Actor}
    (hpolicy : d.server.inboxAuthPolicy = .RequireSigned)
    (hactor : activityActorId d.value = some actor.id)
    (hverified : verifySignedRequest d.server.resolver d.server.now d.request actor.id
      d.expectedInbox = .ok actor) : d.VerifiedAs actor := by
  unfold Delivery.VerifiedAs Delivery.authenticate
  rw [hpolicy]
  dsimp only
  rw [hactor]
  dsimp only
  rw [hverified]
  rfl

/-- **A written Follow is acted on.** -/
theorem decide_written_follow {d : Delivery} {actor : Actor} {follow : Follow} {acceptId : Iri}
    {outcome : FollowOutcome} (hverified : d.VerifiedAs actor) (hvalue : d.value = follow.serialize)
    (hid : acceptIdForFollow d.localActor.id follow.id = .ok acceptId)
    (hreceive : receiveFollow d.localActor actor follow acceptId = .ok outcome) :
    d.decide = .ok (.follow outcome) := by
  have hbranch : d.decideFollow (some actor) = .ok outcome := by
    unfold Delivery.decideFollow
    rw [hvalue, Follow.deserialize_serialize]
    simp only [Delivery.remoteActor, hid, Except.mapError, bind, Except.bind, hreceive]
    rfl
  have htype : activityType d.value = some "Follow" := by
    rw [hvalue]
    exact activityType_follow follow
  unfold Delivery.decide
  rw [show d.authenticate = .ok (some actor) from hverified, htype]
  show (d.decideFollow (some actor) >>= fun outcome => _) = _
  rw [hbranch]
  rfl

/-- **A written Accept is acted on.** -/
theorem decide_written_accept {d : Delivery} {actor : Actor} {accept : Accept}
    (hverified : d.VerifiedAs actor) (hvalue : d.value = accept.serialize) :
    d.decide = .ok (.accept actor accept) := by
  have hobject : accept.serialize.get "object" =
      some (accept.object.serialize Follow.serialize) := by
    rw [get_accept]
    rfl
  have hkind : ((((accept.serialize.get "object").filter Json.isObject).bind
      (Json.get "type")).bind Json.asStr).any (fun kind => kind ≠ "Follow") = false := by
    rw [hobject]
    cases accept.object with
    | id i => rfl
    | object follow =>
      show ((follow.serialize.get "type").bind Json.asStr).any _ = false
      rw [get_follow]
      rfl
  have hbranch : d.decideAccept (some actor) = .ok (actor, accept) := by
    unfold Delivery.decideAccept
    rw [hvalue]
    dsimp only
    rw [hkind, if_neg Bool.false_ne_true, Accept.deserialize_serialize]
    rfl
  have htype : activityType d.value = some "Accept" := by
    rw [hvalue]
    exact activityType_accept accept
  unfold Delivery.decide
  rw [show d.authenticate = .ok (some actor) from hverified, htype]
  show (d.decideAccept (some actor) >>= fun p => _) = _
  rw [hbranch]
  rfl

end Feder
