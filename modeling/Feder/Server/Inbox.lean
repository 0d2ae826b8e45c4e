import Feder.Server.Program
import Feder.Server.Signature

/-!
# The inboxes

`inbox.rs`: the personal and the shared inbox and the processing of one activity, as programs
over the storage calls and the delivery of the Accept.  What an activity asks for is decided before
the first storage call (`Delivery.decide`).

* `decide_follow`, `decide_undo`, `decide_accept`   what a signed activity has passed when it is
                                                    acted on.
-/

namespace Feder
open Serde Text

variable [Crates]

def ACTIVITYPUB_CONTENT_TYPES : List String :=
  ["application/activity+json", "application/ld+json"]

/-! ## reading the request -/

/-- the request, and its body as a generic value -/
def parseInboxRequest (request : InboxRequest) : Except StatusCode (InboxRequest × Json) :=
  let contentType := ((request.headers.get "content-type").bind toStr).bind HttpSyntax.parseMime
  if ¬ contentType.any (fun mediaType => ACTIVITYPUB_CONTENT_TYPES.contains mediaType.essence) then
    .error .UNSUPPORTED_MEDIA_TYPE
  else
    match JsonText.fromSlice request.body with
    | none => .error .BAD_REQUEST
    | some document => .ok (request, document.collapse)

/-- the id in a slot: a text, or the `id` of an object -/
def valueReferenceId (value : Json) : Option Iri :=
  (value.asStr.orElse fun _ => (value.get "id").bind Json.asStr).bind Iri.parse

def activityActorId (value : Json) : Option Iri := (value.get "actor").bind valueReferenceId

/-- the text of the `type` field -/
def activityType (value : Json) : Option String := (value.get "type").bind Json.asStr

def activityTargetId (value : Json) : Option Iri :=
  match activityType value with
  | some "Follow" => (value.get "object").bind valueReferenceId
  | some "Undo" => ((value.get "object").bind (Json.get "object")).bind valueReferenceId
  | _ => none

def acceptIdForFollow (localActorId followId : Iri) : Except StatusCode Iri :=
  match Iri.parse (localActorId.str ++ "#accepts/" ++ percentEncode followId.str) with
  | some acceptId => .ok acceptId
  | none => .error .INTERNAL_SERVER_ERROR

/-! ## processing one activity -/

/-- one activity on its way to `receive_activity` -/
structure Delivery where
  server : FederServer
  localActor : Actor
  expectedInbox : Iri
  request : InboxRequest
  value : Json
  pendingFollow : Option PendingFollow

/-- the actor that the request is verified as, where requests have to be signed -/
def Delivery.authenticate (d : Delivery) : Except StatusCode (Option Actor) :=
  match d.server.inboxAuthPolicy with
  | .AllowUnsignedInsecureDev => .ok none
  | .RequireSigned =>
    match activityActorId d.value with
    | none => .error .UNAUTHORIZED
    | some actorId =>
      (verifySignedRequest d.server.resolver d.server.now d.request actorId
        d.expectedInbox).map some

def resolveActorReference (resolver : ActorResolver) :
    Reference Actor → Except StatusCode Actor
  | .object actor => .ok actor
  | .id actorId =>
    match resolver.resolve actorId with
    | .ok actor => .ok actor
    | .error _ => .error .BAD_GATEWAY

/-- the verified actor, or else the one that the activity refers to -/
def Delivery.remoteActor (d : Delivery) (verifiedActor : Option Actor)
    (reference : Reference Actor) : Except StatusCode Actor :=
  match verifiedActor with
  | some actor => .ok actor
  | none => resolveActorReference d.server.resolver reference

/-- the reply of a handler: a response, or the status of an early return -/
abbrev Reply := Except StatusCode StatusCode

def accepted : Reply := .ok .ACCEPTED

/-- what an activity asks for when it gets past the checks that need no storage -/
inductive Decision where
  | follow (outcome : FollowOutcome)
  | accept (remoteActor : Actor) (accept : Accept)
  | undo (outcome : UndoFollowOutcome)

/-- the Follow branch up to its first storage call; an error is an early reply -/
def Delivery.decideFollow (d : Delivery) (verifiedActor : Option Actor) :
    Except Reply FollowOutcome := do
  let some follow := Follow.deserialize d.value
    | .error (.error .BAD_REQUEST)
  let remoteActor ← (d.remoteActor verifiedActor follow.actor).mapError .error
  let acceptId ← (acceptIdForFollow d.localActor.id follow.id).mapError .error
  match receiveFollow d.localActor remoteActor follow acceptId with
  | .ok outcome => return outcome
  | .error .WrongObject => .error accepted
  | .error .WrongActor => .error (.error .UNAUTHORIZED)

/-- the Accept branch up to its first storage call -/
def Delivery.decideAccept (d : Delivery) (verifiedActor : Option Actor) :
    Except Reply (Actor × Accept) := do
  let objectType :=
    (((d.value.get "object").filter Json.isObject).bind (Json.get "type")).bind Json.asStr
  if objectType.any (fun kind => kind ≠ "Follow") then .error accepted
  let some accept := Accept.deserialize d.value
    | .error (.error .BAD_REQUEST)
  let remoteActor ← (d.remoteActor verifiedActor accept.actor).mapError .error
  return (remoteActor, accept)

/-- the Undo branch up to its first storage call -/
def Delivery.decideUndo (d : Delivery) (verifiedActor : Option Actor) :
    Except Reply UndoFollowOutcome := do
  if ((d.value.get "object").bind (Json.get "type")).bind Json.asStr ≠ some "Follow" then
    .error accepted
  let some undo := Undo.deserialize d.value
    | .error (.error .BAD_REQUEST)
  let remoteActor ← (d.remoteActor verifiedActor undo.actor).mapError .error
  match receiveUndoFollow d.localActor remoteActor undo with
  | .ok outcome => return outcome
  | .error .LinkedFollow | .error .WrongObject => .error accepted
  | .error .WrongActor => .error (.error .UNAUTHORIZED)

/-- `receive_activity` up to its first storage call -/
def Delivery.decide (d : Delivery) : Except Reply Decision := do
  let verifiedActor ← d.authenticate.mapError .error
  match activityType d.value with
  | some "Follow" => return .follow (← d.decideFollow verifiedActor)
  | some "Accept" =>
    let (remoteActor, accept) ← d.decideAccept verifiedActor
    return .accept remoteActor accept
  | some "Undo" => return .undo (← d.decideUndo verifiedActor)
  | _ => .error accepted

/-- the Follow branch from its first storage call on -/
def acceptFollow (localActor : Actor) (outcome : FollowOutcome) : Program Reply :=
  tryStore (.storeFollower outcome.follower outcome.following) fun _ =>
    tryStore (.loadActorKeyPair localActor.id) fun
      | none => .ret (.error .INTERNAL_SERVER_ERROR)
      | some keyPair =>
        .op (.sendActivity localActor keyPair outcome.accept.serialize outcome.recipientInbox) fun
          | .error _ => .ret (.error .BAD_GATEWAY)
          | .ok () => .ret accepted

/-- the Accept branch behind the pending relationship -/
def confirmAccept (localActor remoteActor : Actor) (accept : Accept) (pending : PendingFollow) :
    Program Reply :=
  match receiveAcceptFollow localActor remoteActor pending accept with
  | .error .WrongActor => .ret (.error .UNAUTHORIZED)
  | .error _ => .ret accepted
  -- whether the row was still the pending one is not looked at
  | .ok () => tryStore (.confirmPendingFollow pending) fun _ => .ret accepted

/-- the Accept branch from its first storage call on -/
def findPending (d : Delivery) (remoteActor : Actor) (accept : Accept) : Program Reply :=
  let followActivity := followReferenceId accept.object
  match d.pendingFollow with
  | some pending =>
    if pending.followActivity = followActivity then
      confirmAccept d.localActor remoteActor accept pending
    else .ret accepted
  | none =>
    tryStore (.loadPendingFollow followActivity) fun
      | some pending => confirmAccept d.localActor remoteActor accept pending
      | none => .ret accepted

def receiveActivity (d : Delivery) : Program Reply :=
  match d.decide with
  | .error reply => .ret reply
  | .ok (.follow outcome) => acceptFollow d.localActor outcome
  | .ok (.accept remoteActor accept) => findPending d remoteActor accept
  | .ok (.undo outcome) =>
    tryStore (.removeFollower outcome.follower outcome.following) fun _ => .ret accepted

/-! ## what a decision has checked -/

theorem parseInboxRequest_ok {request request' : InboxRequest} {value : Json}
    (h : parseInboxRequest request = .ok (request', value)) :
    request' = request ∧ ∃ document, JsonText.fromSlice request.body = some document ∧
      value = document.collapse := by
  unfold parseInboxRequest at h
  obtain ⟨_, h⟩ := ite_error_eq_ok.mp h
  split at h
  · cases h
  · rename_i document hdocument
    cases h
    exact ⟨rfl, document, hdocument, rfl⟩

/-- the request is verified as an actor -/
def Delivery.VerifiedAs (d : Delivery) (actor : Actor) : Prop := d.authenticate = .ok (some actor)

omit [Crates] in
theorem mapError_ok {ε ε' α : Type} {x : Except ε α} {f : ε → ε'} {a : α} :
    x.mapError f = .ok a ↔ x = .ok a := by
  cases x <;> simp [Except.mapError]

omit [Crates] in
theorem bind_ok {ε α β : Type} {x : Except ε α} {f : α → Except ε β} {b : β} :
    (x >>= f) = .ok b ↔ ∃ a, x = .ok a ∧ f a = .ok b := by
  cases x <;> simp [bind, Except.bind]

omit [Crates] in
theorem ite_error_bind {ε α : Type} {p : Prop} [Decidable p] {e : ε} {f : Unit → Except ε α}
    {a : α} :
    (if p then (Except.error e : Except ε Unit) >>= f else f ()) = .ok a ↔ ¬ p ∧ f () = .ok a := by
  by_cases h : p <;> simp [h, bind, Except.bind]

theorem authenticate_signed {d : Delivery} {verifiedActor : Option Actor}
    (hpolicy : d.server.inboxAuthPolicy = .RequireSigned)
    (h : d.authenticate = .ok verifiedActor) :
    ∃ actor, verifiedActor = some actor ∧ activityActorId d.value = some actor.id ∧
      verifySignedRequest d.server.resolver d.server.now d.request actor.id d.expectedInbox =
        .ok actor := by
  unfold Delivery.authenticate at h
  rw [hpolicy] at h
  dsimp only at h
  split at h
  · cases h
  · rename_i actorId hactor
    cases hv : verifySignedRequest d.server.resolver d.server.now d.request actorId
      d.expectedInbox with
    | error status =>
      rw [hv] at h
      cases h
    | ok actor =>
      rw [hv] at h
      cases h
      obtain ⟨_, _, _, hverified⟩ := verifySignedRequest_ok hv
      have hid := hverified.actorId
      subst hid
      exact ⟨actor, rfl, hactor, hv⟩

theorem decideFollow_ok {d : Delivery} {verifiedActor : Option Actor} {outcome : FollowOutcome}
    (h : d.decideFollow verifiedActor = .ok outcome) :
    ∃ follow remoteActor acceptId, Follow.deserialize d.value = some follow ∧
      d.remoteActor verifiedActor follow.actor = .ok remoteActor ∧
      acceptIdForFollow d.localActor.id follow.id = .ok acceptId ∧
      receiveFollow d.localActor remoteActor follow acceptId = .ok outcome := by
  unfold Delivery.decideFollow at h
  split at h
  case h_2 => cases h
  rename_i follow hfollow
  simp only [bind_ok, mapError_ok] at h
  obtain ⟨remoteActor, hremote, acceptId, hid, h⟩ := h
  split at h
  · rename_i hreceive
    cases h
    exact ⟨follow, remoteActor, acceptId, hfollow, hremote, hid, hreceive⟩
  · cases h
  · cases h

theorem decideAccept_ok {d : Delivery} {verifiedActor : Option Actor} {remoteActor : Actor}
    {accept : Accept} (h : d.decideAccept verifiedActor = .ok (remoteActor, accept)) :
    Accept.deserialize d.value = some accept ∧
      d.remoteActor verifiedActor accept.actor = .ok remoteActor := by
  unfold Delivery.decideAccept at h
  dsimp only at h
  obtain ⟨_, h⟩ := ite_error_bind.mp h
  split at h
  case h_2 => cases h
  rename_i accept' haccept
  simp only [bind_ok, mapError_ok] at h
  obtain ⟨remoteActor', hremote, h⟩ := h
  cases h
  exact ⟨haccept, hremote⟩

theorem decideUndo_ok {d : Delivery} {verifiedActor : Option Actor} {outcome : UndoFollowOutcome}
    (h : d.decideUndo verifiedActor = .ok outcome) :
    ∃ undo remoteActor, Undo.deserialize d.value = some undo ∧
      d.remoteActor verifiedActor undo.actor = .ok remoteActor ∧
      receiveUndoFollow d.localActor remoteActor undo = .ok outcome := by
  unfold Delivery.decideUndo at h
  obtain ⟨_, h⟩ := ite_error_bind.mp h
  split at h
  case h_2 => cases h
  rename_i undo hundo
  simp only [bind_ok, mapError_ok] at h
  obtain ⟨remoteActor, hremote, h⟩ := h
  split at h
  · rename_i hreceive
    cases h
    exact ⟨undo, remoteActor, hundo, hremote, hreceive⟩
  · cases h
  · cases h
  · cases h

/-- what the decision about an activity rests on -/
inductive Decided (d : Delivery) (verifiedActor : Option Actor) : Decision → Prop where
  | follow {outcome : FollowOutcome} (type : activityType d.value = some "Follow")
      (h : d.decideFollow verifiedActor = .ok outcome) : Decided d verifiedActor (.follow outcome)
  | accept {remoteActor : Actor} {accept : Accept} (type : activityType d.value = some "Accept")
      (h : d.decideAccept verifiedActor = .ok (remoteActor, accept)) :
      Decided d verifiedActor (.accept remoteActor accept)
  | undo {outcome : UndoFollowOutcome} (type : activityType d.value = some "Undo")
      (h : d.decideUndo verifiedActor = .ok outcome) : Decided d verifiedActor (.undo outcome)

theorem decide_ok {d : Delivery} {decision : Decision} (h : d.decide = .ok decision) :
    ∃ verifiedActor, d.authenticate = .ok verifiedActor ∧ Decided d verifiedActor decision := by
  unfold Delivery.decide at h
  rw [bind_ok] at h
  obtain ⟨verifiedActor, hauth, h⟩ := h
  refine ⟨verifiedActor, mapError_ok.mp hauth, ?_⟩
  split at h
  · rename_i htype
    obtain ⟨outcome, ho, h⟩ := bind_ok.mp h
    cases h
    exact .follow htype ho
  · rename_i htype
    obtain ⟨⟨remoteActor, accept⟩, ha, h⟩ := bind_ok.mp h
    cases h
    exact .accept htype ha
  · rename_i htype
    obtain ⟨outcome, ho, h⟩ := bind_ok.mp h
    cases h
    exact .undo htype ho
  · cases h

theorem remoteActor_verified {d : Delivery} {actor remoteActor : Actor}
    {reference : Reference Actor} (h : d.remoteActor (some actor) reference = .ok remoteActor) :
    remoteActor = actor := by
  cases h
  rfl

/-- **A signed Follow that gets past the checks** is from the verified actor to the local actor. -/
theorem decide_follow {d : Delivery} {outcome : FollowOutcome}
    (hpolicy : d.server.inboxAuthPolicy = .RequireSigned)
    (h : d.decide = .ok (.follow outcome)) :
    ∃ actor follow acceptId, d.VerifiedAs actor ∧ Follow.deserialize d.value = some follow ∧
      acceptIdForFollow d.localActor.id follow.id = .ok acceptId ∧
      receiveFollow d.localActor actor follow acceptId = .ok outcome := by
  obtain ⟨verifiedActor, hauth, hd⟩ := decide_ok h
  obtain ⟨actor, rfl, _, _⟩ := authenticate_signed hpolicy hauth
  cases hd with
  | follow _ ho =>
    obtain ⟨follow, remoteActor, acceptId, hfollow, hremote, hid, hreceive⟩ :=
      decideFollow_ok ho
    cases remoteActor_verified hremote
    exact ⟨actor, follow, acceptId, hauth, hfollow, hid, hreceive⟩

/-- **A signed Undo that gets past the checks** is from the verified actor. -/
theorem decide_undo {d : Delivery} {outcome : UndoFollowOutcome}
    (hpolicy : d.server.inboxAuthPolicy = .RequireSigned)
    (h : d.decide = .ok (.undo outcome)) :
    ∃ actor undo, d.VerifiedAs actor ∧ Undo.deserialize d.value = some undo ∧
      receiveUndoFollow d.localActor actor undo = .ok outcome := by
  obtain ⟨verifiedActor, hauth, hd⟩ := decide_ok h
  obtain ⟨actor, rfl, _, _⟩ := authenticate_signed hpolicy hauth
  cases hd with
  | undo _ ho =>
    obtain ⟨undo, remoteActor, hundo, hremote, hreceive⟩ := decideUndo_ok ho
    cases remoteActor_verified hremote
    exact ⟨actor, undo, hauth, hundo, hreceive⟩

/-- **A signed Accept that gets past the first checks** is from the verified actor. -/
theorem decide_accept {d : Delivery} {remoteActor : Actor} {accept : Accept}
    (hpolicy : d.server.inboxAuthPolicy = .RequireSigned)
    (h : d.decide = .ok (.accept remoteActor accept)) :
    d.VerifiedAs remoteActor ∧ Accept.deserialize d.value = some accept := by
  obtain ⟨verifiedActor, hauth, hd⟩ := decide_ok h
  obtain ⟨actor, rfl, _, _⟩ := authenticate_signed hpolicy hauth
  cases hd with
  | accept _ ha =>
    obtain ⟨haccept, hremote⟩ := decideAccept_ok ha
    cases remoteActor_verified hremote
    exact ⟨hauth, haccept⟩

/-! ## the two entry points -/

def inbox (server : FederServer) (identifier : String) (request : InboxRequest) :
    Program Reply :=
  match server.getActor identifier with
  | .error _ => .ret (.error .INTERNAL_SERVER_ERROR)
  | .ok none => .ret (.error .NOT_FOUND)
  | .ok (some localActor) =>
    match parseInboxRequest request with
    | .error status => .ret (.error status)
    | .ok (request, value) =>
      receiveActivity ⟨server, localActor, localActor.inbox, request, value, none⟩

/-- the recipient of an activity in the shared inbox, with the pending relationship of an Accept -/
def sharedInboxTarget (value : Json)
    (next : Option (Iri × Option PendingFollow) → Program Reply) : Program Reply :=
  if activityType value = some "Accept" then
    match (value.get "object").bind valueReferenceId with
    | none => next none
    | some followActivity =>
      tryStore (.loadPendingFollow followActivity) fun pending =>
        next (pending.map fun pending => (pending.localActor, some pending))
  else next ((activityTargetId value).map fun target => (target, none))

/-- the shared inbox behind the choice of the recipient -/
def receiveShared (server : FederServer) (request : InboxRequest) (value : Json) :
    Option (Iri × Option PendingFollow) → Program Reply
  | none => .ret accepted
  | some (targetId, pendingFollow) =>
    match server.getActorById targetId with
    | .error _ => .ret (.error .INTERNAL_SERVER_ERROR)
    | .ok none => .ret accepted
    | .ok (some localActor) =>
      match localActor.sharedInbox with
      | none => .ret accepted
      | some expectedInbox =>
        receiveActivity ⟨server, localActor, expectedInbox, request, value, pendingFollow⟩

def sharedInbox (server : FederServer) (request : InboxRequest) : Program Reply :=
  match parseInboxRequest request with
  | .error status => .ret (.error status)
  | .ok (request, value) => sharedInboxTarget value (receiveShared server request value)

theorem inbox_follow {server : FederServer} {identifier : String} {request request' : InboxRequest}
    {value : Json} {localActor : Actor} {outcome : FollowOutcome}
    (hactor : server.getActor identifier = .ok (some localActor))
    (hparse : parseInboxRequest request = .ok (request', value))
    (hdecide : Delivery.decide ⟨server, localActor, localActor.inbox, request', value, none⟩ =
      .ok (.follow outcome)) :
    inbox server identifier request = acceptFollow localActor outcome := by
  unfold inbox
  rw [hactor]
  dsimp only
  rw [hparse]
  dsimp only
  unfold receiveActivity
  rw [hdecide]

theorem inbox_accept {server : FederServer} {identifier : String} {request request' : InboxRequest}
    {value : Json} {localActor remoteActor : Actor} {accept : Accept}
    (hactor : server.getActor identifier = .ok (some localActor))
    (hparse : parseInboxRequest request = .ok (request', value))
    (hdecide : Delivery.decide ⟨server, localActor, localActor.inbox, request', value, none⟩ =
      .ok (.accept remoteActor accept)) :
    inbox server identifier request =
      tryStore (.loadPendingFollow (followReferenceId accept.object)) fun pending =>
        pending.elim (.ret accepted) (confirmAccept localActor remoteActor accept) := by
  unfold inbox
  rw [hactor]
  dsimp only
  rw [hparse]
  dsimp only
  unfold receiveActivity
  rw [hdecide]
  dsimp only
  unfold findPending
  dsimp only
  congr 1
  funext pending
  cases pending <;> rfl

theorem confirmAccept_ok {localActor remoteActor : Actor} {pending : PendingFollow} {accept : Accept}
    (h : receiveAcceptFollow localActor remoteActor pending accept = .ok ()) :
    confirmAccept localActor remoteActor accept pending =
      tryStore (.confirmPendingFollow pending) fun _ => .ret accepted := by
  unfold confirmAccept
  rw [h]

end Feder
