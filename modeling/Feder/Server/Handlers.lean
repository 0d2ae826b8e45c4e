import Feder.Server.Inbox

/-!
# The handlers as a system

The two inboxes and `follow_actor` as calls whose storage steps interleave over one store.  What a
handler does next is said once, by `CallOp`: each operation of a call, given what the call has done
so far.

* `program_sat`    every operation of a call is a `CallOp`, every result a `CallResult`;
* `handlers`       the system of the calls.
-/

namespace Feder
open Serde

variable [Crates]

/-! ## `follow_actor` -/

inductive FollowActorError where
  | ActorDispatcher
  | LocalActorNotFound (actor : Iri)
  | ActorResolver (error : ActorResolveError)
  | Storage (error : StoreError)
  | MissingActorKey (actor : Iri)
  | ActivitySender (error : SendError)

/-- the part of `follow_actor` behind its look-ups -/
def sendFollow (localActor remoteActor : Actor) (followId : Iri) :
    Program (Except FollowActorError Follow) :=
  let outcome := createFollow localActor remoteActor followId
  .op (.store (.storePendingFollow outcome.relationship)) fun
    | .error e => .ret (.error (.Storage e))
    | .ok () =>
      .op (.store (.loadActorKeyPair localActor.id)) fun
        | .error e => .ret (.error (.Storage e))
        | .ok none => .ret (.error (.MissingActorKey localActor.id))
        | .ok (some keyPair) =>
          .op (.sendActivity localActor keyPair outcome.activity.serialize remoteActor.inbox) fun
            | .error e => .ret (.error (.ActivitySender e))
            | .ok () => .ret (.ok outcome.activity)

def followActor (server : FederServer) (localActorId remoteActorId followId : Iri) :
    Program (Except FollowActorError Follow) :=
  match server.getActorById localActorId with
  | .error _ => .ret (.error .ActorDispatcher)
  | .ok none => .ret (.error (.LocalActorNotFound localActorId))
  | .ok (some localActor) =>
    match server.resolver.resolve remoteActorId with
    | .error e => .ret (.error (.ActorResolver e))
    | .ok remoteActor => sendFollow localActor remoteActor followId

theorem followActor_program {server : FederServer} {localActorId remoteActorId : Iri}
    {localActor remoteActor : Actor} (followId : Iri)
    (hlocal : server.getActorById localActorId = .ok (some localActor))
    (hremote : server.resolver.resolve remoteActorId = .ok remoteActor) :
    followActor server localActorId remoteActorId followId =
      sendFollow localActor remoteActor followId := by
  unfold followActor
  rw [hlocal]
  dsimp only
  rw [hremote]

/-! ## calls -/

inductive Call where
  | inbox (server : FederServer) (identifier : String) (request : InboxRequest)
  | sharedInbox (server : FederServer) (request : InboxRequest)
  | followActor (server : FederServer) (localActorId remoteActorId followId : Iri)

inductive Outcome where
  | reply (reply : Reply)
  | follow (result : Except FollowActorError Follow)

def Call.program : Call → Program Outcome
  | .inbox server identifier request => (Feder.inbox server identifier request).map .reply
  | .sharedInbox server request => (Feder.sharedInbox server request).map .reply
  | .followActor server localActorId remoteActorId followId =>
    (Feder.followActor server localActorId remoteActorId followId).map .follow

def Call.server : Call → FederServer
  | .inbox server _ _ => server
  | .sharedInbox server _ => server
  | .followActor server _ _ _ => server

/-! ## what a call hands on -/

/-- An activity that a call hands to `receive_activity`, and what the call has done before: the
shared inbox loads the pending relationship of an Accept. -/
inductive Call.Delivers : Call → List OpEvent → Delivery → Prop where
  | inbox {server : FederServer} {identifier : String} {request request' : InboxRequest}
      {value : Json} {localActor : Actor} (hactor : server.getActor identifier = .ok (some localActor))
      (hparse : parseInboxRequest request = .ok (request', value)) :
      Delivers (.inbox server identifier request) []
        ⟨server, localActor, localActor.inbox, request', value, none⟩
  | shared {server : FederServer} {request request' : InboxRequest} {value : Json}
      {localActor : Actor} {target expectedInbox : Iri}
      (hparse : parseInboxRequest request = .ok (request', value))
      (htype : activityType value ≠ some "Accept") (htarget : activityTargetId value = some target)
      (hactor : server.getActorById target = .ok (some localActor))
      (hinbox : localActor.sharedInbox = some expectedInbox) :
      Delivers (.sharedInbox server request) []
        ⟨server, localActor, expectedInbox, request', value, none⟩
  | sharedAccept {server : FederServer} {request request' : InboxRequest} {value : Json}
      {localActor : Actor} {followActivity expectedInbox : Iri} {pending : PendingFollow}
      (hparse : parseInboxRequest request = .ok (request', value))
      (htype : activityType value = some "Accept")
      (hfollow : (value.get "object").bind valueReferenceId = some followActivity)
      (hactor : server.getActorById pending.localActor = .ok (some localActor))
      (hinbox : localActor.sharedInbox = some expectedInbox) :
      Delivers (.sharedInbox server request)
        [stored (.loadPendingFollow followActivity) (.ok (some pending))]
        ⟨server, localActor, expectedInbox, request', value, some pending⟩

theorem Call.Delivers.server_eq {c : Call} {past : List OpEvent} {d : Delivery}
    (h : c.Delivers past d) : d.server = c.server := by
  cases h <;> rfl

/-- a call hands on one activity only, whatever it has loaded before, unless that is an Accept -/
theorem Call.Delivers.unique {c : Call} {pre pre' : List OpEvent} {d d' : Delivery}
    (h : c.Delivers pre d) (h' : c.Delivers pre' d')
    (htype : activityType d.value ≠ some "Accept") : pre = pre' ∧ d = d' := by
  cases h with
  | inbox hactor hparse =>
    cases h' with
    | inbox hactor' hparse' =>
      rw [hactor] at hactor'
      rw [hparse] at hparse'
      cases hactor'
      cases hparse'
      exact ⟨rfl, rfl⟩
  | shared hparse _ htarget hactor hinbox =>
    cases h' with
    | shared hparse' _ htarget' hactor' hinbox' =>
      rw [hparse] at hparse'
      cases hparse'
      rw [htarget] at htarget'
      cases htarget'
      rw [hactor] at hactor'
      cases hactor'
      rw [hinbox] at hinbox'
      cases hinbox'
      exact ⟨rfl, rfl⟩
    | sharedAccept hparse' htype' =>
      rw [hparse] at hparse'
      cases hparse'
      exact absurd htype' htype
  | sharedAccept _ htype' => exact absurd htype' htype

/-- The pending relationship that the Accept of a delivery is held against: the one that the
shared inbox hands on, or the one that is loaded under the id in the Accept. -/
inductive Delivery.Considers (d : Delivery) (pre : List OpEvent) (remoteActor : Actor)
    (accept : Accept) (pending : PendingFollow) : List OpEvent → Prop where
  | given (hd : d.decide = .ok (.accept remoteActor accept))
      (hpending : d.pendingFollow = some pending)
      (hfollow : pending.followActivity = followReferenceId accept.object) :
      Considers d pre remoteActor accept pending pre
  | loaded (hd : d.decide = .ok (.accept remoteActor accept)) (hpending : d.pendingFollow = none) :
      Considers d pre remoteActor accept pending (pre ++
        [stored (.loadPendingFollow (followReferenceId accept.object)) (.ok (some pending))])

theorem Delivery.Considers.decide {d : Delivery} {pre past : List OpEvent} {remoteActor : Actor}
    {accept : Accept} {pending : PendingFollow}
    (h : d.Considers pre remoteActor accept pending past) :
    d.decide = .ok (.accept remoteActor accept) := by
  cases h <;> assumption

/-- an operation of `receive_activity`, given what the call has done before -/
inductive ActivityOp (d : Delivery) (pre : List OpEvent) : List OpEvent → Op → Prop where
  | storeFollower {outcome : FollowOutcome} (hd : d.decide = .ok (.follow outcome)) :
      ActivityOp d pre pre (.store (.storeFollower outcome.follower outcome.following))
  | loadKey {outcome : FollowOutcome} (hd : d.decide = .ok (.follow outcome)) :
      ActivityOp d pre (pre ++ [stored (.storeFollower outcome.follower outcome.following) (.ok ())])
        (.store (.loadActorKeyPair d.localActor.id))
  | sendAccept {outcome : FollowOutcome} {keyPair : ActorKeyPair}
      (hd : d.decide = .ok (.follow outcome)) :
      ActivityOp d pre (pre ++
        [stored (.storeFollower outcome.follower outcome.following) (.ok ())] ++
        [stored (.loadActorKeyPair d.localActor.id) (.ok (some keyPair))])
        (.sendActivity d.localActor keyPair outcome.accept.serialize outcome.recipientInbox)
  | removeFollower {outcome : UndoFollowOutcome} (hd : d.decide = .ok (.undo outcome)) :
      ActivityOp d pre pre (.store (.removeFollower outcome.follower outcome.following))
  | loadPending {remoteActor : Actor} {accept : Accept}
      (hd : d.decide = .ok (.accept remoteActor accept)) (hpending : d.pendingFollow = none) :
      ActivityOp d pre pre (.store (.loadPendingFollow (followReferenceId accept.object)))
  | confirm {remoteActor : Actor} {accept : Accept} {pending : PendingFollow}
      {past : List OpEvent} (h : d.Considers pre remoteActor accept pending past)
      (hok : receiveAcceptFollow d.localActor remoteActor pending accept = .ok ()) :
      ActivityOp d pre past (.store (.confirmPendingFollow pending))

/-- the reply to an Accept that fails its checks -/
def refusal : AcceptFollowError → Reply
  | .WrongActor => .error .UNAUTHORIZED
  | _ => Feder.accepted

/-- how `receive_activity` ends, given what the call has done before -/
inductive ActivityResult (d : Delivery) (pre : List OpEvent) : List OpEvent → Reply → Prop where
  | early {reply : Reply} (hd : d.decide = .error reply) : ActivityResult d pre pre reply
  | storageFailed {past : List OpEvent} {call : StoreCall} {e : StoreError}
      (h : ActivityOp d pre past (.store call)) :
      ActivityResult d pre (past ++ [stored call (.error e)]) (.error .INTERNAL_SERVER_ERROR)
  | keyMissing {outcome : FollowOutcome} (hd : d.decide = .ok (.follow outcome)) :
      ActivityResult d pre (pre ++
        [stored (.storeFollower outcome.follower outcome.following) (.ok ())] ++
        [stored (.loadActorKeyPair d.localActor.id) (.ok none)]) (.error .INTERNAL_SERVER_ERROR)
  | sendFailed {outcome : FollowOutcome} {keyPair : ActorKeyPair} {e : SendError}
      (hd : d.decide = .ok (.follow outcome)) :
      ActivityResult d pre (pre ++
        [stored (.storeFollower outcome.follower outcome.following) (.ok ())] ++
        [stored (.loadActorKeyPair d.localActor.id) (.ok (some keyPair))] ++
        [⟨.sendActivity d.localActor keyPair outcome.accept.serialize outcome.recipientInbox,
          .error e⟩]) (.error .BAD_GATEWAY)
  | sent {outcome : FollowOutcome} {keyPair : ActorKeyPair}
      (hd : d.decide = .ok (.follow outcome)) :
      ActivityResult d pre (pre ++
        [stored (.storeFollower outcome.follower outcome.following) (.ok ())] ++
        [stored (.loadActorKeyPair d.localActor.id) (.ok (some keyPair))] ++
        [⟨.sendActivity d.localActor keyPair outcome.accept.serialize outcome.recipientInbox,
          .ok ()⟩]) Feder.accepted
  | removed {outcome : UndoFollowOutcome} (hd : d.decide = .ok (.undo outcome)) :
      ActivityResult d pre (pre ++
        [stored (.removeFollower outcome.follower outcome.following) (.ok ())]) Feder.accepted
  | otherPending {remoteActor : Actor} {accept : Accept} {pending : PendingFollow}
      (hd : d.decide = .ok (.accept remoteActor accept)) (hpending : d.pendingFollow = some pending)
      (hfollow : pending.followActivity ≠ followReferenceId accept.object) :
      ActivityResult d pre pre Feder.accepted
  | notPending {remoteActor : Actor} {accept : Accept}
      (hd : d.decide = .ok (.accept remoteActor accept)) (hpending : d.pendingFollow = none) :
      ActivityResult d pre (pre ++
        [stored (.loadPendingFollow (followReferenceId accept.object)) (.ok none)]) Feder.accepted
  | refused {remoteActor : Actor} {accept : Accept} {pending : PendingFollow}
      {past : List OpEvent} {e : AcceptFollowError}
      (h : d.Considers pre remoteActor accept pending past)
      (herror : receiveAcceptFollow d.localActor remoteActor pending accept = .error e) :
      ActivityResult d pre past (refusal e)
  | confirmed {remoteActor : Actor} {accept : Accept} {pending : PendingFollow}
      {past : List OpEvent} {changed : Bool} (h : d.Considers pre remoteActor accept pending past)
      (hok : receiveAcceptFollow d.localActor remoteActor pending accept = .ok ()) :
      ActivityResult d pre (past ++ [stored (.confirmPendingFollow pending) (.ok changed)])
        Feder.accepted

theorem sat_tryStore {d : Delivery} {pre past : List OpEvent} {call : StoreCall}
    {next : call.Value → Program Reply} (h : ActivityOp d pre past (.store call))
    (hnext : ∀ value, Prog.Sat (ActivityOp d pre) (ActivityResult d pre)
      (past ++ [stored call (.ok value)]) (next value)) :
    Prog.Sat (ActivityOp d pre) (ActivityResult d pre) past (tryStore call next) := by
  refine ⟨h, fun answer => ?_⟩
  cases answer with
  | error e => exact .storageFailed h
  | ok value => exact hnext value

theorem confirmAccept_sat {d : Delivery} {pre past : List OpEvent} {remoteActor : Actor}
    {accept : Accept} {pending : PendingFollow}
    (h : d.Considers pre remoteActor accept pending past) :
    Prog.Sat (ActivityOp d pre) (ActivityResult d pre) past
      (confirmAccept d.localActor remoteActor accept pending) := by
  unfold confirmAccept
  cases hreceive : receiveAcceptFollow d.localActor remoteActor pending accept with
  | ok u => exact sat_tryStore (.confirm h hreceive) fun _ => .confirmed h hreceive
  | error e =>
    have hrefused := ActivityResult.refused h hreceive
    cases e <;> exact hrefused

/-- **`receive_activity` does what `ActivityOp` and `ActivityResult` say.** -/
theorem receiveActivity_sat (d : Delivery) (pre : List OpEvent) :
    Prog.Sat (ActivityOp d pre) (ActivityResult d pre) pre (receiveActivity d) := by
  unfold receiveActivity
  cases hd : d.decide with
  | error reply => exact .early hd
  | ok decision =>
    cases decision with
    | follow outcome =>
      refine sat_tryStore (.storeFollower hd) fun _ => sat_tryStore (.loadKey hd) fun keyPair => ?_
      cases keyPair with
      | none => exact .keyMissing hd
      | some keyPair =>
        refine ⟨.sendAccept hd, fun answer => ?_⟩
        cases answer with
        | error e => exact .sendFailed hd
        | ok u => exact .sent hd
    | undo outcome => exact sat_tryStore (.removeFollower hd) fun _ => .removed hd
    | accept remoteActor accept =>
      dsimp only
      unfold findPending
      cases hpending : d.pendingFollow with
      | some pending =>
        dsimp only
        by_cases hfollow : pending.followActivity = followReferenceId accept.object
        · rw [if_pos hfollow]
          exact confirmAccept_sat (.given hd hpending hfollow)
        · rw [if_neg hfollow]
          exact .otherPending hd hpending hfollow
      | none =>
        refine sat_tryStore (.loadPending hd hpending) fun pending => ?_
        cases pending with
        | none => exact .notPending hd hpending
        | some pending => exact confirmAccept_sat (.loaded hd hpending)

/-! ## every call -/

/-- an operation of a call, given what the call has done before -/
inductive CallOp : Call → List OpEvent → Op → Prop where
  | activity {c : Call} {d : Delivery} {pre past : List OpEvent} {o : Op}
      (hc : c.Delivers pre d) (h : ActivityOp d pre past o) : CallOp c past o
  | loadTarget {server : FederServer} {request request' : InboxRequest} {value : Json}
      {followActivity : Iri} (hparse : parseInboxRequest request = .ok (request', value))
      (htype : activityType value = some "Accept")
      (hfollow : (value.get "object").bind valueReferenceId = some followActivity) :
      CallOp (.sharedInbox server request) [] (.store (.loadPendingFollow followActivity))
  | storePending {server : FederServer} {localActorId remoteActorId followId : Iri}
      {localActor remoteActor : Actor}
      (hlocal : server.getActorById localActorId = .ok (some localActor))
      (hremote : server.resolver.resolve remoteActorId = .ok remoteActor) :
      CallOp (.followActor server localActorId remoteActorId followId) []
        (.store (.storePendingFollow ⟨localActor.id, remoteActor, followId⟩))
  | loadKey {server : FederServer} {localActorId remoteActorId followId : Iri}
      {localActor remoteActor : Actor}
      (hlocal : server.getActorById localActorId = .ok (some localActor))
      (hremote : server.resolver.resolve remoteActorId = .ok remoteActor) :
      CallOp (.followActor server localActorId remoteActorId followId)
        [stored (.storePendingFollow ⟨localActor.id, remoteActor, followId⟩) (.ok ())]
        (.store (.loadActorKeyPair localActor.id))
  | sendFollow {server : FederServer} {localActorId remoteActorId followId : Iri}
      {localActor remoteActor : Actor} {keyPair : ActorKeyPair}
      (hlocal : server.getActorById localActorId = .ok (some localActor))
      (hremote : server.resolver.resolve remoteActorId = .ok remoteActor) :
      CallOp (.followActor server localActorId remoteActorId followId)
        [stored (.storePendingFollow ⟨localActor.id, remoteActor, followId⟩) (.ok ()),
          stored (.loadActorKeyPair localActor.id) (.ok (some keyPair))]
        (.sendActivity localActor keyPair
          (createFollow localActor remoteActor followId).activity.serialize remoteActor.inbox)

/-- how a call ends, given what it has done -/
inductive CallResult : Call → List OpEvent → Outcome → Prop where
  | activity {c : Call} {d : Delivery} {pre past : List OpEvent} {reply : Reply}
      (hc : c.Delivers pre d) (h : ActivityResult d pre past reply) : CallResult c past (.reply reply)
  | undelivered {c : Call} {past : List OpEvent} {reply : Reply}
      (hpast : past = [] ∨ ∃ f answer, past = [stored (.loadPendingFollow f) answer])
      (h : ∀ pre d, c.Delivers pre d → ¬ pre <+: past) : CallResult c past (.reply reply)
  | followFailed {server : FederServer} {localActorId remoteActorId followId : Iri}
      {past : List OpEvent} {e : FollowActorError} :
      CallResult (.followActor server localActorId remoteActorId followId) past
        (.follow (.error e))
  | followSent {server : FederServer} {localActorId remoteActorId followId : Iri}
      {localActor remoteActor : Actor} {keyPair : ActorKeyPair}
      (hlocal : server.getActorById localActorId = .ok (some localActor))
      (hremote : server.resolver.resolve remoteActorId = .ok remoteActor) :
      CallResult (.followActor server localActorId remoteActorId followId)
        [stored (.storePendingFollow ⟨localActor.id, remoteActor, followId⟩) (.ok ()),
          stored (.loadActorKeyPair localActor.id) (.ok (some keyPair)),
          ⟨.sendActivity localActor keyPair
            (createFollow localActor remoteActor followId).activity.serialize remoteActor.inbox,
            .ok ()⟩] (.follow (.ok (createFollow localActor remoteActor followId).activity))

theorem delivered_sat {c : Call} {pre : List OpEvent} {d : Delivery} (hc : c.Delivers pre d) :
    Prog.Sat (CallOp c) (fun past reply => CallResult c past (.reply reply)) pre
      (receiveActivity d) :=
  (receiveActivity_sat d pre).mono (fun _ _ h => .activity hc h) (fun _ _ h => .activity hc h)

theorem inbox_sat (server : FederServer) (identifier : String) (request : InboxRequest) :
    Prog.Sat (CallOp (.inbox server identifier request))
      (fun past reply => CallResult (.inbox server identifier request) past (.reply reply)) []
      (inbox server identifier request) := by
  unfold inbox
  cases hactor : server.getActor identifier with
  | error e =>
    refine .undelivered (Or.inl rfl) fun pre d h => ?_
    cases h with
    | inbox hactor' _ =>
      rw [hactor] at hactor'
      cases hactor'
  | ok actor =>
    cases actor with
    | none =>
      refine .undelivered (Or.inl rfl) fun pre d h => ?_
      cases h with
      | inbox hactor' _ =>
        rw [hactor] at hactor'
        cases hactor'
    | some localActor =>
      cases hparse : parseInboxRequest request with
      | error status =>
        refine .undelivered (Or.inl rfl) fun pre d h => ?_
        cases h with
        | inbox _ hparse' =>
          rw [hparse] at hparse'
          cases hparse'
      | ok parsed => exact delivered_sat (.inbox hactor hparse)

theorem receiveShared_sat {server : FederServer} {request request' : InboxRequest} {value : Json}
    {past : List OpEvent} {target : Option (Iri × Option PendingFollow)}
    (hpast : past = [] ∨ ∃ f answer, past = [stored (.loadPendingFollow f) answer])
    (hyes : ∀ targetId pending localActor expectedInbox, target = some (targetId, pending) →
      server.getActorById targetId = .ok (some localActor) →
      localActor.sharedInbox = some expectedInbox →
      Call.Delivers (.sharedInbox server request) past
        ⟨server, localActor, expectedInbox, request', value, pending⟩)
    (hno : ∀ pre d, Call.Delivers (.sharedInbox server request) pre d → pre <+: past →
      ∃ targetId pending localActor expectedInbox, target = some (targetId, pending) ∧
        server.getActorById targetId = .ok (some localActor) ∧
        localActor.sharedInbox = some expectedInbox) :
    Prog.Sat (CallOp (.sharedInbox server request))
      (fun past reply => CallResult (.sharedInbox server request) past (.reply reply)) past
      (receiveShared server request' value target) := by
  cases target with
  | none =>
    refine .undelivered hpast fun pre d hd hpre => ?_
    obtain ⟨_, _, _, _, htarget, _⟩ := hno pre d hd hpre
    cases htarget
  | some target =>
    obtain ⟨targetId, pending⟩ := target
    unfold receiveShared
    dsimp only
    cases hactor : server.getActorById targetId with
    | error e =>
      refine .undelivered hpast fun pre d hd hpre => ?_
      obtain ⟨_, _, _, _, htarget, hactor', _⟩ := hno pre d hd hpre
      cases htarget
      rw [hactor] at hactor'
      cases hactor'
    | ok actor =>
      cases actor with
      | none =>
        refine .undelivered hpast fun pre d hd hpre => ?_
        obtain ⟨_, _, _, _, htarget, hactor', _⟩ := hno pre d hd hpre
        cases htarget
        rw [hactor] at hactor'
        cases hactor'
      | some localActor =>
        dsimp only
        cases hinbox : localActor.sharedInbox with
        | none =>
          dsimp only
          refine .undelivered hpast fun pre d hd hpre => ?_
          obtain ⟨_, _, _, _, htarget, hactor', hinbox'⟩ := hno pre d hd hpre
          cases htarget
          rw [hactor] at hactor'
          cases hactor'
          rw [hinbox] at hinbox'
          cases hinbox'
        | some expectedInbox => exact delivered_sat (hyes _ _ _ _ rfl hactor hinbox)

theorem Call.Delivers.of_accept {server : FederServer} {request request' : InboxRequest}
    {value : Json} {pre : List OpEvent} {d : Delivery}
    (h : Call.Delivers (.sharedInbox server request) pre d)
    (hparse : parseInboxRequest request = .ok (request', value))
    (htype : activityType value = some "Accept") :
    ∃ followActivity pending localActor expectedInbox,
      (value.get "object").bind valueReferenceId = some followActivity ∧
      pre = [stored (.loadPendingFollow followActivity) (.ok (some pending))] ∧
      server.getActorById pending.localActor = .ok (some localActor) ∧
      localActor.sharedInbox = some expectedInbox := by
  cases h with
  | shared hparse' htype' =>
    rw [hparse] at hparse'
    cases hparse'
    exact absurd htype htype'
  | sharedAccept hparse' _ hfollow hactor hinbox =>
    rw [hparse] at hparse'
    cases hparse'
    exact ⟨_, _, _, _, hfollow, rfl, hactor, hinbox⟩

theorem Call.Delivers.of_not_accept {server : FederServer} {request request' : InboxRequest}
    {value : Json} {pre : List OpEvent} {d : Delivery}
    (h : Call.Delivers (.sharedInbox server request) pre d)
    (hparse : parseInboxRequest request = .ok (request', value))
    (htype : activityType value ≠ some "Accept") :
    ∃ target localActor expectedInbox, activityTargetId value = some target ∧
      server.getActorById target = .ok (some localActor) ∧
      localActor.sharedInbox = some expectedInbox := by
  cases h with
  | shared hparse' _ htarget hactor hinbox =>
    rw [hparse] at hparse'
    cases hparse'
    exact ⟨_, _, _, htarget, hactor, hinbox⟩
  | sharedAccept hparse' htype' =>
    rw [hparse] at hparse'
    cases hparse'
    exact absurd htype' htype

theorem sharedInbox_sat (server : FederServer) (request : InboxRequest) :
    Prog.Sat (CallOp (.sharedInbox server request))
      (fun past reply => CallResult (.sharedInbox server request) past (.reply reply)) []
      (sharedInbox server request) := by
  unfold sharedInbox
  cases hparse : parseInboxRequest request with
  | error status =>
    refine .undelivered (Or.inl rfl) fun pre d h => ?_
    cases h with
    | shared hparse' | sharedAccept hparse' =>
      rw [hparse] at hparse'
      cases hparse'
  | ok parsed =>
    obtain ⟨request', value⟩ := parsed
    dsimp only
    unfold sharedInboxTarget
    by_cases htype : activityType value = some "Accept"
    · rw [if_pos htype]
      cases hfollow : (value.get "object").bind valueReferenceId with
      | none =>
        refine .undelivered (Or.inl rfl) fun pre d h => ?_
        obtain ⟨_, _, _, _, hfollow', _⟩ := h.of_accept hparse htype
        rw [hfollow] at hfollow'
        cases hfollow'
      | some followActivity =>
        refine ⟨.loadTarget hparse htype hfollow, fun answer => ?_⟩
        cases answer with
        | error e =>
          refine .undelivered (Or.inr ⟨_, _, rfl⟩) fun pre d h hpre => ?_
          obtain ⟨_, _, _, _, _, rfl, _⟩ := h.of_accept hparse htype
          have heq := hpre.eq_of_length rfl
          cases heq
        | ok pending =>
          refine receiveShared_sat (Or.inr ⟨_, _, rfl⟩) ?_ ?_
          · intro targetId pending' localActor expectedInbox htarget hactor hinbox
            obtain ⟨p, rfl, e⟩ := Option.map_eq_some_iff.mp htarget
            cases e
            exact .sharedAccept hparse htype hfollow hactor hinbox
          · intro pre d h hpre
            obtain ⟨_, _, _, _, _, rfl, hactor, hinbox⟩ := h.of_accept hparse htype
            have heq := hpre.eq_of_length rfl
            cases heq
            exact ⟨_, _, _, _, rfl, hactor, hinbox⟩
    · rw [if_neg htype]
      refine receiveShared_sat (Or.inl rfl) ?_ ?_
      · intro targetId pending localActor expectedInbox htarget hactor hinbox
        obtain ⟨t, ht, e⟩ := Option.map_eq_some_iff.mp htarget
        cases e
        exact .shared hparse htype ht hactor hinbox
      · intro pre d h _
        obtain ⟨_, _, _, htarget, hactor, hinbox⟩ := h.of_not_accept hparse htype
        exact ⟨_, _, _, _, by rw [htarget]; rfl, hactor, hinbox⟩

theorem followActor_sat (server : FederServer) (localActorId remoteActorId followId : Iri) :
    Prog.Sat (CallOp (.followActor server localActorId remoteActorId followId))
      (fun past result => CallResult (.followActor server localActorId remoteActorId followId) past
        (.follow result)) [] (followActor server localActorId remoteActorId followId) := by
  unfold followActor
  cases hlocal : server.getActorById localActorId with
  | error e => exact .followFailed
  | ok actor =>
    cases actor with
    | none => exact .followFailed
    | some localActor =>
      cases hremote : server.resolver.resolve remoteActorId with
      | error e => exact .followFailed
      | ok remoteActor =>
        refine ⟨.storePending hlocal hremote, fun answer => ?_⟩
        cases answer with
        | error e => exact .followFailed
        | ok u =>
          refine ⟨.loadKey hlocal hremote, fun answer => ?_⟩
          cases answer with
          | error e => exact .followFailed
          | ok keyPair =>
            cases keyPair with
            | none => exact .followFailed
            | some keyPair =>
              refine ⟨.sendFollow hlocal hremote, fun answer => ?_⟩
              cases answer with
              | error e => exact .followFailed
              | ok u => exact .followSent hlocal hremote

/-- **Every operation of a call is a `CallOp`, every result a `CallResult`.** -/
theorem program_sat (c : Call) : Prog.Sat (CallOp c) (CallResult c) [] c.program := by
  cases c with
  | inbox server identifier request => exact Prog.sat_map (inbox_sat server identifier request)
  | sharedInbox server request => exact Prog.sat_map (sharedInbox_sat server request)
  | followActor server localActorId remoteActorId followId =>
    exact Prog.sat_map (followActor_sat server localActorId remoteActorId followId)

/-! ## the system -/

/-- The calls over one store, with their storage steps interleaved.  `admits` says which calls can
arrive. -/
def handlers (admits : SqliteStore → Call → Prop) :
    System SqliteStore Call Op Op.Answer Outcome where
  program := Call.program
  admits := admits
  exec _ store o answer store' :=
    match o, answer with
    | .store call, answer => Executes store call answer store'
    | .sendActivity .., _ => store' = store

section
variable {admits : SqliteStore → Call → Prop} {s : Config SqliteStore Call Op Op.Answer Outcome}
  {i : Nat} {c : Call} {past : List OpEvent}

theorem reachable_call {store store' : SqliteStore}
    {threads : List (Thread Call Op Op.Answer Outcome)} {trace : List (Nat × OpEvent)}
    (h : (handlers admits).Reachable store ⟨store', threads, trace⟩) {p : Program Outcome}
    (hp : c.program = p) (hc : admits store' c) :
    (handlers admits).Reachable store ⟨store', threads ++ [⟨c, [], p⟩], trace⟩ :=
  System.reachable_start h c hp hc

theorem step_store {call : StoreCall} {next : Except StoreError call.Value → Program Outcome}
    {answer : Except StoreError call.Value} {store : SqliteStore}
    (ht : s.threads[i]? = some ⟨c, past, .op (.store call) next⟩)
    (h : Executes s.state call answer store) :
    (handlers admits).Step s ⟨store,
      s.threads.set i ⟨c, past ++ [stored call answer], next answer⟩,
      s.trace ++ [(i, stored call answer)]⟩ :=
  System.Step.exec i _ (.store call) next answer store ht rfl h

theorem step_tryStore {α : Type} {call : StoreCall}
    {next : call.Value → Program (Except StatusCode α)} {f : Except StatusCode α → Outcome}
    {value : call.Value} {store : SqliteStore}
    (ht : s.threads[i]? = some ⟨c, past, (tryStore call next).map f⟩)
    (h : s.state.call call = (.ok value, store)) :
    (handlers admits).Step s ⟨store,
      s.threads.set i ⟨c, past ++ [stored call (.ok value)], (next value).map f⟩,
      s.trace ++ [(i, stored call (.ok value))]⟩ :=
  @step_store _ admits s i c past call _ (.ok value) store ht (Or.inl h)

end

end Feder
