import Feder.Server.Handlers

/-!
# Requests that run alone

What a request to an inbox comes to when no other handler runs in between: the activity that it
hands to `receive_activity` in a given store, and the one write that this activity makes.

* `run_delivery`, `run_undelivered`   a request does what its activity does, or nothing;
* `run_store`                         the store after a request is that after its write.
-/

namespace Feder
open Serde

variable [Crates]

/-- the relationship that is pending for a Follow -/
def SqliteStore.pending (store : SqliteStore) (followActivity : Iri) : Option PendingFollow :=
  match store.loadPendingFollow followActivity with
  | .ok pending => pending
  | .error _ => none

theorem SqliteStore.pending_eq_some {store : SqliteStore} {f : Iri} {p : PendingFollow} :
    store.pending f = some p ↔ store.loadPendingFollow f = .ok (some p) := by
  unfold pending
  cases store.loadPendingFollow f with
  | error e => simp
  | ok pending => simp

/-! ## the activity of a request -/

/-- the recipient of an activity in the shared inbox, as it is found in a store -/
def SqliteStore.sharedTarget (store : SqliteStore) (value : Json) :
    Option (Iri × Option PendingFollow) :=
  if activityType value = some "Accept" then
    ((value.get "object").bind valueReferenceId).bind fun followActivity =>
      (store.pending followActivity).map fun pending => (pending.localActor, some pending)
  else (activityTargetId value).map fun target => (target, none)

/-- the activity for a recipient, if that is a local actor with a shared inbox -/
def sharedDelivery (server : FederServer) (request : InboxRequest) (value : Json)
    (target : Iri × Option PendingFollow) : Option Delivery :=
  match server.getActorById target.1 with
  | .ok (some localActor) =>
    localActor.sharedInbox.map fun expectedInbox =>
      ⟨server, localActor, expectedInbox, request, value, target.2⟩
  | _ => none

/-- the activity that a request hands to `receive_activity` -/
def Call.delivery (store : SqliteStore) : Call → Option Delivery
  | .inbox server identifier request =>
    match server.getActor identifier, parseInboxRequest request with
    | .ok (some localActor), .ok (request, value) =>
      some ⟨server, localActor, localActor.inbox, request, value, none⟩
    | _, _ => none
  | .sharedInbox server request =>
    match parseInboxRequest request with
    | .ok (request, value) => (store.sharedTarget value).bind (sharedDelivery server request value)
    | .error _ => none
  | .followActor .. => none

/-- the requests from outside -/
def Call.Inbound : Call → Prop
  | .inbox .. | .sharedInbox .. => True
  | .followActor .. => False

section
variable (deliver : Attempt → Except SendError Unit) (site : Site)

theorem run_call {α : Type} {call : StoreCall} {next : Except StoreError call.Value → Program α}
    {answer : Except StoreError call.Value} {store : SqliteStore}
    (h : site.store.call call = (answer, store)) :
    Prog.run (handle deliver) site (.op (.store call) next) =
      Prog.run (handle deliver) { site with store := store } (next answer) := by
  rw [Prog.run_op]
  show Prog.run (handle deliver) { site with store := (site.store.call call).2 }
    (next (site.store.call call).1) = _
  rw [h]

theorem run_tryStore {α : Type} {call : StoreCall}
    {next : call.Value → Program (Except StatusCode α)} {value : call.Value} {store : SqliteStore}
    (h : site.store.call call = (.ok value, store)) :
    Prog.run (handle deliver) site (tryStore call next) =
      Prog.run (handle deliver) { site with store := store } (next value) :=
  run_call deliver site h

theorem run_tryStore_error {α : Type} {call : StoreCall}
    {next : call.Value → Program (Except StatusCode α)} {e : StoreError} {store : SqliteStore}
    (h : site.store.call call = (.error e, store)) :
    Prog.run (handle deliver) site (tryStore call next) =
      (.error .INTERNAL_SERVER_ERROR, { site with store := store }) :=
  run_call deliver site h

theorem run_receiveShared {server : FederServer} {request : InboxRequest} {value : Json}
    {target : Option (Iri × Option PendingFollow)} {d : Delivery}
    (h : target.bind (sharedDelivery server request value) = some d) :
    receiveShared server request value target = receiveActivity d := by
  obtain ⟨⟨targetId, pending⟩, rfl, hd⟩ := Option.bind_eq_some_iff.mp h
  unfold sharedDelivery at hd
  unfold receiveShared
  split at hd
  · rename_i localActor hactor
    obtain ⟨expectedInbox, hinbox, rfl⟩ := Option.map_eq_some_iff.mp hd
    dsimp only at hactor ⊢
    rw [hactor]
    dsimp only
    rw [hinbox]
  · cases hd

theorem run_receiveShared_none {server : FederServer} {request : InboxRequest} {value : Json}
    {target : Option (Iri × Option PendingFollow)}
    (h : target.bind (sharedDelivery server request value) = none) :
    (Prog.run (handle deliver) site (receiveShared server request value target)).2 = site := by
  cases target with
  | none => rfl
  | some target =>
    obtain ⟨targetId, pending⟩ := target
    rw [Option.bind_some] at h
    unfold sharedDelivery at h
    unfold receiveShared
    dsimp only at h ⊢
    cases hactor : server.getActorById targetId with
    | error e => rfl
    | ok actor =>
      cases actor with
      | none => rfl
      | some localActor =>
        rw [hactor] at h
        dsimp only at h ⊢
        rw [Option.map_eq_none_iff] at h
        rw [h]
        rfl

theorem run_sharedInboxTarget (value : Json)
    (next : Option (Iri × Option PendingFollow) → Program Reply) :
    Prog.run (handle deliver) site (sharedInboxTarget value next) =
        Prog.run (handle deliver) site (next (site.store.sharedTarget value)) ∨
      site.store.sharedTarget value = none ∧
        (Prog.run (handle deliver) site (sharedInboxTarget value next)).2 = site := by
  unfold sharedInboxTarget SqliteStore.sharedTarget
  by_cases htype : activityType value = some "Accept"
  · rw [if_pos htype, if_pos htype]
    cases hfollow : (value.get "object").bind valueReferenceId with
    | none => exact Or.inl rfl
    | some f =>
      dsimp only
      rw [Option.bind_some]
      unfold SqliteStore.pending
      cases hload : site.store.loadPendingFollow f with
      | error e =>
        have hcall : site.store.call (.loadPendingFollow f) = (.error e, site.store) := by
          show (site.store.loadPendingFollow f, site.store) = _
          rw [hload]
        refine Or.inr ⟨rfl, ?_⟩
        rw [run_tryStore_error deliver site hcall]
      | ok pending =>
        have hcall : site.store.call (.loadPendingFollow f) = (.ok pending, site.store) := by
          show (site.store.loadPendingFollow f, site.store) = _
          rw [hload]
        refine Or.inl ?_
        rw [run_tryStore deliver site hcall]
  · rw [if_neg htype, if_neg htype]
    exact Or.inl rfl

/-- **A request that hands on an activity does what the activity does.** -/
theorem run_delivery {c : Call} {d : Delivery} (h : c.delivery site.store = some d) :
    Prog.run (handle deliver) site c.program =
      (.reply (Prog.run (handle deliver) site (receiveActivity d)).1,
        (Prog.run (handle deliver) site (receiveActivity d)).2) := by
  cases c with
  | followActor => cases h
  | inbox server identifier request =>
    unfold Call.delivery at h
    unfold Call.program inbox
    rw [Prog.run_map]
    dsimp only at h ⊢
    split at h
    · rename_i localActor request' value hactor hparse
      cases h
      rw [hactor]
      dsimp only
      rw [hparse]
    · cases h
  | sharedInbox server request =>
    unfold Call.delivery at h
    unfold Call.program sharedInbox
    rw [Prog.run_map]
    dsimp only at h ⊢
    split at h
    · rename_i request' value hparse
      rw [hparse]
      dsimp only
      rcases run_sharedInboxTarget deliver site value (receiveShared server request' value) with
        hrun | ⟨hnone, _⟩
      · rw [hrun, run_receiveShared h]
      · rw [hnone] at h
        cases h
    · cases h

theorem run_undelivered {c : Call} (hc : c.Inbound) (h : c.delivery site.store = none) :
    (Prog.run (handle deliver) site c.program).2 = site := by
  cases c with
  | followActor => exact hc.elim
  | inbox server identifier request =>
    unfold Call.delivery at h
    unfold Call.program inbox
    rw [Prog.run_map]
    dsimp only at h ⊢
    cases hactor : server.getActor identifier with
    | error e => rfl
    | ok actor =>
      cases actor with
      | none => rfl
      | some localActor =>
        cases hparse : parseInboxRequest request with
        | error status => rfl
        | ok parsed =>
          rw [hactor, hparse] at h
          cases h
  | sharedInbox server request =>
    unfold Call.delivery at h
    unfold Call.program sharedInbox
    rw [Prog.run_map]
    dsimp only at h ⊢
    cases hparse : parseInboxRequest request with
    | error status => rfl
    | ok parsed =>
      rw [hparse] at h
      dsimp only at h ⊢
      rcases run_sharedInboxTarget deliver site parsed.2 (receiveShared server parsed.1 parsed.2)
        with hrun | ⟨_, hsite⟩
      · rw [hrun, run_receiveShared_none deliver site h]
      · exact hsite

end

/-! ## the write of a request -/

/-- the pending relationship that the Accept of a delivery is held against -/
def Delivery.considered (d : Delivery) (store : SqliteStore) (accept : Accept) :
    Option PendingFollow :=
  match d.pendingFollow with
  | some pending =>
    if pending.followActivity = followReferenceId accept.object then some pending else none
  | none => store.pending (followReferenceId accept.object)

/-- the write that an activity makes on a store -/
def Delivery.write (d : Delivery) (store : SqliteStore) : Option StoreCall :=
  match d.decide with
  | .error _ => none
  | .ok (.follow outcome) => some (.storeFollower outcome.follower outcome.following)
  | .ok (.undo outcome) => some (.removeFollower outcome.follower outcome.following)
  | .ok (.accept remoteActor accept) =>
    (d.considered store accept).bind fun pending =>
      match receiveAcceptFollow d.localActor remoteActor pending accept with
      | .ok () => some (.confirmPendingFollow pending)
      | .error _ => none

/-- the store after a write, if there is one -/
def SqliteStore.after (store : SqliteStore) : Option StoreCall → SqliteStore
  | some call => (store.call call).2
  | none => store

section
variable (deliver : Attempt → Except SendError Unit) (site : Site)

theorem run_acceptFollow_store (localActor : Actor) (outcome : FollowOutcome) :
    (Prog.run (handle deliver) site (acceptFollow localActor outcome)).2.store =
      site.store.storeFollower outcome.follower outcome.following := by
  unfold acceptFollow
  have hstore : site.store.call (.storeFollower outcome.follower outcome.following) =
      (.ok (), site.store.storeFollower outcome.follower outcome.following) := rfl
  rw [run_tryStore deliver site hstore]
  cases hload : (site.store.storeFollower outcome.follower outcome.following).call
      (.loadActorKeyPair localActor.id) with
  | mk answer store =>
    have hsame : store = site.store.storeFollower outcome.follower outcome.following := by
      cases hload
      rfl
    cases answer with
    | error e => rw [run_tryStore_error deliver _ hload, hsame]
    | ok keyPair =>
      rw [run_tryStore deliver _ hload]
      cases keyPair with
      | none => exact hsame
      | some keyPair =>
        rw [Prog.run_op]
        dsimp only [handle]
        cases deliver ⟨localActor, keyPair, outcome.accept.serialize, outcome.recipientInbox⟩ with
        | error e => exact hsame
        | ok u => exact hsame

theorem run_confirmAccept_store (localActor remoteActor : Actor) (accept : Accept)
    (pending : PendingFollow) :
    (Prog.run (handle deliver) site (confirmAccept localActor remoteActor accept pending)).2.store =
      site.store.after (match receiveAcceptFollow localActor remoteActor pending accept with
        | .ok () => some (.confirmPendingFollow pending)
        | .error _ => none) := by
  unfold confirmAccept
  cases receiveAcceptFollow localActor remoteActor pending accept with
  | error e => cases e <;> rfl
  | ok u =>
    dsimp only
    cases hconfirm : site.store.call (.confirmPendingFollow pending) with
    | mk answer store =>
      have hafter : site.store.after (some (.confirmPendingFollow pending)) = store := by
        show (site.store.call _).2 = _
        rw [hconfirm]
      rw [hafter]
      cases answer with
      | error e => rw [run_tryStore_error deliver site hconfirm]
      | ok changed => rw [run_tryStore deliver site hconfirm]; rfl

/-- **The store after an activity is that after its write.** -/
theorem run_receiveActivity_store (d : Delivery) :
    (Prog.run (handle deliver) site (receiveActivity d)).2.store =
      site.store.after (d.write site.store) := by
  unfold receiveActivity Delivery.write
  cases d.decide with
  | error reply => rfl
  | ok decision =>
    cases decision with
    | follow outcome => exact run_acceptFollow_store deliver site d.localActor outcome
    | undo outcome => rfl
    | accept remoteActor accept =>
      dsimp only
      unfold findPending Delivery.considered
      cases d.pendingFollow with
      | some pending =>
        dsimp only
        by_cases hfollow : pending.followActivity = followReferenceId accept.object
        · rw [if_pos hfollow, if_pos hfollow]
          exact run_confirmAccept_store deliver site d.localActor remoteActor accept pending
        · rw [if_neg hfollow, if_neg hfollow]
          rfl
      | none =>
        dsimp only
        unfold SqliteStore.pending
        cases hload : site.store.loadPendingFollow (followReferenceId accept.object) with
        | error e =>
          have hcall : site.store.call (.loadPendingFollow (followReferenceId accept.object)) =
              (.error e, site.store) := by
            show (site.store.loadPendingFollow _, site.store) = _
            rw [hload]
          rw [run_tryStore_error deliver site hcall]
          rfl
        | ok pending =>
          have hcall : site.store.call (.loadPendingFollow (followReferenceId accept.object)) =
              (.ok pending, site.store) := by
            show (site.store.loadPendingFollow _, site.store) = _
            rw [hload]
          rw [run_tryStore deliver site hcall]
          cases pending with
          | none => rfl
          | some pending =>
            exact run_confirmAccept_store deliver site d.localActor remoteActor accept pending

/-- the write that a request makes on a store -/
def Call.write (c : Call) (store : SqliteStore) : Option StoreCall :=
  (c.delivery store).bind fun d => d.write store

/-- **The store after a request is that after its write.** -/
theorem run_store {c : Call} (hc : c.Inbound) :
    (Prog.run (handle deliver) site c.program).2.store = site.store.after (c.write site.store) := by
  unfold Call.write
  cases hd : c.delivery site.store with
  | none =>
    rw [run_undelivered deliver site hc hd]
    rfl
  | some d =>
    rw [run_delivery deliver site hd]
    exact run_receiveActivity_store deliver site d

end

end Feder
