import Feder.Lib.Agree
import Feder.Server.Handlers

/-!
# Responses and the store

What the response to an inbox request says of the store, whatever the storage calls and the
delivery come to.

* `effect_of_processed`   the one write of a request that is processed alone;
* `response_of_processed` what the status of the response says of the tables.
-/

namespace Feder
open Serde

section
variable [Crates]

/-! ## the statuses of the inboxes -/

def statusOf : Reply → StatusCode
  | .ok status => status
  | .error status => status

/-- the statuses with which an inbox refuses a request -/
def failures : List StatusCode :=
  [.BAD_REQUEST, .UNAUTHORIZED, .NOT_FOUND, .UNSUPPORTED_MEDIA_TYPE, .INTERNAL_SERVER_ERROR,
    .BAD_GATEWAY]

/-- the reply is 202, or an early return with a failure -/
def Regular (reply : Reply) : Prop := reply = accepted ∨ ∃ status ∈ failures, reply = .error status

theorem verifyRequestHost_throws (headers : HeaderMap) (inbox : Iri) :
    (verifyRequestHost headers inbox).Throws (· ∈ failures) := by
  have h401 : StatusCode.UNAUTHORIZED ∈ failures := by decide
  have h500 : StatusCode.INTERNAL_SERVER_ERROR ∈ failures := by decide
  unfold verifyRequestHost
  split
  · exact Except.throws_error h401
  split
  · exact Except.throws_error h500
  split
  · exact Except.throws_error h500
  dsimp only
  split
  · exact Except.throws_error h401
  split
  · exact Except.throws_error h500
  exact Except.throws_ite (Except.throws_ok ()) (Except.throws_error h401)

theorem verifyRequestDate_throws (headers : HeaderMap) (now : Int) :
    (verifyRequestDate headers now).Throws (· ∈ failures) := by
  have h401 : StatusCode.UNAUTHORIZED ∈ failures := by decide
  unfold verifyRequestDate
  split
  · exact Except.throws_error h401
  · exact Except.throws_ite (Except.throws_error h401) (Except.throws_ok ())

theorem verifyRequestDigest_throws (headers : HeaderMap) (body : List UInt8) :
    (verifyRequestDigest headers body).Throws (· ∈ failures) := by
  have h401 : StatusCode.UNAUTHORIZED ∈ failures := by decide
  unfold verifyRequestDigest
  split
  · exact Except.throws_error h401
  · exact Except.throws_ite (Except.throws_ok ()) (Except.throws_error h401)

theorem verifySignedRequest_throws (resolver : ActorResolver) (now : Int) (request : InboxRequest)
    (activityActorId expectedInbox : Iri) :
    (verifySignedRequest resolver now request activityActorId expectedInbox).Throws
      (· ∈ failures) := by
  have h401 : StatusCode.UNAUTHORIZED ∈ failures := by decide
  have h502 : StatusCode.BAD_GATEWAY ∈ failures := by decide
  unfold verifySignedRequest
  split
  case h_2 => exact Except.throws_error h401
  split
  case h_2 => exact Except.throws_error h401
  refine Except.throws_guard h401 ?_
  dsimp only
  split
  case h_2 => exact Except.throws_error h401
  refine Except.throws_guard h401 ?_
  refine (verifyRequestHost_throws _ _).bind fun _ => ?_
  refine (verifyRequestDate_throws _ _).bind fun _ => ?_
  refine (verifyRequestDigest_throws _ _).bind fun _ => ?_
  split
  case h_2 => exact Except.throws_error h401
  split
  case h_2 => exact Except.throws_error h502
  refine Except.throws_guard h401 ?_
  split
  case h_2 => exact Except.throws_error h401
  split
  case h_2 => exact Except.throws_error h502
  exact Except.throws_guard h401 (Except.throws_ok _)

omit [Crates] in
theorem regular_failure {status : StatusCode} (h : status ∈ failures) :
    Regular (.error status) := Or.inr ⟨status, h, rfl⟩

omit [Crates] in
theorem throws_early {α : Type} {x : Except StatusCode α} (h : x.Throws (· ∈ failures)) :
    (x.mapError (Except.error : StatusCode → Reply)).Throws Regular := by
  intro reply hreply
  cases x with
  | error status =>
    cases hreply
    exact regular_failure (h status rfl)
  | ok a => cases hreply

theorem authenticate_throws (d : Delivery) : d.authenticate.Throws (· ∈ failures) := by
  unfold Delivery.authenticate
  split
  · exact Except.throws_ok none
  split
  · exact Except.throws_error (by decide)
  · intro status hstatus
    rename_i actorId _
    cases hverify : verifySignedRequest d.server.resolver d.server.now d.request actorId
      d.expectedInbox with
    | error status' =>
      rw [hverify] at hstatus
      cases hstatus
      exact verifySignedRequest_throws _ _ _ _ _ _ hverify
    | ok actor =>
      rw [hverify] at hstatus
      cases hstatus

theorem remoteActor_throws (d : Delivery) (verifiedActor : Option Actor)
    (reference : Reference Actor) :
    (d.remoteActor verifiedActor reference).Throws (· ∈ failures) := by
  unfold Delivery.remoteActor
  split
  · exact Except.throws_ok _
  unfold resolveActorReference
  split
  · exact Except.throws_ok _
  split
  · exact Except.throws_ok _
  · exact Except.throws_error (by decide)

theorem acceptIdForFollow_throws (localActorId followId : Iri) :
    (acceptIdForFollow localActorId followId).Throws (· ∈ failures) := by
  unfold acceptIdForFollow
  split
  · exact Except.throws_ok _
  · exact Except.throws_error (by decide)

theorem decideFollow_throws (d : Delivery) (verifiedActor : Option Actor) :
    (d.decideFollow verifiedActor).Throws Regular := by
  unfold Delivery.decideFollow
  split
  case h_2 => exact Except.throws_error (regular_failure (by decide))
  refine (throws_early (remoteActor_throws d verifiedActor _)).bind fun remoteActor => ?_
  refine (throws_early (acceptIdForFollow_throws _ _)).bind fun acceptId => ?_
  split
  · exact Except.throws_ok _
  · exact Except.throws_error (Or.inl rfl)
  · exact Except.throws_error (regular_failure (by decide))

theorem decideAccept_throws (d : Delivery) (verifiedActor : Option Actor) :
    (d.decideAccept verifiedActor).Throws Regular := by
  unfold Delivery.decideAccept
  refine Except.throws_guard (Or.inl rfl) ?_
  dsimp only
  split
  case h_2 => exact Except.throws_error (regular_failure (by decide))
  exact (throws_early (remoteActor_throws d verifiedActor _)).bind fun _ => Except.throws_ok _

theorem decideUndo_throws (d : Delivery) (verifiedActor : Option Actor) :
    (d.decideUndo verifiedActor).Throws Regular := by
  unfold Delivery.decideUndo
  refine Except.throws_guard (Or.inl rfl) ?_
  dsimp only
  split
  case h_2 => exact Except.throws_error (regular_failure (by decide))
  refine (throws_early (remoteActor_throws d verifiedActor _)).bind fun remoteActor => ?_
  split
  · exact Except.throws_ok _
  · exact Except.throws_error (Or.inl rfl)
  · exact Except.throws_error (Or.inl rfl)
  · exact Except.throws_error (regular_failure (by decide))

/-- **What `receive_activity` replies before its first storage call.** -/
theorem decide_throws (d : Delivery) : d.decide.Throws Regular := by
  unfold Delivery.decide
  refine (throws_early (authenticate_throws d)).bind fun verifiedActor => ?_
  split
  · exact (decideFollow_throws d verifiedActor).bind fun _ => Except.throws_ok _
  · exact (decideAccept_throws d verifiedActor).bind fun _ => Except.throws_ok _
  · exact (decideUndo_throws d verifiedActor).bind fun _ => Except.throws_ok _
  · exact Except.throws_error (Or.inl rfl)

/-- every reply of a program is regular -/
def Replies (p : Program Reply) : Prop :=
  ∀ past, Prog.Sat (fun _ _ => True) (fun _ reply => Regular reply) past p

theorem replies_ret {reply : Reply} (h : Regular reply) : Replies (.ret reply) := fun _ => h

theorem replies_tryStore {call : StoreCall} {next : call.Value → Program Reply}
    (h : ∀ value, Replies (next value)) : Replies (tryStore call next) := by
  intro past
  refine ⟨trivial, fun answer => ?_⟩
  cases answer with
  | error e => exact regular_failure (by decide)
  | ok value => exact h value _

theorem acceptFollow_replies (localActor : Actor) (outcome : FollowOutcome) :
    Replies (acceptFollow localActor outcome) := by
  refine replies_tryStore fun _ => replies_tryStore fun keyPair => ?_
  cases keyPair with
  | none => exact replies_ret (regular_failure (by decide))
  | some keyPair =>
    intro past
    refine ⟨trivial, fun answer => ?_⟩
    cases answer with
    | error e => exact regular_failure (by decide)
    | ok u => exact Or.inl rfl

theorem confirmAccept_replies (localActor remoteActor : Actor) (accept : Accept)
    (pending : PendingFollow) : Replies (confirmAccept localActor remoteActor accept pending) := by
  unfold confirmAccept
  split
  · exact replies_ret (regular_failure (by decide))
  · exact replies_ret (Or.inl rfl)
  · exact replies_tryStore fun _ => replies_ret (Or.inl rfl)

theorem findPending_replies (d : Delivery) (remoteActor : Actor) (accept : Accept) :
    Replies (findPending d remoteActor accept) := by
  unfold findPending
  dsimp only
  split
  · split
    · exact confirmAccept_replies _ _ _ _
    · exact replies_ret (Or.inl rfl)
  · refine replies_tryStore fun pending => ?_
    cases pending with
    | none => exact replies_ret (Or.inl rfl)
    | some pending => exact confirmAccept_replies _ _ _ _

theorem receiveActivity_replies (d : Delivery) : Replies (receiveActivity d) := by
  unfold receiveActivity
  split
  · rename_i reply hdecide
    exact replies_ret (decide_throws d reply hdecide)
  · exact acceptFollow_replies _ _
  · exact findPending_replies _ _ _
  · exact replies_tryStore fun _ => replies_ret (Or.inl rfl)

theorem parseInboxRequest_throws (request : InboxRequest) :
    (parseInboxRequest request).Throws (· ∈ failures) := by
  unfold parseInboxRequest
  refine Except.throws_ite (Except.throws_error (by decide)) ?_
  split
  · exact Except.throws_error (by decide)
  · exact Except.throws_ok _

theorem inbox_replies (server : FederServer) (identifier : String) (request : InboxRequest) :
    Replies (inbox server identifier request) := by
  unfold inbox
  split
  · exact replies_ret (regular_failure (by decide))
  · exact replies_ret (regular_failure (by decide))
  split
  · rename_i status hparse
    exact replies_ret (regular_failure (parseInboxRequest_throws request status hparse))
  · exact receiveActivity_replies _

theorem receiveShared_replies (server : FederServer) (request : InboxRequest) (value : Json)
    (target : Option (Iri × Option PendingFollow)) :
    Replies (receiveShared server request value target) := by
  unfold receiveShared
  split
  · exact replies_ret (Or.inl rfl)
  split
  · exact replies_ret (regular_failure (by decide))
  · exact replies_ret (Or.inl rfl)
  split
  · exact replies_ret (Or.inl rfl)
  · exact receiveActivity_replies _

theorem sharedInbox_replies (server : FederServer) (request : InboxRequest) :
    Replies (sharedInbox server request) := by
  unfold sharedInbox
  split
  · rename_i status hparse
    exact replies_ret (regular_failure (parseInboxRequest_throws request status hparse))
  unfold sharedInboxTarget
  split
  · split
    · exact receiveShared_replies _ _ _ _
    · exact replies_tryStore fun _ => receiveShared_replies _ _ _ _
  · exact receiveShared_replies _ _ _ _

/-- the outcome, if it is a reply, is regular -/
def Outcome.Regular (outcome : Outcome) : Prop :=
  ∀ reply, outcome = .reply reply → Feder.Regular reply

theorem Replies.outcome {p : Program Reply} (h : Replies p) :
    Prog.Sat (fun _ _ => True) (fun _ (outcome : Outcome) => outcome.Regular) []
      (p.map Outcome.reply) := by
  refine Prog.sat_map ((h []).mono (fun _ _ h => h) fun past reply hreply => ?_)
  intro reply' heq
  cases heq
  exact hreply

/-- **Every reply of an inbox is 202 or one of the failures.** -/
theorem program_regular (c : Call) :
    Prog.Sat (fun _ _ => True) (fun _ (outcome : Outcome) => outcome.Regular) [] c.program := by
  cases c with
  | inbox server identifier request => exact (inbox_replies server identifier request).outcome
  | sharedInbox server request => exact (sharedInbox_replies server request).outcome
  | followActor server localActorId remoteActorId followId =>
    refine Prog.sat_map ((followActor_sat server localActorId remoteActorId followId).mono
      (fun _ _ _ => trivial) fun past result _ => ?_)
    intro reply heq
    cases heq

/-! ## the write of a request that is processed alone -/

/-- a call is processed with nothing in between, with any failures of the storage and any outcome
of the delivery -/
def Call.Processes (c : Call) (store : SqliteStore) (reply : Reply) (store' : SqliteStore) : Prop :=
  Prog.Runs ((handlers fun _ _ => True).exec c) Eq store c.program (.reply reply) store'

theorem Call.Processes.regular {c : Call} {store store' : SqliteStore} {reply : Reply}
    (h : c.Processes store reply store') : Regular reply := by
  obtain ⟨_, _, hregular⟩ := Prog.Runs.leads h (program_regular c)
  exact hregular reply rfl

theorem executes_ok {store store' : SqliteStore} {call : StoreCall} {value : call.Value}
    (h : Executes store call (.ok value) store') : store.call call = (.ok value, store') := by
  rcases h with h | ⟨⟨e, he⟩, _⟩
  · exact h
  · cases he

theorem executes_error {store store' : SqliteStore} {call : StoreCall} {e : StoreError}
    (h : Executes store call (.error e) store') : store' = store := by
  rcases h with h | ⟨_, h⟩
  · cases call with
    | confirmPendingFollow p =>
      have hfailed : (store.confirmPendingFollow p).1 ≠ .ok true := by
        rw [show store.confirmPendingFollow p = (.error e, store') from h]
        exact nofun
      have hsame := SqliteStore.confirmPendingFollow_of_ne hfailed
      rw [show store.confirmPendingFollow p = (.error e, store') from h] at hsame
      exact hsame
    | storeFollower | removeFollower | storePendingFollow | storeNote => cases h
    | listFollowers | listFollowerDeliveryTargets | loadActorKeyPair | loadPendingFollow | loadNote =>
      exact (Prod.mk.inj h).2.symm
  · exact h

theorem executes_loadPendingFollow {store store' : SqliteStore} {f : Iri}
    {answer : Except StoreError (Option PendingFollow)}
    (h : Executes store (.loadPendingFollow f) answer store') : store' = store := by
  rcases h with h | ⟨_, h⟩
  · exact (Prod.mk.inj h).2.symm
  · exact h

theorem executes_loadActorKeyPair {store store' : SqliteStore} {actorId : Iri}
    {answer : Except StoreError (Option ActorKeyPair)}
    (h : Executes store (.loadActorKeyPair actorId) answer store') : store' = store := by
  rcases h with h | ⟨_, h⟩
  · exact (Prod.mk.inj h).2.symm
  · exact h

/-- the one write of a request, with the reply that comes after it -/
inductive Effect (c : Call) (store : SqliteStore) : Reply → SqliteStore → Prop where
  | unchanged (reply : Reply) : Effect c store reply store
  | followed {d : Delivery} {outcome : FollowOutcome} {reply : Reply} (hc : c.Delivers [] d)
      (hd : d.decide = .ok (.follow outcome))
      (hreply : reply ∈ [accepted, .error .INTERNAL_SERVER_ERROR, .error .BAD_GATEWAY]) :
      Effect c store reply (store.storeFollower outcome.follower outcome.following)
  | unfollowed {outcome : UndoFollowOutcome} :
      Effect c store accepted (store.removeFollower outcome.follower outcome.following)
  | confirmed {p : PendingFollow}
      (hload : store.loadPendingFollow p.followActivity = .ok (some p)) :
      Effect c store accepted (store.accept p.followActivity)

section
variable {c : Call} {store store' : SqliteStore}

/-- the steps of a list lead from one store to another -/
abbrev Call.Leads (c : Call) : SqliteStore → List OpEvent → SqliteStore → Prop :=
  Prog.Leads ((handlers fun _ _ => True).exec c)

theorem leads_stored {past : List OpEvent} {call : StoreCall}
    {answer : Except StoreError call.Value} :
    c.Leads store (past ++ [stored call answer]) store' ↔
      ∃ store₁, c.Leads store past store₁ ∧ Executes store₁ call answer store' := by
  unfold Call.Leads
  rw [Prog.leads_append]
  refine exists_congr fun store₁ => and_congr_right fun _ => ?_
  exact Prog.leads_singleton

theorem Call.Delivers.leads {pre : List OpEvent} {d : Delivery} (h : c.Delivers pre d)
    (hleads : c.Leads store pre store') : store' = store := by
  cases h with
  | inbox | shared => exact hleads
  | sharedAccept => exact executes_loadPendingFollow (Prog.leads_singleton.mp hleads)

theorem Delivery.Considers.leads {d : Delivery} {pre past : List OpEvent} {remoteActor : Actor}
    {accept : Accept} {p : PendingFollow} (h : d.Considers pre remoteActor accept p past)
    (hc : c.Delivers pre d) (hleads : c.Leads store past store') : store' = store := by
  cases h with
  | given => exact hc.leads hleads
  | loaded =>
    obtain ⟨store₁, hpre, hload⟩ := leads_stored.mp hleads
    rw [executes_loadPendingFollow hload]
    exact hc.leads hpre

theorem Call.Delivers.follow {pre : List OpEvent} {d : Delivery} {outcome : FollowOutcome}
    (h : c.Delivers pre d) (hd : d.decide = .ok (.follow outcome)) : pre = [] := by
  have htype : activityType d.value = some "Follow" := by
    obtain ⟨_, _, hdecided⟩ := decide_ok hd
    cases hdecided
    assumption
  cases h with
  | inbox | shared => rfl
  | sharedAccept _ haccept => exact absurd (htype.symm.trans haccept) (by decide)

theorem leads_storeFollower {pre : List OpEvent} {d : Delivery} {outcome : FollowOutcome}
    (hc : c.Delivers pre d) (hleads : c.Leads store
      (pre ++ [stored (.storeFollower outcome.follower outcome.following) (.ok ())]) store') :
    store' = store.storeFollower outcome.follower outcome.following := by
  obtain ⟨store₁, hpre, hstored⟩ := leads_stored.mp hleads
  obtain rfl := hc.leads hpre
  exact (Prod.mk.inj (executes_ok hstored)).2.symm

theorem leads_loadKey {pre : List OpEvent} {d : Delivery} {outcome : FollowOutcome}
    {answer : Except StoreError (Option ActorKeyPair)} (hc : c.Delivers pre d)
    (hleads : c.Leads store
      (pre ++ [stored (.storeFollower outcome.follower outcome.following) (.ok ())] ++
        [stored (.loadActorKeyPair d.localActor.id) answer]) store') :
    store' = store.storeFollower outcome.follower outcome.following := by
  obtain ⟨store₁, hstored, hload⟩ := leads_stored.mp hleads
  rw [executes_loadActorKeyPair hload]
  exact leads_storeFollower hc hstored

/-- a storage call of `receive_activity` that fails comes after a Follower was stored, or after
nothing was written -/
theorem effect_of_storageFailed {pre past : List OpEvent} {d : Delivery} {call : StoreCall}
    (hc : c.Delivers pre d) (hop : ActivityOp d pre past (.store call))
    (hleads : c.Leads store past store') :
    Effect c store (.error .INTERNAL_SERVER_ERROR) store' := by
  generalize ho : Op.store call = o at hop
  cases hop with
  | storeFollower | removeFollower | loadPending =>
    rw [hc.leads hleads]
    exact .unchanged _
  | loadKey hd =>
    rw [leads_storeFollower hc hleads]
    rw [hc.follow hd] at hc
    exact .followed hc hd (by simp)
  | sendAccept => cases ho
  | confirm hconsiders =>
    rw [hconsiders.leads hc hleads]
    exact .unchanged _

/-- **The one write of a request that is processed alone.** -/
theorem effect_of_processed {reply : Reply} (h : c.Processes store reply store') :
    Effect c store reply store' := by
  obtain ⟨past, hleads, hresult⟩ := Prog.Runs.leads h (program_sat c)
  generalize hout : Outcome.reply reply = outcome at hresult
  cases hresult with
  | followFailed | followSent => cases hout
  | undelivered hpast =>
    rcases hpast with rfl | ⟨f, answer, rfl⟩
    · obtain rfl : store' = store := hleads
      exact .unchanged _
    · rw [executes_loadPendingFollow (Prog.leads_singleton.mp hleads)]
      exact .unchanged _
  | activity hc hresult =>
    cases hout
    cases hresult with
    | early | otherPending =>
      rw [hc.leads hleads]
      exact .unchanged _
    | storageFailed hop =>
      obtain ⟨store₁, hpast, hfailed⟩ := leads_stored.mp hleads
      rw [executes_error hfailed]
      exact effect_of_storageFailed hc hop hpast
    | keyMissing hd =>
      rw [leads_loadKey hc hleads]
      rw [hc.follow hd] at hc
      exact .followed hc hd (by simp)
    | sendFailed hd | sent hd =>
      obtain ⟨store₁, hloaded, hsent⟩ := Prog.leads_append.mp hleads
      obtain rfl : store' = store₁ := Prog.leads_singleton.mp hsent
      rw [leads_loadKey hc hloaded]
      rw [hc.follow hd] at hc
      exact .followed hc hd (by simp)
    | removed =>
      obtain ⟨store₁, hpre, hremoved⟩ := leads_stored.mp hleads
      obtain rfl := hc.leads hpre
      rw [← (Prod.mk.inj (executes_ok hremoved)).2]
      exact .unfollowed
    | notPending =>
      obtain ⟨store₁, hpre, hload⟩ := leads_stored.mp hleads
      rw [executes_loadPendingFollow hload, hc.leads hpre]
      exact .unchanged _
    | refused hconsiders =>
      rw [hconsiders.leads hc hleads]
      exact .unchanged _
    | @confirmed _ _ p _ changed hconsiders =>
      obtain ⟨store₁, hpast, hconfirm⟩ := leads_stored.mp hleads
      obtain rfl := hconsiders.leads hc hpast
      have hcall : store₁.confirmPendingFollow p = (.ok changed, store') := executes_ok hconfirm
      by_cases htrue : (store₁.confirmPendingFollow p).1 = .ok true
      · have hstore := SqliteStore.confirmPendingFollow_of_true htrue
        rw [hcall] at hstore
        rw [show store' = _ from hstore]
        exact .confirmed (SqliteStore.confirmPendingFollow_true_iff.mp htrue)
      · have hstore := SqliteStore.confirmPendingFollow_of_ne htrue
        rw [hcall] at hstore
        rw [show store' = _ from hstore]
        exact .unchanged _

/-! ## the status against the tables -/

/-- at most one row differs: a row of the followers is set or deleted, or a pending follow is
accepted -/
inductive SqliteStore.OneRow (store : SqliteStore) : SqliteStore → Prop where
  | same : OneRow store store
  | set (key : String × String) (row : FollowerRow) :
      OneRow store { store with followers := store.followers.insert key row }
  | deleted (key : String × String) :
      OneRow store { store with followers := store.followers.erase key }
  | accepted (key : String) (row : OutboundFollowRow)
      (hrow : store.outboundFollows.lookup key = some row) (hpending : row.state = .pending) :
      OneRow store { store with
        outboundFollows := store.outboundFollows.insert key { row with state := .accepted } }

theorem SqliteStore.storeFollower_eq (store : SqliteStore) (follower : Actor) (following : Iri) :
    store.storeFollower follower following = { store with
      followers := store.followers.insert (follower.id.str, following.str)
        ⟨some follower.inbox.str, follower.sharedInbox.map Iri.str⟩ } := by
  unfold SqliteStore.storeFollower Table.upsert
  cases store.followers.lookup (follower.id.str, following.str) <;> rfl

theorem SqliteStore.accept_oneRow {store : SqliteStore} {f : Iri} {p : PendingFollow}
    (h : store.loadPendingFollow f = .ok (some p)) : store.OneRow (store.accept f) := by
  obtain ⟨row, hrow, hpending, _⟩ := SqliteStore.loadPendingFollow_some_iff.mp h
  have haccept : store.accept f = { store with
      outboundFollows := store.outboundFollows.insert f.str { row with state := .accepted } } := by
    unfold SqliteStore.accept Table.updateWhere
    rw [hrow]
    dsimp only
    rw [if_pos (decide_eq_true hpending)]
  rw [haccept]
  exact .accepted f.str row hrow hpending

/-- the Follow of a delivery has passed `receive_follow`, with the actor it was resolved to -/
def Delivery.PassesFollow (d : Delivery) (remoteActor : Actor) : Prop :=
  ∃ verifiedActor follow acceptId outcome, d.authenticate = .ok verifiedActor ∧
    activityType d.value = some "Follow" ∧ Follow.deserialize d.value = some follow ∧
    d.remoteActor verifiedActor follow.actor = .ok remoteActor ∧
    receiveFollow d.localActor remoteActor follow acceptId = .ok outcome

theorem passesFollow_of_decide {d : Delivery} {outcome : FollowOutcome}
    (h : d.decide = .ok (.follow outcome)) :
    d.PassesFollow outcome.follower ∧ outcome.following = d.localActor.id := by
  obtain ⟨verifiedActor, hauth, hdecided⟩ := decide_ok h
  cases hdecided with
  | follow type hfollow =>
    obtain ⟨follow, remoteActor, acceptId, hdeserialize, hremote, _, hreceive⟩ :=
      decideFollow_ok hfollow
    obtain ⟨_, _, houtcome⟩ := receiveFollow_ok_iff.mp hreceive
    have hfollower : outcome.follower = remoteActor := by rw [houtcome]
    rw [hfollower]
    exact ⟨⟨verifiedActor, follow, acceptId, outcome, hauth, type, hdeserialize, hremote, hreceive⟩,
      by rw [houtcome]⟩

/-- **What the status of the response says of the tables.**  With 400, 401, 404 and 415 nothing has
changed; with 500 and 502 nothing, or the row of a follower was written by a Follow that has passed
`receive_follow`; with 202 at most one row. -/
theorem response_of_processed {reply : Reply} (h : c.Processes store reply store') :
    (statusOf reply ∈ [.BAD_REQUEST, .UNAUTHORIZED, .NOT_FOUND, .UNSUPPORTED_MEDIA_TYPE] →
      store' = store) ∧
    (statusOf reply ∈ [.INTERNAL_SERVER_ERROR, .BAD_GATEWAY] → store' = store ∨
      ∃ d x, c.Delivers [] d ∧ d.PassesFollow x ∧ store' = { store with
        followers := store.followers.insert (x.id.str, d.localActor.id.str)
          ⟨some x.inbox.str, x.sharedInbox.map Iri.str⟩ }) ∧
    (statusOf reply = .ACCEPTED → store.OneRow store') ∧
    (statusOf reply = .ACCEPTED ∨ statusOf reply ∈ failures) := by
  refine ⟨?_, ?_, ?_, ?_⟩
  · intro hstatus
    cases effect_of_processed h with
    | unchanged => rfl
    | followed _ _ hreply =>
      simp only [List.mem_cons, List.not_mem_nil, or_false] at hreply
      rcases hreply with rfl | rfl | rfl <;> exact absurd hstatus (by decide)
    | unfollowed | confirmed => exact absurd hstatus (by decide)
  · intro hstatus
    cases effect_of_processed h with
    | unchanged => exact Or.inl rfl
    | @followed d outcome _ hc hd =>
      obtain ⟨hpasses, hfollowing⟩ := passesFollow_of_decide hd
      refine Or.inr ⟨d, outcome.follower, hc, hpasses, ?_⟩
      rw [SqliteStore.storeFollower_eq, hfollowing]
    | unfollowed | confirmed => exact absurd hstatus (by decide)
  · intro _
    cases effect_of_processed h with
    | unchanged => exact .same
    | followed =>
      rw [SqliteStore.storeFollower_eq]
      exact .set _ _
    | unfollowed => exact .deleted _
    | confirmed hload => exact SqliteStore.accept_oneRow hload
  · rcases h.regular with rfl | ⟨status, hstatus, rfl⟩
    · exact Or.inl rfl
    · exact Or.inr hstatus

end

end

end Feder
