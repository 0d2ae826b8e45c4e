import Feder.Lib.Machine
import Feder.Server.Requests

/-!
# Noninterference between remote actors

The rows that belong to a remote actor depend only on the requests that are verified as this
actor: the requests of all others can be left out of a run.

* `write_actsOn`       a request writes rows of the actor that it is verified as;
* `rowsOf_frame`       a write leaves the rows of all others alone;
* `write_of_rowsOf`    whether a request writes rows of an actor depends on these rows alone;
* `inbound_noninterference`   the result about runs.
-/

namespace Feder
open Serde

variable [Crates]

/-! ## the rows of an actor -/

/-- the row is about a given remote actor -/
def OutboundFollowRow.isAbout (x : Iri) (row : OutboundFollowRow) : Bool :=
  (ofText Actor.deserialize row.remoteActorJson).any fun actor => actor.id = x

/-- the rows of a remote actor: of `followers` by the local actor, and of `outbound_follows` by
the id of the Follow -/
@[ext] structure ActorRows where
  followers : String → Option FollowerRow
  outboundFollows : String → Option OutboundFollowRow

def SqliteStore.rowsOf (x : Iri) (store : SqliteStore) : ActorRows where
  followers localActor := store.followers.lookup (x.str, localActor)
  outboundFollows f := (store.outboundFollows.lookup f).filter (OutboundFollowRow.isAbout x)

theorem pending_row {store : SqliteStore} {f : Iri} {p : PendingFollow}
    (h : store.pending f = some p) : ∃ row, store.outboundFollows.lookup f.str = some row ∧
      row.state = .pending ∧ row.isAbout p.remoteActor.id = true := by
  obtain ⟨row, hrow, hstate, hread⟩ :=
    SqliteStore.loadPendingFollow_some_iff.mp (SqliteStore.pending_eq_some.mp h)
  refine ⟨row, hrow, hstate, ?_⟩
  unfold SqliteStore.readRow at hread
  unfold OutboundFollowRow.isAbout
  split at hread
  · cases hread
  · split at hread
    · cases hread
    · rename_i remoteActor hremote
      cases hread
      rw [hremote, Option.any_some, decide_eq_true_eq]

theorem isAbout_unique {x y : Iri} {row : OutboundFollowRow} (hx : row.isAbout x = true)
    (hy : row.isAbout y = true) : x = y := by
  unfold OutboundFollowRow.isAbout at hx hy
  cases hremote : ofText Actor.deserialize row.remoteActorJson with
  | none =>
    rw [hremote] at hx
    cases hx
  | some remoteActor =>
    rw [hremote, Option.any_some, decide_eq_true_eq] at hx hy
    rw [← hx, hy]

theorem pending_of_rowsOf {store store' : SqliteStore} {x f : Iri} {p : PendingFollow}
    (hrows : store.rowsOf x = store'.rowsOf x) (h : store.pending f = some p)
    (hp : p.remoteActor.id = x) : store'.pending f = some p := by
  obtain ⟨row, hrow, _, habout⟩ := pending_row h
  rw [hp] at habout
  have hfilter := congrFun (congrArg ActorRows.outboundFollows hrows) f.str
  change (store.outboundFollows.lookup f.str).filter (OutboundFollowRow.isAbout x) =
    (store'.outboundFollows.lookup f.str).filter (OutboundFollowRow.isAbout x) at hfilter
  rw [hrow, Option.filter_some, if_pos habout] at hfilter
  have hrow' := (Option.filter_eq_some_iff.mp hfilter.symm).1
  rw [SqliteStore.pending_eq_some, SqliteStore.loadPendingFollow_some_iff] at h ⊢
  rw [hrow] at h
  rw [hrow']
  exact h

/-! ## whose rows a write is about -/

/-- the write is about rows of the actor -/
def StoreCall.ActsOn (store : SqliteStore) (x : Iri) : StoreCall → Prop
  | .storeFollower follower _ => follower.id = x
  | .removeFollower follower _ => follower = x
  | .confirmPendingFollow p => p.remoteActor.id = x ∧ store.pending p.followActivity = some p
  | _ => False

theorem rowsOf_followers {store store' : SqliteStore} {x : Iri} {k : String × String}
    {entry : Option FollowerRow}
    (hlookup : ∀ k', store'.followers.lookup k' = if k' = k then entry else
      store.followers.lookup k')
    (hsame : store'.outboundFollows = store.outboundFollows) :
    store'.rowsOf x = ⟨fun l => if (x.str, l) = k then entry else (store.rowsOf x).followers l,
      (store.rowsOf x).outboundFollows⟩ := by
  apply ActorRows.ext
  · funext l
    exact hlookup (x.str, l)
  · funext f
    show (store'.outboundFollows.lookup f).filter _ = _
    rw [hsame]
    rfl

theorem call_confirm {store : SqliteStore} {p : PendingFollow}
    (h : store.pending p.followActivity = some p) :
    (store.call (.confirmPendingFollow p)).2 = store.accept p.followActivity := by
  show (store.confirmPendingFollow p).2 = _
  rw [SqliteStore.confirmPendingFollow_of_true]
  exact SqliteStore.confirmPendingFollow_true_iff.mpr (SqliteStore.pending_eq_some.mp h)

theorem rowsOf_accept (store : SqliteStore) (f x : Iri) :
    (store.accept f).rowsOf x = ⟨(store.rowsOf x).followers, fun k =>
      if k = f.str then ((store.rowsOf x).outboundFollows f.str).map
        (fun row => if row.state = .pending then { row with state := .accepted } else row)
      else (store.rowsOf x).outboundFollows k⟩ := by
  apply ActorRows.ext
  · rfl
  · funext k
    show ((store.accept f).outboundFollows.lookup k).filter _ = _
    rw [SqliteStore.lookup_accept]
    by_cases hk : k = f.str
    · rw [if_pos hk]
      dsimp only
      rw [if_pos hk]
      show _ = ((store.outboundFollows.lookup f.str).filter _).map _
      cases store.outboundFollows.lookup f.str with
      | none => rfl
      | some row =>
        -- the confirmed row is about the same actor
        have habout : OutboundFollowRow.isAbout x
            (if row.state = .pending then { row with state := .accepted } else row) =
              row.isAbout x := by
          by_cases hstate : row.state = .pending
          · rw [if_pos hstate]
            rfl
          · rw [if_neg hstate]
        rw [Option.map_some, Option.filter_some, Option.filter_some, habout]
        cases row.isAbout x <;> rfl
    · rw [if_neg hk]
      dsimp only
      rw [if_neg hk]
      rfl

/-- **A write leaves the rows of all others alone.** -/
theorem rowsOf_frame {store : SqliteStore} {x y : Iri} {call : StoreCall}
    (h : call.ActsOn store y) (hxy : y ≠ x) :
    (store.call call).2.rowsOf x = store.rowsOf x := by
  have hkey : ∀ l k : String, (x.str, l) ≠ (y.str, k) := by
    intro l k e
    exact hxy (Iri.str_inj.mp (Prod.mk.inj e).1.symm)
  cases call with
  | storeFollower follower following =>
    have hy : follower.id = y := h
    refine (rowsOf_followers (SqliteStore.lookup_storeFollower store follower following) rfl).trans
      (ActorRows.ext (funext fun l => ?_) rfl)
    rw [hy]
    exact if_neg (hkey l _)
  | removeFollower follower following =>
    have hy : follower = y := h
    refine (rowsOf_followers (SqliteStore.lookup_removeFollower store follower following) rfl).trans
      (ActorRows.ext (funext fun l => ?_) rfl)
    rw [hy]
    exact if_neg (hkey l _)
  | confirmPendingFollow p =>
    obtain ⟨hy, hpending⟩ := h
    obtain ⟨row, hrow, _, habout⟩ := pending_row hpending
    rw [call_confirm hpending, rowsOf_accept]
    refine ActorRows.ext rfl (funext fun k => ?_)
    by_cases hk : k = p.followActivity.str
    · -- the row of the follow is about `y`
      have hnone : (store.rowsOf x).outboundFollows p.followActivity.str = none := by
        show (store.outboundFollows.lookup _).filter _ = none
        rw [hrow, Option.filter_some, if_neg]
        intro hx
        exact hxy (hy ▸ isAbout_unique habout hx)
      dsimp only
      rw [if_pos hk, hnone, hk, hnone]
      rfl
    · exact if_neg hk
  | storePendingFollow | storeNote | listFollowers | listFollowerDeliveryTargets
  | loadActorKeyPair | loadPendingFollow | loadNote => exact h.elim

theorem rowsOf_call {store store' : SqliteStore} {x : Iri} {call : StoreCall}
    (h : call.ActsOn store x) (h' : call.ActsOn store' x)
    (hrows : store.rowsOf x = store'.rowsOf x) :
    (store.call call).2.rowsOf x = (store'.call call).2.rowsOf x := by
  cases call with
  | storeFollower follower following =>
    have hs := rowsOf_followers (x := x) (SqliteStore.lookup_storeFollower store follower following)
      rfl
    have ht := rowsOf_followers (x := x)
      (SqliteStore.lookup_storeFollower store' follower following) rfl
    exact hs.trans (hrows ▸ ht.symm)
  | removeFollower follower following =>
    have hs := rowsOf_followers (x := x)
      (SqliteStore.lookup_removeFollower store follower following) rfl
    have ht := rowsOf_followers (x := x)
      (SqliteStore.lookup_removeFollower store' follower following) rfl
    exact hs.trans (hrows ▸ ht.symm)
  | confirmPendingFollow p =>
    rw [call_confirm h.2, call_confirm h'.2, rowsOf_accept, rowsOf_accept, hrows]
  | storePendingFollow | storeNote | listFollowers | listFollowerDeliveryTargets
  | loadActorKeyPair | loadPendingFollow | loadNote => exact h.elim

theorem StoreCall.ActsOn.congr {store store' : SqliteStore} {x : Iri} {call : StoreCall}
    (hrows : store.rowsOf x = store'.rowsOf x) (h : call.ActsOn store x) :
    call.ActsOn store' x := by
  cases call with
  | confirmPendingFollow p => exact ⟨h.1, pending_of_rowsOf hrows h.2 h.1⟩
  | storeFollower | removeFollower => exact h
  | storePendingFollow | storeNote | listFollowers | listFollowerDeliveryTargets
  | loadActorKeyPair | loadPendingFollow | loadNote => exact h.elim

/-! ## what a request writes -/

/-- the actor that an activity is verified as -/
def Delivery.verified (d : Delivery) : Option Actor :=
  match d.authenticate with
  | .ok verifiedActor => verifiedActor
  | .error _ => none

/-- the actor that `verify_signed_request` returns for a request -/
def Call.verified (store : SqliteStore) (c : Call) : Option Actor :=
  (c.delivery store).bind Delivery.verified

theorem verified_of_verifiedAs {d : Delivery} {actor : Actor} (h : d.VerifiedAs actor) :
    d.verified = some actor := by
  unfold Delivery.VerifiedAs at h
  unfold Delivery.verified
  rw [h]

theorem delivery_server {c : Call} {store : SqliteStore} {d : Delivery}
    (h : c.delivery store = some d) : d.server = c.server := by
  cases c with
  | followActor => cases h
  | inbox server identifier request =>
    unfold Call.delivery at h
    dsimp only at h
    split at h
    · cases h
      rfl
    · cases h
  | sharedInbox server request =>
    unfold Call.delivery at h
    dsimp only at h
    split at h
    · obtain ⟨target, _, hd⟩ := Option.bind_eq_some_iff.mp h
      unfold sharedDelivery at hd
      split at hd
      · obtain ⟨_, _, rfl⟩ := Option.map_eq_some_iff.mp hd
        rfl
      · cases hd
    · cases h

theorem delivery_pending {c : Call} {store : SqliteStore} {d : Delivery} {p : PendingFollow}
    (h : c.delivery store = some d) (hp : d.pendingFollow = some p) :
    activityType d.value = some "Accept" ∧ store.pending p.followActivity = some p := by
  cases c with
  | followActor => cases h
  | inbox server identifier request =>
    unfold Call.delivery at h
    dsimp only at h
    split at h
    · cases h
      cases hp
    · cases h
  | sharedInbox server request =>
    unfold Call.delivery at h
    dsimp only at h
    split at h
    · rename_i value hparse
      obtain ⟨target, htarget, hd⟩ := Option.bind_eq_some_iff.mp h
      unfold sharedDelivery at hd
      split at hd
      · obtain ⟨_, _, rfl⟩ := Option.map_eq_some_iff.mp hd
        unfold SqliteStore.sharedTarget at htarget
        split at htarget
        · rename_i htype
          obtain ⟨f, _, hf⟩ := Option.bind_eq_some_iff.mp htarget
          obtain ⟨p', hp', rfl⟩ := Option.map_eq_some_iff.mp hf
          cases hp
          refine ⟨htype, ?_⟩
          have hload := SqliteStore.pending_eq_some.mp hp'
          rw [SqliteStore.followActivity_of_load hload]
          exact hp'
        · obtain ⟨_, _, rfl⟩ := Option.map_eq_some_iff.mp htarget
          cases hp
      · cases hd
    · cases h

/-- the activity of a request depends on the store only in the pending relationship -/
theorem delivery_congr {c : Call} {store store' : SqliteStore} {d : Delivery}
    (h : c.delivery store = some d)
    (hp : ∀ p, d.pendingFollow = some p → store'.pending p.followActivity = some p) :
    c.delivery store' = some d := by
  cases c with
  | followActor => cases h
  | inbox server identifier request => exact h
  | sharedInbox server request =>
    unfold Call.delivery at h ⊢
    dsimp only at h ⊢
    split at h
    · rename_i value hparse
      obtain ⟨target, htarget, hd⟩ := Option.bind_eq_some_iff.mp h
      have htarget' : store'.sharedTarget value = some target := by
        unfold SqliteStore.sharedTarget at htarget ⊢
        split at htarget
        · rename_i htype
          rw [if_pos htype]
          obtain ⟨f, hfollow, hf⟩ := Option.bind_eq_some_iff.mp htarget
          obtain ⟨p, hload, rfl⟩ := Option.map_eq_some_iff.mp hf
          have hpending : d.pendingFollow = some p := by
            unfold sharedDelivery at hd
            split at hd
            · obtain ⟨_, _, rfl⟩ := Option.map_eq_some_iff.mp hd
              rfl
            · cases hd
          have hf' := hp p hpending
          rw [SqliteStore.followActivity_of_load (SqliteStore.pending_eq_some.mp hload)] at hf'
          rw [hfollow, Option.bind_some, hf']
          rfl
        · rename_i htype
          rw [if_neg htype]
          exact htarget
      rw [htarget', Option.bind_some]
      exact hd
    · cases h

/-- the pending relationship that is held against an Accept is pending in the store -/
theorem considered_pending {c : Call} {store : SqliteStore} {d : Delivery} {accept : Accept}
    {p : PendingFollow} (hd : c.delivery store = some d)
    (h : d.considered store accept = some p) : store.pending p.followActivity = some p := by
  unfold Delivery.considered at h
  split at h
  · rename_i p' hp'
    split at h
    · cases h
      exact (delivery_pending hd hp').2
    · cases h
  · rw [SqliteStore.followActivity_of_load (SqliteStore.pending_eq_some.mp h)]
    exact h

/-- what the write of an activity rests on -/
inductive WriteOf (d : Delivery) (store : SqliteStore) : StoreCall → Prop where
  | follow {outcome : FollowOutcome} (hd : d.decide = .ok (.follow outcome)) :
      WriteOf d store (.storeFollower outcome.follower outcome.following)
  | undo {outcome : UndoFollowOutcome} (hd : d.decide = .ok (.undo outcome)) :
      WriteOf d store (.removeFollower outcome.follower outcome.following)
  | accept {remoteActor : Actor} {accept : Accept} {p : PendingFollow}
      (hd : d.decide = .ok (.accept remoteActor accept))
      (hp : d.considered store accept = some p)
      (hok : receiveAcceptFollow d.localActor remoteActor p accept = .ok ()) :
      WriteOf d store (.confirmPendingFollow p)

theorem write_iff {d : Delivery} {store : SqliteStore} {w : StoreCall} :
    d.write store = some w ↔ WriteOf d store w := by
  unfold Delivery.write
  constructor
  · intro h
    split at h
    · cases h
    · rename_i hd
      cases h
      exact .follow hd
    · rename_i hd
      cases h
      exact .undo hd
    · rename_i hd
      obtain ⟨p, hp, h⟩ := Option.bind_eq_some_iff.mp h
      split at h
      · rename_i hok
        cases h
        exact .accept hd hp hok
      · cases h
  · intro h
    cases h with
    | follow hd => rw [hd]
    | undo hd => rw [hd]
    | accept hd hp hok =>
      rw [hd]
      dsimp only
      rw [hp, Option.bind_some, hok]

/-- **A request writes rows of the actor that it is verified as.** -/
theorem write_actsOn {c : Call} {store : SqliteStore} {w : StoreCall}
    (hpolicy : c.server.inboxAuthPolicy = .RequireSigned) (h : c.write store = some w) :
    ∃ actor, c.verified store = some actor ∧ w.ActsOn store actor.id := by
  obtain ⟨d, hd, hw⟩ := Option.bind_eq_some_iff.mp h
  rw [← delivery_server hd] at hpolicy
  have hverified : ∀ actor, d.VerifiedAs actor → c.verified store = some actor := by
    intro actor hactor
    unfold Call.verified
    rw [hd, Option.bind_some, verified_of_verifiedAs hactor]
  cases write_iff.mp hw with
  | follow hdecide =>
    obtain ⟨actor, follow, acceptId, hactor, _, _, hreceive⟩ := decide_follow hpolicy hdecide
    obtain ⟨_, _, rfl⟩ := receiveFollow_ok_iff.mp hreceive
    exact ⟨actor, hverified actor hactor, rfl⟩
  | undo hdecide =>
    obtain ⟨actor, undo, hactor, _, hreceive⟩ := decide_undo hpolicy hdecide
    obtain ⟨_, _, rfl⟩ := receiveUndoFollow_ok_iff.mp hreceive
    exact ⟨actor, hverified actor hactor, rfl⟩
  | accept hdecide hp hok =>
    obtain ⟨hactor, _⟩ := decide_accept hpolicy hdecide
    exact ⟨_, hverified _ hactor, (receiveAcceptFollow_ok_iff.mp hok).pendingRemote,
      considered_pending hd hp⟩

/-- **Whether a request writes rows of an actor depends on these rows alone.** -/
theorem write_of_rowsOf {c : Call} {store store' : SqliteStore} {x : Iri} {w : StoreCall}
    (hrows : store.rowsOf x = store'.rowsOf x) (h : c.write store = some w)
    (hx : w.ActsOn store x) : c.write store' = some w := by
  obtain ⟨d, hd, hw⟩ := Option.bind_eq_some_iff.mp h
  have hgoal : ∀ (hp : ∀ p, d.pendingFollow = some p → store'.pending p.followActivity = some p)
      (_ : WriteOf d store' w), c.write store' = some w := by
    intro hp hw'
    unfold Call.write
    rw [delivery_congr hd hp, Option.bind_some, write_iff.mpr hw']
  cases write_iff.mp hw with
  | follow hdecide =>
    refine hgoal (fun p hp => ?_) (.follow hdecide)
    have htype := (delivery_pending hd hp).1
    obtain ⟨_, _, hdecided⟩ := decide_ok hdecide
    cases hdecided with
    | follow htype' =>
      rw [htype] at htype'
      exact absurd htype' (by decide)
  | undo hdecide =>
    refine hgoal (fun p hp => ?_) (.undo hdecide)
    have htype := (delivery_pending hd hp).1
    obtain ⟨_, _, hdecided⟩ := decide_ok hdecide
    cases hdecided with
    | undo htype' =>
      rw [htype] at htype'
      exact absurd htype' (by decide)
  | @accept remoteActor accept p hdecide hp hok =>
    obtain ⟨hremote, hpending⟩ := hx
    have hpending' : store'.pending p.followActivity = some p :=
      pending_of_rowsOf hrows hpending hremote
    have hconsidered : d.considered store' accept = some p ∧
        ∀ q, d.pendingFollow = some q → q = p := by
      unfold Delivery.considered at hp ⊢
      cases hq : d.pendingFollow with
      | some q =>
        rw [hq] at hp
        dsimp only at hp ⊢
        refine ⟨hp, fun q' hq' => ?_⟩
        split at hp
        · rw [← Option.some.inj hq', Option.some.inj hp]
        · cases hp
      | none =>
        rw [hq] at hp
        dsimp only at hp ⊢
        refine ⟨?_, fun q hq => by cases hq⟩
        rw [SqliteStore.followActivity_of_load (SqliteStore.pending_eq_some.mp hp)] at hpending'
        exact hpending'
    refine hgoal (fun q hq => ?_) (.accept hdecide hconsidered.1 hok)
    rw [hconsidered.2 q hq]
    exact hpending'

/-! ## runs of requests -/

/-- a request from outside to a server that requires signatures, with the outcomes of what it may
deliver -/
structure SignedRequest where
  call : Call
  deliver : Attempt → Except SendError Unit
  inbound : call.Inbound
  signed : call.server.inboxAuthPolicy = .RequireSigned

namespace SignedRequest

def step (site : Site) (request : SignedRequest) : Outcome × Site :=
  Prog.run (handle request.deliver) site request.call.program

/-- `verify_signed_request` returns the actor with the id -/
def isVerifiedAs (x : Iri) (site : Site) (request : SignedRequest) : Bool :=
  (request.call.verified site.store).any fun actor => actor.id = x

theorem step_store (site : Site) (request : SignedRequest) :
    (step site request).2.store = site.store.after (request.call.write site.store) :=
  run_store request.deliver site request.inbound

theorem rowsOf_step_of_not_actsOn {x : Iri} {site : Site} {request : SignedRequest}
    (h : ∀ w, request.call.write site.store = some w → ¬ w.ActsOn site.store x) :
    (step site request).2.store.rowsOf x = site.store.rowsOf x := by
  rw [step_store]
  cases hw : request.call.write site.store with
  | none => rfl
  | some w =>
    obtain ⟨actor, _, hacts⟩ := write_actsOn request.signed hw
    exact rowsOf_frame hacts fun hx => h w hw (hx ▸ hacts)

/-- **A request that is not verified as an actor leaves its rows alone.** -/
theorem rowsOf_step {x : Iri} {site : Site} {request : SignedRequest}
    (h : request.isVerifiedAs x site = false) :
    (step site request).2.store.rowsOf x = site.store.rowsOf x := by
  rw [step_store]
  cases hw : request.call.write site.store with
  | none => rfl
  | some w =>
    obtain ⟨actor, hactor, hacts⟩ := write_actsOn request.signed hw
    refine rowsOf_frame hacts fun hx => ?_
    unfold isVerifiedAs at h
    rw [hactor, Option.any_some, decide_eq_false_iff_not] at h
    exact h hx

theorem rowsOf_step_congr {x : Iri} {site site' : Site} (request : SignedRequest)
    (hrows : site.store.rowsOf x = site'.store.rowsOf x) :
    (step site request).2.store.rowsOf x = (step site' request).2.store.rowsOf x := by
  by_cases hs : ∃ w, request.call.write site.store = some w ∧ w.ActsOn site.store x
  · obtain ⟨w, hw, hacts⟩ := hs
    have hw' := write_of_rowsOf hrows hw hacts
    rw [step_store, step_store, hw, hw']
    exact rowsOf_call hacts (hacts.congr hrows) hrows
  · -- a write about another actor shows on neither side
    have hs' : ∀ w, request.call.write site'.store = some w → ¬ w.ActsOn site'.store x := by
      intro w hw hacts
      exact hs ⟨w, write_of_rowsOf hrows.symm hw hacts, hacts.congr hrows.symm⟩
    rw [rowsOf_step_of_not_actsOn fun w hw hacts => hs ⟨w, hw, hacts⟩,
      rowsOf_step_of_not_actsOn hs', hrows]

theorem unwinds (x : Iri) :
    Machine.Unwinds step (fun site => site.store.rowsOf x) (fun site r => r.isVerifiedAs x site) :=
  ⟨fun _ _ h => rowsOf_step h, fun _ _ request hrows => rowsOf_step_congr request hrows⟩

/-- the requests of a run for which `verify_signed_request` returns the actor with the id -/
def verifiedAs (x : Iri) (site : Site) (requests : List SignedRequest) : List SignedRequest :=
  Machine.seen step (fun site request => request.isVerifiedAs x site) site requests

end SignedRequest

/-- **Noninterference between remote actors.**  Any run of requests leaves the rows of a remote
actor as does the run of only those requests that are verified as this actor; a request that is
not verified as the actor leaves its rows as they are. -/
theorem inbound_noninterference (x : Iri) (site : Site) (requests : List SignedRequest) :
    (Machine.run SignedRequest.step site requests).2.store.rowsOf x =
      (Machine.run SignedRequest.step site
        (SignedRequest.verifiedAs x site requests)).2.store.rowsOf x ∧
    ∀ (site : Site) (request : SignedRequest), request.isVerifiedAs x site = false →
      (request.step site).2.store.rowsOf x = site.store.rowsOf x :=
  ⟨Machine.view_run_seen (SignedRequest.unwinds x) rfl requests,
    fun _ _ h => SignedRequest.rowsOf_step h⟩

end Feder
