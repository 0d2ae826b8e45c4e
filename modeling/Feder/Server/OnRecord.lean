import Feder.Lib.History
import Feder.Server.AcceptRace
import Feder.Server.OutboundFollows

/-!
# A Follow and its pending relationship

`follow_actor` stores a pending relationship and then sends the Follow, but the store keeps the row
of a follow id that has been accepted, and the call does not look at what was stored.

* `tracks_of_reachable`    the table of pending follows tracks the stores and confirmations of every
                           interleaving;
* `onRecord_iff`           what is left of a relationship that was stored;
* `follow_on_record_iff`   when a Follow that is sent is on record.
-/

namespace Feder
open Serde OneWay

section
variable [Crates]

/-! ## the history of an interleaving -/

/-- a step on the pending follows, with its answer -/
def followStep : OpEvent → Option (FollowCall × Answer PendingFollow)
  | ⟨.store (.storePendingFollow p), .ok _⟩ => some (.store p, .stored)
  | ⟨.store (.confirmPendingFollow p), .ok changed⟩ => some (.confirm p, .confirmed changed)
  | _ => none

def followHistory (trace : List (Nat × OpEvent)) : List (FollowCall × Answer PendingFollow) :=
  trace.filterMap fun e => followStep e.2

theorem followHistory_append (trace trace' : List (Nat × OpEvent)) :
    followHistory (trace ++ trace') = followHistory trace ++ followHistory trace' :=
  List.filterMap_append

theorem followHistory_concat (trace : List (Nat × OpEvent)) (e : Nat × OpEvent) :
    followHistory (trace ++ [e]) = followHistory trace ++ (followStep e.2).toList := by
  rw [followHistory_append]
  unfold followHistory
  cases h : followStep e.2 <;> simp [h]

/-- the cells of a table are those of a history -/
structure Follows (store : SqliteStore) (trace : List (Nat × OpEvent))
    (cells : Iri → Cell PendingFollow) : Prop where
  represents : SqliteStore.Represents store cells
  tracks : Tracks PendingFollow.followActivity (followHistory trace) cells

theorem SqliteStore.Represents.congr {store store' : SqliteStore}
    {cells : Iri → Cell PendingFollow} (h : SqliteStore.Represents store cells)
    (hsame : store'.outboundFollows = store.outboundFollows) :
    SqliteStore.Represents store' cells :=
  ⟨fun f => by rw [hsame]; exact h.row f, h.pending, h.accepted⟩

theorem Follows.skip {store store' : SqliteStore} {trace : List (Nat × OpEvent)}
    {cells : Iri → Cell PendingFollow} (h : Follows store trace cells)
    (hsame : store'.outboundFollows = store.outboundFollows) {e : Nat × OpEvent}
    (he : followStep e.2 = none) : Follows store' (trace ++ [e]) cells := by
  refine ⟨h.represents.congr hsame, ?_⟩
  rw [followHistory_concat, he]
  simpa using h.tracks

theorem Follows.step {store store' : SqliteStore} {trace : List (Nat × OpEvent)}
    {cells : Iri → Cell PendingFollow} (h : Follows store trace cells) {call : FollowCall}
    {answer : Answer PendingFollow} (hcall : store.followCall call = (.ok answer, store'))
    {e : Nat × OpEvent} (he : followStep e.2 = some (call, answer)) :
    ∃ cells', Follows store' (trace ++ [e]) cells' := by
  obtain ⟨hanswer, hrepresents⟩ := SqliteStore.call_represents store cells call h.represents
  rw [hcall] at hanswer hrepresents
  have htracks := tracks_step h.tracks call
  rw [← Except.ok.inj hanswer] at htracks
  refine ⟨_, hrepresents, ?_⟩
  rw [followHistory_concat, he]
  exact htracks

/-- **One storage call.** -/
theorem Follows.executes {store store' : SqliteStore} {trace : List (Nat × OpEvent)}
    {cells : Iri → Cell PendingFollow} (h : Follows store trace cells) {call : StoreCall}
    {answer : Except StoreError call.Value} (hx : Executes store call answer store') (i : Nat) :
    ∃ cells', Follows store' (trace ++ [(i, stored call answer)]) cells' := by
  rcases hx with hx | ⟨⟨e, rfl⟩, rfl⟩
  · cases call with
    | storePendingFollow p =>
      obtain ⟨rfl, rfl⟩ := Prod.mk.inj hx
      have hcall : store.followCall (.store p) = (.ok .stored, store.storePendingFollow p) := rfl
      exact h.step hcall rfl
    | confirmPendingFollow p =>
      change store.confirmPendingFollow p = (answer, store') at hx
      have hcall : store.followCall (.confirm p) = (answer.map .confirmed, store') := by
        show ((store.confirmPendingFollow p).1.map _, (store.confirmPendingFollow p).2) = _
        rw [hx]
      cases answer with
      | error e =>
        -- the cells answer every confirmation
        have hanswer := (SqliteStore.call_represents store cells (.confirm p) h.represents).1
        rw [hcall] at hanswer
        cases hanswer
      | ok changed => exact h.step hcall rfl
    | storeFollower | removeFollower | listFollowers | listFollowerDeliveryTargets
    | loadActorKeyPair | loadPendingFollow | storeNote | loadNote =>
      obtain ⟨-, rfl⟩ := Prod.mk.inj hx
      refine ⟨cells, h.skip ?_ ?_⟩ <;> rfl
  · refine ⟨cells, h.skip rfl ?_⟩
    cases call <;> rfl

/-- **The table of pending follows tracks the stores and confirmations of every interleaving.** -/
theorem tracks_of_reachable {admits : SqliteStore → Call → Prop} {store : SqliteStore}
    (hempty : store.outboundFollows = ∅) {s : Config SqliteStore Call Op Op.Answer Outcome}
    (hreach : (handlers admits).Reachable store s) : ∃ cells, Follows s.state s.trace cells := by
  refine System.reachable_induction (I := fun s => ∃ cells, Follows s.state s.trace cells)
    ?_ ?_ hreach
  · have hnone : Tracks PendingFollow.followActivity [] fun _ => .empty := tracks_run _ []
    exact ⟨fun _ => .empty, SqliteStore.represents_empty.congr hempty, hnone⟩
  · intro s s' _ hI hstep
    obtain ⟨cells, hcells⟩ := hI
    cases hstep with
    | start c _ => exact ⟨cells, hcells⟩
    | exec i t o k answer state' _ _ hx =>
      cases o with
      | store call => exact hcells.executes hx i
      | sendActivity localActor keyPair activity inbox =>
        have hsame : state' = s.state := hx
        subst hsame
        refine ⟨cells, hcells.skip rfl ?_⟩
        rfl

/-! ## the Follow that is sent -/

/-- a thread of a call hands an activity to `send_activity` next -/
def Call.AboutToSend (c : Call) (s : Config SqliteStore Call Op Op.Answer Outcome) (i : Nat)
    (attempt : Attempt) : Prop :=
  ∃ (t : Thread Call Op Op.Answer Outcome) (next : Except SendError Unit → Program Outcome),
    s.threads[i]? = some t ∧ t.call = c ∧
    t.rest = .op (.sendActivity attempt.localActor attempt.keyPair attempt.activity attempt.inbox)
      next

/-- the pending row of a Follow, with the two actors of the Follow -/
def SqliteStore.OnRecord (store : SqliteStore) (follow : Follow) : Prop :=
  ∃ p, store.pending follow.id = some p ∧ p.localActor = referenceId follow.actor ∧
    p.remoteActor.id = referenceId follow.object

/-- a thread has stored a relationship in the state `before` and has then loaded the key pair of its
local actor; `since` are the steps of all threads after that of the store -/
structure HasStored (s before : Config SqliteStore Call Op Op.Answer Outcome) (i : Nat)
    (p : PendingFollow) (keyPair : ActorKeyPair) (since : List (Nat × OpEvent)) : Prop where
  trace : s.trace = before.trace ++ (i, stored (.storePendingFollow p) (.ok ())) :: since
  own : System.eventsOf i since = [stored (.loadActorKeyPair p.localActor) (.ok (some keyPair))]

/-- the row of a Follow is not accepted when its relationship is stored, no Accept is confirmed
under its id after that, and no other call leaves a relationship of other actors under it -/
structure Undisturbed (follow : Follow) (before : SqliteStore) (since : List (Nat × OpEvent)) :
    Prop where
  unaccepted : ¬ before.Accepted follow.id
  unconfirmed : ¬ Confirmed PendingFollow.followActivity (.confirmed true) follow.id
    (followHistory since)
  same : ∀ p, lastStored PendingFollow.followActivity follow.id (followHistory since) = some p →
    p.localActor = referenceId follow.actor ∧ p.remoteActor.id = referenceId follow.object

theorem Follows.isAccepted_iff {store : SqliteStore} {trace : List (Nat × OpEvent)}
    {cells : Iri → Cell PendingFollow} (h : Follows store trace cells) (f : Iri) :
    (cells f).isAccepted = true ↔ store.Accepted f := by
  unfold SqliteStore.Accepted
  rw [h.represents.row f]
  cases cells f <;> simp [Cell.isAccepted, SqliteStore.cellRow, SqliteStore.followRow]

/-- **What is left of a relationship that was stored.** -/
theorem onRecord_iff {before store : SqliteStore} {trace since : List (Nat × OpEvent)}
    {cells₀ cells : Iri → Cell PendingFollow} {i : Nat} {localActor remoteActor : Actor} {f : Iri}
    (h₀ : Follows before trace cells₀)
    (h : Follows store (trace ++ (i, stored (.storePendingFollow ⟨localActor.id, remoteActor, f⟩)
      (.ok ())) :: since) cells) :
    store.OnRecord (createFollow localActor remoteActor f).activity ↔
      Undisturbed (createFollow localActor remoteActor f).activity before since := by
  let p₀ : PendingFollow := ⟨localActor.id, remoteActor, f⟩
  have htracks := h.tracks
  rw [List.append_cons, followHistory_append, followHistory_concat, List.append_assoc] at htracks
  have hpending : ∀ p, store.pending f = some p ↔ (¬ before.Accepted f ∧
      ¬ Confirmed PendingFollow.followActivity (.confirmed true) f (followHistory since)) ∧
      (lastStored PendingFollow.followActivity f (followHistory since)).getD p₀ = p := by
    intro p
    rw [SqliteStore.pending_eq_some, SqliteStore.load_of_represents h.represents, Except.ok.injEq,
      ← h₀.isAccepted_iff f, Bool.not_eq_true]
    exact visible_of_stored h₀.tracks htracks
  constructor
  · rintro ⟨p, hp, hlocal, hremote⟩
    obtain ⟨⟨hbefore, hsince⟩, hlast⟩ := (hpending p).mp hp
    refine ⟨hbefore, hsince, fun q hq => ?_⟩
    change lastStored PendingFollow.followActivity f _ = some q at hq
    rw [hq] at hlast
    cases hlast
    exact ⟨hlocal, hremote⟩
  · rintro ⟨hbefore, hsince, hsame⟩
    refine ⟨_, (hpending _).mpr ⟨⟨hbefore, hsince⟩, rfl⟩, ?_⟩
    change ∀ p, lastStored PendingFollow.followActivity f _ = some p → _ at hsame
    cases hlast : lastStored PendingFollow.followActivity f (followHistory since) with
    | none => exact ⟨rfl, rfl⟩
    | some q => exact hsame q hlast

/-- an Accept of a Follow on record by its remote actor is valid, and can be confirmed -/
theorem SqliteStore.OnRecord.confirmable {store : SqliteStore} {localActor remoteActor : Actor}
    {f : Iri} (h : store.OnRecord (createFollow localActor remoteActor f).activity)
    {accept : Accept} (hactor : referenceId accept.actor = remoteActor.id)
    (hobject : accept.object = .object (createFollow localActor remoteActor f).activity) :
    ∃ p, store.pending f = some p ∧ receiveAcceptFollow localActor remoteActor p accept = .ok () ∧
      store.confirmPendingFollow p = (.ok true, store.accept f) := by
  obtain ⟨p, hpending, hlocal, hremote⟩ := h
  have hid : p.followActivity = f := pending_followActivity hpending
  refine ⟨p, hpending, receiveAcceptFollow_ok_iff.mpr ?_, ?_⟩
  · refine ⟨hlocal, hremote, hactor, ?_, ?_, ?_⟩
    · rw [hobject, hid]
      rfl
    · intro follow hfollow
      rw [hobject] at hfollow
      cases hfollow
      rfl
    · intro follow hfollow
      rw [hobject] at hfollow
      cases hfollow
      rfl
  · have hload := SqliteStore.pending_eq_some.mp hpending
    change store.loadPendingFollow f = _ at hload
    subst hid
    rw [SqliteStore.confirmPendingFollow_of_load hload, if_pos rfl]

/-- `follow_actor` fails with an error of the delivery, or has sent nothing -/
def SendsLast (past : List OpEvent) (outcome : Outcome) : Prop :=
  ∀ e, outcome = .follow (.error e) → (∀ e', e ≠ .ActivitySender e') →
    ∀ event ∈ past, ∃ call, event.op = .store call

theorem sendFollow_fails (localActor remoteActor : Actor) (followId : Iri) :
    Prog.Sat (fun _ _ => True) (fun past result => SendsLast past (.follow result)) []
      (sendFollow localActor remoteActor followId) := by
  have hstored : ∀ (calls : List OpEvent), (∀ event ∈ calls, ∃ call, event.op = .store call) →
      ∀ outcome, SendsLast calls outcome := fun calls h _ _ _ _ => h
  refine ⟨trivial, fun answer => ?_⟩
  cases answer with
  | error e => exact hstored _ (by simp) _
  | ok u =>
    refine ⟨trivial, fun answer => ?_⟩
    cases answer with
    | error e => exact hstored _ (by simp) _
    | ok keyPair =>
      cases keyPair with
      | none => exact hstored _ (by simp) _
      | some keyPair =>
        refine ⟨trivial, fun answer => ?_⟩
        cases answer with
        | error e =>
          intro e' he hsender
          cases he
          exact absurd rfl (hsender e)
        | ok u =>
          intro e he
          cases he

theorem followActor_fails (server : FederServer) (localActorId remoteActorId followId : Iri) :
    Prog.Sat (fun _ _ => True) (fun past result => SendsLast past (.follow result)) []
      (followActor server localActorId remoteActorId followId) := by
  have hnone : ∀ outcome, SendsLast [] outcome := by
    intro outcome e _ _ event hevent
    cases hevent
  unfold followActor
  cases server.getActorById localActorId with
  | error e => exact hnone _
  | ok actor =>
    cases actor with
    | none => exact hnone _
    | some localActor =>
      cases server.resolver.resolve remoteActorId with
      | error e => exact hnone _
      | ok remoteActor => exact sendFollow_fails localActor remoteActor followId

theorem program_fails (c : Call) :
    Prog.Sat (fun _ _ => True) SendsLast [] c.program := by
  cases c with
  | followActor server localActorId remoteActorId followId =>
    exact Prog.sat_map (followActor_fails server localActorId remoteActorId followId)
  | inbox server identifier request =>
    refine Prog.sat_map ((inbox_sat server identifier request).mono (fun _ _ _ => trivial) ?_)
    intro past reply _ e he
    cases he
  | sharedInbox server request =>
    refine Prog.sat_map ((sharedInbox_sat server request).mono (fun _ _ _ => trivial) ?_)
    intro past reply _ e he
    cases he

/-- **When a Follow that is sent is on record.**  A call of `follow_actor` that is about to send its
Follow has stored the relationship of the Follow at a step of its own.  The pending row of the
Follow is there exactly if this step did not meet an accepted row, and the steps since neither
confirm an Accept of the id nor leave a relationship of other actors under it; an Accept of the
Follow can then be confirmed.  A call that fails before has sent nothing. -/
theorem follow_on_record_iff {admits : SqliteStore → Call → Prop} {store : SqliteStore}
    (hempty : store.outboundFollows = ∅) {s : Config SqliteStore Call Op Op.Answer Outcome}
    (hreach : (handlers admits).Reachable store s) (server : FederServer)
    (localActorId remoteActorId f : Iri) :
    (∀ i attempt,
      (Call.followActor server localActorId remoteActorId f).AboutToSend s i attempt →
      ∃ localActor remoteActor before since,
        server.getActorById localActorId = .ok (some localActor) ∧
        server.resolver.resolve remoteActorId = .ok remoteActor ∧
        attempt.activity = (createFollow localActor remoteActor f).activity.serialize ∧
        attempt.inbox = remoteActor.inbox ∧
        (handlers admits).Reachable store before ∧
        Relation.ReflTransGen (handlers admits).Step before s ∧
        HasStored s before i ⟨localActor.id, remoteActor, f⟩ attempt.keyPair since ∧
        (s.state.OnRecord (createFollow localActor remoteActor f).activity ↔
          Undisturbed (createFollow localActor remoteActor f).activity before.state since) ∧
        (s.state.OnRecord (createFollow localActor remoteActor f).activity →
          ∀ accept : Accept, referenceId accept.actor = remoteActor.id →
            accept.object = .object (createFollow localActor remoteActor f).activity →
            ∃ p, s.state.pending f = some p ∧
              receiveAcceptFollow localActor remoteActor p accept = .ok () ∧
              s.state.confirmPendingFollow p = (.ok true, s.state.accept f))) ∧
    (∀ t ∈ s.threads, t.call = .followActor server localActorId remoteActorId f →
      ∀ e, t.rest = .ret (.follow (.error e)) → (∀ e', e ≠ .ActivitySender e') →
        ∀ event ∈ t.past, ∃ call, event.op = .store call) := by
  refine ⟨?_, ?_⟩
  · rintro i ⟨localActor, keyPair, activity, inbox⟩ ⟨t, next, ht, hcall, hrest⟩
    dsimp only at hrest
    have hop := System.exec_sat program_sat hreach ht hrest
    rw [hcall] at hop
    generalize hpast : t.past = past at hop
    cases hop with
    | activity hc _ => cases hc
    | @sendFollow _ _ _ _ _ remoteActor _ hlocal hremote =>
      -- the step at which the relationship was stored
      obtain ⟨before, since, hbefore, hrun, htrace, hown⟩ :=
        System.executed_since hreach ht (hpast.trans (List.nil_append _).symm)
      obtain ⟨cells₀, hcells₀⟩ := tracks_of_reachable hempty hbefore
      obtain ⟨cells, hcells⟩ := tracks_of_reachable hempty hreach
      rw [htrace] at hcells
      exact ⟨localActor, remoteActor, before, since, hlocal, hremote, rfl, rfl, hbefore, hrun,
        ⟨htrace, hown⟩, onRecord_iff hcells₀ hcells,
        fun hrecord accept hactor hobject => hrecord.confirmable hactor hobject⟩
  · intro t ht _ e hrest
    have hfails := System.sat_of_reachable program_fails hreach t ht
    rw [hrest] at hfails
    exact hfails e rfl

theorem Call.AboutToSend.sent {c : Call} {s : Config SqliteStore Call Op Op.Answer Outcome}
    {i : Nat} {attempt : Attempt} (h : c.AboutToSend s i attempt) :
    ∃ s', (handlers fun _ _ => True).Step s s' ∧ s'.state = s.state := by
  obtain ⟨t, next, ht, _, hrest⟩ := h
  let sending : Op :=
    .sendActivity attempt.localActor attempt.keyPair attempt.activity attempt.inbox
  let answer : sending.Answer := .ok ()
  have hexec : (handlers fun _ _ => True).exec t.call s.state sending answer s.state := rfl
  exact ⟨_, System.Step.exec i t sending next answer s.state ht hrest hexec, rfl⟩

theorem reachable_sendFollow {store : SqliteStore}
    {s : Config SqliteStore Call Op Op.Answer Outcome}
    (h : (handlers fun _ _ => True).Reachable store s) {c : Call} {localActor remoteActor : Actor}
    {f : Iri} (hc : c.program = (sendFollow localActor remoteActor f).map .follow)
    {keyPair : ActorKeyPair}
    (hkey : (s.state.storePendingFollow ⟨localActor.id, remoteActor, f⟩).call
      (.loadActorKeyPair localActor.id) =
        (.ok (some keyPair), s.state.storePendingFollow ⟨localActor.id, remoteActor, f⟩)) :
    ∃ s', (handlers fun _ _ => True).Reachable store s' ∧
      s'.state = s.state.storePendingFollow ⟨localActor.id, remoteActor, f⟩ ∧
      c.AboutToSend s' s.threads.length ⟨localActor, keyPair,
        (createFollow localActor remoteActor f).activity.serialize, remoteActor.inbox⟩ := by
  have hstart := reachable_call h hc trivial
  have hstoreCall : s.state.call (.storePendingFollow ⟨localActor.id, remoteActor, f⟩) =
      (.ok (), s.state.storePendingFollow ⟨localActor.id, remoteActor, f⟩) := rfl
  have hstored := hstart.tail (step_store List.getElem?_concat_length (Or.inl hstoreCall))
  let thread : Thread Call Op Op.Answer Outcome :=
    ⟨c, [], (sendFollow localActor remoteActor f).map .follow⟩
  have hlength : s.threads.length < (s.threads ++ [thread]).length := by
    rw [List.length_append]
    exact Nat.lt_succ_self _
  have hloaded := hstored.tail (step_store (List.getElem?_set_self hlength) (Or.inl hkey))
  refine ⟨_, hloaded, rfl, ?_⟩
  refine ⟨_, _, List.getElem?_set_self ?_, rfl, rfl⟩
  rw [List.length_set]
  exact hlength

end

/-! ## a Follow that is not on record -/

section
attribute [local instance] libraries

namespace Peer

/-- alice follows bob -/
def first : Call := .followActor alice.server alice.actor.id bob.actor.id followId

theorem first_program : first.program = (sendFollow alice.actor bob.actor followId).map .follow := by
  have hlocal : alice.server.getActorById alice.actor.id = .ok (some alice.actor) :=
    congrArg Except.ok (if_pos rfl)
  have hremote : alice.server.resolver.resolve bob.actor.id = .ok bob.actor := resolve_actor bob
  exact congrArg (Prog.map Outcome.follow) (followActor_program followId hlocal hremote)

theorem exists_follow : ∃ s, (handlers fun _ _ => True).Reachable alice.store s ∧
    s.state = alice.store.storePendingFollow pendingFollow ∧
    first.AboutToSend s 0 ⟨alice.actor, alice.keyPair, follow.serialize, bob.actor.inbox⟩ :=
  reachable_sendFollow .refl first_program (load_keyPair rfl)

end Peer

/-- alice's first Follow of bob is on record when she sends it -/
theorem follow_on_record_iff_of_alice : ∃ s before keyPair since,
    (handlers fun _ _ => True).Reachable Peer.alice.store s ∧ s.state.OnRecord Peer.follow ∧
    HasStored s before 0 Peer.pendingFollow keyPair since ∧
    Undisturbed Peer.follow before.state since := by
  obtain ⟨s, hreach, hstate, hsend⟩ := Peer.exists_follow
  have hempty : Peer.alice.store.outboundFollows = ∅ := rfl
  obtain ⟨localActor, remoteActor, before, since, hlocal, hremote, _, _, _, _, hstored, hiff, _⟩ :=
    (follow_on_record_iff hempty hreach _ _ _ _).1 _ _ hsend
  have hlocal' : Peer.alice.server.getActorById Peer.alice.actor.id = .ok (some Peer.alice.actor) :=
    congrArg Except.ok (if_pos rfl)
  have hremote' : Peer.alice.server.resolver.resolve Peer.bob.actor.id = .ok Peer.bob.actor :=
    Peer.resolve_actor .bob
  obtain rfl := Option.some.inj (Except.ok.inj (hlocal'.symm.trans hlocal))
  obtain rfl := Except.ok.inj (hremote'.symm.trans hremote)
  have hrecord : s.state.OnRecord Peer.follow := by
    refine ⟨Peer.pendingFollow, ?_, rfl, rfl⟩
    rw [hstate, SqliteStore.pending_eq_some]
    exact SqliteStore.load_storePendingFollow rfl
  exact ⟨s, before, _, since, hreach, hrecord, hstored, hiff.mp hrecord⟩

namespace Peer

/-- an actor whom alice follows under the id of her Follow of bob -/
def carol : Actor :=
  account ⟨"http://c.x/carol", by decide⟩ ⟨"http://c.x/carol/inbox", by decide⟩
    ⟨"http://c.x/carol/outbox", by decide⟩ ⟨"http://c.x/carol#key", by decide⟩
    ⟨"http://c.x/inbox", by decide⟩

/-- the server of alice, where carol has published her document -/
def meetsCarol : FederServer :=
  { alice.server with
    resolver :=
      { resolver with
        actorResponse := fun _ => some (published (JsonText.toVec carol.serialize)) } }

/-- alice follows carol under the id of her Follow of bob -/
def reuse : Call := .followActor meetsCarol alice.actor.id carol.id followId

theorem reuse_program : reuse.program = (sendFollow alice.actor carol followId).map .follow := by
  have hresolve : meetsCarol.resolver.resolve carol.id = .ok carol := by
    refine ActorResolver.resolve_of_fetch (fetchDocument_of_published rfl (by decide) rfl rfl ?_)
    exact published_size (by decide +kernel)
  have hlocal : meetsCarol.getActorById alice.actor.id = .ok (some alice.actor) :=
    congrArg Except.ok (if_pos rfl)
  exact congrArg (Prog.map Outcome.follow) (followActor_program followId hlocal hresolve)

theorem exists_accepted : ∃ s, (handlers fun _ _ => True).Reachable alice.store s ∧
    s.state = (alice.store.storePendingFollow pendingFollow).accept followId := by
  obtain ⟨s₀, hreach₀, hstate₀, hsend⟩ := exists_follow
  obtain ⟨s, hstep, hsame⟩ := hsend.sent
  have hsent := hreach₀.tail hstep
  have hstate := hsame.trans hstate₀
  obtain ⟨r, hr⟩ := exists_request bob alice accept.serialize
  obtain ⟨hparse, hdecide⟩ := hr.accept_received
  have hcheck : receiveAcceptFollow alice.actor bob.actor pendingFollow accept = .ok () := rfl
  have hload : s.state.loadPendingFollow followId = .ok (some pendingFollow) := by
    rw [hstate]
    exact SqliteStore.load_storePendingFollow rfl
  have hloadCall : s.state.call (.loadPendingFollow followId) = (.ok (some pendingFollow), s.state) :=
    congrArg (·, s.state) hload
  have hconfirm : s.state.call (.confirmPendingFollow pendingFollow) =
      (.ok true, s.state.accept followId) := by
    show s.state.confirmPendingFollow pendingFollow = _
    rw [SqliteStore.confirmPendingFollow_of_load hload, if_pos rfl]
    rfl
  obtain ⟨received, hprogram, hnext⟩ : ∃ received,
      (Call.inbox alice.server alice.host hr.received).program =
        (tryStore (.loadPendingFollow followId) received).map .reply ∧
      received (some pendingFollow) =
        tryStore (.confirmPendingFollow pendingFollow) fun _ => .ret accepted :=
    ⟨_, congrArg (Prog.map Outcome.reply) (inbox_accept rfl hparse hdecide), confirmAccept_ok hcheck⟩
  have harrived := reachable_call hsent hprogram trivial
  have hloaded := harrived.tail (step_tryStore List.getElem?_concat_length hloadCall)
  rw [hnext] at hloaded
  refine ⟨_, hloaded.tail (step_tryStore (List.getElem?_set_self ?_) hconfirm), ?_⟩
  · rw [List.length_append]
    exact Nat.lt_succ_self _
  · rw [hstate]

/-- **Alice sends carol a Follow without a pending row**, under the id of a Follow that bob has
accepted -/
theorem exists_unrecorded : ∃ s i, (handlers fun _ _ => True).Reachable alice.store s ∧
    reuse.AboutToSend s i ⟨alice.actor, alice.keyPair,
      (createFollow alice.actor carol followId).activity.serialize, carol.inbox⟩ ∧
    ¬ s.state.OnRecord (createFollow alice.actor carol followId).activity := by
  obtain ⟨s, hreach, hstate⟩ := exists_accepted
  have hkey : (s.state.storePendingFollow ⟨alice.actor.id, carol, followId⟩).call
      (.loadActorKeyPair alice.actor.id) = (.ok (some alice.keyPair),
        s.state.storePendingFollow ⟨alice.actor.id, carol, followId⟩) := by
    apply load_keyPair
    rw [hstate]
    rfl
  obtain ⟨s', hreach', hstate', hsend⟩ := reachable_sendFollow hreach reuse_program hkey
  have hpending : (alice.store.storePendingFollow pendingFollow).pending followId =
      some pendingFollow :=
    SqliteStore.pending_eq_some.mpr (SqliteStore.load_storePendingFollow rfl)
  have haccepted : s'.state.Accepted followId := by
    rw [hstate', accepted_storePendingFollow, hstate]
    exact accepted_of_pending hpending
  refine ⟨s', _, hreach', hsend, ?_⟩
  rintro ⟨p, hp, _⟩
  exact not_accepted_of_pending hp haccepted

end Peer

/-- **A Follow can be sent without its pending row.** -/
theorem follow_unrecorded : ¬ ∀ (store : SqliteStore)
    (s : Config SqliteStore Call Op Op.Answer Outcome) (server : FederServer)
    (localActorId remoteActorId f : Iri) (localActor remoteActor : Actor) (i : Nat)
    (attempt : Attempt),
    store.outboundFollows = ∅ → (handlers fun _ _ => True).Reachable store s →
    (Call.followActor server localActorId remoteActorId f).AboutToSend s i attempt →
    attempt.activity = (createFollow localActor remoteActor f).activity.serialize →
    s.state.OnRecord (createFollow localActor remoteActor f).activity := by
  intro h
  obtain ⟨s, i, hreach, hsend, hno⟩ := Peer.exists_unrecorded
  exact hno (h _ s _ _ _ _ _ _ i _ rfl hreach hsend rfl)

end

end Feder
