import Feder.Server.NoteDelivery
import Feder.Server.OnRecord

/-!
# What a server sends

Every delivery of a server, in any interleaving of its calls, and what came before it.

* `createNote_sends`      the deliveries of `create_note`;
* `serverCall_sends`      the deliveries of every call;
* `deliveries_caused`     nothing else is sent.
-/

namespace Feder
open Serde

section
variable [Crates]

/-- the step that hands it to `send_activity` -/
def Attempt.sending (attempt : Attempt) (answer : Except SendError Unit) : OpEvent :=
  ⟨.sendActivity attempt.localActor attempt.keyPair attempt.activity attempt.inbox, answer⟩

/-- A delivery of a call, behind what the call has done: the Accept of a Follow, the Follow of
`follow_actor`, or the activity of a Note for the next of its inboxes. -/
inductive ServerCall.Sends : ServerCall → List OpEvent → Attempt → Prop where
  | accept {c : Call} {pre : List OpEvent} {d : Delivery} {outcome : FollowOutcome}
      {keyPair : ActorKeyPair} (hc : c.Delivers pre d) (hd : d.decide = .ok (.follow outcome)) :
      Sends (.federation c) (pre ++
        [stored (.storeFollower outcome.follower outcome.following) (.ok ())] ++
        [stored (.loadActorKeyPair d.localActor.id) (.ok (some keyPair))])
        ⟨d.localActor, keyPair, outcome.accept.serialize, outcome.recipientInbox⟩
  | follow {server : FederServer} {localActorId remoteActorId followId : Iri}
      {localActor remoteActor : Actor} {keyPair : ActorKeyPair}
      (hlocal : server.getActorById localActorId = .ok (some localActor))
      (hremote : server.resolver.resolve remoteActorId = .ok remoteActor) :
      Sends (.federation (.followActor server localActorId remoteActorId followId))
        [stored (.storePendingFollow ⟨localActor.id, remoteActor, followId⟩) (.ok ()),
          stored (.loadActorKeyPair localActor.id) (.ok (some keyPair))]
        ⟨localActor, keyPair, (createFollow localActor remoteActor followId).activity.serialize,
          remoteActor.inbox⟩
  | create {server : FederServer} {localActorId : Iri} {input : CreateNoteInput}
      {localActor : Actor} {keyPair : ActorKeyPair} {listed sent : List OpEvent} {inbox : Iri}
      {rest : List Iri} (hlocal : server.getActorById localActorId = .ok (some localActor))
      (hlisted : Lists.Of (Feder.createNote localActor input).recipients listed)
      (hinboxes : ((Feder.createNote localActor input).recipients.foldl
        (resolveRecipient server.resolver)
        ((listedTargets listed).foldl coverTarget .empty)).inboxes = sentTo sent ++ inbox :: rest) :
      Sends (.createNote server localActorId input)
        (stored (.storeNote (Feder.createNote localActor input).note) (.ok ()) ::
          (listed ++ stored (.loadActorKeyPair localActor.id) (.ok (some keyPair)) :: sent))
        (noteAttempt localActor keyPair input inbox)

/-- a delivery among the operations is one of the call -/
def ServerCall.SendsOnly (c : ServerCall) (past : List OpEvent) : Op → Prop
  | .store _ => True
  | .sendActivity localActor keyPair activity inbox =>
    c.Sends past ⟨localActor, keyPair, activity, inbox⟩

/-! ## the deliveries of `create_note` -/

theorem createNote_sends (server : FederServer) (localActorId : Iri) (input : CreateNoteInput) :
    Prog.Sat (ServerCall.SendsOnly (.createNote server localActorId input)) (fun _ _ => True) []
      (server.createNote localActorId input) := by
  unfold FederServer.createNote
  cases hlocal : server.getActorById localActorId with
  | error e => trivial
  | ok actor =>
    cases actor with
    | none => trivial
    | some localActor =>
      refine ⟨trivial, fun answer => ?_⟩
      cases answer with
      | error e => trivial
      | ok u =>
        refine sat_coverFollowers (fun _ _ => trivial) (fun _ _ => trivial) fun listed hlisted => ?_
        dsimp only
        split
        · split <;> trivial
        · refine ⟨trivial, fun answer => ?_⟩
          cases answer with
          | error e => trivial
          | ok keyPair =>
            cases keyPair with
            | none => trivial
            | some keyPair =>
              refine sat_sendAll (fun sent inbox rest hinboxes => ?_) fun past error => ?_
              · have hsends := @ServerCall.Sends.create _ server localActorId input localActor keyPair
                  listed sent inbox rest hlocal hlisted hinboxes
                rw [← List.singleton_append, List.append_cons, ← List.append_assoc,
                  ← List.append_assoc] at hsends
                exact hsends
              · split <;> trivial

theorem serverCall_sends (c : ServerCall) :
    Prog.Sat c.SendsOnly (fun _ _ => True) [] c.program := by
  cases c with
  | federation call =>
    refine Prog.sat_map ((program_sat call).mono (fun past o h => ?_) (fun _ _ _ => trivial))
    cases h with
    | activity hc h =>
      cases h with
      | sendAccept hd => exact .accept hc hd
      | storeFollower | loadKey | removeFollower | loadPending | confirm => trivial
    | sendFollow hlocal hremote => exact .follow hlocal hremote
    | loadTarget | storePending | loadKey => trivial
  | createNote server localActorId input =>
    exact Prog.sat_map (createNote_sends server localActorId input)
  | followers server identifier headers =>
    refine Prog.sat_map ((followers_sat server identifier headers).mono (fun past o h => ?_)
      (fun _ _ h => h))
    obtain ⟨_, actor, _, rfl⟩ := h
    trivial
  | note server identifier postId headers =>
    refine Prog.sat_map ((note_sat server identifier postId headers).mono (fun past o h => ?_)
      (fun _ _ h => h))
    obtain ⟨_, actor, id, _, _, rfl⟩ := h
    trivial
  | actor | webfinger => trivial

/-! ## what a delivery rests on -/

theorem ServerCall.Sends.actor {c : ServerCall} {past : List OpEvent} {attempt : Attempt}
    (h : c.Sends past attempt) :
    activityActorId attempt.activity = some attempt.localActor.id := by
  cases h with
  | follow hlocal hremote => exact activityActorId_follow _
  | create hlocal hlisted hinboxes => exact activityActorId_create _
  | @accept c pre d outcome keyPair hc hd =>
    obtain ⟨verifiedActor, _, hdecided⟩ := decide_ok hd
    cases hdecided with
    | follow _ ho =>
      obtain ⟨follow, remoteActor, acceptId, _, _, _, hreceive⟩ := decideFollow_ok ho
      obtain ⟨_, _, rfl⟩ := receiveFollow_ok_iff.mp hreceive
      exact activityActorId_accept _

theorem ServerCall.Sends.key {c : ServerCall} {past : List OpEvent} {attempt : Attempt}
    (h : c.Sends past attempt) :
    stored (.loadActorKeyPair attempt.localActor.id) (.ok (some attempt.keyPair)) ∈ past := by
  cases h with
  | accept => exact List.mem_append_right _ List.mem_cons_self
  | follow => exact List.mem_cons_of_mem _ List.mem_cons_self
  | create =>
    exact List.mem_cons_of_mem _ (List.mem_append_right _ List.mem_cons_self)

theorem ServerCall.Sends.once {c : ServerCall} {past : List OpEvent} {attempt : Attempt}
    (h : c.Sends past attempt) : attempt.inbox ∉ sentTo past := by
  cases h with
  | @accept c pre d outcome keyPair hc hd =>
    cases hc <;> exact List.not_mem_nil
  | follow => exact List.not_mem_nil
  | @create server localActorId input localActor keyPair listed sent inbox rest _ hlisted hinboxes =>
    have hnodup := (gathered_listed server.resolver
      (Feder.createNote localActor input).recipients listed).gathered.nodup
    rw [hinboxes] at hnodup
    have hsent : sentTo (stored (.storeNote (Feder.createNote localActor input).note) (.ok ()) ::
        (listed ++ stored (.loadActorKeyPair localActor.id) (.ok (some keyPair)) :: sent)) =
          sentTo sent := by
      have hnone := hlisted.sentTo
      unfold sentTo at hnone ⊢
      rw [List.filterMap_cons_none rfl, List.filterMap_append, hnone, List.nil_append,
        List.filterMap_cons_none rfl]
    rw [hsent]
    exact fun hmem => List.disjoint_of_nodup_append hnodup hmem List.mem_cons_self

/-- Why a server sends something, behind the steps `earlier`, among which the call has already
called the storage, and was answered `Ok`: the Accept of a Follow (`store_follower`), the Follow of
`follow_actor` (`store_pending_follow`), or the activity of a Note that is for the inbox
(`store_note`). -/
inductive Cause (earlier : List (Nat × OpEvent)) (i : Nat) : ServerCall → Attempt → Prop where
  | accept {c : Call} {pre : List OpEvent} {d : Delivery} {outcome : FollowOutcome}
      {keyPair : ActorKeyPair} (hc : c.Delivers pre d) (hd : d.decide = .ok (.follow outcome))
      (hstored : (i, stored (.storeFollower outcome.follower outcome.following) (.ok ())) ∈ earlier) :
      Cause earlier i (.federation c)
        ⟨d.localActor, keyPair, outcome.accept.serialize, outcome.recipientInbox⟩
  | follow {server : FederServer} {localActorId remoteActorId followId : Iri}
      {localActor remoteActor : Actor} {keyPair : ActorKeyPair}
      (hlocal : server.getActorById localActorId = .ok (some localActor))
      (hremote : server.resolver.resolve remoteActorId = .ok remoteActor)
      (hstored : (i, stored (.storePendingFollow ⟨localActor.id, remoteActor, followId⟩) (.ok ())) ∈
        earlier) :
      Cause earlier i (.federation (.followActor server localActorId remoteActorId followId))
        ⟨localActor, keyPair, (createFollow localActor remoteActor followId).activity.serialize,
          remoteActor.inbox⟩
  | create {server : FederServer} {localActorId : Iri} {input : CreateNoteInput}
      {localActor : Actor} {keyPair : ActorKeyPair} {inbox : Iri}
      (hlocal : server.getActorById localActorId = .ok (some localActor))
      (hstored : (i, stored (.storeNote (Feder.createNote localActor input).note) (.ok ())) ∈ earlier)
      (hinbox : NoteIsFor earlier i server localActor input inbox) :
      Cause earlier i (.createNote server localActorId input)
        (noteAttempt localActor keyPair input inbox)

variable {admits : ServerCall → Prop} {store : SqliteStore} {s : ServerConfig}

theorem call_keys (store : SqliteStore) (call : StoreCall) :
    (store.call call).2.keys = store.keys := by
  cases call with
  | confirmPendingFollow expected =>
    show (store.confirmPendingFollow expected).2.keys = store.keys
    rw [SqliteStore.confirmPendingFollow_eq]
    cases store.loadPendingFollow expected.followActivity with
    | error e => rfl
    | ok pending =>
      dsimp only
      split <;> rfl
  | storeFollower | removeFollower | storePendingFollow | storeNote | listFollowers
  | listFollowerDeliveryTargets | loadActorKeyPair | loadPendingFollow | loadNote => rfl

theorem keys_of_reachable (h : (wholeServer admits).Reachable store s) :
    s.state.keys = store.keys := by
  refine System.reachable_induction (I := fun s => s.state.keys = store.keys) rfl ?_ h
  intro s s' _ hkeys hstep
  cases hstep with
  | start c hc => exact hkeys
  | exec i t o k answer store' ht hrest hx =>
    refine Eq.trans ?_ hkeys
    cases o with
    | sendActivity localActor keyPair activity inbox => exact congrArg SqliteStore.keys hx
    | store call =>
      rcases wholeServer_exec.mp hx with hcall | ⟨_, rfl⟩
      · have hkeys := call_keys s.state call
        rw [hcall] at hkeys
        exact hkeys
      · rfl

theorem key_of_reachable (h : (wholeServer admits).Reachable store s) {i : Nat}
    {t : Thread ServerCall Op Op.Answer ServerOutcome} (ht : s.threads[i]? = some t) {actorId : Iri}
    {keyPair : Option ActorKeyPair}
    (he : stored (.loadActorKeyPair actorId) (.ok keyPair) ∈ t.past) :
    store.loadActorKeyPair actorId = .ok keyPair := by
  obtain ⟨before, after, hpast⟩ := List.append_of_mem he
  obtain ⟨s₁, s₂, _, hreach, _, _, _, _, hx⟩ := System.executed h ht hpast
  have hloaded : s₁.state.loadActorKeyPair actorId = .ok keyPair :=
    congrArg Prod.fst (executes_ok (wholeServer_exec.mp hx))
  rw [← hloaded]
  unfold SqliteStore.loadActorKeyPair
  rw [keys_of_reachable hreach]

theorem ServerCall.Sends.cause (h : (wholeServer admits).Reachable { store with followers := ∅ } s)
    {i : Nat} {t : Thread ServerCall Op Op.Answer ServerOutcome} (ht : s.threads[i]? = some t)
    {attempt : Attempt} (hsends : t.call.Sends t.past attempt) :
    Cause s.trace i t.call attempt := by
  have htrace : ∀ e ∈ t.past, (i, e) ∈ s.trace := by
    intro e he
    rw [← (System.trace_past h).1 i t ht] at he
    exact System.mem_eventsOf.mp he
  obtain ⟨c, past, rest⟩ := t
  cases hsends with
  | accept hc hd =>
    refine .accept hc hd (htrace _ ?_)
    exact List.mem_append_left _ (List.mem_append_right _ List.mem_cons_self)
  | follow hlocal hremote => exact .follow hlocal hremote (htrace _ List.mem_cons_self)
  | create hlocal hlisted hinboxes =>
    refine .create hlocal (htrace _ List.mem_cons_self)
      (noteIsFor_of_gathered h ht hlisted (fun e he => ?_) ?_)
    · exact List.mem_cons_of_mem _ (List.mem_append_left _ he)
    · rw [hinboxes]
      exact List.mem_append_right _ List.mem_cons_self

/-- **A server sends nothing without a cause.**  In every interleaving of a server, from an empty
table of followers on, whatever is handed to `send_activity` at a step, by a call that succeeds or
by one that fails later: it is the Accept of a Follow that the inbox has decided on, or the Follow
of a `follow_actor`, or the activity of a Note, and then the inbox is that of a follower at the
listing or of an actor that the Note addresses.  At an earlier step of the same call the storage has
answered `Ok` to `store_follower`, `store_pending_follow` or `store_note` for it.  It names as its
actor the local actor whose key pair in the store signs it, and no call sends to one inbox twice. -/
theorem deliveries_caused (h : (wholeServer admits).Reachable { store with followers := ∅ } s)
    {earlier later : List (Nat × OpEvent)} {i : Nat} {attempt : Attempt}
    {answer : Except SendError Unit}
    (htrace : s.trace = earlier ++ (i, attempt.sending answer) :: later) :
    (∃ c, System.callOf s i = some c ∧ Cause earlier i c attempt) ∧
    activityActorId attempt.activity = some attempt.localActor.id ∧
    store.loadActorKeyPair attempt.localActor.id = .ok (some attempt.keyPair) ∧
    attempt.inbox ∉ sentTo (System.eventsOf i earlier) := by
  obtain ⟨s₁, t, k, hreach, rfl, hrun, ht, hrest⟩ := System.traced h htrace
  have hsends : t.call.Sends t.past attempt :=
    System.exec_sat (S := wholeServer admits) serverCall_sends hreach ht hrest
  have hcall : System.callOf s₁ i = some t.call := by
    unfold System.callOf
    rw [ht]
    rfl
  refine ⟨⟨t.call, System.callOf_run hrun hcall, hsends.cause hreach ht⟩, hsends.actor, ?_, ?_⟩
  · exact key_of_reachable hreach ht hsends.key
  · rw [(System.trace_past hreach).1 i t ht]
    exact hsends.once

/-- a call behind its look-ups, alone on a store, comes to its delivery -/
theorem exists_delivery (hadmits : ∀ c, admits c) {c : ServerCall} {localActor remoteActor : Actor}
    {f : Iri} (hc : c.program = ((sendFollow localActor remoteActor f).map .follow).map .federation)
    {keyPair : ActorKeyPair}
    (hkey : (store.storePendingFollow ⟨localActor.id, remoteActor, f⟩).call
      (.loadActorKeyPair localActor.id) =
        (.ok (some keyPair), store.storePendingFollow ⟨localActor.id, remoteActor, f⟩)) :
    ∃ (s : ServerConfig) (earlier : List (Nat × OpEvent)), (wholeServer admits).Reachable store s ∧
      System.callOf s 0 = some c ∧
      s.trace = earlier ++ (0, Attempt.sending ⟨localActor, keyPair,
        (createFollow localActor remoteActor f).activity.serialize, remoteActor.inbox⟩ (.ok ())) ::
          [] := by
  have hstart : (wholeServer admits).Reachable store ⟨store, [⟨c, [], _⟩], []⟩ :=
    System.reachable_start .refl c hc (hadmits c)
  have hstoreCall : store.call (.storePendingFollow ⟨localActor.id, remoteActor, f⟩) =
      (.ok (), store.storePendingFollow ⟨localActor.id, remoteActor, f⟩) := rfl
  have hstored := hstart.tail
    (wholeServer_step (s := ⟨store, [⟨c, [], _⟩], []⟩) (i := 0) rfl hstoreCall)
  have hloaded := hstored.tail (wholeServer_step (s := ⟨_, [⟨c, _, _⟩], _⟩) (i := 0) rfl hkey)
  exact ⟨_, _, hloaded.tail (.exec 0 _ _ _ _ _ rfl rfl rfl), rfl, rfl⟩

end

section
attribute [local instance] libraries

/-- alice sends bob her Follow -/
theorem deliveries_caused_of_alice : ∃ earlier, Cause earlier 0 (.federation Peer.first)
      ⟨Peer.alice.actor, Peer.alice.keyPair, Peer.follow.serialize, Peer.bob.actor.inbox⟩ ∧
    ({ Peer.alice.store with followers := ∅ } : SqliteStore).loadActorKeyPair Peer.alice.actor.id =
      .ok (some Peer.alice.keyPair) := by
  have hprogram : (ServerCall.federation Peer.first).program =
      ((sendFollow Peer.alice.actor Peer.bob.actor Peer.followId).map .follow).map .federation :=
    congrArg (Prog.map ServerOutcome.federation) Peer.first_program
  let store : SqliteStore := { Peer.alice.store with followers := ∅ }
  have hkey := @Peer.load_keyPair .alice (store.storePendingFollow Peer.pendingFollow) rfl
  obtain ⟨s, earlier, hs, hcall, htrace⟩ :=
    @exists_delivery _ (fun _ => True) store (fun _ => trivial) _ _ _ _ hprogram _ hkey
  obtain ⟨⟨c, hc, hcause⟩, _, hkey, _⟩ := deliveries_caused hs htrace
  rw [hcall] at hc
  cases hc
  exact ⟨earlier, hcause, hkey⟩

end

end Feder
