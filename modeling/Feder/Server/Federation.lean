import Feder.Server.Completion
import Feder.Server.Discovery

/-!
# Two servers federate

The follow handshake between two servers that know nothing of each other but what their own
handlers serve: each resolver finds the other's actor and key in the document behind the actor's id.

* `InTransit.verified`    what one of them sends is verified by the other;
* `servers_federate`      the whole exchange.
-/

namespace Feder
open Serde Text

section
variable [Crates]

/-- An actor of a server, with its key: the document is small enough to be fetched, and embeds the
key that the server's key pair belongs to. -/
structure Home where
  actor : Actor
  keyPair : ActorKeyPair
  key : CryptographicKey
  embeds : actor.publicKey = some (.object key)
  owned : key.owner = actor.id
  samePem : key.publicKeyPem = keyPair.publicKeyPem
  small : (JsonText.toVec actor.serialize).length ≤ MAX_ACTOR_BODY_SIZE

/-- the actor as others find it -/
def Home.found (home : Home) : Actor := { home.actor with context := none }

theorem Home.sendKeyId (home : Home) :
    Feder.sendKeyId home.actor home.keyPair = .ok home.key.id := by
  unfold Feder.sendKeyId
  rw [home.embeds]
  dsimp only
  rw [if_neg]
  rw [not_or, not_not, not_not]
  exact ⟨home.owned, home.samePem⟩

theorem Home.owns (home : Home) : actorOwnsKey home.found home.key = true := by
  unfold actorOwnsKey Home.found
  dsimp only
  rw [home.embeds]
  simp [home.owned]

/-- a server with the actor, which requires signatures -/
structure Hosts (server : FederServer) (identifier : String) (home : Home) : Prop where
  getActor : server.getActor identifier = .ok (some home.actor)
  getActorById : server.getActorById home.actor.id = .ok (some home.actor)
  policy : server.inboxAuthPolicy = .RequireSigned

/-- the requests of a resolver for the actor and its key reach the actor's own server -/
def Reaches (resolver : ActorResolver) (home : Home) : Prop :=
  ∃ server identifier, server.getActor identifier = .ok (some home.actor) ∧
    Brings resolver.addressPolicy resolver.actorResponse home.actor.id
      (Get.actor server identifier resolverHeaders) ∧
    Brings resolver.addressPolicy resolver.keyResponse home.key.id
      (Get.actor server identifier resolverHeaders)

theorem actor_served (hmime : ReadsAccept) {server : FederServer} {identifier : String}
    {actor : Actor} (hactor : server.getActor identifier = .ok (some actor)) :
    Get.actor server identifier resolverHeaders = .ok (document actor.serialize) := by
  unfold Get.actor
  rw [if_neg (not_not.mpr (acceptsActivitypub_resolver hmime)), hactor]

theorem Reaches.resolve (hmime : ReadsAccept) {resolver : ActorResolver} {home : Home}
    (h : Reaches resolver home) : resolver.resolve home.actor.id = .ok home.found := by
  obtain ⟨server, identifier, hactor, hbrings, _⟩ := h
  rw [actor_served hmime hactor] at hbrings
  exact ActorResolver.resolve_of_fetch
    (fetchDocument_ok_iff.mpr ((fetched_of_brings hbrings).mpr ⟨rfl, home.small⟩))

theorem Reaches.resolveKey (hmime : ReadsAccept) {resolver : ActorResolver} {home : Home}
    (h : Reaches resolver home) : resolver.resolveKey home.key.id = .ok home.key := by
  obtain ⟨server, identifier, hactor, _, hbrings⟩ := h
  rw [actor_served hmime hactor] at hbrings
  have hwritten : home.actor.serialize.Written maxDepth :=
    home.actor.serialize_written.mono (by decide)
  obtain ⟨d, hd, hdocument⟩ := ActorDocument.deserialize_serialize home.actor
  have hembedded : d.publicKey = some (.object home.key) :=
    (congrArg Actor.publicKey hdocument).trans home.embeds
  refine resolveKey_ok_iff.mpr ⟨_, (fetched_of_brings hbrings).mpr ⟨rfl, home.small⟩,
    Or.inr ⟨fun other hother => ?_, d, (ofSlice_written hwritten).trans hd, hembedded, rfl⟩⟩
  have hread := hother.1
  rw [ofSlice_written hwritten, actor_not_key] at hread
  cases hread

/-! ## requests -/

/-- a request that an actor has sent with an activity arrives as it was sent, for an inbox at a time
that it is good for -/
structure InTransit (sender : Home) (activity : Json) (inbox : Iri) (now : Int)
    (request : InboxRequest) : Prop where
  sent : ∃ sentAt r, ∃ h : BuiltRequest sentAt sender.actor sender.keyPair activity r,
    Verifiable sender.keyPair sender.key.id r sender.key.publicKeyPem ∧ request = h.received
  host : verifyRequestHost request.headers inbox = .ok ()
  date : verifyRequestDate request.headers now = .ok ()

/-- **What one server sends is verified by the other**, as the actor that it finds. -/
theorem InTransit.verified (hmime : ReadsAccept) {sender : Home} {activity : Json} {inbox : Iri}
    {now : Int} {request : InboxRequest} (h : InTransit sender activity inbox now request)
    {resolver : ActorResolver} (hreaches : Reaches resolver sender) :
    verifySignedRequest resolver now request sender.found.id inbox = .ok sender.found := by
  obtain ⟨⟨sentAt, r, hbuilt, hverifiable, rfl⟩, hhost, hdate⟩ := h
  have howner : sender.key.owner = sender.found.id := sender.owned
  exact verifySignedRequest_received hbuilt sender.sendKeyId (hreaches.resolveKey hmime) hverifiable
    howner (hreaches.resolve hmime) sender.owns hhost hdate

/-- the call receives an activity of one actor for another -/
inductive Receives (sender receiver : Home) (activity : Json) : Call → Prop where
  | inbox {server : FederServer} {identifier : String} {request : InboxRequest}
      (hhosts : Hosts server identifier receiver) (hreaches : Reaches server.resolver sender)
      (h : InTransit sender activity receiver.actor.inbox server.now request) :
      Receives sender receiver activity (.inbox server identifier request)
  | shared {server : FederServer} {identifier : String} {request : InboxRequest} {sharedInbox : Iri}
      (hhosts : Hosts server identifier receiver) (hreaches : Reaches server.resolver sender)
      (hinbox : receiver.actor.sharedInbox = some sharedInbox)
      (h : InTransit sender activity sharedInbox server.now request) :
      Receives sender receiver activity (.sharedInbox server request)

theorem InTransit.carries (hmime : ReadsAccept) {sender : Home} {activity : Json} {inbox : Iri}
    {server : FederServer} {request : InboxRequest} (hpolicy : server.inboxAuthPolicy = .RequireSigned)
    (h : InTransit sender activity inbox server.now request)
    (hreaches : Reaches server.resolver sender) :
    CarriesActivity server request inbox sender.found activity := by
  have hverified := h.verified hmime hreaches
  obtain ⟨⟨sentAt, r, hbuilt, _, rfl⟩, _, _⟩ := h
  obtain ⟨mediaType, hparse, hessence, _⟩ := hmime.activity
  refine ⟨hpolicy, isActivity_received hbuilt ?_, hbuilt.body, hverified⟩
  rw [hparse, Option.any_some, hessence]
  decide

theorem Receives.arrives (hmime : ReadsAccept) {sender receiver : Home} {activity : Json} {c : Call}
    (h : Receives sender receiver activity c) :
    Arrives receiver.actor sender.found activity c := by
  cases h with
  | inbox hhosts hreaches h =>
    exact .inbox hhosts.getActor (h.carries hmime hhosts.policy hreaches)
  | shared hhosts hreaches hinbox h =>
    exact .shared hhosts.getActorById hinbox (h.carries hmime hhosts.policy hreaches)

/-! ## the exchange -/

theorem run_sendFollow (deliver : Attempt → Except SendError Unit) {localActor remoteActor : Actor}
    {keyPair : ActorKeyPair} {store : SqliteStore} (f : Iri)
    (hkey : store.loadActorKeyPair localActor.id = .ok (some keyPair)) :
    (Prog.run (handle deliver) ⟨store, []⟩ (sendFollow localActor remoteActor f)).2 =
      ⟨store.storePendingFollow (createFollow localActor remoteActor f).relationship,
        [⟨localActor, keyPair, (createFollow localActor remoteActor f).activity.serialize,
          remoteActor.inbox⟩]⟩ := by
  let relationship := (createFollow localActor remoteActor f).relationship
  have hstored : store.call (.storePendingFollow relationship) =
      (.ok (), store.storePendingFollow relationship) := rfl
  have hloaded : (store.storePendingFollow relationship).call (.loadActorKeyPair localActor.id) =
      (.ok (some keyPair), store.storePendingFollow relationship) :=
    congrArg (·, store.storePendingFollow relationship) hkey
  unfold sendFollow
  refine (congrArg Prod.snd ((run_call deliver ⟨store, []⟩ hstored).trans
    (run_call deliver _ hloaded))).trans ?_
  dsimp only
  rw [Prog.run_op]
  dsimp only [handle]
  cases deliver ⟨localActor, keyPair, _, remoteActor.inbox⟩ <;> rfl

/-- **Two servers federate.**  The actor of one server follows that of another one, whose id has no
fragment, under a new id; the servers require signatures, know of each other only what their actor
routes serve, have the key pairs of their actors stored, and requests arrive as they were built, at
an inbox whose Host check they pass, in the time that they are good for.  Then `follow_actor` stores
the relationship and sends the Follow to the inbox of the other actor.  When that is received, in
the personal or the shared inbox, by a run whose storage calls succeed, beside calls that leave the
rows of the follower and of the key alone, the follower is on record with its inboxes, and an Accept
is sent to its inbox.  When the Accept is received by such a run, beside calls that leave the
Follow's row alone, the relationship goes from pending to accepted. -/
theorem servers_federate (hmime : ReadsAccept) (hfragments : AllowsFragments) (a b : Home) (f : Iri)
    (hfragment : '#' ∉ b.actor.id.str.toList) {server : FederServer} {identifier : String}
    (hhosts : Hosts server identifier a) (hreaches : Reaches server.resolver b)
    {storeA storeB : SqliteStore} (hunused : storeA.outboundFollows.lookup f.str = none)
    (hkeyA : storeA.loadActorKeyPair a.actor.id = .ok (some a.keyPair))
    (hkeyB : storeB.loadActorKeyPair b.actor.id = .ok (some b.keyPair))
    (deliver : Attempt → Except SendError Unit) :
    let follow := createFollow a.actor b.found f
    (Prog.run (handle deliver) ⟨storeA, []⟩ (followActor server a.actor.id b.actor.id f)).2 =
      ⟨storeA.storePendingFollow follow.relationship,
        [⟨a.actor, a.keyPair, follow.activity.serialize, b.actor.inbox⟩]⟩ ∧
    ∀ callB outcomeB siteB, Receives a b follow.activity.serialize callB →
      Prog.Runs (Site.exec Succeeds) (Keeps (followerView a.actor.id b.actor.id)) ⟨storeB, []⟩
        callB.program outcomeB siteB →
      ∃ accept : Accept,
        siteB.store.followers.lookup (a.actor.id.str, b.actor.id.str) =
          some (SqliteStore.followerRow a.actor) ∧
        siteB.sent = [⟨b.actor, b.keyPair, accept.serialize, a.actor.inbox⟩] ∧
        ∀ siteA siteA' callA outcomeA,
          followView f siteA = followView f ⟨storeA.storePendingFollow follow.relationship, []⟩ →
          Receives b a accept.serialize callA →
          Prog.Runs (Site.exec Succeeds) (Keeps (followView f)) siteA callA.program outcomeA siteA' →
          outcomeA = .reply accepted ∧
          followView f siteA = some (SqliteStore.followRow follow.relationship .pending) ∧
          followView f siteA' = some (SqliteStore.followRow follow.relationship .accepted) := by
  intro follow
  have hresolve : server.resolver.resolve b.actor.id = .ok b.found := hreaches.resolve hmime
  refine ⟨?_, fun callB outcomeB siteB hfollow hB => ?_⟩
  · rw [followActor_program f hhosts.getActorById hresolve]
    exact run_sendFollow deliver f hkeyA
  obtain ⟨acceptId, hid⟩ := acceptIdForFollow_ok hfragments hfragment f
  let outcome : FollowOutcome := ⟨a.found, b.actor.id, Accept.new acceptId (.id b.actor.id)
    (.object { follow.activity with actor := .object a.found }), a.actor.inbox⟩
  have hreceive : receiveFollow b.actor a.found follow.activity acceptId = .ok outcome :=
    receiveFollow_ok_iff.mpr ⟨rfl, rfl, rfl⟩
  rw [(hfollow.arrives hmime).follow_program hid hreceive] at hB
  obtain ⟨reply, -, hB⟩ := hB.of_map
  obtain ⟨hrow, hsent⟩ :=
    @follow_processed _ b.actor outcome rfl ⟨storeB, []⟩ siteB b.keyPair hkeyB reply hB
  have haccept : receiveAcceptFollow a.actor b.found follow.relationship outcome.accept = .ok () := by
    refine receiveAcceptFollow_ok_iff.mpr ⟨rfl, rfl, rfl, rfl, fun follow he => ?_,
      fun follow he => ?_⟩
    · cases he
      rfl
    · cases he
      rfl
  refine ⟨outcome.accept, hrow, hsent, fun siteA siteA' callA outcomeA hkept hreceives hA => ?_⟩
  have hpending : followView f siteA =
      some (SqliteStore.followRow follow.relationship .pending) :=
    hkept.trans (followView_storePendingFollow hunused [])
  obtain ⟨next, hprogram, hnext⟩ := (hreceives.arrives hmime).accept_program haccept
  rw [hprogram] at hA
  obtain ⟨reply, rfl, hrun⟩ := hA.of_map
  obtain ⟨rfl, haccepted⟩ := accept_processed hpending hnext hrun
  exact ⟨rfl, hpending, haccepted⟩

end

section
attribute [local instance] libraries

def Peer.home (p : Peer) : Home where
  actor := p.keyed
  keyPair := p.keyPair
  key := p.key
  embeds := rfl
  owned := rfl
  samePem := rfl
  small := published_size (by cases p <;> decide +kernel)

/-- the server of one of them, which reaches that of the other -/
def Peer.homeServer (p q : Peer) : FederServer where
  getActor identifier := .ok (if identifier = p.host then some p.keyed else none)
  getActorById id := .ok (if id = p.actor.id then some p.keyed else none)
  resolver := q.network
  inboxAuthPolicy := .RequireSigned
  now := 0

theorem Peer.hosts (p q : Peer) : Hosts (p.homeServer q) p.host p.home where
  getActor := congrArg Except.ok (if_pos rfl)
  getActorById := congrArg Except.ok (if_pos rfl)
  policy := rfl

theorem Peer.reaches (q : Peer) : Reaches q.network q.home := by
  have hserved := actor_served libraries_readsAccept (q.hosts q).getActor
  refine ⟨q.homeServer q, q.host, (q.hosts q).getActor, ?_, ?_⟩
  · rw [hserved]
    cases q <;> exact Peer.network_brings _ (fun _ => rfl) rfl (by decide) rfl
  · rw [hserved]
    cases q <;> exact Peer.network_brings _ (fun _ => rfl) rfl (by decide) rfl

theorem Peer.receives {p q : Peer} {activity : Json} {r : OutgoingRequest}
    (h : Peer.Request p q activity r) :
    Receives p.home q.home activity (.inbox (q.homeServer p) q.host h.received) := by
  have hbuilt : BuiltRequest 0 p.keyed p.keyPair activity r :=
    { h.built with
      signed := by
        obtain ⟨keyId, hkeyId, hsigned⟩ := h.built.signed
        rw [p.sendKeyId_actor] at hkeyId
        cases hkeyId
        exact ⟨p.keyId, p.home.sendKeyId, hsigned⟩ }
  exact .inbox (q.hosts p) p.reaches
    ⟨⟨0, r, hbuilt, h.verifiable, rfl⟩, h.host_received, h.date_received⟩

/-- alice's Follow of bob, as her server makes it -/
def Peer.federatedFollow : CreateFollowOutcome :=
  createFollow Peer.alice.home.actor Peer.bob.home.found Peer.followId

/-- alice follows bob, and both servers complete it -/
theorem servers_federate_of_peers : ∃ callB callA : Call,
    (Prog.run (handle fun _ => .ok ()) ⟨Peer.alice.store, []⟩
      (followActor (Peer.alice.homeServer .bob) Peer.alice.home.actor.id Peer.bob.home.actor.id
        Peer.followId)).2.store =
      Peer.alice.store.storePendingFollow Peer.federatedFollow.relationship ∧
    (Prog.run (handle fun _ => .ok ()) ⟨Peer.bob.store, []⟩
      callB.program).2.store.followers.lookup
        (Peer.alice.home.actor.id.str, Peer.bob.home.actor.id.str) =
      some (SqliteStore.followerRow Peer.alice.home.actor) ∧
    followView Peer.followId (Prog.run (handle fun _ => .ok ())
        ⟨Peer.alice.store.storePendingFollow Peer.federatedFollow.relationship, []⟩
        callA.program).2 =
      some (SqliteStore.followRow Peer.federatedFollow.relationship .accepted) := by
  have hkey : ∀ p : Peer, p.store.loadActorKeyPair p.actor.id = .ok (some p.keyPair) := fun p =>
    congrArg Prod.fst (@Peer.load_keyPair p p.store rfl)
  obtain ⟨hsent, hreceived⟩ := @servers_federate _ libraries_readsAccept libraries_allowsFragments
    Peer.alice.home Peer.bob.home Peer.followId (by decide) _ _ (Peer.alice.hosts .bob)
    Peer.bob.reaches Peer.alice.store Peer.bob.store rfl (hkey .alice) (hkey .bob) fun _ => .ok ()
  obtain ⟨r, hr⟩ := Peer.exists_request .alice .bob Peer.federatedFollow.activity.serialize
  obtain ⟨accept, hrow, _, haccepted⟩ := hreceived _ _ _ (Peer.receives hr)
    (keeps_run (fun _ => .ok ()) _ ⟨Peer.bob.store, []⟩ _)
  obtain ⟨r', hr'⟩ := Peer.exists_request .bob .alice accept.serialize
  obtain ⟨_, _, hrowA⟩ := haccepted
    ⟨Peer.alice.store.storePendingFollow Peer.federatedFollow.relationship, []⟩ _ _ _ rfl
    (Peer.receives hr') (keeps_run (fun _ => .ok ()) _ _ _)
  exact ⟨_, _, congrArg Site.store hsent, hrow, hrowA⟩

end

end Feder
