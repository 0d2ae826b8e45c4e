import Feder.Server.AcceptEvidence
import Feder.Server.Deliveries

/-!
# The follow handshake between servers

Any number of Feder servers, each with all its entry points and its own store, and a network that
may lose, repeat, reorder and make up requests.  What other servers sign and publish is not
restricted: the only assumptions (`Federation`) are about the keys and documents of the actors that
the Feder servers host.

* `handled_of_verified`   a request that is verified as a hosted actor carries what the actor's
                          server has sent;
* `handshake_agreement`   an accepted follow of a hosted actor is on record at the actor's server.
-/

namespace Feder
open Serde Text

section
variable [Crates] {Party : Type}

/-! ## the servers and the network -/

/-- a request that `send_activity` has built -/
structure Sent (Party : Type) where
  party : Party
  attempt : Attempt
  request : OutgoingRequest

/-- the store of each server, and all the requests that they have sent -/
structure World (Party : Type) where
  store : Party → SqliteStore
  sent : List (Sent Party)

/-- the actors that the servers host: where, and with which PEM texts as their public keys -/
structure Federation (Party : Type) where
  host : Iri → Option Party
  publishes : Iri → String → Prop

/-- the message is the signing string of a sent request, signed with the private key of a key -/
def World.Signed (world : World Party) (key : Crypto.PublicKey) (message : List UInt8) : Prop :=
  ∃ e ∈ world.sent, ∃ privateKey,
    Crypto.fromPkcs8Pem e.attempt.keyPair.privateKeyPem = some privateKey ∧
    Crypto.publicKey privateKey = key ∧
    message = utf8 (draftCavageSignatureBase e.request.method e.request.requestTarget
      e.request.headers)

namespace Federation

/-- Signatures are unforgeable, and the private keys of hosted actors are used by `send_activity`
only: the signature that a request carries is good, under a key of a hosted actor, only for what has
been sent with that key. -/
def Unforged (F : Federation Party) (world : World Party) (request : InboxRequest) : Prop :=
  ∀ header signature bytes, (request.headers.get "signature").bind toStr = some header →
    parseSignatureHeader header = some signature →
    Crypto.decode signature.signature = some bytes →
    ∀ actorId pem key message, F.host actorId ≠ none → F.publishes actorId pem →
      Crypto.fromPublicKeyPem pem = some key → Crypto.verify key message bytes = true →
      world.Signed key message

/-- the key that the document of a hosted actor leads to is one that the actor has published -/
def Authentic (F : Federation Party) (resolver : ActorResolver) : Prop :=
  ∀ actor key, F.host actor.id ≠ none → resolver.resolve actor.id = .ok actor →
    resolver.resolveKey key.id = .ok key → key.owner = actor.id →
    actorOwnsKey actor key = true → F.publishes actor.id key.publicKeyPem

/-- the dispatcher of a server knows the actors that it hosts -/
def Dispatches (F : Federation Party) (party : Party) (server : FederServer) : Prop :=
  (∀ identifier localActor, server.getActor identifier = .ok (some localActor) →
    F.host localActor.id = some party) ∧
  ∀ actorId localActor, server.getActorById actorId = .ok (some localActor) →
    F.host localActor.id = some party

end Federation

/-- the request that an inbox handles -/
def ServerCall.request : ServerCall → Option InboxRequest
  | .federation (.inbox _ _ request) | .federation (.sharedInbox _ request) => some request
  | .federation (.followActor ..) | .createNote .. | .actor .. | .followers .. | .note ..
  | .webfinger .. => none

/-- the calls that can start at a server -/
structure Federation.Admits (F : Federation Party) (world : World Party) (c : Party × ServerCall) :
    Prop where
  policy : c.2.server.inboxAuthPolicy = .RequireSigned
  dispatches : F.Dispatches c.1 c.2.server
  authentic : F.Authentic c.2.server.resolver
  unforged : ∀ request, c.2.request = some request → F.Unforged world request

/-- what `send_activity` can answer and do: it builds a request, which may get lost or be refused,
or it fails before -/
inductive Sends (party : Party) (attempt : Attempt) (world : World Party) :
    Except SendError Unit → World Party → Prop where
  | built {addressPolicy : OutboundAddressPolicy} {now : Int} {request : OutgoingRequest}
      {answer : Except SendError Unit}
      (h : buildRequest addressPolicy now attempt.localActor attempt.keyPair attempt.activity
        attempt.inbox = .ok request) :
      Sends party attempt world answer
        { world with sent := world.sent ++ [⟨party, attempt, request⟩] }
  | failed {addressPolicy : OutboundAddressPolicy} {now : Int} {e : SendError}
      (h : buildRequest addressPolicy now attempt.localActor attempt.keyPair attempt.activity
        attempt.inbox = .error e) : Sends party attempt world (.error e) world

variable [DecidableEq Party]

/-- the calls of all the servers, interleaved over their stores -/
def Federation.system (F : Federation Party) :
    System (World Party) (Party × ServerCall) Op Op.Answer ServerOutcome where
  program c := c.2.program
  admits := F.Admits
  exec c world o answer world' :=
    match o, answer with
    | .store call, answer => ∃ store', Executes (world.store c.1) call answer store' ∧
        world' = { world with store := Function.update world.store c.1 store' }
    | .sendActivity localActor keyPair activity inbox, answer =>
      Sends c.1 ⟨localActor, keyPair, activity, inbox⟩ world answer world'

/-- the configurations of the servers -/
abbrev Servers (Party : Type) := Config (World Party) (Party × ServerCall) Op Op.Answer ServerOutcome

variable {F : Federation Party}

theorem sent_subset {c : Party × ServerCall} {world world' : World Party} {o : Op} {answer : o.Answer}
    (h : F.system.exec c world o answer world') : world.sent ⊆ world'.sent := by
  cases o with
  | store call =>
    obtain ⟨_, _, rfl⟩ := h
    exact List.Subset.refl _
  | sendActivity localActor keyPair activity inbox =>
    cases h with
    | built => exact List.subset_append_left _ _
    | failed => exact List.Subset.refl _

/-- a call stays admitted: the more has been sent, the more can be received -/
theorem admits_mono {c c' : Party × ServerCall} {world world' : World Party} {o : Op}
    {answer : o.Answer}
    (hx : F.system.exec c world o answer world') (h : F.system.admits world c') :
    F.system.admits world' c' := by
  refine ⟨h.policy, h.dispatches, h.authentic, fun request hrequest header signature bytes hheader
    hparse hdecode actorId pem key message hhost hpem hkey hverify => ?_⟩
  obtain ⟨e, he, hsigned⟩ := h.unforged request hrequest header signature bytes hheader hparse
    hdecode actorId pem key message hhost hpem hkey hverify
  exact ⟨e, sent_subset hx he, hsigned⟩

/-! ## the invariant -/

/-- a server has executed `store_follower` for a follower and an actor of its own -/
def Recorded (s : Servers Party) (party : Party) (followerId following : Iri) : Prop :=
  ∃ i c follower, System.callOf s i = some (party, c) ∧
    (i, stored (.storeFollower follower following) (.ok ())) ∈ s.trace ∧ follower.id = followerId

theorem Recorded.step {s s' : Servers Party} (hstep : F.system.Step s s') {party : Party}
    {followerId following : Iri} (h : Recorded s party followerId following) :
    Recorded s' party followerId following := by
  obtain ⟨i, c, follower, hc, hmem, hid⟩ := h
  refine ⟨i, c, follower, System.callOf_step hstep hc, ?_, hid⟩
  cases hstep with
  | start => exact hmem
  | exec => exact List.mem_append_left _ hmem

/-- where a sent activity comes from: a Follow, the Accept of a Follow on record that is embedded in
it with its actor, or a created Note -/
inductive Handled (F : Federation Party) (s : Servers Party) (party : Party) : Json → Prop where
  | follow (localActor remoteActor : Actor) (followId : Iri) :
      Handled F s party (createFollow localActor remoteActor followId).activity.serialize
  | accept (localActor acceptId : Iri) (follow : Follow) (follower : Actor)
      (hhost : F.host localActor = some party)
      (hrecorded : Recorded s party follower.id localActor) :
      Handled F s party (Accept.new acceptId (.id localActor)
        (.object { follow with actor := .object follower })).serialize
  | create (localActor : Actor) (input : CreateNoteInput) :
      Handled F s party ((createNote localActor input).activity.serialize Note.serialize)

theorem Handled.step {s s' : Servers Party} (hstep : F.system.Step s s') {party : Party}
    {activity : Json} (h : Handled F s party activity) : Handled F s' party activity := by
  cases h with
  | follow localActor remoteActor followId => exact .follow localActor remoteActor followId
  | accept localActor acceptId follow follower hhost hrecorded =>
    exact .accept localActor acceptId follow follower hhost (hrecorded.step hstep)
  | create localActor input => exact .create localActor input

omit [DecidableEq Party] in
theorem Handled.written {s : Servers Party} {party : Party} {activity : Json}
    (h : Handled F s party activity) : activity.Written maxDepth := by
  cases h with
  | follow => exact (Follow.serialize_written _).mono (by decide)
  | accept => exact (Accept.serialize_written _).mono (by decide)
  | create => exact (Create.serialize_written Note.serialize_written _).mono (by decide)

/-- What holds in every reachable configuration: each request that was sent was built for a
handled activity, and each accepted row of a hosted actor is on record at the actor's server. -/
structure Agreed (F : Federation Party) (s : Servers Party) : Prop where
  sent : ∀ e ∈ s.state.sent, Handled F s e.party e.attempt.activity ∧
    ∃ now, BuiltRequest now e.attempt.localActor e.attempt.keyPair e.attempt.activity e.request
  rows : ∀ party (f : Iri) row p other,
    (s.state.store party).outboundFollows.lookup f.str = some row → row.state = .accepted →
    SqliteStore.readRow f row = .ok p → F.host p.remoteActor.id = some other →
    Recorded s other p.localActor p.remoteActor.id

/-! ## receiving -/

theorem Call.Delivers.request_eq {c : Call} {pre : List OpEvent} {d : Delivery}
    (h : c.Delivers pre d) : (ServerCall.federation c).request = some d.request ∧
      ∃ document, JsonText.fromSlice d.request.body = some document ∧
        d.value = document.collapse := by
  cases h with
  | inbox _ hparse | shared hparse | sharedAccept hparse =>
    obtain ⟨rfl, hdocument⟩ := parseInboxRequest_ok hparse
    exact ⟨rfl, hdocument⟩

omit [DecidableEq Party] in
/-- **A request that is verified as a hosted actor carries what a server has sent.** -/
theorem handled_of_verified (hcollision : CollisionFree) {s : Servers Party} (hagreed : Agreed F s)
    {home : Party} {c : Call} (hadmits : F.Admits s.state (home, .federation c)) {pre : List OpEvent}
    {d : Delivery} (hc : c.Delivers pre d) {actor : Actor} (hverified : d.VerifiedAs actor)
    (hhost : F.host actor.id ≠ none) : ∃ party, Handled F s party d.value := by
  obtain ⟨hrequest, document, hbody, hvalue⟩ := hc.request_eq
  have hserver := hc.server_eq
  obtain ⟨actor', hactor, _, hv⟩ :=
    authenticate_signed (by rw [hserver]; exact hadmits.policy) hverified
  cases hactor
  obtain ⟨signature, signedHeaders, publicKey, hv⟩ := verifySignedRequest_ok hv
  rw [hserver] at hv
  -- the key is one that the actor has published, so the signing string has been sent
  have hpem : F.publishes actor.id publicKey.publicKeyPem :=
    hadmits.authentic actor publicKey hhost hv.resolved hv.resolvedKey hv.owner hv.owns
  obtain ⟨key, bytes, hkey, hdecode, hverify⟩ := verifyDraftCavage_ok hv.verified
  obtain ⟨header, hheader, hparse⟩ := hv.header
  obtain ⟨e, he, _, _, _, hmessage⟩ := hadmits.unforged d.request hrequest header signature bytes
    hheader hparse hdecode actor.id publicKey.publicKeyPem key _ hhost hpem hkey hverify
  obtain ⟨hhandled, now, hbuilt⟩ := hagreed.sent e he
  have hsame := sameSigned_of_base hcollision hv hbuilt (utf8_inj hmessage)
  have hwritten := hhandled.written
  rw [hsame.body, hbuilt.body, JsonText.fromSlice_toVec _ hwritten] at hbody
  cases hbody
  rw [hwritten.collapse] at hvalue
  exact ⟨e.party, hvalue ▸ hhandled⟩

omit [DecidableEq Party] in
/-- an Accept that is good evidence for the follow of a hosted actor shows that the follow is on
record -/
theorem recorded_of_accept (hcollision : CollisionFree) {s : Servers Party} (hagreed : Agreed F s)
    {home : Party} {c : Call} (hadmits : F.Admits s.state (home, .federation c)) {pre : List OpEvent}
    {d : Delivery} (hc : c.Delivers pre d) {remoteActor : Actor} {accept : Accept}
    {pending : PendingFollow} (hdecide : d.decide = .ok (.accept remoteActor accept))
    (hevidence : AcceptEvidence d.localActor remoteActor pending accept) {other : Party}
    (hhost : F.host pending.remoteActor.id = some other) :
    Recorded s other pending.localActor pending.remoteActor.id := by
  have hpolicy : d.server.inboxAuthPolicy = .RequireSigned := by
    rw [hc.server_eq]
    exact hadmits.policy
  obtain ⟨hverified, haccept⟩ := decide_accept hpolicy hdecide
  have htype : activityType d.value = some "Accept" := by
    obtain ⟨_, _, hdecided⟩ := decide_ok hdecide
    cases hdecided
    assumption
  rw [hevidence.pendingRemote] at hhost ⊢
  obtain ⟨party, hhandled⟩ := handled_of_verified hcollision hagreed hadmits hc hverified
    (by rw [hhost]; exact Option.some_ne_none _)
  generalize d.value = value at hhandled haccept htype
  cases hhandled with
  | follow =>
    rw [activityType_follow] at htype
    exact absurd htype (by decide)
  | create =>
    rw [activityType_create] at htype
    exact absurd htype (by decide)
  | accept localActor acceptId follow follower hhost' hrecorded =>
    rw [Accept.deserialize_serialize] at haccept
    cases haccept
    -- the Accept names the verified actor, and embeds the Follow with its follower
    have hactor : localActor = remoteActor.id := hevidence.actor
    have hfollower : follower.id = d.localActor.id := hevidence.followActor _ rfl
    rw [hactor, hhost] at hhost'
    cases hhost'
    rw [hevidence.pendingLocal, ← hfollower, ← hactor]
    exact hrecorded

/-! ## steps -/

theorem handled_of_send {s : Servers Party} (hreach : ∃ world, F.system.Reachable world s) {i : Nat}
    {t : Thread (Party × ServerCall) Op Op.Answer ServerOutcome} (ht : s.threads[i]? = some t)
    (hadmits : F.Admits s.state t.call) {attempt : Attempt}
    (hsends : t.call.2.Sends t.past attempt) : Handled F s t.call.1 attempt.activity := by
  obtain ⟨⟨party, call⟩, past, rest⟩ := t
  change call.Sends past attempt at hsends
  change F.Admits s.state (party, call) at hadmits
  generalize hpast : past = past' at hsends
  cases hsends with
  | follow => exact .follow _ _ _
  | create => exact .create _ _
  | @accept c pre d outcome keyPair hc hdecide =>
    have hpolicy : d.server.inboxAuthPolicy = .RequireSigned := by
      rw [hc.server_eq]
      exact hadmits.policy
    obtain ⟨actor, follow, acceptId, _, _, _, hreceive⟩ := decide_follow hpolicy hdecide
    obtain ⟨_, _, rfl⟩ := receiveFollow_ok_iff.mp hreceive
    refine .accept _ _ _ _ ?_ ⟨i, .federation c, actor, ?_, ?_, rfl⟩
    · cases hc with
      | inbox hactor => exact hadmits.dispatches.1 _ _ hactor
      | shared _ _ _ hactor => exact hadmits.dispatches.2 _ _ hactor
      | sharedAccept _ _ _ hactor => exact hadmits.dispatches.2 _ _ hactor
    · show (s.threads[i]?).map Thread.call = _
      rw [ht]
      rfl
    · obtain ⟨world, hreach⟩ := hreach
      apply System.mem_eventsOf.mp
      rw [(System.trace_past hreach).1 i _ ht]
      show _ ∈ past
      rw [hpast]
      simp

theorem serverOp_confirm {c : ServerCall} {past : List OpEvent} {pending : PendingFollow}
    (h : ServerOp c past (.store (.confirmPendingFollow pending))) :
    ∃ call, c = .federation call ∧ CallOp call past (.store (.confirmPendingFollow pending)) := by
  cases c with
  | federation call => exact ⟨call, rfl, h⟩
  | createNote => exact absurd h.1 not_false
  | actor | webfinger => exact absurd h not_false
  | followers =>
    obtain ⟨_, _, _, hop⟩ := h
    cases hop
  | note =>
    obtain ⟨_, _, _, _, _, hop⟩ := h
    cases hop

theorem agreed_step (hcollision : CollisionFree) {world : World Party} {s s' : Servers Party}
    (hreach : F.system.Reachable world s) (hagreed : Agreed F s) (hstep : F.system.Step s s') :
    Agreed F s' := by
  have hsent : ∀ e ∈ s.state.sent, Handled F s' e.party e.attempt.activity ∧ ∃ now,
      BuiltRequest now e.attempt.localActor e.attempt.keyPair e.attempt.activity e.request :=
    fun e he => ⟨(hagreed.sent e he).1.step hstep, (hagreed.sent e he).2⟩
  have hrows : ∀ party (f : Iri) row p other,
      (s.state.store party).outboundFollows.lookup f.str = some row → row.state = .accepted →
      SqliteStore.readRow f row = .ok p → F.host p.remoteActor.id = some other →
      Recorded s' other p.localActor p.remoteActor.id :=
    fun party f row p other hrow haccepted hread hhost =>
      (hagreed.rows party f row p other hrow haccepted hread hhost).step hstep
  have hstep' := hstep
  cases hstep with
  | start c _ => exact ⟨hsent, hrows⟩
  | exec i t o k answer world' ht hrest hx =>
    have hadmits : F.Admits s.state t.call :=
      System.call_still_admitted (fun hx h => admits_mono hx h) hreach t
        (List.mem_of_getElem? ht)
    cases o with
    | sendActivity localActor keyPair activity inbox =>
      have hsends : t.call.2.Sends t.past ⟨localActor, keyPair, activity, inbox⟩ :=
        System.exec_sat (S := F.system) (φ := fun c => c.2.SendsOnly) (ψ := fun _ _ _ => True)
          (fun c => serverCall_sends c.2) hreach ht hrest
      cases hx with
      | failed => exact ⟨hsent, hrows⟩
      | built hbuilt =>
        refine ⟨fun e he => ?_, hrows⟩
        rcases List.mem_append.mp he with he | he
        · exact hsent e he
        · cases List.mem_singleton.mp he
          exact ⟨(handled_of_send ⟨world, hreach⟩ ht hadmits hsends).step hstep', _,
            buildRequest_ok hbuilt⟩
    | store call =>
      obtain ⟨store', hx, rfl⟩ := hx
      refine ⟨hsent, fun party f row p other hrow haccepted hread hhost => ?_⟩
      change (Function.update s.state.store t.call.1 store' party).outboundFollows.lookup f.str =
        some row at hrow
      by_cases hparty : party = t.call.1
      · subst hparty
        rw [Function.update_self] at hrow
        rcases executes_accepted hx hrow haccepted with hold | ⟨old, hflips, rfl⟩
        · exact hrows _ f row p other hold haccepted hread hhost
        · obtain ⟨pending, rfl, hf, hexpected⟩ := executes_flips hx hflips
          cases Iri.str_inj.mp hf
          have hsame : p = pending := by
            rw [show SqliteStore.readRow pending.followActivity { old with state := .accepted } =
              SqliteStore.readRow pending.followActivity old from rfl, hexpected] at hread
            exact (Except.ok.inj hread).symm
          subst hsame
          have hop : ServerOp t.call.2 t.past (.store (.confirmPendingFollow p)) :=
            System.exec_sat (S := F.system) (φ := fun c => ServerOp c.2) (ψ := fun _ _ _ => True)
              (fun c => serverCall_sat c.2) hreach ht hrest
          obtain ⟨c, hcall, hop⟩ := serverOp_confirm hop
          obtain ⟨pre, d, remoteActor, accept, hc, hconsiders, hok⟩ := callOp_confirm hop
          have hadmits : F.Admits s.state (t.call.1, .federation c) := hcall ▸ hadmits
          exact (recorded_of_accept hcollision hagreed hadmits hc hconsiders.decide
            (receiveAcceptFollow_ok_iff.mp hok) hhost).step hstep'
      · rw [Function.update_of_ne hparty] at hrow
        exact hrows party f row p other hrow haccepted hread hhost

/-- **Agreement of the follow handshake.**  Whatever other servers publish and send, and however
the requests are lost, repeated and reordered: if a row of a server's `outbound_follows` is
accepted, and its remote actor is hosted by a Feder server, then that server has executed
`store_follower` for the row's local actor as the follower of this actor. -/
theorem handshake_agreement (hcollision : CollisionFree) (F : Federation Party)
    (stores : Party → SqliteStore)
    (hfresh : ∀ party k row, (stores party).outboundFollows.lookup k = some row →
      row.state ≠ .accepted)
    {s : Servers Party} (hreach : F.system.Reachable ⟨stores, []⟩ s) (A B : Party) (f : Iri)
    (row : OutboundFollowRow) (relationship : PendingFollow)
    (hrow : (s.state.store A).outboundFollows.lookup f.str = some row)
    (haccepted : row.state = .accepted)
    (hread : SqliteStore.readRow f row = .ok relationship)
    (hhost : F.host relationship.remoteActor.id = some B) :
    ∃ i c follower, System.callOf s i = some (B, c) ∧
      (i, stored (.storeFollower follower relationship.remoteActor.id) (.ok ())) ∈ s.trace ∧
      follower.id = relationship.localActor := by
  have hagreed : Agreed F s := by
    refine System.reachable_induction ?_ (fun _ _ hreach hI hstep =>
      agreed_step hcollision hreach hI hstep) hreach
    refine ⟨fun e he => ?_, fun party f row p other hrow haccepted _ _ => ?_⟩
    · cases he
    · exact absurd haccepted (hfresh party f.str row hrow)
  exact hagreed.rows A f row relationship B hrow haccepted hread hhost

/-! ## a server that runs alone -/

/-- a request goes out, if it can be built -/
def World.transmit (party : Party) (now : Int) (world : World Party) (attempt : Attempt) :
    Except SendError Unit × World Party :=
  match buildRequest .PublicOnly now attempt.localActor attempt.keyPair attempt.activity
    attempt.inbox with
  | .ok request => (.ok (), { world with sent := world.sent ++ [⟨party, attempt, request⟩] })
  | .error e => (.error e, world)

/-- the answers of a server while no other one runs: storage calls succeed and requests go out -/
def World.serve (party : Party) (now : Int) (world : World Party) : (o : Op) → o.Answer × World Party
  | .store call =>
    (((world.store party).call call).1,
      { world with store := Function.update world.store party ((world.store party).call call).2 })
  | .sendActivity localActor keyPair activity inbox =>
    world.transmit party now ⟨localActor, keyPair, activity, inbox⟩

theorem exec_serve (F : Federation Party) (c : Party × ServerCall) (now : Int) (world : World Party)
    (o : Op) : F.system.exec c world o (world.serve c.1 now o).1 (world.serve c.1 now o).2 := by
  cases o with
  | store call => exact ⟨_, Or.inl rfl, rfl⟩
  | sendActivity localActor keyPair activity inbox =>
    generalize hattempt : (⟨localActor, keyPair, activity, inbox⟩ : Attempt) = attempt
    show Sends c.1 ⟨localActor, keyPair, activity, inbox⟩ world
      (world.transmit c.1 now ⟨localActor, keyPair, activity, inbox⟩).1
      (world.transmit c.1 now ⟨localActor, keyPair, activity, inbox⟩).2
    rw [hattempt]
    unfold World.transmit
    cases hbuild : buildRequest .PublicOnly now attempt.localActor attempt.keyPair attempt.activity
        attempt.inbox with
    | ok request => exact .built hbuild
    | error e => exact .failed hbuild

section
variable {α : Type} {party : Party} {now : Int} {world : World Party}

theorem reachable_alone (now : Int) {F : Federation Party} {start : World Party}
    {s : Servers Party} (h : F.system.Reachable start s) {call : Call}
    (hc : F.Admits s.state (party, .federation call)) {p : Program α} {f : α → Outcome}
    (hp : call.program = p.map f) :
    ∃ s', F.system.Reachable start s' ∧
      s'.state = (Prog.run (World.serve party now) s.state p).2 := by
  obtain ⟨s', hreach, hstate⟩ :=
    System.reachable_run_call h (party, .federation call) hc (exec_serve F (party, _) now)
  refine ⟨s', hreach, hstate.trans ?_⟩
  show (Prog.run (World.serve party now) s.state (call.program.map ServerOutcome.federation)).2 = _
  rw [hp, Prog.run_map, Prog.run_map]

theorem run_serve_store {call : StoreCall} {next : Except StoreError call.Value → Program α}
    {value : call.Value} {store : SqliteStore}
    (h : (world.store party).call call = (.ok value, store)) :
    Prog.run (World.serve party now) world (.op (.store call) next) =
      Prog.run (World.serve party now)
        { world with store := Function.update world.store party store } (next (.ok value)) := by
  rw [Prog.run_op]
  show Prog.run (World.serve party now)
    { world with store := Function.update world.store party ((world.store party).call call).2 }
    (next ((world.store party).call call).1) = _
  rw [h]

theorem run_serve_send {localActor : Actor} {keyPair : ActorKeyPair} {activity : Json} {inbox : Iri}
    {next : Except SendError Unit → Program α} {request : OutgoingRequest}
    (h : buildRequest .PublicOnly now localActor keyPair activity inbox = .ok request) :
    Prog.run (World.serve party now) world
        (.op (.sendActivity localActor keyPair activity inbox) next) =
      Prog.run (World.serve party now) { world with
        sent := world.sent ++ [⟨party, ⟨localActor, keyPair, activity, inbox⟩, request⟩] }
        (next (.ok ())) := by
  have htransmit : world.transmit party now ⟨localActor, keyPair, activity, inbox⟩ = (.ok (),
      { world with
        sent := world.sent ++ [⟨party, ⟨localActor, keyPair, activity, inbox⟩, request⟩] }) := by
    unfold World.transmit
    rw [h]
  rw [Prog.run_op]
  show Prog.run (World.serve party now)
    (world.transmit party now ⟨localActor, keyPair, activity, inbox⟩).2
    (next (world.transmit party now ⟨localActor, keyPair, activity, inbox⟩).1) = _
  rw [htransmit]

end

end

section
attribute [local instance] libraries

namespace Peer

/-- the two servers with their actors -/
def federation : Federation Peer where
  host id := if id = alice.actor.id then some alice else if id = bob.actor.id then some bob else none
  publishes id pem := ∃ p : Peer, id = p.actor.id ∧ pem = p.keyPair.publicKeyPem

theorem host_actor (p : Peer) : federation.host p.actor.id = some p := by
  cases p <;> decide

theorem actor_of_host {id : Iri} (h : federation.host id ≠ none) : ∃ p : Peer, id = p.actor.id := by
  unfold federation at h
  dsimp only at h
  by_cases halice : id = alice.actor.id
  · exact ⟨alice, halice⟩
  · by_cases hbob : id = bob.actor.id
    · exact ⟨bob, hbob⟩
    · rw [if_neg halice, if_neg hbob] at h
      exact absurd rfl h

theorem dispatches (p : Peer) : federation.Dispatches p p.server := by
  refine ⟨fun identifier localActor h => ?_, fun actorId localActor h => ?_⟩
  · have hactor : (if identifier = p.host then some p.actor else none) = some localActor :=
      Except.ok.inj h
    obtain ⟨_, hactor⟩ := Option.ite_none_right_eq_some.mp hactor
    cases hactor
    exact host_actor p
  · have hactor : (if actorId = p.actor.id then some p.actor else none) = some localActor :=
      Except.ok.inj h
    obtain ⟨_, hactor⟩ := Option.ite_none_right_eq_some.mp hactor
    cases hactor
    exact host_actor p

theorem authentic : federation.Authentic resolver := by
  intro actor key hhost hactor hkey _ howns
  obtain ⟨p, hid⟩ := actor_of_host hhost
  rw [hid, resolve_actor] at hactor
  cases hactor
  have hkeyId : key.id = p.keyId := by
    have hadvertised : (p.keyId == key.id) = true := by
      cases p <;> exact howns
    exact (beq_iff_eq.mp hadvertised).symm
  rw [hkeyId, resolve_key] at hkey
  cases hkey
  exact ⟨p, rfl, rfl⟩

theorem Request.admits {p q : Peer} {activity : Json} {r : OutgoingRequest}
    (h : Request p q activity r) {world : World Peer} {attempt : Attempt}
    (hsent : (⟨p, attempt, r⟩ : Sent Peer) ∈ world.sent) (hkey : attempt.keyPair = p.keyPair) :
    federation.Admits world (q, .federation (.inbox q.server q.host h.received)) where
  policy := rfl
  dispatches := dispatches q
  authentic := authentic
  unforged := by
    intro request hrequest header signature bytes hheader hparse hdecode _ _ key message _ _ _ hverify
    cases hrequest
    obtain ⟨⟨privateKey, hprivate, hpublic⟩, hmessage⟩ :=
      h.unforged hheader hparse hdecode hverify
    exact ⟨_, hsent, privateKey, by rw [hkey]; exact hprivate, hpublic, hmessage⟩

theorem run_followActor {r : OutgoingRequest} (h : Request alice bob follow.serialize r) :
    (Prog.run (World.serve alice 0) ⟨Peer.store, []⟩
      (followActor alice.server alice.actor.id bob.actor.id followId)).2 =
      ⟨Function.update Peer.store alice (alice.store.storePendingFollow pendingFollow),
        [⟨alice, ⟨alice.actor, alice.keyPair, follow.serialize, bob.actor.inbox⟩, r⟩]⟩ := by
  have hlocal : alice.server.getActorById alice.actor.id = .ok (some alice.actor) :=
    congrArg Except.ok (if_pos rfl)
  have hremote : alice.server.resolver.resolve bob.actor.id = .ok bob.actor := resolve_actor bob
  have hstored : (Peer.store alice).call (.storePendingFollow pendingFollow) =
      (.ok (), alice.store.storePendingFollow pendingFollow) := rfl
  have hsend : buildRequest .PublicOnly 0 alice.actor alice.keyPair
      (createFollow alice.actor bob.actor followId).activity.serialize bob.actor.inbox = .ok r :=
    h.build
  rw [followActor_program followId hlocal hremote]
  unfold sendFollow
  rw [run_serve_store hstored]
  dsimp only
  rw [run_serve_store (load_keyPair rfl), Function.update_eq_self]
  dsimp only
  rw [run_serve_send hsend, Prog.run_ret]
  rfl

theorem run_follow {world : World Peer} (hstore : world.store bob = bob.store)
    {r r' : OutgoingRequest} (h : Request alice bob follow.serialize r)
    (h' : Request bob alice accept.serialize r') :
    (Prog.run (World.serve bob 0) world (inbox bob.server bob.host h.received)).2 =
      ⟨Function.update world.store bob (bob.store.storeFollower alice.actor bob.actor.id),
        world.sent ++
          [⟨bob, ⟨bob.actor, bob.keyPair, accept.serialize, alice.actor.inbox⟩, r'⟩]⟩ := by
  obtain ⟨hparse, hdecide⟩ := h.follow_received
  have hstored : (world.store bob).call
      (.storeFollower followOutcome.follower followOutcome.following) =
        (.ok (), bob.store.storeFollower alice.actor bob.actor.id) := by
    rw [hstore]
    rfl
  have hsend : buildRequest .PublicOnly 0 bob.actor bob.keyPair followOutcome.accept.serialize
      followOutcome.recipientInbox = .ok r' := h'.build
  rw [inbox_follow (congrArg Except.ok (if_pos rfl)) hparse hdecide]
  unfold acceptFollow tryStore
  rw [run_serve_store hstored]
  dsimp only
  rw [run_serve_store (load_keyPair rfl), Function.update_eq_self]
  dsimp only
  rw [run_serve_send hsend, Prog.run_ret]
  rfl

theorem run_accept {world : World Peer}
    (hload : (world.store alice).loadPendingFollow followId = .ok (some pendingFollow))
    {r : OutgoingRequest} (h : Request bob alice accept.serialize r) :
    (Prog.run (World.serve alice 0) world (inbox alice.server alice.host h.received)).2 =
      ⟨Function.update world.store alice ((world.store alice).accept followId), world.sent⟩ := by
  obtain ⟨hparse, hdecide⟩ := h.accept_received
  have hcheck : receiveAcceptFollow alice.actor bob.actor pendingFollow accept = .ok () := rfl
  have hloaded : (world.store alice).call (.loadPendingFollow (followReferenceId accept.object)) =
      (.ok (some pendingFollow), world.store alice) := congrArg (·, world.store alice) hload
  have hconfirmed : (world.store alice).call (.confirmPendingFollow pendingFollow) =
      (.ok true, (world.store alice).accept followId) := by
    show (world.store alice).confirmPendingFollow pendingFollow = _
    rw [SqliteStore.confirmPendingFollow_of_load hload, if_pos rfl]
    rfl
  rw [inbox_accept (congrArg Except.ok (if_pos rfl)) hparse hdecide]
  unfold tryStore
  rw [run_serve_store hloaded, Function.update_eq_self]
  dsimp only [Option.elim_some]
  rw [confirmAccept_ok hcheck]
  unfold tryStore
  rw [run_serve_store hconfirmed, Prog.run_ret]

end Peer

/-- alice follows bob, and both agree on it -/
theorem handshake_agreement_of_peers : ∃ (s : Servers Peer) (row : OutboundFollowRow),
    Peer.federation.system.Reachable ⟨Peer.store, []⟩ s ∧
    (s.state.store .alice).outboundFollows.lookup Peer.followId.str = some row ∧
    row.state = .accepted ∧ Recorded s .bob Peer.alice.actor.id Peer.bob.actor.id := by
  obtain ⟨r, hr⟩ := Peer.exists_request .alice .bob Peer.follow.serialize
  obtain ⟨r', hr'⟩ := Peer.exists_request .bob .alice Peer.accept.serialize
  -- alice calls `follow_actor`
  have hcall : Peer.federation.Admits ⟨Peer.store, []⟩ (.alice, .federation
      (.followActor Peer.alice.server Peer.alice.actor.id Peer.bob.actor.id Peer.followId)) :=
    ⟨rfl, Peer.dispatches .alice, Peer.authentic, nofun⟩
  obtain ⟨s₁, hreach₁, hstate₁⟩ := reachable_alone 0 .refl hcall rfl
  have hs₁ := hstate₁.trans (Peer.run_followActor hr)
  clear hstate₁
  -- her Follow arrives at bob's inbox
  have hfollow : Peer.federation.Admits s₁.state
      (.bob, .federation (.inbox Peer.bob.server Peer.bob.host hr.received)) :=
    hr.admits (by rw [hs₁]; exact List.mem_singleton.mpr rfl) rfl
  obtain ⟨s₂, hreach₂, hstate₂⟩ := reachable_alone 0 hreach₁ hfollow rfl
  have hbob : s₁.state.store .bob = Peer.bob.store := by
    rw [hs₁]
    rfl
  have hs₂ := hstate₂.trans (Peer.run_follow hbob hr hr')
  clear hstate₂
  -- his Accept arrives at her inbox
  have haccept : Peer.federation.Admits s₂.state
      (.alice, .federation (.inbox Peer.alice.server Peer.alice.host hr'.received)) :=
    hr'.admits (by rw [hs₂]; exact List.mem_append_right _ (List.mem_singleton.mpr rfl)) rfl
  obtain ⟨s₃, hreach₃, hstate₃⟩ := reachable_alone 0 hreach₂ haccept rfl
  have halice : s₂.state.store .alice = Peer.alice.store.storePendingFollow Peer.pendingFollow := by
    rw [hs₂, hs₁]
    rfl
  have hload : (s₂.state.store .alice).loadPendingFollow Peer.followId =
      .ok (some Peer.pendingFollow) := by
    rw [halice]
    exact SqliteStore.load_storePendingFollow rfl
  have hs₃ := hstate₃.trans (Peer.run_accept hload hr')
  clear hstate₃
  obtain ⟨row, hrow, hpending, hread⟩ := SqliteStore.loadPendingFollow_some_iff.mp hload
  have hrow₃ : (s₃.state.store .alice).outboundFollows.lookup Peer.followId.str =
      some { row with state := .accepted } := by
    rw [hs₃]
    dsimp only
    rw [Function.update_self, SqliteStore.lookup_accept, if_pos rfl, hrow, Option.map_some,
      if_pos hpending]
  have hfresh : ∀ (party : Peer) (k : String) (row : OutboundFollowRow),
      party.store.outboundFollows.lookup k = some row → row.state ≠ .accepted := by
    intro party k row hlookup
    cases hlookup
  exact ⟨s₃, _, hreach₃, hrow₃, rfl, handshake_agreement libraries_secure.collisionFree
    Peer.federation Peer.store hfresh hreach₃ .alice .bob Peer.followId _ Peer.pendingFollow hrow₃
    rfl hread (Peer.host_actor .bob)⟩

end

end Feder
