import Feder.Server.Libraries
import Feder.Server.Requests
import Feder.Server.Runs

/-!
# The follow handshake completes

A follow from one server to another: the Follow that `create_follow` makes is processed at the
server of the followed actor, and the Accept made there is processed at the server of the follower.
Either activity may come in through the personal or the shared inbox, and other handlers run in
between.

* `acceptIdForFollow_ok`    an actor whose id has no fragment can accept every Follow;
* `follow_processed`        the follower is on record and the Accept is sent to its inbox;
* `accept_processed`        the row of the Follow goes from pending to accepted;
* `handshake_completes`     the whole exchange.
-/

namespace Feder
open Serde Text

/-! ## fragments -/

def isHexDigit (c : Char) : Bool := "0123456789ABCDEFabcdef".toList.contains c

/-- an ASCII character of a fragment that stands for itself -/
def isFragmentChar (c : Char) : Bool :=
  c.isAlphanum || ['-', '.', '_', '~', '!', '$', '&', '\'', '(', ')', '*', '+', ',', ';', '=', ':',
    '@', '/', '?'].contains c

/-- a fragment in ASCII -/
def isFragment : List Char → Bool
  | [] => true
  | '%' :: h :: l :: rest => isHexDigit h && isHexDigit l && isFragment rest
  | c :: rest => isFragmentChar c && isFragment rest

theorem isFragment_cons {c : Char} {rest : List Char} (hc : isFragmentChar c = true)
    (h : isFragment rest = true) : isFragment (c :: rest) = true := by
  unfold isFragment
  split
  · rename_i heq
    cases heq
  · rename_i heq
    obtain ⟨rfl, -⟩ := List.cons.inj heq
    exact absurd hc (by decide)
  · rename_i heq
    obtain ⟨rfl, rfl⟩ := List.cons.inj heq
    rw [hc, h]
    rfl

theorem isFragmentChar_hexDigit {c : Char} (h : isHexDigit c = true) :
    isFragmentChar c = true := by
  have hall : "0123456789ABCDEFabcdef".toList.all isFragmentChar = true := by decide
  exact List.all_eq_true.mp hall c (List.contains_iff_mem.mp h)

theorem fragment_chars {cs : List Char} (h : isFragment cs = true) :
    ∀ c ∈ cs, isFragmentChar c = true ∨ c = '%' := by
  induction cs using isFragment.induct with
  | case1 => exact fun c hc => absurd hc List.not_mem_nil
  | case2 high low rest ih =>
    change (isHexDigit high && isHexDigit low && isFragment rest) = true at h
    rw [Bool.and_eq_true, Bool.and_eq_true] at h
    obtain ⟨⟨hhigh, hlow⟩, hrest⟩ := h
    intro c hc
    rcases List.mem_cons.mp hc with rfl | hc
    · exact Or.inr rfl
    · rcases List.mem_cons.mp hc with rfl | hc
      · exact Or.inl (isFragmentChar_hexDigit hhigh)
      · rcases List.mem_cons.mp hc with rfl | hc
        · exact Or.inl (isFragmentChar_hexDigit hlow)
        · exact ih hrest c hc
  | case3 d rest hd ih =>
    rw [isFragment.eq_3 d rest hd, Bool.and_eq_true] at h
    intro c hc
    rcases List.mem_cons.mp hc with rfl | hc
    · exact Or.inl h.1
    · exact ih h.2 c hc

theorem isHexDigit_hexDigit : ∀ n < 16, isHexDigit (hexDigit n) = true := by decide

theorem isFragment_percentEncode (s : String) : isFragment (percentEncode s).toList = true := by
  unfold percentEncode
  rw [String.toList_ofList]
  induction utf8 s with
  | nil => rfl
  | cons b bytes ih =>
    rw [List.flatMap_cons]
    by_cases hb : (Char.ofNat b.toNat).isAlphanum = true
    · rw [if_pos hb]
      have hchar : isFragmentChar (Char.ofNat b.toNat) = true := by
        rw [isFragmentChar, hb, Bool.true_or]
      exact isFragment_cons hchar ih
    · rw [if_neg hb]
      have hlt : b.toNat < 256 := b.toNat_lt
      have hhigh := isHexDigit_hexDigit (b.toNat / 16) (by omega)
      have hlow := isHexDigit_hexDigit (b.toNat % 16) (by omega)
      show (isHexDigit _ && isHexDigit _ && isFragment _) = true
      rw [hhigh, hlow]
      exact ih

theorem isFragment_accepts (s : String) :
    isFragment ("accepts/" ++ percentEncode s).toList = true := by
  have hprefix : ∀ cs : List Char, (∀ c ∈ cs, isFragmentChar c = true) →
      isFragment (cs ++ (percentEncode s).toList) = true := by
    intro cs hcs
    induction cs with
    | nil => exact isFragment_percentEncode s
    | cons c cs ih =>
      exact isFragment_cons (hcs c List.mem_cons_self)
        (ih fun d hd => hcs d (List.mem_cons_of_mem _ hd))
  have hall : "accepts/".toList.all isFragmentChar = true := by decide
  rw [String.toList_append]
  exact hprefix _ (List.all_eq_true.mp hall)

theorem acceptId_text (s t : String) :
    s ++ "#accepts/" ++ percentEncode t = s ++ "#" ++ ("accepts/" ++ percentEncode t) := by
  have hsplit : ("#accepts/" : String) = "#" ++ "accepts/" := rfl
  rw [hsplit]
  simp only [String.append_assoc]

section
variable [Crates]

/-- an IRI without a fragment can be given one -/
def AllowsFragments : Prop :=
  ∀ (i : Iri) (fragment : String), '#' ∉ i.str.toList → isFragment fragment.toList = true →
    IriSyntax.valid (i.str ++ "#" ++ fragment) = true

theorem acceptIdForFollow_ok (hfragments : AllowsFragments) {localActorId : Iri}
    (h : '#' ∉ localActorId.str.toList) (followId : Iri) :
    ∃ acceptId, acceptIdForFollow localActorId followId = .ok acceptId := by
  have hvalid := hfragments localActorId _ h (isFragment_accepts followId.str)
  unfold acceptIdForFollow
  rw [acceptId_text, Iri.parse, dif_pos hvalid]
  exact ⟨_, rfl⟩

/-! ## arrivals -/

/-- a request carries a written activity, and is verified as an actor -/
structure CarriesActivity (server : FederServer) (request : InboxRequest) (expectedInbox : Iri)
    (verifiedActor : Actor) (activity : Json) : Prop where
  policy : server.inboxAuthPolicy = .RequireSigned
  isActivity : IsActivity request
  body : request.body = JsonText.toVec activity
  verified : verifySignedRequest server.resolver server.now request verifiedActor.id
    expectedInbox = .ok verifiedActor

/-- the call handles an activity for a local actor, in its personal inbox, or in the shared inbox
if the actor advertises one -/
inductive Arrives (localActor verifiedActor : Actor) (activity : Json) : Call → Prop where
  | inbox {server : FederServer} {identifier : String} {request : InboxRequest}
      (hactor : server.getActor identifier = .ok (some localActor))
      (h : CarriesActivity server request localActor.inbox verifiedActor activity) :
      Arrives localActor verifiedActor activity (.inbox server identifier request)
  | shared {server : FederServer} {request : InboxRequest} {sharedInbox : Iri}
      (hactor : server.getActorById localActor.id = .ok (some localActor))
      (hinbox : localActor.sharedInbox = some sharedInbox)
      (h : CarriesActivity server request sharedInbox verifiedActor activity) :
      Arrives localActor verifiedActor activity (.sharedInbox server request)

section
variable {server : FederServer} {request : InboxRequest} {expectedInbox : Iri}
  {verifiedActor : Actor} {activity : Json}

theorem CarriesActivity.parsed
    (h : CarriesActivity server request expectedInbox verifiedActor activity)
    (hwritten : activity.Written maxDepth) :
    parseInboxRequest request = .ok (request, activity) :=
  parseInboxRequest_of_body h.isActivity h.body hwritten

theorem CarriesActivity.verifiedAs
    (h : CarriesActivity server request expectedInbox verifiedActor activity)
    (hactor : activityActorId activity = some verifiedActor.id) (localActor : Actor)
    (pending : Option PendingFollow) :
    Delivery.VerifiedAs ⟨server, localActor, expectedInbox, request, activity, pending⟩
      verifiedActor :=
  authenticate_of_verified h.policy hactor h.verified

end

theorem activityTargetId_follow (follow : Follow) :
    activityTargetId follow.serialize = some (referenceId follow.object) := by
  have hobject : follow.serialize.get "object" = some (follow.object.serialize Actor.serialize) := by
    rw [get_follow]
    rfl
  unfold activityTargetId
  rw [activityType_follow, hobject]
  exact valueReferenceId_actor follow.object

theorem valueReferenceId_follow (reference : Reference Follow) :
    valueReferenceId (reference.serialize Follow.serialize) =
      some (followReferenceId reference) := by
  cases reference with
  | id i => exact Iri.parse_str i
  | object follow =>
    have hid : follow.serialize.get "id" = some follow.id.serialize := by
      rw [get_follow]
      rfl
    show valueReferenceId follow.serialize = some follow.id
    unfold valueReferenceId
    rw [hid]
    exact Iri.parse_str follow.id

theorem accept_object (accept : Accept) :
    (accept.serialize.get "object").bind valueReferenceId =
      some (followReferenceId accept.object) := by
  have hobject : accept.serialize.get "object" =
      some (accept.object.serialize Follow.serialize) := by
    rw [get_accept]
    rfl
  rw [hobject]
  exact valueReferenceId_follow accept.object

theorem Arrives.follow_program {localActor follower : Actor} {follow : Follow} {c : Call}
    (h : Arrives localActor follower follow.serialize c) {acceptId : Iri} {outcome : FollowOutcome}
    (hid : acceptIdForFollow localActor.id follow.id = .ok acceptId)
    (hreceive : receiveFollow localActor follower follow acceptId = .ok outcome) :
    c.program = (acceptFollow localActor outcome).map .reply := by
  obtain ⟨hobject, hactor, -⟩ := receiveFollow_ok_iff.mp hreceive
  have hwritten : follow.serialize.Written maxDepth := follow.serialize_written.mono (by decide)
  have hactorId : activityActorId follow.serialize = some follower.id := by
    rw [activityActorId_follow, hactor]
  cases h with
  | @inbox server identifier request hlocal hcarried =>
    have hdecide := decide_written_follow (hcarried.verifiedAs hactorId localActor none) rfl hid
      hreceive
    show (Feder.inbox server identifier request).map Outcome.reply = _
    rw [inbox_follow hlocal (hcarried.parsed hwritten) hdecide]
  | @shared server request sharedInboxId hlocal hinbox hcarried =>
    have hdecide := decide_written_follow (hcarried.verifiedAs hactorId localActor none) rfl hid
      hreceive
    show (sharedInbox server request).map Outcome.reply = _
    unfold sharedInbox
    rw [hcarried.parsed hwritten]
    dsimp only
    unfold sharedInboxTarget
    rw [if_neg (by rw [activityType_follow]; decide), activityTargetId_follow, hobject]
    show (receiveShared server request follow.serialize (some (localActor.id, none))).map _ = _
    unfold receiveShared
    dsimp only
    rw [hlocal]
    dsimp only
    rw [hinbox]
    dsimp only
    unfold receiveActivity
    rw [hdecide]

/-- an Accept that arrives is held against the relationship that is pending for its Follow -/
theorem Arrives.accept_program {localActor verifiedActor : Actor} {accept : Accept} {c : Call}
    (h : Arrives localActor verifiedActor accept.serialize c) {pending : PendingFollow}
    (hreceive : receiveAcceptFollow localActor verifiedActor pending accept = .ok ()) :
    ∃ next, c.program =
        (tryStore (.loadPendingFollow pending.followActivity) next).map .reply ∧
      next (some pending) = tryStore (.confirmPendingFollow pending) fun _ => .ret accepted := by
  have hevidence := receiveAcceptFollow_ok_iff.mp hreceive
  have hwritten : accept.serialize.Written maxDepth := accept.serialize_written.mono (by decide)
  have hactorId : activityActorId accept.serialize = some verifiedActor.id := by
    rw [activityActorId_accept, hevidence.actor]
  rw [← hevidence.follow]
  cases h with
  | @inbox server identifier request hlocal hcarried =>
    have hdecide := decide_written_accept (hcarried.verifiedAs hactorId localActor none) rfl
    refine ⟨fun found => found.elim (.ret accepted) (confirmAccept localActor verifiedActor accept),
      ?_, confirmAccept_ok hreceive⟩
    show (Feder.inbox server identifier request).map Outcome.reply = _
    rw [inbox_accept hlocal (hcarried.parsed hwritten) hdecide]
  | @shared server request sharedInboxId hlocal hinbox hcarried =>
    have hdecide := decide_written_accept (hcarried.verifiedAs hactorId localActor (some pending))
      rfl
    refine ⟨fun found => receiveShared server request accept.serialize
      (found.map fun pending => (pending.localActor, some pending)), ?_, ?_⟩
    · show (sharedInbox server request).map Outcome.reply = _
      unfold sharedInbox
      rw [hcarried.parsed hwritten]
      dsimp only
      unfold sharedInboxTarget
      rw [if_pos (activityType_accept accept), accept_object]
    · show receiveShared server request accept.serialize
        (some (pending.localActor, some pending)) = _
      unfold receiveShared
      dsimp only
      rw [hevidence.pendingLocal, hlocal]
      dsimp only
      rw [hinbox]
      dsimp only
      unfold receiveActivity
      rw [hdecide]
      dsimp only
      unfold findPending
      dsimp only
      rw [if_pos hevidence.follow.symm]
      exact confirmAccept_ok hreceive

/-! ## the server of the followed actor -/

/-- what the others leave alone there: the row of the follower, the key of the local actor, and
what the handler has sent -/
def followerView (followerId localActorId : Iri) (site : Site) :
    Option FollowerRow × Option KeyRow × List Attempt :=
  (site.store.followers.lookup (followerId.str, localActorId.str),
    site.store.keys.lookup localActorId.str, site.sent)

theorem keeps_followerView {followerId localActorId : Iri} {site site' : Site}
    (h : Keeps (followerView followerId localActorId) site site') :
    site'.store.followers.lookup (followerId.str, localActorId.str) =
        site.store.followers.lookup (followerId.str, localActorId.str) ∧
      site'.store.keys.lookup localActorId.str = site.store.keys.lookup localActorId.str ∧
      site'.sent = site.sent := by
  obtain ⟨hrow, h⟩ := Prod.mk.inj h
  exact ⟨hrow, Prod.mk.inj h⟩

theorem loadActorKeyPair_congr {store store' : SqliteStore} {actorId : Iri}
    (h : store'.keys.lookup actorId.str = store.keys.lookup actorId.str) :
    store'.loadActorKeyPair actorId = store.loadActorKeyPair actorId := by
  unfold SqliteStore.loadActorKeyPair
  rw [h]

/-- **The follower is on record and the Accept is sent to its inbox.** -/
theorem follow_processed {localActor : Actor} {outcome : FollowOutcome}
    (hfollowing : outcome.following = localActor.id) {site site' : Site} {keyPair : ActorKeyPair}
    (hkey : site.store.loadActorKeyPair localActor.id = .ok (some keyPair)) {reply : Reply}
    (h : Prog.Runs (Site.exec Succeeds)
      (Keeps (followerView outcome.follower.id localActor.id)) site
      (acceptFollow localActor outcome) reply site') :
    site'.store.followers.lookup (outcome.follower.id.str, localActor.id.str) =
        some (SqliteStore.followerRow outcome.follower) ∧
      site'.sent = site.sent ++
        [⟨localActor, keyPair, outcome.accept.serialize, outcome.recipientInbox⟩] := by
  unfold acceptFollow at h
  obtain ⟨site₁, hkept₁, hstore⟩ := runs_tryStore h
  obtain ⟨_, hkeys₁, hsent₁⟩ := keeps_followerView hkept₁
  -- the follower is stored
  have h := hstore () (site₁.store.storeFollower outcome.follower outcome.following) rfl
  obtain ⟨site₂, hkept₂, hload⟩ := runs_tryStore h
  obtain ⟨hrow₂, hkeys₂, hsent₂⟩ := keeps_followerView hkept₂
  dsimp only at hrow₂ hkeys₂ hsent₂
  rw [SqliteStore.lookup_storeFollower, hfollowing, if_pos rfl] at hrow₂
  -- the key pair is loaded
  have hloaded : site₂.store.loadActorKeyPair localActor.id = .ok (some keyPair) :=
    (loadActorKeyPair_congr (hkeys₂.trans hkeys₁)).trans hkey
  have h := hload (some keyPair) site₂.store (congrArg (·, site₂.store) hloaded)
  -- the Accept is sent
  obtain ⟨site₃, answer, hkept₃, hsend⟩ := runs_send h
  obtain ⟨hrow₃, _, hsent₃⟩ := keeps_followerView hkept₃
  have hlast : Keeps (followerView outcome.follower.id localActor.id)
      { site₃ with sent := site₃.sent ++
        [⟨localActor, keyPair, outcome.accept.serialize, outcome.recipientInbox⟩] } site' := by
    cases answer with
    | error e => exact (runs_ret hsend).2
    | ok u => exact (runs_ret hsend).2
  obtain ⟨hrow, _, hsent⟩ := keeps_followerView hlast
  refine ⟨hrow.trans (hrow₃.trans hrow₂), ?_⟩
  rw [hsent]
  dsimp only at hsent₃ ⊢
  rw [hsent₃, hsent₂, hsent₁]

/-! ## the server of the follower -/

/-- what the others leave alone there: the row of the Follow -/
def followView (f : Iri) (site : Site) : Option OutboundFollowRow :=
  site.store.outboundFollows.lookup f.str

theorem followView_storePendingFollow {store : SqliteStore} {pending : PendingFollow}
    (h : store.outboundFollows.lookup pending.followActivity.str = none) (sent : List Attempt) :
    followView pending.followActivity ⟨store.storePendingFollow pending, sent⟩ =
      some (SqliteStore.followRow pending .pending) := by
  show (store.storePendingFollow pending).outboundFollows.lookup _ = _
  rw [SqliteStore.lookup_storePendingFollow, if_pos rfl, h]
  rfl

/-- **The row of the Follow goes from pending to accepted.** -/
theorem accept_processed {pending : PendingFollow} {site site' : Site}
    (hrow : followView pending.followActivity site =
      some (SqliteStore.followRow pending .pending))
    {next : Option PendingFollow → Program Reply}
    (hnext : next (some pending) =
      tryStore (.confirmPendingFollow pending) fun _ => .ret accepted) {reply : Reply}
    (h : Prog.Runs (Site.exec Succeeds) (Keeps (followView pending.followActivity)) site
      (tryStore (.loadPendingFollow pending.followActivity) next) reply site') :
    reply = accepted ∧ followView pending.followActivity site' =
      some (SqliteStore.followRow pending .accepted) := by
  have hload : ∀ site₁ : Site, followView pending.followActivity site₁ =
      some (SqliteStore.followRow pending .pending) →
      site₁.store.loadPendingFollow pending.followActivity = .ok (some pending) := fun site₁ h₁ =>
    SqliteStore.loadPendingFollow_some_iff.mpr
      ⟨_, h₁, rfl, SqliteStore.readRow_followRow pending .pending⟩
  obtain ⟨site₁, hkept₁, hfound⟩ := runs_tryStore h
  have hrow₁ := hkept₁.trans hrow
  -- the relationship is loaded
  have h := hfound (some pending) site₁.store (congrArg (·, site₁.store) (hload site₁ hrow₁))
  rw [hnext] at h
  obtain ⟨site₂, hkept₂, hconfirm⟩ := runs_tryStore h
  have hrow₂ := Eq.trans hkept₂ hrow₁
  -- and is confirmed
  have hconfirmed : site₂.store.call (.confirmPendingFollow pending) =
      (.ok true, site₂.store.accept pending.followActivity) := by
    show site₂.store.confirmPendingFollow pending = _
    rw [SqliteStore.confirmPendingFollow_of_load (hload site₂ hrow₂), if_pos rfl]
  obtain ⟨hreply, hkept⟩ := runs_ret (hconfirm true _ hconfirmed)
  refine ⟨hreply, hkept.trans ?_⟩
  show (site₂.store.accept pending.followActivity).outboundFollows.lookup _ = _
  rw [SqliteStore.lookup_accept, if_pos rfl, show site₂.store.outboundFollows.lookup _ = _ from hrow₂]
  rfl

/-! ## the exchange -/

/-- **The follow handshake completes.**  Actor `a` follows actor `b`, whose id has no fragment,
under an id that is new at the server of `a`; the servers may know each other's actor with any other
fields (`remote`, `follower`, `verified`).  The Follow is processed at the server of `b`, and the
Accept made there at the server of `a`, where nobody else writes the row of the Follow: then the
follower is on record with its inboxes, the Accept is addressed to its inbox, the row goes from
pending to accepted, and no check of the two activities fails. -/
theorem handshake_completes (hfragments : AllowsFragments) (a b remote follower verified : Actor)
    (f : Iri) (hfragment : '#' ∉ b.id.str.toList) (hremote : remote.id = b.id)
    (hfollower : follower.id = a.id) (hverified : verified.id = b.id) (storeA storeB : SqliteStore)
    (hunused : storeA.outboundFollows.lookup f.str = none) (keyPair : ActorKeyPair)
    (hkey : storeB.loadActorKeyPair b.id = .ok (some keyPair)) (callB : Call)
    (hfollow : Arrives b follower (createFollow a remote f).activity.serialize callB)
    (outcomeB : Outcome) (siteB : Site)
    (hB : Prog.Runs (Site.exec Succeeds) (Keeps (followerView follower.id b.id)) ⟨storeB, []⟩
      callB.program outcomeB siteB) :
    ∃ acceptId outcome, acceptIdForFollow b.id f = .ok acceptId ∧
      receiveFollow b follower (createFollow a remote f).activity acceptId = .ok outcome ∧
      siteB.store.followers.lookup (a.id.str, b.id.str) =
        some (SqliteStore.followerRow follower) ∧
      siteB.sent = [⟨b, keyPair, outcome.accept.serialize, follower.inbox⟩] ∧
      receiveAcceptFollow a verified (createFollow a remote f).relationship outcome.accept =
        .ok () ∧
      ∀ (siteA siteA' : Site) (callA : Call) (outcomeA : Outcome),
        followView f siteA = followView f
          ⟨storeA.storePendingFollow (createFollow a remote f).relationship, []⟩ →
        Arrives a verified outcome.accept.serialize callA →
        Prog.Runs (Site.exec Succeeds) (Keeps (followView f)) siteA callA.program outcomeA siteA' →
        outcomeA = .reply accepted ∧
        followView f siteA =
          some (SqliteStore.followRow (createFollow a remote f).relationship .pending) ∧
        followView f siteA' =
          some (SqliteStore.followRow (createFollow a remote f).relationship .accepted) := by
  obtain ⟨acceptId, hid⟩ := acceptIdForFollow_ok hfragments hfragment f
  have hreceive : receiveFollow b follower (createFollow a remote f).activity acceptId = .ok
      ⟨follower, b.id, Accept.new acceptId (.id b.id) (.object
        { (createFollow a remote f).activity with actor := .object follower }), follower.inbox⟩ :=
    receiveFollow_ok_iff.mpr ⟨hremote, hfollower.symm, rfl⟩
  rw [hfollow.follow_program hid hreceive] at hB
  obtain ⟨reply, -, hB⟩ := hB.of_map
  obtain ⟨hrow, hsent⟩ :=
    @follow_processed _ b ⟨follower, b.id, _, _⟩ rfl ⟨storeB, []⟩ siteB keyPair hkey reply hB
  have haccept : receiveAcceptFollow a verified (createFollow a remote f).relationship
      (Accept.new acceptId (.id b.id) (.object
        { (createFollow a remote f).activity with actor := .object follower })) = .ok () := by
    refine receiveAcceptFollow_ok_iff.mpr ⟨rfl, hremote.trans hverified.symm, hverified.symm, rfl,
      fun follow he => ?_, fun follow he => ?_⟩
    · cases he
      exact hfollower
    · cases he
      exact hremote.trans hverified.symm
  refine ⟨acceptId, _, hid, hreceive, hfollower ▸ hrow, hsent, haccept,
    fun siteA siteA' callA outcomeA hkept harrives hA => ?_⟩
  have hpending : followView f siteA =
      some (SqliteStore.followRow (createFollow a remote f).relationship .pending) :=
    hkept.trans (followView_storePendingFollow hunused [])
  obtain ⟨next, hprogram, hnext⟩ := harrives.accept_program haccept
  rw [hprogram] at hA
  obtain ⟨reply, rfl, hrun⟩ := hA.of_map
  obtain ⟨rfl, haccepted⟩ := accept_processed hpending hnext hrun
  exact ⟨rfl, hpending, haccepted⟩

end

section
attribute [local instance] libraries
open Libraries

theorem isIriChar_of_fragment {c : Char} (h : isFragmentChar c = true ∨ c = '%') :
    isIriChar c = true ∧ c ≠ '#' := by
  have hother : ∀ d ∈ ['-', '.', '_', '~', '!', '$', '&', '\'', '(', ')', '*', '+', ',', ';', '=',
      ':', '@', '/', '?', '%'], isIriChar d = true ∧ d ≠ '#' := by
    have hall : ['-', '.', '_', '~', '!', '$', '&', '\'', '(', ')', '*', '+', ',', ';', '=', ':',
        '@', '/', '?', '%'].all (fun d => isIriChar d && d != '#') = true := by decide
    intro d hd
    have hchar := List.all_eq_true.mp hall d hd
    rw [Bool.and_eq_true, bne_iff_ne] at hchar
    exact hchar
  rcases h with h | rfl
  · rw [isFragmentChar, Bool.or_eq_true] at h
    rcases h with h | h
    · have hrange := isAlphanum_iff.mp h
      refine ⟨?_, ?_⟩
      · have halnum : ∀ d ∈ ['"', '<', '>', '\\', '^', '\x60', '{', '|', '}'],
            d.isAlphanum = false := by
          have hall : ['"', '<', '>', '\\', '^', '\x60', '{', '|', '}'].all
              (fun d => !d.isAlphanum) = true := by decide
          intro d hd
          simpa using List.all_eq_true.mp hall d hd
        have hnot : ['"', '<', '>', '\\', '^', '\x60', '{', '|', '}'].contains c = false := by
          rw [← Bool.not_eq_true, List.contains_iff_mem]
          intro hc
          rw [halnum c hc] at h
          cases h
        have hcontrol : isControl c = false := by
          simp only [isControl, Bool.or_eq_false_iff, Bool.and_eq_false_iff, decide_eq_false_iff_not]
          omega
        have hblank : decide (0x20 < c.toNat) = true := decide_eq_true (by omega)
        rw [isIriChar, hblank, hcontrol, hnot]
        rfl
      · rintro rfl
        exact absurd h (by decide)
    · exact hother c (List.mem_append_left ['%'] (List.contains_iff_mem.mp h))
  · exact hother _ (by decide)

theorem libraries_allowsFragments : AllowsFragments := by
  intro i fragment hplain hfragment
  have hvalid : validIri i.str = true := i.valid
  show validIri (i.str ++ "#" ++ fragment) = true
  unfold validIri at hvalid ⊢
  split at hvalid
  · rename_i c scheme rest hsplit
    obtain ⟨hstr, hcolon⟩ := splitOnce_eq hsplit
    rw [Bool.and_eq_true, Bool.and_eq_true, Bool.and_eq_true] at hvalid
    obtain ⟨⟨⟨hc, hscheme⟩, hrest⟩, -⟩ := hvalid
    have hlist : (i.str ++ "#" ++ fragment).toList =
        (c :: scheme) ++ ':' :: (rest ++ '#' :: fragment.toList) := by
      rw [String.toList_append, String.toList_append, hstr]
      simp
    rw [hlist, splitOnce_of_not_mem hcolon]
    have hnone : '#' ∉ rest := fun h => hplain (by rw [hstr]; simp [h])
    have hchars := fun d hd => isIriChar_of_fragment (fragment_chars hfragment d hd)
    have hall : (rest ++ '#' :: fragment.toList).all isIriChar = true := by
      rw [List.all_append, hrest, Bool.true_and, List.all_cons,
        List.all_eq_true.mpr fun d hd => (hchars d hd).1]
      rfl
    have hcount : (rest ++ '#' :: fragment.toList).count '#' ≤ 1 := by
      rw [List.count_append, List.count_cons_self, List.count_eq_zero_of_not_mem hnone,
        List.count_eq_zero_of_not_mem fun h => (hchars _ h).2 rfl]
    dsimp only
    rw [hc, hscheme, hall, decide_eq_true hcount]
    rfl
  · cases hvalid

/-- alice follows bob, and both servers complete it -/
theorem handshake_completes_of_peers : ∃ callB callA : Call,
    (Prog.run (handle fun _ => .ok ()) ⟨Peer.bob.store, []⟩
      callB.program).2.store.followers.lookup (Peer.alice.actor.id.str, Peer.bob.actor.id.str) =
        some (SqliteStore.followerRow Peer.alice.actor) ∧
    followView Peer.followId (Prog.run (handle fun _ => .ok ())
      ⟨Peer.alice.store.storePendingFollow Peer.pendingFollow, []⟩ callA.program).2 =
        some (SqliteStore.followRow Peer.pendingFollow .accepted) := by
  obtain ⟨r, hr⟩ := Peer.exists_request .alice .bob Peer.follow.serialize
  have hfollow : Arrives Peer.bob.actor Peer.alice.actor Peer.follow.serialize
      (.inbox Peer.bob.server Peer.bob.host hr.received) :=
    .inbox (congrArg Except.ok (if_pos rfl))
      ⟨rfl, isActivity_received hr.built (by decide), hr.built.body, hr.verified⟩
  have hkey : Peer.bob.store.loadActorKeyPair Peer.bob.actor.id = .ok (some Peer.bob.keyPair) :=
    congrArg Prod.fst (@Peer.load_keyPair .bob Peer.bob.store rfl)
  obtain ⟨acceptId, outcome, _, _, hrow, _, _, haccepted⟩ := handshake_completes
    libraries_allowsFragments Peer.alice.actor Peer.bob.actor Peer.bob.actor Peer.alice.actor
    Peer.bob.actor Peer.followId (by decide) rfl rfl rfl Peer.alice.store Peer.bob.store rfl
    Peer.bob.keyPair hkey _ hfollow _ _
    (keeps_run (fun _ => .ok ()) _ ⟨Peer.bob.store, []⟩ _)
  obtain ⟨r', hr'⟩ := Peer.exists_request .bob .alice outcome.accept.serialize
  have haccept : Arrives Peer.alice.actor Peer.bob.actor outcome.accept.serialize
      (.inbox Peer.alice.server Peer.alice.host hr'.received) :=
    .inbox (congrArg Except.ok (if_pos rfl))
      ⟨rfl, isActivity_received hr'.built (by decide), hr'.built.body, hr'.verified⟩
  obtain ⟨_, _, hrowA⟩ := haccepted
    ⟨Peer.alice.store.storePendingFollow Peer.pendingFollow, []⟩ _ _ _ rfl haccept
    (keeps_run (fun _ => .ok ()) _ _ _)
  exact ⟨_, _, hrow, hrowA⟩

end

end Feder
