import Feder.Server.FollowersPage

/-!
# Delivery beside other calls

`create_note` while the followers change: its deliveries go to those who are followers at the moment
of its listing.

* `replays_createNote`   what a call has done when it succeeds;
* `note_delivered`       who has got the Note.
-/

namespace Feder
open Serde

section
variable [Crates]

/-! ## what a call has done -/

/-- what a call has done when it succeeds -/
structure Created (server : FederServer) (localActor : Actor) (input : CreateNoteInput)
    (past listed : List OpEvent) (audience : Audience) : Prop where
  lists : Lists.Of (Feder.createNote localActor input).recipients listed
  audience_eq : audience = (Feder.createNote localActor input).recipients.foldl
    (resolveRecipient server.resolver) ((listedTargets listed).foldl coverTarget .empty)
  resolved : audience.firstActorResolveError = none
  past_eq : ∃ sent, past = stored (.storeNote (Feder.createNote localActor input).note) (.ok ()) ::
      (listed ++ sent) ∧
    (audience.inboxes = [] ∧ sent = [] ∨ ∃ keyPair,
      sent = stored (.loadActorKeyPair localActor.id) (.ok (some keyPair)) ::
        audience.inboxes.map (delivered localActor keyPair
          ((Feder.createNote localActor input).activity.serialize Note.serialize)))

theorem replays_createNote {server : FederServer} {localActorId : Iri} {input : CreateNoteInput}
    {past : List OpEvent} {outcome : CreateNoteOutcome}
    (h : (server.createNote localActorId input).Replays past (.ok outcome)) :
    ∃ localActor listed audience, server.getActorById localActorId = .ok (some localActor) ∧
      outcome = Feder.createNote localActor input ∧
      Created server localActor input past listed audience := by
  unfold FederServer.createNote at h
  cases hactor : server.getActorById localActorId with
  | error e =>
    rw [hactor] at h
    cases h.2
  | ok actor =>
    cases actor with
    | none =>
      rw [hactor] at h
      cases h.2
    | some localActor =>
      rw [hactor] at h
      obtain ⟨answer, later, rfl, hlater⟩ := h
      cases answer with
      | error e => cases hlater.2
      | ok u =>
        obtain ⟨listed, rest, rfl, hlists, hrest⟩ := replays_coverFollowers hlater
        beta_reduce at hrest
        generalize haudience : (Feder.createNote localActor input).recipients.foldl
          (resolveRecipient server.resolver) ((listedTargets listed).foldl coverTarget .empty) =
            audience at hrest
        refine ⟨localActor, listed, audience, rfl, ?_⟩
        by_cases hempty : audience.inboxes.isEmpty = true
        · rw [if_pos hempty] at hrest
          cases hresolve : audience.firstActorResolveError with
          | some e =>
            rw [hresolve] at hrest
            cases hrest.2
          | none =>
            rw [hresolve] at hrest
            obtain ⟨rfl, houtcome⟩ := hrest
            exact ⟨Except.ok.inj houtcome, hlists, haudience.symm, hresolve, [], rfl,
              Or.inl ⟨List.isEmpty_iff.mp hempty, rfl⟩⟩
        · rw [if_neg hempty] at hrest
          obtain ⟨key, later, rfl, hkey⟩ := hrest
          cases key with
          | error e => cases hkey.2
          | ok keyPair =>
            cases keyPair with
            | none => cases hkey.2
            | some keyPair =>
              obtain ⟨sent, rest, error, rfl, hrest, hnone⟩ := replays_sendAll hkey
              cases error with
              | some e => cases hrest.2
              | none =>
                cases hresolve : audience.firstActorResolveError with
                | some e =>
                  rw [hresolve] at hrest
                  cases hrest.2
                | none =>
                  rw [hresolve] at hrest
                  obtain ⟨rfl, houtcome⟩ := hrest
                  obtain ⟨_, rfl⟩ := hnone rfl
                  rw [List.append_nil]
                  exact ⟨Except.ok.inj houtcome, hlists, haudience.symm, hresolve, _, rfl,
                    Or.inr ⟨keyPair, rfl⟩⟩

/-! ## who has got the Note -/

section
variable {server : FederServer} {localActor : Actor} {input : CreateNoteInput}
  {past listed : List OpEvent} {audience : Audience}

theorem Created.sentTo_eq (h : Created server localActor input past listed audience) :
    sentTo past = audience.inboxes := by
  obtain ⟨sent, rfl, hsent⟩ := h.past_eq
  have hlisted := h.lists.sentTo
  unfold sentTo at hlisted ⊢
  rw [List.filterMap_cons_none rfl, List.filterMap_append, hlisted, List.nil_append]
  rcases hsent with ⟨hinboxes, rfl⟩ | ⟨keyPair, rfl⟩
  · rw [hinboxes]
    rfl
  · rw [List.filterMap_cons_none rfl, List.filterMap_map]
    exact List.filterMap_some

theorem Created.gathered (h : Created server localActor input past listed audience) :
    audience.Resolved server.resolver (Feder.createNote localActor input).recipients
      (fun i => ∃ t ∈ listedTargets listed, i = t.deliveryInbox)
      (fun i => ∃ t ∈ listedTargets listed, i = t.actorId) := by
  rw [h.audience_eq]
  exact gathered_listed _ _ _

theorem Created.sent (h : Created server localActor input past listed audience) {inbox : Iri}
    (hinbox : inbox ∈ sentTo past) :
    ∃ keyPair, stored (.loadActorKeyPair localActor.id) (.ok (some keyPair)) ∈ past ∧
      delivered localActor keyPair
        ((Feder.createNote localActor input).activity.serialize Note.serialize) inbox ∈ past := by
  rw [h.sentTo_eq] at hinbox
  obtain ⟨sent, rfl, ⟨hinboxes, rfl⟩ | ⟨keyPair, rfl⟩⟩ := h.past_eq
  · rw [hinboxes] at hinbox
    cases hinbox
  · refine ⟨keyPair, ?_, ?_⟩
    · exact List.mem_cons_of_mem _ (List.mem_append_right _ List.mem_cons_self)
    · exact List.mem_cons_of_mem _ (List.mem_append_right _
        (List.mem_cons_of_mem _ (List.mem_map_of_mem hinbox)))

theorem followers_recipient {localActorId : Iri}
    (h : .Followers localActorId ∈ (Feder.createNote localActor input).recipients) :
    localActorId = localActor.id ∧ addressesFollowers localActor input = true := by
  refine ⟨?_, namesFollowers_iff.mp ⟨localActorId, h⟩⟩
  obtain ⟨address, _, hrecipient⟩ := mem_noteRecipients.mp h
  exact (noteRecipient_followers.mp hrecipient).1

end

section
variable {admits : ServerCall → Prop} {store : SqliteStore} {s : ServerConfig}

/-- the inbox that a Note for the followers goes to, for a follower in the map -/
def Followers.deliveryInbox (followers : Followers) (x localActor : Iri) : Option Iri :=
  (followers (x, localActor)).map fun inboxes => inboxes.2.getD inboxes.1

/-- the call lists the followers of an actor at the step behind `before`, where the history of
Follows and Undos comes to `followers` -/
def ListedAt (trace : List (Nat × OpEvent)) (i : Nat) (localActor : Iri) (followers : Followers) :
    Prop :=
  ∃ before targets, before ++ [(i, stored (.listFollowerDeliveryTargets localActor) (.ok targets))]
    <+: trace ∧ followers = followersAfter ((followerWrites before).map Prod.snd)

theorem listed_of_reachable (h : (wholeServer admits).Reachable { store with followers := ∅ } s)
    {i : Nat} {t : Thread ServerCall Op Op.Answer ServerOutcome} (ht : s.threads[i]? = some t)
    {localActor : Iri} {targets : List FollowerDeliveryTarget}
    (he : stored (.listFollowerDeliveryTargets localActor) (.ok targets) ∈ t.past) :
    ∃ followers ids, ListedAt s.trace i localActor followers ∧
      Lists followers localActor ids targets := by
  obtain ⟨before, after, hpast⟩ := List.append_of_mem he
  obtain ⟨s₁, s₂, _, hreach, _, hrun, _, htrace, hx⟩ := System.executed h ht hpast
  obtain ⟨ids, targets', _, htargets, hlists⟩ :=
    listings_of_represents (followers_represented hreach) localActor
  have hcallOk := executes_ok (wholeServer_exec.mp hx)
  have hlisted : s₁.state.listFollowerDeliveryTargets localActor = .ok targets :=
    congrArg Prod.fst hcallOk
  rw [hlisted] at htargets
  cases htargets
  refine ⟨_, ids, ⟨s₁.trace, targets, ?_, rfl⟩, hlists⟩
  rw [← htrace]
  exact System.trace_prefix hrun

theorem Lists.deliveryInbox_iff {followers : Followers} {localActor : Iri} {ids : List Iri}
    {targets : List FollowerDeliveryTarget} (h : Lists followers localActor ids targets)
    {x inbox : Iri} :
    followers.deliveryInbox x localActor = some inbox ↔
      ∃ target ∈ targets, target.actorId = x ∧ target.deliveryInbox = inbox := by
  unfold Followers.deliveryInbox
  constructor
  · intro hx
    obtain ⟨inboxes, hin, hinbox⟩ := Option.map_eq_some_iff.mp hx
    have hmem : x ∈ targets.map FollowerDeliveryTarget.actorId := by
      rw [h.same, h.mem, hin]
      rfl
    obtain ⟨target, htarget, rfl⟩ := List.mem_map.mp hmem
    have hboth := h.inboxes target htarget
    rw [hin] at hboth
    cases hboth
    exact ⟨target, htarget, rfl, hinbox⟩
  · rintro ⟨target, htarget, rfl, rfl⟩
    rw [h.inboxes target htarget]
    rfl

theorem listed_target (h : (wholeServer admits).Reachable { store with followers := ∅ } s) {i : Nat}
    {t : Thread ServerCall Op Op.Answer ServerOutcome} (ht : s.threads[i]? = some t)
    {localActor : Actor} {input : CreateNoteInput} {listed : List OpEvent}
    (hlists : Lists.Of (Feder.createNote localActor input).recipients listed)
    (hpast : ∀ e ∈ listed, e ∈ t.past) {target : FollowerDeliveryTarget}
    (htarget : target ∈ listedTargets listed) :
    addressesFollowers localActor input = true ∧
      ∃ followers, ListedAt s.trace i localActor.id followers ∧
        followers.deliveryInbox target.actorId localActor.id = some target.deliveryInbox := by
  obtain ⟨l, targets, hl, he, htarget⟩ := hlists.mem_targets.mp htarget
  obtain ⟨rfl, haddresses⟩ := followers_recipient hl
  obtain ⟨followers, ids, hat, hids⟩ := listed_of_reachable h ht (hpast _ he)
  exact ⟨haddresses, followers, hat, hids.deliveryInbox_iff.mpr ⟨target, htarget, rfl, rfl⟩⟩

/-- the inbox is for the Note: that of one who followed the actor when the call listed the
followers, or that of an actor whom the Note addresses -/
def NoteIsFor (trace : List (Nat × OpEvent)) (i : Nat) (server : FederServer) (localActor : Actor)
    (input : CreateNoteInput) (inbox : Iri) : Prop :=
  (addressesFollowers localActor input = true ∧ ∃ followers x,
    ListedAt trace i localActor.id followers ∧
    followers.deliveryInbox x localActor.id = some inbox) ∨
  ∃ e actor, AddressesActor localActor input e ∧ server.resolver.resolve e = .ok actor ∧
    inbox = actor.inbox

theorem noteIsFor_of_gathered (h : (wholeServer admits).Reachable { store with followers := ∅ } s)
    {i : Nat} {t : Thread ServerCall Op Op.Answer ServerOutcome} (ht : s.threads[i]? = some t)
    {server : FederServer} {localActor : Actor} {input : CreateNoteInput} {listed : List OpEvent}
    (hlists : Lists.Of (Feder.createNote localActor input).recipients listed)
    (hpast : ∀ e ∈ listed, e ∈ t.past) {inbox : Iri}
    (hinbox : inbox ∈ ((Feder.createNote localActor input).recipients.foldl
      (resolveRecipient server.resolver)
      ((listedTargets listed).foldl coverTarget .empty)).inboxes) :
    NoteIsFor s.trace i server localActor input inbox := by
  rw [(gathered_listed _ _ _).gathered.inboxes_iff] at hinbox
  rcases hinbox with ⟨target, hmem, rfl⟩ | ⟨e, actor, hneeded, hresolve, rfl⟩
  · obtain ⟨haddresses, followers, hat, hfollower⟩ := listed_target h ht hlists hpast hmem
    exact Or.inl ⟨haddresses, followers, target.actorId, hat, hfollower⟩
  · exact Or.inr ⟨e, actor, (needed_iff.mp hneeded).1, hresolve, rfl⟩

/-- **A Note reaches those who are followers when they are listed.**  In every interleaving of a
server, from an empty table of followers on, a `create_note` that succeeds has delivered its
activity, once to each inbox, under a key of its actor.  If it addresses the followers, it has
listed them at one of its steps, and whoever follows the actor by the history of Follows and Undos
up to that step has got it.  Every actor addressed by name has got it, as a follower or as the
resolver knows the actor, and nobody else has. -/
theorem note_delivered (h : (wholeServer admits).Reachable { store with followers := ∅ } s)
    {i : Nat} {t : Thread ServerCall Op Op.Answer ServerOutcome} {server : FederServer}
    {localActorId : Iri} {input : CreateNoteInput} {outcome : CreateNoteOutcome}
    (ht : s.threads[i]? = some t) (hcall : t.call = .createNote server localActorId input)
    (hrest : t.rest = .ret (.createNote (.ok outcome))) :
    ∃ localActor, server.getActorById localActorId = .ok (some localActor) ∧
      outcome = Feder.createNote localActor input ∧
      (sentTo t.past).Nodup ∧
      (∀ inbox ∈ sentTo t.past, ∃ keyPair,
        stored (.loadActorKeyPair localActor.id) (.ok (some keyPair)) ∈ t.past ∧
        delivered localActor keyPair (outcome.activity.serialize Note.serialize) inbox ∈ t.past) ∧
      (addressesFollowers localActor input = true → ∃ followers,
        ListedAt s.trace i localActor.id followers ∧
        ∀ x inbox, followers.deliveryInbox x localActor.id = some inbox → inbox ∈ sentTo t.past) ∧
      (∀ e, AddressesActor localActor input e → ∃ inbox ∈ sentTo t.past,
        (∃ followers, ListedAt s.trace i localActor.id followers ∧
          followers.deliveryInbox e localActor.id = some inbox) ∨
        ∃ actor, server.resolver.resolve e = .ok actor ∧ inbox = actor.inbox) ∧
      ∀ inbox ∈ sentTo t.past, NoteIsFor s.trace i server localActor input inbox := by
  have hreplays := System.replays_of_reachable h (List.mem_of_getElem? ht) hrest
  change t.call.program.Replays t.past (.createNote (.ok outcome)) at hreplays
  rw [hcall] at hreplays
  obtain ⟨result, hresult, hreplays⟩ := hreplays.of_map
  cases hresult
  obtain ⟨localActor, listed, audience, hactor, rfl, hcreated⟩ := replays_createNote hreplays
  obtain ⟨hgathered, herror⟩ := hcreated.gathered
  have hpast : ∀ e ∈ listed, e ∈ t.past := by
    intro e he
    obtain ⟨sent, hpast, _⟩ := hcreated.past_eq
    rw [hpast]
    exact List.mem_cons_of_mem _ (List.mem_append_left _ he)
  refine ⟨localActor, hactor, rfl, ?_, fun inbox hinbox => hcreated.sent hinbox, ?_, ?_, ?_⟩
  · rw [hcreated.sentTo_eq]
    exact hgathered.nodup
  · intro haddresses
    obtain ⟨l, hl⟩ := namesFollowers_iff.mpr haddresses
    obtain ⟨rfl, _⟩ := followers_recipient hl
    obtain ⟨targets, he⟩ := hcreated.lists.all _ hl
    obtain ⟨followers, ids, hat, hlists⟩ := listed_of_reachable h ht (hpast _ he)
    refine ⟨followers, hat, fun x inbox hx => ?_⟩
    obtain ⟨target, hmem, _, hinbox⟩ := hlists.deliveryInbox_iff.mp hx
    rw [hcreated.sentTo_eq, hgathered.inboxes_iff]
    exact Or.inl ⟨target, hcreated.lists.mem_targets.mpr ⟨_, targets, hl, he, hmem⟩, hinbox.symm⟩
  · intro e haddressed
    rw [hcreated.sentTo_eq]
    by_cases hcovered : ∃ target ∈ listedTargets listed, e = target.actorId
    · obtain ⟨target, hmem, rfl⟩ := hcovered
      obtain ⟨_, followers, hat, hinbox⟩ := listed_target h ht hcreated.lists hpast hmem
      exact ⟨target.deliveryInbox, (hgathered.inboxes_iff _).mpr (Or.inl ⟨target, hmem, rfl⟩),
        Or.inl ⟨followers, hat, hinbox⟩⟩
    · have hneeded : Needed (Feder.createNote localActor input).recipients
          (fun i => ∃ target ∈ listedTargets listed, i = target.actorId) e :=
        needed_iff.mpr ⟨haddressed, hcovered⟩
      obtain ⟨actor, hresolve⟩ := herror.mp hcreated.resolved e hneeded
      exact ⟨actor.inbox, (hgathered.inboxes_iff _).mpr
        (Or.inr ⟨e, actor, hneeded, hresolve, rfl⟩), Or.inr ⟨actor, hresolve, rfl⟩⟩
  · intro inbox hinbox
    rw [hcreated.sentTo_eq, hcreated.audience_eq] at hinbox
    exact noteIsFor_of_gathered h ht hcreated.lists hpast hinbox

end

end

section
attribute [local instance] libraries

/-- a Note of bob to his followers -/
def Peer.followersNote : CreateNoteInput :=
  { Peer.noteInput with to_ := ⟨Peer.followedBob.followers.toList⟩, cc := ⟨[]⟩ }

def Peer.followedBobServer : FederServer :=
  { Peer.bob.server with getActorById := fun _ => .ok (some Peer.followedBob) }

def Peer.followersNoteCall : ServerCall :=
  .createNote Peer.followedBobServer Peer.bob.actor.id Peer.followersNote

theorem Peer.run_followersNote : (Prog.run (handle fun _ => .ok ()) ⟨Peer.followedStore, []⟩
    Peer.followersNoteCall.program).1 =
      .createNote (.ok (createNote Peer.followedBob Peer.followersNote)) := by
  have htargets : Peer.followedStore.listFollowerDeliveryTargets Peer.bob.actor.id =
      .ok [⟨Peer.alice.actor.id, Peer.alice.actor.inbox, Peer.alice.actor.sharedInbox⟩] := by
    decide +kernel
  have hkey : Peer.followedStore.loadActorKeyPair Peer.bob.actor.id =
      .ok (some Peer.bob.keyPair) := congrArg Prod.fst (@Peer.load_keyPair .bob _ rfl)
  have hactor : Peer.followedBobServer.getActorById Peer.bob.actor.id =
      .ok (some Peer.followedBob) := rfl
  obtain ⟨audience, ⟨_, herror⟩, hrun⟩ := run_createNote (fun _ => .ok ()) hactor
    Peer.followersNote (fun _ => htargets) hkey
  show (Prog.run (handle _) _ (Prog.map _ _)).1 = _
  rw [Prog.run_map, hrun]
  dsimp only
  have hresolved : audience.firstActorResolveError = none := by
    refine herror.mpr fun e he => ?_
    obtain ⟨haddressed, hfollowers, _, _⟩ := (needed_iff.mp he).1
    exact absurd (List.mem_singleton.mp haddressed ▸ rfl) hfollowers
  rw [hresolved, (firstError_eq_none _).mpr fun _ _ => rfl]
  rfl

/-- the Note of bob has gone to those who followed him when it was listed -/
theorem note_delivered_of_bob : ∃ (s : ServerConfig) (i : Nat)
    (t : Thread ServerCall Op Op.Answer ServerOutcome) (followers : Followers),
    t.call = Peer.followersNoteCall ∧ (sentTo t.past).Nodup ∧
    ListedAt s.trace i Peer.bob.actor.id followers ∧
    ∀ x inbox, followers.deliveryInbox x Peer.bob.actor.id = some inbox → inbox ∈ sentTo t.past := by
  obtain ⟨s, _, hs, hstate, _, _⟩ := Peer.exists_listing
  have hstart := hs.tail (.start Peer.followersNoteCall trivial)
  have hexec : ∀ (site : Site) (o : Op), (wholeServer ServerCall.Signed).exec
      Peer.followersNoteCall site.store o (handle (fun _ => .ok ()) site o).1
      (handle (fun _ => .ok ()) site o).2.store := by
    intro site o
    cases o with
    | store call => exact Or.inl rfl
    | sendActivity => rfl
  obtain ⟨s', past, hs', hthread⟩ := @System.ended_of_run _ _ _ _ _ _ _ _ _ _ Site.store hstart _ _
    List.getElem?_concat_length ⟨Peer.followedStore, []⟩ hstate hexec
  change s'.threads[s.threads.length]? = some ⟨_, past, .ret (Prog.run (handle _) _
    Peer.followersNoteCall.program).1⟩ at hthread
  rw [Peer.run_followersNote] at hthread
  obtain ⟨localActor, hactor, _, hnodup, _, hfollowers, _⟩ := note_delivered hs' hthread rfl rfl
  cases hactor
  obtain ⟨followers, hat, hall⟩ := hfollowers (by decide)
  exact ⟨s', _, _, followers, rfl, hnodup, hat, hall⟩

end

end Feder
