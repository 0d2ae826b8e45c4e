import Feder.Server.Libraries
import Feder.Server.Requests

/-!
# The shared inbox refines the personal inbox

The shared inbox finds the recipient of an activity in its raw JSON, and the pending relationship
of an Accept before it reads the activity.  Where the slots of the activity are texts or objects,
this comes to the same as the processing of the activity in the inbox of that recipient.

* `reference_slot`             the raw and the typed reading of a slot find the same id;
* `routed_of_write`            an activity that makes a write is routed to its local actor;
* `sharedInbox_refines_inbox`  the refinement.
-/

namespace Feder
open Serde

/-! ## raw and typed slots -/

/-- a text or an object -/
def isSlot : Json → Bool
  | .str _ | .obj _ => true
  | _ => false

/-- the slots that name the recipient of an activity are texts or objects -/
structure PlainSlots (value : Json) : Prop where
  object : ∀ j, value.get "object" = some j → isSlot j = true
  nested : ∀ j k, value.get "object" = some j → j.get "object" = some k → isSlot k = true

theorem slots_obj {names : List String} {fields : List (String × Json)} {field : String → Slot}
    (h : slots names (.obj fields) = some field) :
    field = fun n => .ofKey (fields.lookup n) := by
  change (if _ then some _ else none) = some field at h
  split at h
  · cases h
    rfl
  · cases h

theorem required_ofKey {α : Type} {de : Json → Option α} {o : Option Json} {a : α}
    (h : required de (.ofKey o) = some a) : ∃ j, o = some j ∧ de j = some a := by
  cases o with
  | none => cases h
  | some j => exact ⟨j, rfl, h⟩

section
variable [Crates]

theorem valueReferenceId_obj {fields : List (String × Json)} {i : Iri}
    (h : required Iri.deserialize (.ofKey (fields.lookup "id")) = some i) :
    valueReferenceId (.obj fields) = some i := by
  obtain ⟨j, hj, hi⟩ := required_ofKey h
  unfold valueReferenceId
  rw [Json.asStr_obj, Option.orElse_none, Json.get_obj, hj, Option.bind_some]
  cases j with
  | str s => exact hi
  | null | bool | int | decimal | arr | obj => cases hi

theorem Actor.slot_id {fields : List (String × Json)} {a : Actor}
    (h : Actor.deserialize (.obj fields) = some a) : valueReferenceId (.obj fields) = some a.id := by
  unfold Actor.deserialize at h
  obtain ⟨field, hfield, h⟩ := Option.bind_eq_some_iff.mp h
  obtain ⟨_, _, h⟩ := Option.bind_eq_some_iff.mp h
  obtain ⟨_, _, h⟩ := Option.bind_eq_some_iff.mp h
  obtain ⟨id, hid, h⟩ := Option.bind_eq_some_iff.mp h
  -- the fields behind the id play no part
  obtain ⟨_, _, h⟩ := Option.bind_eq_some_iff.mp h
  obtain ⟨_, _, h⟩ := Option.bind_eq_some_iff.mp h
  obtain ⟨_, _, h⟩ := Option.bind_eq_some_iff.mp h
  obtain ⟨_, _, h⟩ := Option.bind_eq_some_iff.mp h
  obtain ⟨_, _, h⟩ := Option.bind_eq_some_iff.mp h
  obtain ⟨_, _, h⟩ := Option.bind_eq_some_iff.mp h
  obtain ⟨_, _, h⟩ := Option.bind_eq_some_iff.mp h
  cases h
  rw [slots_obj hfield] at hid
  exact valueReferenceId_obj hid

theorem Follow.slots_of_deserialize {fields : List (String × Json)} {f : Follow}
    (h : Follow.deserialize (.obj fields) = some f) :
    valueReferenceId (.obj fields) = some f.id ∧
      ∃ j, fields.lookup "object" = some j ∧
        Reference.deserialize Actor.deserialize j = some f.object := by
  unfold Follow.deserialize at h
  simp only [Option.bind_eq_bind, Option.bind_eq_some_iff] at h
  obtain ⟨field, hfield, _, _, _, _, id, hid, actor, _, object, hobject, h⟩ := h
  cases h
  rw [slots_obj hfield] at hid hobject
  exact ⟨valueReferenceId_obj hid, required_ofKey hobject⟩

theorem Accept.slot_of_deserialize {fields : List (String × Json)} {a : Accept}
    (h : Accept.deserialize (.obj fields) = some a) :
    ∃ j, fields.lookup "object" = some j ∧
      Reference.deserialize Follow.deserialize j = some a.object := by
  unfold Accept.deserialize at h
  simp only [Option.bind_eq_bind, Option.bind_eq_some_iff] at h
  obtain ⟨field, hfield, _, _, _, _, _, _, _, _, object, hobject, h⟩ := h
  cases h
  rw [slots_obj hfield] at hobject
  exact required_ofKey hobject

theorem Undo.slot_of_deserialize {fields : List (String × Json)} {u : Undo}
    (h : Undo.deserialize (.obj fields) = some u) :
    ∃ j, fields.lookup "object" = some j ∧
      Reference.deserialize Follow.deserialize j = some u.object := by
  unfold Undo.deserialize at h
  simp only [Option.bind_eq_bind, Option.bind_eq_some_iff] at h
  obtain ⟨field, hfield, _, _, _, _, _, _, _, _, object, hobject, h⟩ := h
  cases h
  rw [slots_obj hfield] at hobject
  exact required_ofKey hobject

/-- **The raw and the typed reading of a slot find the same id.** -/
theorem reference_slot {α : Type} {de : Json → Option α} {idOf : α → Iri}
    (hobj : ∀ fields a, de (.obj fields) = some a → valueReferenceId (.obj fields) = some (idOf a))
    {j : Json} (hslot : isSlot j = true) {r : Reference α}
    (hstr : ∀ s, de (.str s) = none) (h : Reference.deserialize de j = some r) :
    (∃ i, r = .id i ∧ valueReferenceId j = some i) ∨
      ∃ a fields, r = .object a ∧ j = .obj fields ∧ de j = some a ∧
        valueReferenceId j = some (idOf a) := by
  rcases Reference.deserialize_eq_some.mp h with ⟨i, hi, rfl⟩ | ⟨_, a, ha, rfl⟩
  · refine Or.inl ⟨i, rfl, ?_⟩
    cases j with
    | str s => exact hi
    | null | bool | int | decimal | arr | obj => cases hi
  · cases j with
    | str s =>
      rw [hstr] at ha
      cases ha
    | obj fields => exact Or.inr ⟨a, fields, rfl, rfl, ha, hobj fields a ha⟩
    | null | bool | int | decimal | arr => cases hslot

theorem actor_slot {j : Json} {r : Reference Actor} (hslot : isSlot j = true)
    (h : Reference.deserialize Actor.deserialize j = some r) :
    valueReferenceId j = some (referenceId r) := by
  rcases reference_slot (fun _ _ => Actor.slot_id) hslot (fun _ => rfl) h with
    ⟨i, rfl, hi⟩ | ⟨a, _, rfl, _, _, ha⟩
  · exact hi
  · exact ha

theorem follow_slot {j : Json} {r : Reference Follow} (hslot : isSlot j = true)
    (h : Reference.deserialize Follow.deserialize j = some r) :
    valueReferenceId j = some (followReferenceId r) ∧
      ∀ f, r = .object f → ∃ fields, j = .obj fields ∧ Follow.deserialize j = some f := by
  rcases reference_slot (fun _ _ h => (Follow.slots_of_deserialize h).1) hslot (fun _ => rfl) h with
    ⟨i, rfl, hi⟩ | ⟨f, fields, rfl, hj, hf, hid⟩
  · exact ⟨hi, fun f e => by cases e⟩
  · refine ⟨hid, fun f' e => ?_⟩
    cases e
    exact ⟨fields, hj, hf⟩

omit [Crates] in
theorem obj_of_activityType {value : Json} {kind : String} (h : activityType value = some kind) :
    ∃ fields, value = .obj fields := by
  cases value with
  | obj fields => exact ⟨fields, rfl⟩
  | null | bool | int | decimal | str | arr => cases h

/-! ## the recipient -/

theorem target_of_follow {value : Json} {f : Follow} (hslots : PlainSlots value)
    (htype : activityType value = some "Follow") (h : Follow.deserialize value = some f) :
    activityTargetId value = some (referenceId f.object) := by
  obtain ⟨fields, rfl⟩ := obj_of_activityType htype
  obtain ⟨_, j, hj, hobject⟩ := Follow.slots_of_deserialize h
  unfold activityTargetId
  rw [htype, Json.get_obj, hj]
  show valueReferenceId j = _
  exact actor_slot (hslots.object j hj) hobject

theorem target_of_undo {value : Json} {u : Undo} {f : Follow} (hslots : PlainSlots value)
    (htype : activityType value = some "Undo") (h : Undo.deserialize value = some u)
    (hf : u.object = .object f) : activityTargetId value = some (referenceId f.object) := by
  obtain ⟨fields, rfl⟩ := obj_of_activityType htype
  obtain ⟨j, hj, hobject⟩ := Undo.slot_of_deserialize h
  obtain ⟨inner, rfl, hfollow⟩ := (follow_slot (hslots.object j hj) hobject).2 f hf
  obtain ⟨_, k, hk, hnested⟩ := Follow.slots_of_deserialize hfollow
  unfold activityTargetId
  rw [htype, Json.get_obj, hj]
  show ((Json.obj inner).get "object").bind valueReferenceId = _
  rw [Json.get_obj, hk, Option.bind_some]
  exact actor_slot (hslots.nested (.obj inner) k hj hk) hnested

theorem target_of_accept {value : Json} {a : Accept} (hslots : PlainSlots value)
    (htype : activityType value = some "Accept") (h : Accept.deserialize value = some a) :
    (value.get "object").bind valueReferenceId = some (followReferenceId a.object) := by
  obtain ⟨fields, rfl⟩ := obj_of_activityType htype
  obtain ⟨j, hj, hobject⟩ := Accept.slot_of_deserialize h
  rw [Json.get_obj, hj, Option.bind_some]
  exact (follow_slot (hslots.object j hj) hobject).1

theorem sharedTarget_of_type {store : SqliteStore} {value : Json} {kind : String}
    (htype : activityType value = some kind) (hkind : kind ≠ "Accept") {target : Iri}
    (h : activityTargetId value = some target) :
    store.sharedTarget value = some (target, none) := by
  unfold SqliteStore.sharedTarget
  rw [if_neg, h]
  · rfl
  · rw [htype, Option.some.injEq]
    exact hkind

/-- **An activity that makes a write in the inbox of a local actor is routed to this actor.** -/
theorem routed_of_write {d : Delivery} {store : SqliteStore} {w : StoreCall}
    (hslots : PlainSlots d.value) (hpending : d.pendingFollow = none)
    (h : d.write store = some w) :
    ∃ pending, store.sharedTarget d.value = some (d.localActor.id, pending) := by
  unfold Delivery.write at h
  cases hd : d.decide with
  | error reply =>
    rw [hd] at h
    cases h
  | ok decision =>
    rw [hd] at h
    obtain ⟨verifiedActor, _, hdecided⟩ := decide_ok hd
    cases hdecided with
    | follow htype ho =>
      obtain ⟨follow, _, _, hfollow, _, _, hreceive⟩ := decideFollow_ok ho
      have htarget := target_of_follow hslots htype hfollow
      rw [(receiveFollow_ok_iff.mp hreceive).1] at htarget
      exact ⟨none, sharedTarget_of_type htype (by decide) htarget⟩
    | undo htype ho =>
      obtain ⟨undo, _, hundo, _, hreceive⟩ := decideUndo_ok ho
      obtain ⟨_, ⟨f, hf, _, hobject⟩, _⟩ := receiveUndoFollow_ok_iff.mp hreceive
      have htarget := target_of_undo hslots htype hundo hf
      rw [hobject] at htarget
      exact ⟨none, sharedTarget_of_type htype (by decide) htarget⟩
    | @accept remoteActor accept htype ho =>
      obtain ⟨haccept, _⟩ := decideAccept_ok ho
      obtain ⟨p, hp, hok⟩ := Option.bind_eq_some_iff.mp h
      have hlocal : p.localActor = d.localActor.id := by
        split at hok
        · rename_i hreceive
          exact (receiveAcceptFollow_ok_iff.mp hreceive).pendingLocal
        · cases hok
      unfold Delivery.considered at hp
      rw [hpending] at hp
      refine ⟨some p, ?_⟩
      unfold SqliteStore.sharedTarget
      rw [if_pos htype, target_of_accept hslots htype haccept, Option.bind_some]
      dsimp only at hp
      rw [hp, Option.map_some, hlocal]

/-! ## the two routes -/

/-- the same activity on its two routes to one local actor: the deliveries differ only in the
request that carries it, in the inbox and in the pending relationship found before -/
structure SameActivity (d d' : Delivery) : Prop where
  server : d'.server = d.server
  localActor : d'.localActor = d.localActor
  value : d'.value = d.value
  authenticated : d'.authenticate = d.authenticate

theorem SameActivity.decide_eq {d d' : Delivery} (h : SameActivity d d') :
    d'.decide = d.decide := by
  obtain ⟨hserver, hactor, hvalue, hauth⟩ := h
  have hremote : d'.remoteActor = d.remoteActor := by
    funext verifiedActor reference
    unfold Delivery.remoteActor
    rw [hserver]
  unfold Delivery.decide
  rw [hauth, hvalue]
  congr 1
  funext verifiedActor
  have hfollow : d'.decideFollow verifiedActor = d.decideFollow verifiedActor := by
    unfold Delivery.decideFollow
    rw [hvalue, hactor, hremote]
  have haccept : d'.decideAccept verifiedActor = d.decideAccept verifiedActor := by
    unfold Delivery.decideAccept
    rw [hvalue, hremote]
  have hundo : d'.decideUndo verifiedActor = d.decideUndo verifiedActor := by
    unfold Delivery.decideUndo
    rw [hvalue, hactor, hremote]
  rw [hfollow, haccept, hundo]

/-- the verification of a request looks at no more of the inbox than its host -/
theorem verifySignedRequest_of_host {resolver : ActorResolver} {now : Int} {request : InboxRequest}
    {actorId inbox inbox' : Iri}
    (h : ∀ headers, verifyRequestHost headers inbox' = verifyRequestHost headers inbox) :
    verifySignedRequest resolver now request actorId inbox' =
      verifySignedRequest resolver now request actorId inbox := by
  unfold verifySignedRequest
  rw [h]

section
variable (deliver : Attempt → Except SendError Unit) (site : Site)

theorem run_receiveActivity_routed {d d' : Delivery} (hsame : SameActivity d d')
    (hslots : PlainSlots d.value) (hpending : d.pendingFollow = none) {target : Iri}
    (hrouted : site.store.sharedTarget d.value = some (target, d'.pendingFollow)) :
    Prog.run (handle deliver) site (receiveActivity d') =
      Prog.run (handle deliver) site (receiveActivity d) := by
  unfold receiveActivity
  rw [hsame.decide_eq, hsame.localActor]
  cases hd : d.decide with
  | error reply => rfl
  | ok decision =>
    obtain ⟨verifiedActor, _, hdecided⟩ := decide_ok hd
    cases hdecided with
    | follow | undo => rfl
    | @accept remoteActor accept htype ho =>
      obtain ⟨haccept, _⟩ := decideAccept_ok ho
      unfold SqliteStore.sharedTarget at hrouted
      rw [if_pos htype, target_of_accept hslots htype haccept, Option.bind_some] at hrouted
      obtain ⟨p, hp, htarget⟩ := Option.map_eq_some_iff.mp hrouted
      have hp' : d'.pendingFollow = some p := (Prod.mk.inj htarget).2.symm
      have hload := SqliteStore.pending_eq_some.mp hp
      have hcall : site.store.call (.loadPendingFollow (followReferenceId accept.object)) =
          (.ok (some p), site.store) := by
        show (site.store.loadPendingFollow _, site.store) = _
        rw [hload]
      dsimp only
      unfold findPending
      rw [hp', hpending, hsame.localActor]
      dsimp only
      rw [if_pos (SqliteStore.followActivity_of_load hload), run_tryStore deliver site hcall]

/-- **The shared inbox refines the personal inbox.**  The dispatcher is coherent for a local actor
with a shared inbox, and two requests carry the same activity, whose slots are texts or objects,
to both inboxes, with the same verification.  Where the shared inbox routes the activity to the
local actor, both give the same reply, store and deliveries; where it routes it to no local actor,
the personal inbox leaves the store alone. -/
theorem sharedInbox_refines_inbox (server : FederServer) (identifier : String) (localActor : Actor)
    (sharedInboxId : Iri) (request request' : InboxRequest) (r r' : InboxRequest) (value : Json)
    (hidentifier : server.getActor identifier = .ok (some localActor))
    (hcoherent : server.getActorById localActor.id = .ok (some localActor))
    (hshared : localActor.sharedInbox = some sharedInboxId)
    (hparse : parseInboxRequest request = .ok (r, value))
    (hparse' : parseInboxRequest request' = .ok (r', value))
    (hverify : ∀ actorId,
      verifySignedRequest server.resolver server.now r' actorId sharedInboxId =
        verifySignedRequest server.resolver server.now r actorId localActor.inbox)
    (hslots : PlainSlots value) :
    (∀ pending, site.store.sharedTarget value = some (localActor.id, pending) →
      Prog.run (handle deliver) site (sharedInbox server request') =
        Prog.run (handle deliver) site (inbox server identifier request)) ∧
    ((∀ target pending, site.store.sharedTarget value = some (target, pending) →
        server.getActorById target = .ok none) →
      (Prog.run (handle deliver) site (inbox server identifier request)).2.store =
        site.store) := by
  let d : Delivery := ⟨server, localActor, localActor.inbox, r, value, none⟩
  have hinbox : inbox server identifier request = receiveActivity d := by
    unfold inbox
    rw [hidentifier]
    dsimp only
    rw [hparse]
  constructor
  · intro pending hrouted
    let d' : Delivery := ⟨server, localActor, sharedInboxId, r', value, pending⟩
    have hsame : SameActivity d d' := by
      refine ⟨rfl, rfl, rfl, ?_⟩
      unfold Delivery.authenticate
      dsimp only [d, d']
      cases server.inboxAuthPolicy with
      | AllowUnsignedInsecureDev => rfl
      | RequireSigned =>
        cases activityActorId value with
        | none => rfl
        | some actorId =>
          dsimp only
          rw [hverify]
    have hdelivery : sharedDelivery server r' value (localActor.id, pending) = some d' := by
      unfold sharedDelivery
      rw [hcoherent]
      dsimp only
      rw [hshared]
      rfl
    have htarget : (site.store.sharedTarget value).bind (sharedDelivery server r' value) =
        some d' := by
      rw [hrouted, Option.bind_some]
      exact hdelivery
    unfold sharedInbox
    rw [hparse', hinbox]
    dsimp only
    rcases run_sharedInboxTarget deliver site value (receiveShared server r' value) with
      hrun | ⟨hnone, _⟩
    · rw [hrun, run_receiveShared htarget]
      exact run_receiveActivity_routed deliver site hsame hslots rfl hrouted
    · rw [hnone] at hrouted
      cases hrouted
  · intro hunrouted
    rw [hinbox, run_receiveActivity_store]
    cases hw : d.write site.store with
    | none => rfl
    | some w =>
      obtain ⟨pending, hrouted⟩ := routed_of_write hslots rfl hw
      have hnone := hunrouted _ _ hrouted
      rw [show d.localActor.id = localActor.id from rfl, hcoherent] at hnone
      cases hnone

end

end

section
attribute [local instance] libraries

/-- bob's Accept is confirmed through either inbox of alice -/
theorem sharedInbox_refines_inbox_of_bob : ∃ request,
    parseInboxRequest request = .ok (request, Peer.accept.serialize) ∧
    Prog.run (handle fun _ => .ok ()) ⟨Peer.alice.store.storePendingFollow Peer.pendingFollow, []⟩
        (sharedInbox Peer.alice.server request) =
      Prog.run (handle fun _ => .ok ()) ⟨Peer.alice.store.storePendingFollow Peer.pendingFollow, []⟩
        (inbox Peer.alice.server Peer.alice.host request) := by
  obtain ⟨r, hr⟩ := Peer.exists_request .bob .alice Peer.accept.serialize
  obtain ⟨hparse, _⟩ := hr.accept_received
  obtain ⟨j, hobject, hslot, hid, hnested⟩ : ∃ j, Peer.accept.serialize.get "object" = some j ∧
      isSlot j = true ∧ valueReferenceId j = some Peer.followId ∧
      j.get "object" = some Peer.bob.actor.id.serialize :=
    ⟨_, rfl, rfl, by decide, rfl⟩
  have hload : (Peer.alice.store.storePendingFollow Peer.pendingFollow).pending Peer.followId =
      some Peer.pendingFollow :=
    SqliteStore.pending_eq_some.mpr (SqliteStore.load_storePendingFollow rfl)
  have hrouted : (Peer.alice.store.storePendingFollow Peer.pendingFollow).sharedTarget
      Peer.accept.serialize = some (Peer.alice.actor.id, some Peer.pendingFollow) := by
    unfold SqliteStore.sharedTarget
    rw [if_pos (activityType_accept _), hobject, Option.bind_some, hid, Option.bind_some, hload]
    rfl
  have hslots : PlainSlots Peer.accept.serialize := by
    refine ⟨fun j' hj => ?_, fun j' k hj hk => ?_⟩
    · rw [hobject] at hj
      cases hj
      exact hslot
    · rw [hobject] at hj
      cases hj
      rw [hnested] at hk
      cases hk
      rfl
  have hhost : ∀ headers, verifyRequestHost headers ⟨"http://a.x/inbox", by decide⟩ =
      verifyRequestHost headers Peer.alice.actor.inbox := fun _ => rfl
  have hrefines := sharedInbox_refines_inbox (fun _ => .ok ())
    ⟨Peer.alice.store.storePendingFollow Peer.pendingFollow, []⟩ Peer.alice.server Peer.alice.host
    Peer.alice.actor ⟨"http://a.x/inbox", by decide⟩ hr.received hr.received hr.received hr.received
    Peer.accept.serialize rfl rfl rfl hparse hparse
    (fun actorId => verifySignedRequest_of_host hhost) hslots
  exact ⟨hr.received, hparse, hrefines.1 _ hrouted⟩

end

end Feder
