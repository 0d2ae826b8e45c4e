import Feder.Lib.History
import Feder.Server.AcceptEvidence
import Mathlib.Data.List.Forall2

/-!
# The followers are the history of verified Follows and Undos

An abstract map from pairs of a follower and a local actor to the follower's inboxes, and the
writes on it that a verified Follow and a verified Undo ask for.  The `followers` table represents
the map after any interleaving, and both queries list it.

* `storeFollower_represents`, `removeFollower_represents`   the table follows the map;
* `listings_of_represents`   the two queries agree and list the map;
* `followers_history`        the table is the fold of the writes that the requests ask for.
-/

namespace Feder
open Serde

section
variable [Crates]

/-! ## the abstract map -/

/-- the inbox and the shared inbox of each follower of each local actor -/
abbrev Followers := Iri × Iri → Option (Iri × Option Iri)

inductive FollowerWrite where
  | set (follower following inbox : Iri) (sharedInbox : Option Iri)
  | delete (follower following : Iri)

def FollowerWrite.apply (followers : Followers) : FollowerWrite → Followers
  | .set follower following inbox sharedInbox =>
    Function.update followers (follower, following) (some (inbox, sharedInbox))
  | .delete follower following => Function.update followers (follower, following) none

/-- the map after some writes, the last writer winning -/
def followersAfter (writes : List FollowerWrite) : Followers :=
  writes.foldl FollowerWrite.apply fun _ => none

/-! ## the table represents the map -/

/-- the row of a follower with its inboxes -/
def inboxRow (inboxes : Iri × Option Iri) : FollowerRow where
  inboxUrl := some inboxes.1.str
  sharedInboxUrl := inboxes.2.map Iri.str

structure RepresentsFollowers (store : SqliteStore) (followers : Followers) : Prop where
  row : ∀ x l : Iri, store.followers.lookup (x.str, l.str) = (followers (x, l)).map inboxRow
  key : ∀ k row, store.followers.lookup k = some row → ∃ x l : Iri, k = (x.str, l.str)

theorem pair_str_inj {x l x' l' : Iri} : (x.str, l.str) = (x'.str, l'.str) ↔ (x, l) = (x', l') := by
  rw [Prod.mk.injEq, Prod.mk.injEq, Iri.str_inj, Iri.str_inj]

theorem represents_update {store store' : SqliteStore} {followers : Followers}
    (h : RepresentsFollowers store followers) {x l : Iri} {entry : Option (Iri × Option Iri)}
    (hlookup : ∀ k, store'.followers.lookup k =
      if k = (x.str, l.str) then entry.map inboxRow else store.followers.lookup k) :
    RepresentsFollowers store' (Function.update followers (x, l) entry) := by
  refine ⟨fun x' l' => ?_, fun k row hk => ?_⟩
  · rw [hlookup, Function.update_apply]
    by_cases e : (x', l') = (x, l)
    · rw [if_pos (pair_str_inj.mpr e), if_pos e]
    · rw [if_neg (fun e' => e (pair_str_inj.mp e')), if_neg e, h.row]
  · rw [hlookup] at hk
    by_cases e : k = (x.str, l.str)
    · exact ⟨x, l, e⟩
    · rw [if_neg e] at hk
      exact h.key k row hk

theorem storeFollower_represents {store : SqliteStore} {followers : Followers}
    (h : RepresentsFollowers store followers) (follower : Actor) (following : Iri) :
    RepresentsFollowers (store.storeFollower follower following)
      ((FollowerWrite.set follower.id following follower.inbox follower.sharedInbox).apply
        followers) := by
  apply represents_update h
  intro k
  rw [SqliteStore.lookup_storeFollower]
  rfl

theorem removeFollower_represents {store : SqliteStore} {followers : Followers}
    (h : RepresentsFollowers store followers) (follower following : Iri) :
    RepresentsFollowers (store.removeFollower follower following)
      ((FollowerWrite.delete follower following).apply followers) := by
  apply represents_update h
  intro k
  rw [SqliteStore.lookup_removeFollower]
  rfl

/-! ## the two queries -/

omit [Crates] in
theorem mapM_ok {α β ε : Type} {f : α → Except ε β} {l : List α}
    (h : ∀ a ∈ l, ∃ b, f a = .ok b) :
    ∃ bs, l.mapM f = .ok bs ∧ List.Forall₂ (fun a b => f a = .ok b) l bs := by
  induction l with
  | nil => exact ⟨[], rfl, .nil⟩
  | cons a rest ih =>
    obtain ⟨b, hb⟩ := h a (List.mem_cons_self ..)
    obtain ⟨bs, hbs, hall⟩ := ih fun a' ha' => h a' (List.mem_cons_of_mem _ ha')
    refine ⟨b :: bs, ?_, .cons hb hall⟩
    rw [List.mapM_cons, hb, hbs]
    rfl

omit [Crates] in
theorem map_eq_of_forall₂ {α β γ : Type} {R : α → β → Prop} {g : α → γ} {g' : β → γ}
    {l : List α} {bs : List β} (hg : ∀ a ∈ l, ∀ b, R a b → g a = g' b)
    (h : List.Forall₂ R l bs) : l.map g = bs.map g' := by
  induction h with
  | nil => rfl
  | cons hab _ ih =>
    rw [List.map_cons, List.map_cons, hg _ (List.mem_cons_self ..) _ hab,
      ih fun a ha => hg a (List.mem_cons_of_mem _ ha)]

omit [Crates] in
theorem mem_of_forall₂ {α β : Type} {R : α → β → Prop} {l : List α} {bs : List β}
    (h : List.Forall₂ R l bs) {b : β} (hb : b ∈ bs) : ∃ a ∈ l, R a b := by
  induction h with
  | nil => cases hb
  | cons hab _ ih =>
    rcases List.mem_cons.mp hb with rfl | hb
    · exact ⟨_, List.mem_cons_self .., hab⟩
    · obtain ⟨a, ha, hR⟩ := ih hb
      exact ⟨a, List.mem_cons_of_mem _ ha, hR⟩

theorem parseIri_ok {s : String} {i : Iri} (h : parseIri s = .ok i) : i.str = s := by
  unfold parseIri at h
  split at h
  · rename_i j hj
    cases h
    exact Iri.str_of_parse hj
  · cases h

theorem deliveryTarget_row (x inbox : Iri) (sharedInbox : Option Iri) :
    SqliteStore.deliveryTarget (x.str, inbox.str, sharedInbox.map Iri.str) =
      .ok ⟨x, inbox, sharedInbox⟩ := by
  unfold SqliteStore.deliveryTarget
  cases sharedInbox with
  | none => simp [bind, Except.bind, pure, Except.pure]
  | some url => simp [bind, Except.bind, pure, Except.pure, Except.map]

/-- the followers of a local actor in the map, as a query lists them -/
structure Lists (followers : Followers) (localActor : Iri) (ids : List Iri)
    (targets : List FollowerDeliveryTarget) : Prop where
  same : targets.map FollowerDeliveryTarget.actorId = ids
  sorted : (ids.map Iri.str).Pairwise Table.byteLt
  mem : ∀ x, x ∈ ids ↔ (followers (x, localActor)).isSome = true
  inboxes : ∀ target ∈ targets,
    followers (target.actorId, localActor) = some (target.inbox, target.sharedInbox)

theorem selected_row {store : SqliteStore} {followers : Followers}
    (h : RepresentsFollowers store followers) {localActor : Iri} {k : String × String}
    {row : FollowerRow} (hk : store.followers.lookup k = some row)
    (hsel : (k.2 == localActor.str) = true) :
    ∃ x inboxes, k = (x.str, localActor.str) ∧ followers (x, localActor) = some inboxes ∧
      row = inboxRow inboxes := by
  obtain ⟨x, l, rfl⟩ := h.key k row hk
  have hl := Iri.str_inj.mp (beq_iff_eq.mp hsel)
  subst hl
  rw [h.row] at hk
  obtain ⟨inboxes, hin, hrow⟩ := Option.map_eq_some_iff.mp hk
  exact ⟨x, inboxes, rfl, hin, hrow.symm⟩

theorem deliveryRow_of_represents {store : SqliteStore} {followers : Followers}
    (h : RepresentsFollowers store followers) {localActor x : Iri} {inboxes : Iri × Option Iri}
    (hin : followers (x, localActor) = some inboxes) :
    store.deliveryRow localActor x.str = some (inboxes.1.str, inboxes.2.map Iri.str) := by
  unfold SqliteStore.deliveryRow
  rw [h.row, hin]
  rfl

/-- a listing that finds something for every follower names the followers in the map -/
theorem mem_names_of_represents {τ : Type} {store : SqliteStore} {followers : Followers}
    (h : RepresentsFollowers store followers) {localActor : Iri} {row : String → Option τ}
    (hrow : ∀ x, (followers (x, localActor)).isSome = true → (row x.str).isSome = true) (x : Iri) :
    x.str ∈ (store.followers.listing (fun k => k.2 == localActor.str) Prod.fst row).map Prod.fst ↔
      (followers (x, localActor)).isSome = true := by
  rw [List.mem_map]
  constructor
  · rintro ⟨⟨name, r⟩, hmem, hname⟩
    obtain ⟨⟨k, ⟨_, hk⟩, hsel, hfst⟩, _⟩ := Table.mem_listing.mp hmem
    obtain ⟨x', inboxes, rfl, hin, _⟩ := selected_row h hk hsel
    have hx : x' = x := Iri.str_inj.mp (hfst.trans hname)
    rw [← hx, hin]
    rfl
  · intro hsome
    obtain ⟨inboxes, hin⟩ := Option.isSome_iff_exists.mp hsome
    obtain ⟨r, hr⟩ := Option.isSome_iff_exists.mp (hrow x hsome)
    refine ⟨(x.str, r), Table.mem_listing.mpr ⟨⟨(x.str, localActor.str), ⟨inboxRow inboxes, ?_⟩,
      beq_self_eq_true _, rfl⟩, hr⟩, rfl⟩
    rw [h.row, hin]
    rfl

theorem listFollowers_of_represents {store : SqliteStore} {followers : Followers}
    (h : RepresentsFollowers store followers) (localActor : Iri) :
    ∃ ids, store.listFollowers localActor = .ok ids ∧
      (store.followers.listing (fun k => k.2 == localActor.str) Prod.fst
        (fun _ => some ())).map Prod.fst = ids.map Iri.str := by
  have hread : ∀ a ∈ store.followers.listing (fun k => k.2 == localActor.str) Prod.fst
      (fun _ => some ()), ∃ x, parseIri a.1 = .ok x := by
    rintro ⟨name, _⟩ ha
    obtain ⟨⟨k, ⟨_, hk⟩, hsel, hfst⟩, _⟩ := Table.mem_listing.mp ha
    obtain ⟨x, _, rfl, _, _⟩ := selected_row h hk hsel
    refine ⟨x, ?_⟩
    rw [← hfst]
    exact parseIri_str x
  obtain ⟨ids, hids, hall⟩ := mapM_ok hread
  exact ⟨ids, hids, map_eq_of_forall₂ (fun _ _ _ hab => (parseIri_ok hab).symm) hall⟩

theorem listTargets_of_represents {store : SqliteStore} {followers : Followers}
    (h : RepresentsFollowers store followers) (localActor : Iri) :
    ∃ targets, store.listFollowerDeliveryTargets localActor = .ok targets ∧
      (store.followers.listing (fun k => k.2 == localActor.str) Prod.fst
        (store.deliveryRow localActor)).map Prod.fst =
          (targets.map FollowerDeliveryTarget.actorId).map Iri.str ∧
      ∀ target ∈ targets,
        followers (target.actorId, localActor) = some (target.inbox, target.sharedInbox) := by
  have hread : ∀ a ∈ store.followers.listing (fun k => k.2 == localActor.str) Prod.fst
      (store.deliveryRow localActor), ∃ target, SqliteStore.deliveryTarget a = .ok target ∧
        a.1 = target.actorId.str ∧
        followers (target.actorId, localActor) = some (target.inbox, target.sharedInbox) := by
    rintro ⟨name, r⟩ ha
    obtain ⟨⟨k, ⟨_, hk⟩, hsel, rfl⟩, hr⟩ := Table.mem_listing.mp ha
    obtain ⟨x, inboxes, rfl, hin, _⟩ := selected_row h hk hsel
    rw [deliveryRow_of_represents h hin, Option.some.injEq] at hr
    subst hr
    exact ⟨_, deliveryTarget_row x inboxes.1 inboxes.2, rfl, hin⟩
  obtain ⟨targets, htargets, hall⟩ := mapM_ok fun a ha => (hread a ha).imp fun _ h => h.1
  refine ⟨targets, htargets, ?_, fun target ht => ?_⟩
  · rw [List.map_map]
    refine map_eq_of_forall₂ (fun a ha target hab => ?_) hall
    obtain ⟨_, hab', hname, _⟩ := hread a ha
    cases hab.symm.trans hab'
    exact hname
  · obtain ⟨a, ha, hab⟩ := mem_of_forall₂ hall ht
    obtain ⟨_, hab', _, hin⟩ := hread a ha
    cases hab.symm.trans hab'
    exact hin

/-- **Both queries succeed and list the map**, in the same strictly ascending byte order. -/
theorem listings_of_represents {store : SqliteStore} {followers : Followers}
    (h : RepresentsFollowers store followers) (localActor : Iri) :
    ∃ ids targets, store.listFollowers localActor = .ok ids ∧
      store.listFollowerDeliveryTargets localActor = .ok targets ∧
      Lists followers localActor ids targets := by
  obtain ⟨ids, hids, hnames⟩ := listFollowers_of_represents h localActor
  obtain ⟨targets, htargets, hrows, hinboxes⟩ := listTargets_of_represents h localActor
  have hinjective : Function.Injective Iri.str := fun _ _ => Iri.str_inj.mp
  refine ⟨ids, targets, hids, htargets, ?_, ?_, fun x => ?_, hinboxes⟩
  · -- every row selected by the first query has an inbox, so the second selects it too
    apply List.map_injective_iff.mpr hinjective
    rw [← hrows, ← hnames, Table.listing_keys, Table.listing_keys]
    · intro k row hk hsel
      rfl
    · intro k row hk hsel
      obtain ⟨x, inboxes, rfl, hin, _⟩ := selected_row h hk hsel
      rw [deliveryRow_of_represents h hin]
      rfl
  · rw [← hnames]
    exact Table.listing_sorted ..
  · rw [← List.mem_map_of_injective hinjective, ← hnames]
    exact mem_names_of_represents h (fun _ _ => rfl) x

/-! ## the writes of the requests -/

/-- The write that a verified request asks for: its Follow, or its Undo, passes the decision of
the core for the verified actor and the local actor of the inbox. -/
inductive Call.Asks (c : Call) : FollowerWrite → Prop where
  | follow {pre : List OpEvent} {d : Delivery} {actor : Actor} {follow : Follow} {acceptId : Iri}
      {outcome : FollowOutcome} (hc : c.Delivers pre d) (hd : d.decide = .ok (.follow outcome))
      (hverified : d.VerifiedAs actor) (hfollow : Follow.deserialize d.value = some follow)
      (h : receiveFollow d.localActor actor follow acceptId = .ok outcome) :
      Asks c (.set actor.id d.localActor.id actor.inbox actor.sharedInbox)
  | undo {pre : List OpEvent} {d : Delivery} {actor : Actor} {undo : Undo}
      {outcome : UndoFollowOutcome} (hc : c.Delivers pre d) (hd : d.decide = .ok (.undo outcome))
      (hverified : d.VerifiedAs actor) (hundo : Undo.deserialize d.value = some undo)
      (h : receiveUndoFollow d.localActor actor undo = .ok outcome) :
      Asks c (.delete actor.id d.localActor.id)

/-- the write on the map that a storage step makes -/
def FollowerWrite.ofEvent : OpEvent → Option FollowerWrite
  | ⟨.store (.storeFollower follower following), .ok _⟩ =>
    some (.set follower.id following follower.inbox follower.sharedInbox)
  | ⟨.store (.removeFollower follower following), .ok _⟩ => some (.delete follower following)
  | _ => none

/-- the writes of a trace in the order of their steps, each with the number of its request -/
def followerWrites (trace : List (Nat × OpEvent)) : List (Nat × FollowerWrite) :=
  System.writes FollowerWrite.ofEvent trace

theorem represents_empty {store : SqliteStore} :
    RepresentsFollowers { store with followers := ∅ } fun _ => none :=
  ⟨fun _ _ => rfl, fun _ _ hk => by cases hk⟩

theorem executes_represents {store store' : SqliteStore} {followers : Followers} {call : StoreCall}
    {answer : Except StoreError call.Value} (hx : Executes store call answer store')
    (h : RepresentsFollowers store followers) :
    RepresentsFollowers store'
      ((FollowerWrite.ofEvent (stored call answer)).elim followers (FollowerWrite.apply followers)) := by
  rcases hx with hx | ⟨⟨e, rfl⟩, rfl⟩
  · cases call with
    | storeFollower follower following =>
      cases hx
      exact storeFollower_represents h follower following
    | removeFollower follower following =>
      cases hx
      exact removeFollower_represents h follower following
    | storePendingFollow | storeNote =>
      cases hx
      exact ⟨h.row, h.key⟩
    | listFollowers | listFollowerDeliveryTargets | loadActorKeyPair | loadPendingFollow
    | loadNote =>
      cases hx
      exact h
    | confirmPendingFollow expected =>
      change store.confirmPendingFollow expected = (answer, store') at hx
      have hsame : store'.followers = store.followers := by
        rw [SqliteStore.confirmPendingFollow_eq] at hx
        split at hx
        · cases hx
          rfl
        · split at hx
          · cases hx
            rfl
          · cases hx
            rfl
      refine ⟨fun x l => ?_, fun k row hk => ?_⟩
      · rw [hsame]
        exact h.row x l
      · rw [hsame] at hk
        exact h.key k row hk
  · cases call <;> exact h

theorem delivers_noWrites {c : Call} {pre : List OpEvent} {d : Delivery} (h : c.Delivers pre d) :
    ∀ e ∈ pre, FollowerWrite.ofEvent e = none := by
  cases h with
  | inbox | shared =>
    intro e he
    cases he
  | sharedAccept =>
    intro e he
    cases List.mem_singleton.mp he
    rfl

theorem noWrites_of_callOp {c : Call} {past : List OpEvent} {o : Op} (h : CallOp c past o)
    {answer : o.Answer} (hw : (FollowerWrite.ofEvent ⟨o, answer⟩).isSome = true) :
    ∀ e ∈ past, FollowerWrite.ofEvent e = none := by
  cases h with
  | activity hc h =>
    cases h with
    | storeFollower | removeFollower => exact delivers_noWrites hc
    | loadKey | loadPending | confirm | sendAccept => cases hw
  | loadTarget | storePending | loadKey | sendFollow => cases hw

theorem asks_of_callOp {c : Call} (hpolicy : c.server.inboxAuthPolicy = .RequireSigned)
    {past : List OpEvent} {o : Op} (h : CallOp c past o) {answer : o.Answer} {w : FollowerWrite}
    (hw : FollowerWrite.ofEvent ⟨o, answer⟩ = some w) : c.Asks w := by
  cases h with
  | @activity _ d _ _ _ hc h =>
    have hpolicy' : d.server.inboxAuthPolicy = .RequireSigned := by rw [hc.server_eq, hpolicy]
    cases h with
    | storeFollower hd =>
      obtain ⟨actor, follow, acceptId, hverified, hfollow, _, hreceive⟩ :=
        decide_follow hpolicy' hd
      obtain ⟨_, _, houtcome⟩ := receiveFollow_ok_iff.mp hreceive
      cases answer with
      | error e => cases hw
      | ok u =>
        cases hw
        subst houtcome
        exact .follow hc hd hverified hfollow hreceive
    | removeFollower hd =>
      obtain ⟨actor, undo, hverified, hundo, hreceive⟩ := decide_undo hpolicy' hd
      obtain ⟨_, _, houtcome⟩ := receiveUndoFollow_ok_iff.mp hreceive
      cases answer with
      | error e => cases hw
      | ok u =>
        cases hw
        subst houtcome
        exact .undo hc hd hverified hundo hreceive
    | loadKey | loadPending | confirm | sendAccept => cases hw
  | loadTarget | storePending | loadKey | sendFollow => cases hw

theorem stored_mem_last (past : List OpEvent) (e : OpEvent) : e ∈ past ++ [e] :=
  List.mem_append_right _ (List.mem_singleton.mpr rfl)

theorem stored_of_activityResult {d : Delivery} {pre past : List OpEvent} {reply : Reply}
    (h : ActivityResult d pre past reply) {outcome : FollowOutcome}
    (hd : d.decide = .ok (.follow outcome)) :
    stored (.storeFollower outcome.follower outcome.following) (.ok ()) ∈ past ∨
      ∃ call e, stored call (.error e) ∈ past := by
  cases h with
  | storageFailed _ => exact Or.inr ⟨_, _, stored_mem_last _ _⟩
  | keyMissing hd' =>
    rw [hd] at hd'
    cases hd'
    exact Or.inl (List.mem_append_left _ (stored_mem_last _ _))
  | sendFailed hd' | sent hd' =>
    rw [hd] at hd'
    cases hd'
    exact Or.inl (List.mem_append_left _ (List.mem_append_left _ (stored_mem_last _ _)))
  | early hd' | removed hd' | otherPending hd' | notPending hd' =>
    rw [hd] at hd'
    cases hd'
  | refused hconsiders | confirmed hconsiders =>
    have hd' := hconsiders.decide
    rw [hd] at hd'
    cases hd'

theorem removed_of_activityResult {d : Delivery} {pre past : List OpEvent} {reply : Reply}
    (h : ActivityResult d pre past reply) {outcome : UndoFollowOutcome}
    (hd : d.decide = .ok (.undo outcome)) :
    stored (.removeFollower outcome.follower outcome.following) (.ok ()) ∈ past ∨
      ∃ call e, stored call (.error e) ∈ past := by
  cases h with
  | storageFailed _ => exact Or.inr ⟨_, _, stored_mem_last _ _⟩
  | removed hd' =>
    rw [hd] at hd'
    cases hd'
    exact Or.inl (stored_mem_last _ _)
  | early hd' | keyMissing hd' | sendFailed hd' | sent hd' | otherPending hd' | notPending hd' =>
    rw [hd] at hd'
    cases hd'
  | refused hconsiders | confirmed hconsiders =>
    have hd' := hconsiders.decide
    rw [hd] at hd'
    cases hd'

theorem not_accept_of_decide {d : Delivery} {decision : Decision} (h : d.decide = .ok decision)
    (hno : ∀ r o, decision ≠ .accept r o) : activityType d.value ≠ some "Accept" := by
  obtain ⟨_, _, hd⟩ := decide_ok h
  cases hd with
  | follow htype => rw [htype]; decide
  | undo htype => rw [htype]; decide
  | accept => exact absurd rfl (hno _ _)

/-- what a call that has ended has handed on, unless it was an Accept -/
theorem activityResult_of_callResult {c : Call} {past : List OpEvent} {outcome : Outcome}
    (h : CallResult c past outcome) {pre : List OpEvent} {d : Delivery} (hc : c.Delivers pre d)
    (htype : activityType d.value ≠ some "Accept") :
    ∃ reply, ActivityResult d pre past reply := by
  cases h with
  | activity hc' h =>
    obtain ⟨rfl, rfl⟩ := hc.unique hc' htype
    exact ⟨_, h⟩
  | undelivered _ hno =>
    have hnil : pre = [] := by
      cases hc with
      | inbox | shared => rfl
      | sharedAccept _ htype' => exact absurd htype' htype
    exact absurd (hnil ▸ List.nil_prefix) (hno pre d hc)
  | followFailed | followSent => cases hc

theorem asks_of_callResult {c : Call} {past : List OpEvent} {outcome : Outcome}
    (h : CallResult c past outcome) {w : FollowerWrite} (hasks : c.Asks w) :
    (∃ e ∈ past, FollowerWrite.ofEvent e = some w) ∨
      ∃ call e, stored call (.error e) ∈ past := by
  cases hasks with
  | follow hc hd _ _ hreceive =>
    obtain ⟨_, hresult⟩ := activityResult_of_callResult h hc
      (not_accept_of_decide hd fun _ _ e => by cases e)
    obtain ⟨_, _, houtcome⟩ := receiveFollow_ok_iff.mp hreceive
    subst houtcome
    rcases stored_of_activityResult hresult hd with hmem | hfailed
    · exact Or.inl ⟨_, hmem, rfl⟩
    · exact Or.inr hfailed
  | undo hc hd _ _ hreceive =>
    obtain ⟨_, hresult⟩ := activityResult_of_callResult h hc
      (not_accept_of_decide hd fun _ _ e => by cases e)
    obtain ⟨_, _, houtcome⟩ := receiveUndoFollow_ok_iff.mp hreceive
    subst houtcome
    rcases removed_of_activityResult hresult hd with hmem | hfailed
    · exact Or.inl ⟨_, hmem, rfl⟩
    · exact Or.inr hfailed

/-! ## every interleaving -/

theorem asks_of_reachable {store : SqliteStore} {s : Config SqliteStore Call Op Op.Answer Outcome}
    (h : signedHandlers.Reachable store s) {i : Nat} {w : FollowerWrite}
    (hw : (i, w) ∈ followerWrites s.trace) : ∃ c, System.callOf s i = some c ∧ c.Asks w := by
  obtain ⟨e, he, hofEvent⟩ := System.mem_writes.mp hw
  obtain ⟨c, _, hc, hop⟩ := System.sat_of_mem_trace program_sat h he
  obtain ⟨t, ht, rfl⟩ := Option.map_eq_some_iff.mp hc
  exact ⟨t.call, hc,
    asks_of_callOp (signed_of_reachable h (List.mem_of_getElem? ht)) hop hofEvent⟩

theorem represents_of_reachable {store : SqliteStore}
    {s : Config SqliteStore Call Op Op.Answer Outcome}
    (h : signedHandlers.Reachable { store with followers := ∅ } s) :
    RepresentsFollowers s.state (followersAfter ((followerWrites s.trace).map Prod.snd)) := by
  refine System.folded_of_reachable represents_empty (fun c store o answer store' f hx hr => ?_) h
  cases o with
  | sendActivity localActor keyPair activity inbox =>
    have hsame : store' = store := hx
    rw [hsame]
    exact hr
  | store call => exact executes_represents hx hr

/-- **The followers are the history of verified Follows and Undos.**  In every interleaving of
requests from an empty table on, every write is the one that its request asks for, no request
writes twice, and a request that has ended without a storage failure has made its write; the table
is the fold of the writes in the order of their steps; and both queries succeed and list it. -/
theorem followers_history {store : SqliteStore}
    {s : Config SqliteStore Call Op Op.Answer Outcome}
    (h : signedHandlers.Reachable { store with followers := ∅ } s) :
    let writes := followerWrites s.trace
    let followers := followersAfter (writes.map Prod.snd)
    (∀ i w, (i, w) ∈ writes → ∃ c, System.callOf s i = some c ∧ c.Asks w) ∧
    (writes.map Prod.fst).Nodup ∧
    (∀ i t outcome w, s.threads[i]? = some t → t.rest = .ret outcome → t.call.Asks w →
      (i, w) ∈ writes ∨ ∃ call e, stored call (.error e) ∈ t.past) ∧
    RepresentsFollowers s.state followers ∧
    ∀ localActor, ∃ ids targets, s.state.listFollowers localActor = .ok ids ∧
      s.state.listFollowerDeliveryTargets localActor = .ok targets ∧
      Lists followers localActor ids targets := by
  intro writes followers
  refine ⟨fun i w hw => asks_of_reachable h hw, ?_, ?_, represents_of_reachable h,
    fun localActor => listings_of_represents (represents_of_reachable h) localActor⟩
  · exact System.once_of_reachable program_sat (fun _ _ _ _ hop hw => noWrites_of_callOp hop hw) h
  · intro i t outcome w ht hrest hasks
    have hresult := System.sat_of_reachable program_sat h t (List.mem_of_getElem? ht)
    rw [hrest] at hresult
    rcases asks_of_callResult hresult hasks with ⟨e, he, hw⟩ | hfailed
    · refine Or.inl (System.mem_writes.mpr ⟨e, ?_, hw⟩)
      rw [← (System.trace_past h).1 i t ht] at he
      exact System.mem_eventsOf.mp he
    · exact Or.inr hfailed

end

section
attribute [local instance] libraries

/-- alice is listed once bob's server has stored her -/
theorem followers_history_of_alice : ∃ s : Config SqliteStore Call Op Op.Answer Outcome,
    (followerWrites s.trace).length = 1 ∧ ∃ ids targets,
      s.state.listFollowers Peer.bob.actor.id = .ok ids ∧
      s.state.listFollowerDeliveryTargets Peer.bob.actor.id = .ok targets ∧
      Lists (followersAfter ((followerWrites s.trace).map Prod.snd)) Peer.bob.actor.id ids
        targets := by
  obtain ⟨r, hr⟩ := Peer.exists_request .alice .bob Peer.follow.serialize
  obtain ⟨hparse, hdecide⟩ := hr.follow_received
  let call : Call := .inbox Peer.bob.server Peer.bob.host hr.received
  obtain ⟨next, hprogram⟩ : ∃ next, call.program =
      (tryStore (.storeFollower Peer.alice.actor Peer.bob.actor.id) next).map .reply :=
    ⟨_, congrArg (Prog.map Outcome.reply) (inbox_follow rfl hparse hdecide)⟩
  have hstart : signedHandlers.Reachable { Peer.bob.store with followers := ∅ }
      ⟨{ Peer.bob.store with followers := ∅ }, [⟨call, [],
        (tryStore (.storeFollower Peer.alice.actor Peer.bob.actor.id) next).map .reply⟩], []⟩ :=
    reachable_call .refl hprogram rfl
  have hstored := hstart.tail (step_tryStore (i := 0) rfl rfl)
  obtain ⟨_, _, _, _, hlists⟩ := followers_history hstored
  exact ⟨_, rfl, hlists Peer.bob.actor.id⟩

end

end Feder
