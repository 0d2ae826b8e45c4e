import Feder.Lib.Refine
import Feder.Server.Deliveries
import Feder.Server.NoteHistory

/-!
# What the storage is for

`storage.rs` of the core crate only names the calls of the storage.  What they mean is said here on
typed maps, without texts, rows or errors of its own, and the SQLite store refines it: a server over
the tables and a server over the maps have the same interleavings.

* `Memory.Does`         what each call answers and does;
* `Memory.does_unique`  there is one answer, and one outcome;
* `Stores.call`         one call on the tables does it;
* `storage_refined`     every interleaving over the tables is one over the maps, and the reverse.
-/

namespace Feder
open Serde OneWay

section
variable [Crates]

/-! ## the maps -/

/-- the followers with their inboxes, the key pairs, the relationships under their ids and the
Notes under theirs -/
structure Memory where
  followers : Followers
  keys : Iri → Option ActorKeyPair
  follows : Iri → Cell PendingFollow
  notes : Notes

/-- What a storage call answers and does.  A Note is normalised when it is loaded. -/
def Memory.Does (m : Memory) : (call : StoreCall) → call.Value → Memory → Prop
  | .storeFollower follower following, _, m' =>
    m' = { m with
      followers := Function.update m.followers (follower.id, following)
        (some (follower.inbox, follower.sharedInbox)) }
  | .removeFollower follower following, _, m' =>
    m' = { m with followers := Function.update m.followers (follower, following) none }
  | .listFollowers following, ids, m' =>
    m' = m ∧ ids.Pairwise (fun x y => Table.byteLt x.str y.str) ∧
      ∀ x, x ∈ ids ↔ (m.followers (x, following)).isSome = true
  | .listFollowerDeliveryTargets localActor, targets, m' =>
    m' = m ∧ targets.Pairwise (fun x y => Table.byteLt x.actorId.str y.actorId.str) ∧
      ∀ target, target ∈ targets ↔
        m.followers (target.actorId, localActor) = some (target.inbox, target.sharedInbox)
  | .loadActorKeyPair actorId, keyPair, m' => m' = m ∧ keyPair = m.keys actorId
  | .storePendingFollow follow, _, m' =>
    m' = { m with
      follows := Function.update m.follows follow.followActivity
        ((m.follows follow.followActivity).put follow) }
  | .loadPendingFollow followActivity, pending, m' =>
    m' = m ∧ pending = (m.follows followActivity).visible
  | .confirmPendingFollow expected, changed, m' =>
    (changed = true ∧ m.follows expected.followActivity = .pending expected ∧
      m' = { m with
        follows := Function.update m.follows expected.followActivity (.accepted expected) }) ∨
    (changed = false ∧ m.follows expected.followActivity ≠ .pending expected ∧ m' = m)
  | .storeNote note, _, m' => m' = { m with notes := m.notes.put note }
  | .loadNote noteId, note, m' => m' = m ∧ note = (m.notes noteId).map Note.norm

/-- the tables hold the maps -/
structure Stores (store : SqliteStore) (m : Memory) : Prop where
  followers : RepresentsFollowers store m.followers
  keys : ∀ actorId, store.loadActorKeyPair actorId = .ok (m.keys actorId)
  follows : store.Represents m.follows
  notes : RepresentsNotes store m.notes

/-! ## one call -/

/-- **A call has one answer and one outcome.** -/
theorem Memory.does_unique {m m₁ m₂ : Memory} {call : StoreCall} {value₁ value₂ : call.Value}
    (h₁ : m.Does call value₁ m₁) (h₂ : m.Does call value₂ m₂) : value₁ = value₂ ∧ m₁ = m₂ := by
  cases call with
  | storeFollower | removeFollower | storePendingFollow | storeNote =>
    exact ⟨rfl, h₁.trans h₂.symm⟩
  | loadActorKeyPair | loadPendingFollow | loadNote =>
    obtain ⟨rfl, rfl⟩ := h₁
    exact ⟨h₂.2.symm, h₂.1.symm⟩
  | listFollowers following =>
    obtain ⟨rfl, hsorted₁, hmem₁⟩ := h₁
    obtain ⟨rfl, hsorted₂, hmem₂⟩ := h₂
    exact ⟨Table.eq_of_ascending hsorted₁ hsorted₂ fun x => (hmem₁ x).trans (hmem₂ x).symm, rfl⟩
  | listFollowerDeliveryTargets localActor =>
    obtain ⟨rfl, hsorted₁, hmem₁⟩ := h₁
    obtain ⟨rfl, hsorted₂, hmem₂⟩ := h₂
    exact ⟨Table.eq_of_ascending hsorted₁ hsorted₂ fun x => (hmem₁ x).trans (hmem₂ x).symm, rfl⟩
  | confirmPendingFollow expected =>
    rcases h₁ with ⟨rfl, hpending₁, rfl⟩ | ⟨rfl, hpending₁, rfl⟩
    · rcases h₂ with ⟨rfl, _, rfl⟩ | ⟨_, hpending₂, _⟩
      · exact ⟨rfl, rfl⟩
      · exact absurd hpending₁ hpending₂
    · rcases h₂ with ⟨_, hpending₂, _⟩ | ⟨rfl, _, rfl⟩
      · exact absurd hpending₂ hpending₁
      · exact ⟨rfl, rfl⟩

section
variable {store : SqliteStore} {m : Memory}

theorem Stores.of_call (h : Stores store m) {call : StoreCall} {value : call.Value}
    (hvalue : (store.call call).1 = .ok value) {followers : Followers}
    {follows : Iri → Cell PendingFollow} {notes : Notes}
    (hfollowers : (FollowerWrite.ofEvent (stored call (.ok value))).elim m.followers
      (FollowerWrite.apply m.followers) = followers)
    (hfollows : (store.call call).2.Represents follows)
    (hnotes : (storedNote (stored call (.ok value))).elim m.notes m.notes.put = notes) :
    Stores (store.call call).2 ⟨followers, m.keys, follows, notes⟩ := by
  have hx : Executes store call (.ok value) (store.call call).2 := Or.inl (by rw [← hvalue])
  subst hfollowers hnotes
  refine ⟨executes_represents hx h.followers, fun actorId => ?_, hfollows,
    executes_representsNotes hx h.notes⟩
  rw [← h.keys actorId]
  unfold SqliteStore.loadActorKeyPair
  rw [call_keys]

/-- **One call on the tables** finds them readable, and does what the call is for. -/
theorem Stores.call (h : Stores store m) (call : StoreCall) :
    ∃ value m', (store.call call).1 = .ok value ∧ m.Does call value m' ∧
      Stores (store.call call).2 m' := by
  cases call with
  | storeFollower follower following =>
    exact ⟨(), _, rfl, rfl, h.of_call rfl rfl (h.follows.congr rfl) rfl⟩
  | removeFollower follower following =>
    exact ⟨(), _, rfl, rfl, h.of_call rfl rfl (h.follows.congr rfl) rfl⟩
  | listFollowers following =>
    obtain ⟨ids, targets, hids, _, hlists⟩ := listings_of_represents h.followers following
    exact ⟨ids, m, hids, ⟨rfl, List.pairwise_map.mp hlists.sorted, hlists.mem⟩, h⟩
  | listFollowerDeliveryTargets localActor =>
    obtain ⟨ids, targets, _, htargets, hlists⟩ := listings_of_represents h.followers localActor
    refine ⟨targets, m, htargets, ⟨rfl, ?_, fun target => ⟨hlists.inboxes target, fun hin => ?_⟩⟩, h⟩
    · have hsorted := hlists.sorted
      rw [← hlists.same, List.map_map] at hsorted
      exact List.pairwise_map.mp hsorted
    · have hmem : target.actorId ∈ targets.map FollowerDeliveryTarget.actorId := by
        rw [hlists.same, hlists.mem, hin]
        rfl
      obtain ⟨target', htarget', hid⟩ := List.mem_map.mp hmem
      have hin' := hlists.inboxes target' htarget'
      rw [hid, hin] at hin'
      have hsame : target' = target := by
        cases target
        cases target'
        cases hid
        cases hin'
        rfl
      exact hsame ▸ htarget'
  | loadActorKeyPair actorId => exact ⟨_, m, h.keys actorId, ⟨rfl, rfl⟩, h⟩
  | storePendingFollow follow =>
    exact ⟨(), _, rfl, rfl, h.of_call rfl rfl
      (SqliteStore.storePendingFollow_represents h.follows follow) rfl⟩
  | loadPendingFollow followActivity =>
    exact ⟨_, m, SqliteStore.load_of_represents h.follows followActivity, ⟨rfl, rfl⟩, h⟩
  | confirmPendingFollow expected =>
    have hload := SqliteStore.load_of_represents h.follows expected.followActivity
    have hcall : store.call (.confirmPendingFollow expected) = _ :=
      SqliteStore.confirmPendingFollow_of_load hload
    by_cases hpending : m.follows expected.followActivity = .pending expected
    · rw [if_pos (visible_eq_some.mpr hpending)] at hcall
      have htrue := congrArg Prod.fst hcall
      have haccepted : (store.call (.confirmPendingFollow expected)).2 =
          store.accept expected.followActivity := congrArg Prod.snd hcall
      refine ⟨true, _, htrue, Or.inl ⟨rfl, hpending, rfl⟩, h.of_call htrue rfl ?_ rfl⟩
      rw [haccepted]
      exact SqliteStore.accept_represents h.follows hpending
    · rw [if_neg fun hvisible => hpending (visible_eq_some.mp hvisible)] at hcall
      have hsame := congrArg Prod.snd hcall
      exact ⟨false, m, congrArg Prod.fst hcall, Or.inr ⟨rfl, hpending, rfl⟩, hsame ▸ h⟩
  | storeNote note => exact ⟨(), _, rfl, rfl, h.of_call rfl rfl (h.follows.congr rfl) rfl⟩
  | loadNote noteId => exact ⟨_, m, h.notes noteId, ⟨rfl, rfl⟩, h⟩

/-- what a call does over the maps it does on the tables -/
theorem Stores.of_does (h : Stores store m) {call : StoreCall} {value : call.Value} {m' : Memory}
    (hdoes : m.Does call value m') :
    store.call call = (.ok value, (store.call call).2) ∧ Stores (store.call call).2 m' := by
  obtain ⟨value', m'', hvalue, hdoes', hstores⟩ := h.call call
  obtain ⟨rfl, rfl⟩ := Memory.does_unique hdoes hdoes'
  exact ⟨Prod.ext hvalue rfl, hstores⟩

end

theorem stores_keys {keys : Table String KeyRow} {keyPairs : Iri → Option ActorKeyPair}
    (h : ∀ actorId, (⟨∅, keys, ∅, ∅⟩ : SqliteStore).loadActorKeyPair actorId =
      .ok (keyPairs actorId)) :
    Stores ⟨∅, keys, ∅, ∅⟩ ⟨fun _ => none, keyPairs, fun _ => .empty, fun _ => none⟩ where
  followers := ⟨fun _ _ => rfl, fun _ _ hk => by cases hk⟩
  keys := h
  follows := SqliteStore.represents_empty.congr rfl
  notes _ := rfl

/-! ## the server over the maps -/

/-- the calls of a server over the maps, where a storage call may still fail without an effect -/
def memoryServer (admits : ServerCall → Prop) :
    System Memory ServerCall Op Op.Answer ServerOutcome where
  program := ServerCall.program
  admits _ c := admits c
  exec _ m o answer m' :=
    match o, answer with
    | .store call, answer =>
      (∃ value, answer = .ok value ∧ m.Does call value m') ∨ ((∃ e, answer = .error e) ∧ m' = m)
    | .sendActivity .., _ => m' = m

theorem wholeServer_refines (admits : ServerCall → Prop) :
    (wholeServer admits).Refines (memoryServer admits) Stores where
  program _ := rfl
  admits _ hadmits := hadmits
  exec {c store m store' o answer} h hx := by
    cases o with
    | sendActivity localActor keyPair activity inbox =>
      have hsame : store' = store := hx
      exact ⟨m, rfl, hsame ▸ h⟩
    | store call =>
      rcases wholeServer_exec.mp hx with hcall | ⟨herror, rfl⟩
      · obtain ⟨value, m', hvalue, hdoes, hstores⟩ := h.call call
        rw [hcall] at hvalue hstores
        exact ⟨m', Or.inl ⟨value, hvalue, hdoes⟩, hstores⟩
      · exact ⟨m, Or.inr ⟨herror, rfl⟩, h⟩

theorem memoryServer_refines (admits : ServerCall → Prop) :
    (memoryServer admits).Refines (wholeServer admits) fun m store => Stores store m where
  program _ := rfl
  admits _ hadmits := hadmits
  exec {c m store m' o answer} h hx := by
    cases o with
    | sendActivity localActor keyPair activity inbox =>
      have hsame : m' = m := hx
      exact ⟨store, rfl, hsame ▸ h⟩
    | store call =>
      rcases hx with ⟨value, rfl, hdoes⟩ | ⟨herror, rfl⟩
      · obtain ⟨hcall, hstores⟩ := h.of_does hdoes
        exact ⟨_, Or.inl hcall, hstores⟩
      · exact ⟨store, Or.inr ⟨herror, rfl⟩, h⟩

/-- **The SQLite store is what the storage is for.**  Where the tables hold the maps, every
interleaving of a server over the tables is one over the maps, with the same threads, the same steps
and the same answers; every one over the maps is one over the tables; and the tables hold the maps
again.  So no row that a server has written is ever found unreadable. -/
theorem storage_refined (admits : ServerCall → Prop) {store : SqliteStore} {m : Memory}
    (h : Stores store m) :
    (∀ s : ServerConfig, (wholeServer admits).Reachable store s →
      (∃ m', (memoryServer admits).Reachable m ⟨m', s.threads, s.trace⟩ ∧ Stores s.state m') ∧
      ∀ call, ∃ value, (s.state.call call).1 = .ok value) ∧
    ∀ t, (memoryServer admits).Reachable m t →
      ∃ store', (wholeServer admits).Reachable store ⟨store', t.threads, t.trace⟩ ∧
        Stores store' t.state := by
  refine ⟨fun s hs => ?_, fun t ht => (memoryServer_refines admits).reachable h ht⟩
  obtain ⟨m', hm', hstores⟩ := (wholeServer_refines admits).reachable h hs
  refine ⟨⟨m', hm', hstores⟩, fun call => ?_⟩
  obtain ⟨value, _, hvalue, _⟩ := hstores.call call
  exact ⟨value, hvalue⟩

end

section
attribute [local instance] libraries

/-- what the server of bob knows at first -/
def Peer.bobMemory : Memory where
  followers _ := none
  keys actorId := if actorId = bob.actor.id then some bob.keyPair else none
  follows _ := .empty
  notes _ := none

theorem Peer.bob_stores : Stores { bob.store with followers := ∅ } bobMemory := by
  refine stores_keys fun actorId => ?_
  by_cases hid : actorId = bob.actor.id
  · subst hid
    rw [if_pos rfl]
    exact congrArg Prod.fst (@load_keyPair .bob { bob.store with followers := ∅ } rfl)
  · have hnone : bob.store.keys.lookup actorId.str = none := by
      show (Finmap.singleton bob.actor.id.str _).lookup actorId.str = none
      rw [Finmap.lookup_eq_none, Finmap.mem_singleton]
      exact fun heq => hid (Iri.str_inj.mp heq)
    rw [if_neg hid]
    unfold SqliteStore.loadActorKeyPair
    dsimp only
    rw [hnone]

/-- alice follows bob, and then his followers are listed: the maps have the same followers -/
theorem storage_refined_of_bob : ∃ (s : ServerConfig) (m' : Memory),
    (memoryServer ServerCall.Signed).Reachable Peer.bobMemory ⟨m', s.threads, s.trace⟩ ∧
    s.state = Peer.followedStore ∧ Stores s.state m' := by
  obtain ⟨s, _, hs, hstate, _, _⟩ := Peer.exists_listing
  obtain ⟨hrefined, _⟩ := storage_refined ServerCall.Signed Peer.bob_stores
  obtain ⟨⟨m', hm', hstores⟩, _⟩ := hrefined s hs
  exact ⟨s, m', hm', hstate, hstores⟩

end

end Feder
