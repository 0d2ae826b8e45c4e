import Feder.Server.Responses
import Feder.Server.WholeServer

/-!
# The page of followers

The collection that a server serves of a local actor's followers, while its other calls go on.

* `followers_represented`   the table is the history of verified Follows and Undos;
* `followers_page`          the page is that history at the moment of its listing.
-/

namespace Feder
open Serde

section
variable [Crates] {admits : ServerCall → Prop} {store : SqliteStore} {s : ServerConfig}

theorem callOp_of_write {c : ServerCall} {past : List OpEvent} {o : Op} {answer : o.Answer}
    (h : ServerOp c past o) {w : FollowerWrite}
    (hw : FollowerWrite.ofEvent ⟨o, answer⟩ = some w) :
    ∃ call, c = .federation call ∧ CallOp call past o := by
  have hnot : ∀ {call : StoreCall} {answer : Except StoreError call.Value},
      call.Reads ∨ call.OnObjects → FollowerWrite.ofEvent (stored call answer) = none := by
    intro call answer h
    cases call with
    | storeFollower | removeFollower => exact (h.elim id id).elim
    | storePendingFollow | confirmPendingFollow | listFollowers | listFollowerDeliveryTargets
    | loadActorKeyPair | loadPendingFollow | storeNote | loadNote => rfl
  cases c with
  | federation call => exact ⟨call, rfl, h⟩
  | actor | webfinger => exact h.elim
  | followers =>
    obtain ⟨_, actor, _, rfl⟩ := h
    cases hw
  | note =>
    obtain ⟨_, actor, id, _, _, rfl⟩ := h
    cases hw
  | createNote server localActorId input =>
    cases o with
    | sendActivity => cases hw
    | store call =>
      have hkind : call.Reads ∨ call.OnObjects := by
        cases call with
        | storeNote => exact Or.inr trivial
        | listFollowers | listFollowerDeliveryTargets | loadActorKeyPair | loadPendingFollow
        | loadNote => exact Or.inl trivial
        | storeFollower | removeFollower | storePendingFollow | confirmPendingFollow =>
          exact h.1.elim
      exact absurd ((hnot hkind).symm.trans hw) (by simp)

/-- **Every write is the one that its request asks for.** -/
theorem asked_of_reachable (hsigned : ∀ c, admits c → c.Signed)
    (h : (wholeServer admits).Reachable store s) {i : Nat} {w : FollowerWrite}
    (hw : (i, w) ∈ followerWrites s.trace) :
    ∃ c, System.callOf s i = some (.federation c) ∧ c.Asks w := by
  obtain ⟨⟨o, answer⟩, he, hofEvent⟩ := System.mem_writes.mp hw
  obtain ⟨c, past, hc, hop⟩ := System.sat_of_mem_trace serverCall_sat h he
  obtain ⟨call, rfl, hcall⟩ := callOp_of_write hop hofEvent
  obtain ⟨t, ht, htcall⟩ := Option.map_eq_some_iff.mp hc
  obtain ⟨_, hadmitted⟩ := System.call_admitted h t (List.mem_of_getElem? ht)
  rw [htcall] at hadmitted
  exact ⟨call, hc, asks_of_callOp (hsigned _ hadmitted) hcall hofEvent⟩

/-- **The table is the fold of the writes**, whatever else the server does. -/
theorem followers_represented (h : (wholeServer admits).Reachable { store with followers := ∅ } s) :
    RepresentsFollowers s.state (followersAfter ((followerWrites s.trace).map Prod.snd)) := by
  refine System.folded_of_reachable represents_empty
    (fun c store o answer store' followers hx hr => ?_) h
  cases o with
  | sendActivity localActor keyPair activity inbox =>
    have hsame : store' = store := hx
    rw [hsame]
    exact hr
  | store call => exact executes_represents (wholeServer_exec.mp hx) hr

theorem followers_atomic (server : FederServer) (identifier : String) (headers : HeaderMap) :
    (Get.followers server identifier headers).Atomic := by
  rcases followers_program server identifier headers with ⟨result, hret, _⟩ | ⟨actor, _, hlist⟩
  · rw [hret]
    trivial
  · rw [hlist]
    intro answer
    cases answer with
    | error e => exact ⟨_, rfl⟩
    | ok ids => exact ⟨_, rfl⟩

/-- **The page of followers is the history at the moment of its listing.**  In every interleaving
of a server that requires signatures, from an empty table on: a request for the followers of an
actor that is answered with a page has listed them at one of the steps, and the page names, in the
byte order of their ids and each once, exactly the actors whose last write before that step is a
Follow; each of the writes is the one that a verified Follow or Undo asks for.  The collection is
read back with its length. -/
theorem followers_page (hsigned : ∀ c, admits c → c.Signed)
    (h : (wholeServer admits).Reachable { store with followers := ∅ } s) {i : Nat}
    {t : Thread ServerCall Op Op.Answer ServerOutcome} {server : FederServer} {identifier : String}
    {headers : HeaderMap} {response : Response} (ht : s.threads[i]? = some t)
    (hcall : t.call = .followers server identifier headers)
    (hrest : t.rest = .ret (.response (.ok response))) (hstatus : response.status = .OK) :
    ∃ actor collectionId ids before, server.getActor identifier = .ok (some actor) ∧
      actor.followers = some collectionId ∧
      before ++ [(i, stored (.listFollowers actor.id) (.ok ids))] <+: s.trace ∧
      (∀ j w, (j, w) ∈ followerWrites before →
        ∃ c, System.callOf s j = some (.federation c) ∧ c.Asks w) ∧
      (∀ x, x ∈ ids ↔
        (followersAfter ((followerWrites before).map Prod.snd) (x, actor.id)).isSome = true) ∧
      (ids.map Iri.str).Pairwise Table.byteLt ∧
      ∃ page, response = document page ∧
        OrderedCollection.deserialize Iri.deserialize page =
          some (followersCollection collectionId ids) ∧
        (followersCollection collectionId ids).totalItems.toNat = ids.length := by
  have hprogram : (wholeServer admits).program t.call =
      (Get.followers server identifier headers).map .response := by
    rw [hcall]
    rfl
  have hatomic : ((wholeServer admits).program t.call).Atomic := by
    rw [hprogram]
    exact (followers_atomic server identifier headers).map _
  rcases followers_program server identifier headers with ⟨result, hret, hnot⟩ | ⟨actor, hactor, hlist⟩
  · rcases System.atomic_of_reachable h ht hatomic hrest with hend | ⟨o, k, _, _, _, hop, _⟩
    · rw [hprogram, hret] at hend
      cases hend
      exact absurd hstatus (hnot response rfl)
    · rw [hprogram, hret] at hop
      cases hop
  · rcases System.atomic_of_reachable h ht hatomic hrest with
      hend | ⟨o, k, answer, s₁, store₂, hop, hanswer, _, hreach, _, hmoment, hx⟩
    · rw [hprogram, hlist] at hend
      cases hend
    · rw [hprogram, hlist] at hop
      cases hop
      cases answer with
      | error e => cases hanswer
      | ok ids =>
        have hserved : servedFollowers actor ids = .ok response :=
          ServerOutcome.response.inj (Prog.ret.inj hanswer)
        obtain ⟨hlength, collectionId, hcollection, hpage⟩ := servedFollowers_ok hserved
        have hcallOk := executes_ok (wholeServer_exec.mp hx)
        have hids : s₁.state.listFollowers actor.id = .ok ids := congrArg Prod.fst hcallOk
        obtain ⟨ids', _, hids', _, hlists⟩ :=
          listings_of_represents (followers_represented hreach) actor.id
        rw [hids] at hids'
        cases hids'
        refine ⟨actor, collectionId, ids, s₁.trace, hactor, hcollection, hmoment, ?_, hlists.mem,
          hlists.sorted, _, hpage, ?_, ?_⟩
        · intro j w hw
          exact asked_of_reachable hsigned h
            (System.writes_subset ((List.prefix_append _ _).trans hmoment) hw)
        · exact OrderedCollection.deserialize_serialize Iri.deserialize_serialize _
        · show (UInt64.ofNat ids.length).toNat = ids.length
          rw [UInt64.toNat_ofNat_of_lt' hlength]

end

section
attribute [local instance] libraries

/-- when alice has followed bob, the page of his followers names her -/
theorem followers_page_of_bob : ∃ (s : ServerConfig) (before : List (Nat × OpEvent)) (page : Json)
    (collectionId : Iri),
    (wholeServer ServerCall.Signed).Reachable { Peer.bob.store with followers := ∅ } s ∧
    before ++ [(1, stored (.listFollowers Peer.bob.actor.id) (.ok [Peer.alice.actor.id]))]
      <+: s.trace ∧
    (followersAfter ((followerWrites before).map Prod.snd)
      (Peer.alice.actor.id, Peer.bob.actor.id)).isSome = true ∧
    OrderedCollection.deserialize Iri.deserialize page =
      some (followersCollection collectionId [Peer.alice.actor.id]) := by
  obtain ⟨s, response, hs, _, hthread, hstatus⟩ := Peer.exists_listing
  obtain ⟨actor, collectionId, ids, before, hactor, _, hmoment, _, hmem, _, page, _, hpage, _⟩ :=
    followers_page (fun _ h => h) hs hthread rfl rfl hstatus
  cases hactor
  -- the only step of the request is the listing
  have hpast : System.eventsOf 1 s.trace =
      [stored (.listFollowers Peer.bob.actor.id) (.ok [Peer.alice.actor.id])] :=
    (System.trace_past hs).1 1 _ hthread
  have hlisted := System.mem_eventsOf.mpr
    (hmoment.subset (List.mem_append_right before List.mem_cons_self))
  rw [hpast] at hlisted
  cases List.mem_singleton.mp hlisted
  exact ⟨s, before, page, collectionId, hs, hmoment, (hmem _).mp List.mem_cons_self, hpage⟩

end

end Feder
