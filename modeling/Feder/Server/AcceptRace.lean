import Feder.Server.Libraries
import Feder.Server.Requests

/-!
# An Accept against retries of its Follow

The handler of an Accept loads the pending relationship, checks the Accept against it and confirms
it; a retry of `follow_actor` may store the relationship anew in between.  The confirmation then
fails, and the handler answers as if it had not.

* `follow_exec`         what a step of `follow_actor` does to a row;
* `race_of_reachable`   what the handler's load and confirmation say of the row at any time;
* `accept_kept_iff`     when the row of an Accept that is answered is accepted.
-/

namespace Feder
open Serde

section
variable [Crates]

/-- the row of a follow is accepted -/
def SqliteStore.Accepted (store : SqliteStore) (f : Iri) : Prop :=
  ∃ row, store.outboundFollows.lookup f.str = some row ∧ row.state = .accepted

/-- the relationship that a step stores -/
def PendingFollow.ofEvent : OpEvent → Option PendingFollow
  | ⟨.store (.storePendingFollow p), .ok _⟩ => some p
  | _ => none

/-- a relationship after a step that may store another one under its id -/
def PendingFollow.rewrite (p : PendingFollow) (e : OpEvent) : PendingFollow :=
  match PendingFollow.ofEvent e with
  | some q => if q.followActivity = p.followActivity then q else p
  | none => p

/-- a relationship after the steps of a trace -/
def rewritten (p : PendingFollow) (trace : List (Nat × OpEvent)) : PendingFollow :=
  trace.foldl (fun q e => q.rewrite e.2) p

theorem rewritten_concat (p : PendingFollow) (trace : List (Nat × OpEvent)) (e : Nat × OpEvent) :
    rewritten p (trace ++ [e]) = (rewritten p trace).rewrite e.2 := by
  unfold rewritten
  rw [List.foldl_append]
  rfl

theorem pending_followActivity {store : SqliteStore} {f : Iri} {p : PendingFollow}
    (h : store.pending f = some p) : p.followActivity = f :=
  SqliteStore.followActivity_of_load (SqliteStore.pending_eq_some.mp h)

theorem pending_state {store : SqliteStore} {f : Iri} {p : PendingFollow}
    (h : store.pending f = some p) :
    ∃ row, store.outboundFollows.lookup f.str = some row ∧ row.state = .pending := by
  obtain ⟨row, hrow, hstate, _⟩ :=
    SqliteStore.loadPendingFollow_some_iff.mp (SqliteStore.pending_eq_some.mp h)
  exact ⟨row, hrow, hstate⟩

theorem not_accepted_of_pending {store : SqliteStore} {f : Iri} {p : PendingFollow}
    (h : store.pending f = some p) : ¬ store.Accepted f := by
  rintro ⟨row, hrow, haccepted⟩
  obtain ⟨row', hrow', hpending⟩ := pending_state h
  rw [hrow] at hrow'
  cases hrow'
  rw [haccepted] at hpending
  cases hpending

theorem accepted_of_pending {store : SqliteStore} {f : Iri} {p : PendingFollow}
    (h : store.pending f = some p) : (store.accept f).Accepted f := by
  obtain ⟨row, hrow, hpending⟩ := pending_state h
  refine ⟨{ row with state := .accepted }, ?_, rfl⟩
  rw [SqliteStore.lookup_accept, if_pos rfl, hrow, Option.map_some, if_pos hpending]

/-! ## the steps of `follow_actor` -/

theorem pending_storePendingFollow {store : SqliteStore} {f : Iri} {p q : PendingFollow}
    (h : store.pending f = some p) :
    (store.storePendingFollow q).pending f = some (if q.followActivity = f then q else p) := by
  rw [SqliteStore.pending_eq_some, SqliteStore.loadPendingFollow_some_iff]
  rw [SqliteStore.lookup_storePendingFollow]
  by_cases hf : q.followActivity = f
  · subst hf
    obtain ⟨row, hrow, hpending⟩ := pending_state h
    refine ⟨SqliteStore.followRow q .pending, ?_, rfl, ?_⟩
    · rw [if_pos rfl, hrow]
      show some (if row.state = .pending then _ else row) = _
      rw [if_pos hpending]
    · rw [if_pos rfl]
      exact SqliteStore.readRow_followRow q .pending
  · have hstr : f.str ≠ q.followActivity.str := fun e => hf (Iri.str_inj.mp e).symm
    rw [if_neg hf, if_neg hstr]
    exact SqliteStore.loadPendingFollow_some_iff.mp (SqliteStore.pending_eq_some.mp h)

theorem accepted_storePendingFollow {store : SqliteStore} {f : Iri} {q : PendingFollow} :
    (store.storePendingFollow q).Accepted f ↔ store.Accepted f := by
  unfold SqliteStore.Accepted
  rw [SqliteStore.lookup_storePendingFollow]
  by_cases hf : f.str = q.followActivity.str
  · rw [if_pos hf, hf]
    cases hrow : store.outboundFollows.lookup q.followActivity.str with
    | none => simp [SqliteStore.storedRow, SqliteStore.followRow]
    | some row =>
      by_cases hpending : row.state = .pending
      · simp [SqliteStore.storedRow, SqliteStore.followRow, hpending]
      · simp [SqliteStore.storedRow, hpending]
  · rw [if_neg hf]

/-- **What a step of `follow_actor` does to a row.** -/
theorem follow_exec {admits : SqliteStore → Call → Prop} {c : Call} (hc : ¬ c.Inbound)
    {past : List OpEvent} {o : Op} (hop : CallOp c past o) {store store' : SqliteStore}
    {answer : o.Answer} (hx : (handlers admits).exec c store o answer store') (f : Iri) :
    (∀ p, store.pending f = some p → store'.pending f = some (p.rewrite ⟨o, answer⟩)) ∧
      (store'.Accepted f ↔ store.Accepted f) := by
  cases hop with
  | activity hd _ => cases hd <;> exact absurd trivial hc
  | loadTarget => exact absurd trivial hc
  | sendFollow =>
    have hsame : store' = store := hx
    subst hsame
    exact ⟨fun p hp => hp, Iff.rfl⟩
  | loadKey =>
    have hsame : store' = store := by
      rcases hx with hx | ⟨_, hx⟩
      · exact (Prod.mk.inj hx).2.symm
      · exact hx
    subst hsame
    exact ⟨fun p hp => hp, Iff.rfl⟩
  | @storePending _ _ _ _ localActor remoteActor =>
    rcases hx with hx | ⟨⟨e, rfl⟩, rfl⟩
    · obtain ⟨rfl, rfl⟩ := Prod.mk.inj hx
      refine ⟨fun p hp => ?_, accepted_storePendingFollow⟩
      show (store.storePendingFollow _).pending f = _
      rw [pending_storePendingFollow hp, ← pending_followActivity hp]
      rfl
    · exact ⟨fun p hp => hp, Iff.rfl⟩

/-! ## the load and the confirmation of one handler -/

/-- What the load and the confirmation of thread `i` say of the row, as long as no other thread
serves an inbox: after the load the row holds what was stored last, and the confirmation accepts
it exactly if this is what was loaded. -/
structure Race (i : Nat) (s : Config SqliteStore Call Op Op.Answer Outcome) : Prop where
  held : ∀ f p before between,
    s.trace = before ++ (i, stored (.loadPendingFollow f) (.ok (some p))) :: between →
    (∀ e ∈ between, e.1 ≠ i) →
    p.followActivity = f ∧ s.state.pending f = some (rewritten p between)
  decided : ∀ f p changed before between after,
    s.trace = before ++ (i, stored (.loadPendingFollow f) (.ok (some p))) ::
      (between ++ (i, stored (.confirmPendingFollow p) (.ok changed)) :: after) →
    (∀ e ∈ between, e.1 ≠ i) → (∀ e ∈ after, e.1 ≠ i) →
    p.followActivity = f ∧ (s.state.Accepted f ↔ rewritten p between = p)

omit [Crates] in
theorem concat_eq_append_cons {α : Type} {l before rest : List α} {x y : α}
    (h : l ++ [x] = before ++ y :: rest) :
    (rest = [] ∧ l = before ∧ x = y) ∨
      ∃ rest', rest = rest' ++ [x] ∧ l = before ++ y :: rest' := by
  rcases List.eq_nil_or_concat' rest with rfl | ⟨rest', z, rfl⟩
  · obtain ⟨hl, hx⟩ := List.append_inj' h rfl
    exact Or.inl ⟨rfl, hl, List.singleton_inj.mp hx⟩
  · have h' : l ++ [x] = (before ++ y :: rest') ++ [z] := by
      rw [h, List.append_assoc]
      rfl
    obtain ⟨hl, hx⟩ := List.append_inj' h' rfl
    rw [List.singleton_inj.mp hx]
    exact Or.inr ⟨rest', rfl, hl⟩

theorem exec_load {admits : SqliteStore → Call → Prop} {c : Call} {store store' : SqliteStore}
    {f : Iri} {p : PendingFollow}
    (hx : (handlers admits).exec c store (.store (.loadPendingFollow f)) (.ok (some p)) store') :
    store' = store ∧ store.pending f = some p := by
  rcases hx with hx | ⟨⟨e, he⟩, _⟩
  · obtain ⟨hload, hstore⟩ := Prod.mk.inj hx
    exact ⟨hstore.symm, SqliteStore.pending_eq_some.mpr hload⟩
  · cases he

theorem exec_confirm {admits : SqliteStore → Call → Prop} {c : Call} {store store' : SqliteStore}
    {p q : PendingFollow} {changed : Bool} (hpending : store.pending p.followActivity = some q)
    (hx : (handlers admits).exec c store (.store (.confirmPendingFollow p)) (.ok changed) store') :
    store'.Accepted p.followActivity ↔ q = p := by
  rcases hx with hx | ⟨⟨e, he⟩, _⟩
  · change store.confirmPendingFollow p = (.ok changed, store') at hx
    rw [SqliteStore.confirmPendingFollow_of_load (SqliteStore.pending_eq_some.mp hpending)] at hx
    by_cases hq : q = p
    · rw [if_pos (congrArg some hq)] at hx
      obtain ⟨_, rfl⟩ := Prod.mk.inj hx
      exact ⟨fun _ => hq, fun _ => accepted_of_pending hpending⟩
    · rw [if_neg fun e => hq (Option.some.inj e)] at hx
      obtain ⟨_, rfl⟩ := Prod.mk.inj hx
      exact ⟨fun h => absurd h (not_accepted_of_pending hpending), fun h => absurd h hq⟩
  · cases he

theorem race_step {admits : SqliteStore → Call → Prop} {store : SqliteStore} {i : Nat}
    {s s' : Config SqliteStore Call Op Op.Answer Outcome}
    (hreach : (handlers admits).Reachable store s) (hstep : (handlers admits).Step s s')
    (hothers : ∀ j c, j ≠ i → System.callOf s j = some c → ¬ c.Inbound) (h : Race i s) :
    Race i s' := by
  cases hstep with
  | start c _ => exact ⟨h.held, h.decided⟩
  | exec j t o k answer state' ht hrest hx =>
    have hop := System.exec_sat program_sat hreach ht hrest
    have hother : j ≠ i → ¬ t.call.Inbound := by
      intro hj
      apply hothers j t.call hj
      show (s.threads[j]?).map Thread.call = _
      rw [ht]
      rfl
    refine ⟨?_, ?_⟩
    · intro f p before between htrace hno
      rcases concat_eq_append_cons htrace with ⟨rfl, _, hev⟩ | ⟨between', rfl, htrace'⟩
      · cases hev
        obtain ⟨hsame, hpending⟩ := exec_load hx
        rw [hsame]
        exact ⟨pending_followActivity hpending, hpending⟩
      · have hj : j ≠ i := hno (j, ⟨o, answer⟩) (List.mem_append_right _ (List.mem_singleton.mpr rfl))
        obtain ⟨hf, hheld⟩ := h.held f p before between' htrace'
          fun e he => hno e (List.mem_append_left _ he)
        refine ⟨hf, ?_⟩
        rw [rewritten_concat]
        exact (follow_exec (hother hj) hop hx f).1 _ hheld
    · intro f p changed before between after htrace hno hno'
      rw [← List.cons_append, ← List.append_assoc] at htrace
      rcases concat_eq_append_cons htrace with ⟨rfl, hbefore, hev⟩ | ⟨after', rfl, htrace'⟩
      · cases hev
        obtain ⟨hf, hheld⟩ := h.held f p before between hbefore hno
        refine ⟨hf, ?_⟩
        rw [← hf] at hheld ⊢
        exact exec_confirm hheld hx
      · have hj : j ≠ i :=
          hno' (j, ⟨o, answer⟩) (List.mem_append_right _ (List.mem_singleton.mpr rfl))
        rw [List.append_assoc, List.cons_append] at htrace'
        obtain ⟨hf, hdecided⟩ := h.decided f p changed before between after' htrace' hno
          fun e he => hno' e (List.mem_append_left _ he)
        refine ⟨hf, ?_⟩
        rw [← hdecided]
        exact (follow_exec (hother hj) hop hx f).2

/-- **What the handler's load and confirmation say of the row at any time.** -/
theorem race_of_reachable {admits : SqliteStore → Call → Prop} {store : SqliteStore} {i : Nat}
    {s : Config SqliteStore Call Op Op.Answer Outcome}
    (hreach : (handlers admits).Reachable store s)
    (hothers : ∀ j c, j ≠ i → System.callOf s j = some c → ¬ c.Inbound) : Race i s := by
  refine System.reachable_induction
    (I := fun s => (∀ j c, j ≠ i → System.callOf s j = some c → ¬ c.Inbound) → Race i s)
    ?_ ?_ hreach hothers
  · intro _
    refine ⟨fun f p before between htrace => ?_, fun f p changed before between after htrace => ?_⟩
    · have hlen := congrArg List.length htrace
      simp [System.initial] at hlen
    · have hlen := congrArg List.length htrace
      simp [System.initial] at hlen
  · intro s s' hreach hI hstep hothers
    have hbefore : ∀ j c, j ≠ i → System.callOf s j = some c → ¬ c.Inbound :=
      fun j c hj hc => hothers j c hj (System.callOf_step hstep hc)
    exact race_step hreach hstep hbefore (hI hbefore)

/-! ## the handler of an Accept -/

/-- `receive_accept_follow` has returned `Ok` in a call, for the pending relationship that the
call has loaded -/
def Call.Validates (c : Call) (past : List OpEvent) (p : PendingFollow) : Prop :=
  ∃ pre d remoteActor accept loads, c.Delivers pre d ∧ d.Considers pre remoteActor accept p loads ∧
    receiveAcceptFollow d.localActor remoteActor p accept = .ok () ∧ loads <+: past

theorem Delivery.Considers.prefix {d : Delivery} {pre past : List OpEvent} {remoteActor : Actor}
    {accept : Accept} {p : PendingFollow} (h : d.Considers pre remoteActor accept p past) :
    pre <+: past := by
  cases h with
  | given => exact List.prefix_rfl
  | loaded => exact List.prefix_append ..

/-- what a handler does before it holds an Accept against a pending relationship -/
theorem considers_past {c : Call} {d : Delivery} {pre past : List OpEvent} {remoteActor : Actor}
    {accept : Accept} {p : PendingFollow} (hc : c.Delivers pre d)
    (h : d.Considers pre remoteActor accept p past) :
    ∃ f, past = [stored (.loadPendingFollow f) (.ok (some p))] := by
  have htype : activityType d.value = some "Accept" := by
    obtain ⟨_, _, hdecided⟩ := decide_ok h.decide
    cases hdecided
    assumption
  cases hc with
  | inbox =>
    cases h with
    | given _ hpending => cases hpending
    | loaded => exact ⟨_, rfl⟩
  | shared _ hno => exact absurd htype hno
  | sharedAccept =>
    cases h with
    | given _ hpending =>
      cases hpending
      exact ⟨_, rfl⟩
    | loaded _ hpending => cases hpending

/-- after the same steps a call hands on the same activity -/
theorem Call.Delivers.unique_of_prefix {c : Call} {pre pre' past : List OpEvent} {d d' : Delivery}
    (h : c.Delivers pre d) (h' : c.Delivers pre' d') (hpre : pre <+: past)
    (hpre' : pre' <+: past) : pre = pre' ∧ d = d' := by
  by_cases htype : activityType d.value = some "Accept"
  · cases h with
    | inbox hactor hparse =>
      cases h' with
      | inbox hactor' hparse' =>
        rw [hactor] at hactor'
        rw [hparse] at hparse'
        cases hactor'
        cases hparse'
        exact ⟨rfl, rfl⟩
    | shared _ hno => exact absurd htype hno
    | sharedAccept hparse _ hfollow hactor hinbox =>
      cases h' with
      | shared hparse' hno =>
        rw [hparse] at hparse'
        cases hparse'
        exact absurd htype hno
      | sharedAccept hparse' _ hfollow' hactor' hinbox' =>
        have heq := (List.prefix_of_prefix_length_le hpre hpre' (Nat.le_refl 1)).eq_of_length rfl
        cases heq
        rw [hparse] at hparse'
        cases hparse'
        rw [hactor] at hactor'
        cases hactor'
        rw [hinbox] at hinbox'
        cases hinbox'
        exact ⟨rfl, rfl⟩
  · exact h.unique h' htype

theorem ActivityOp.prefix {d : Delivery} {pre past : List OpEvent} {o : Op}
    (h : ActivityOp d pre past o) : pre <+: past := by
  cases h with
  | storeFollower | removeFollower | loadPending => exact List.prefix_rfl
  | loadKey => exact List.prefix_append ..
  | sendAccept => exact List.prefix_append_of_prefix (List.prefix_append ..)
  | confirm hconsiders => exact hconsiders.prefix

theorem ActivityResult.prefix {d : Delivery} {pre past : List OpEvent} {reply : Reply}
    (h : ActivityResult d pre past reply) : pre <+: past := by
  cases h with
  | early | otherPending => exact List.prefix_rfl
  | storageFailed hop => exact List.prefix_append_of_prefix hop.prefix
  | removed | notPending => exact List.prefix_append ..
  | keyMissing => exact List.prefix_append_of_prefix (List.prefix_append ..)
  | sendFailed | sent =>
    exact List.prefix_append_of_prefix (List.prefix_append_of_prefix (List.prefix_append ..))
  | refused hconsiders => exact hconsiders.prefix
  | confirmed hconsiders => exact List.prefix_append_of_prefix hconsiders.prefix

/-- **A handler that has found an Accept valid and answers 202 has loaded the pending relationship
and confirmed it, whatever came of that.** -/
theorem past_of_validates {c : Call} {past : List OpEvent} {p : PendingFollow}
    (hresult : CallResult c past (.reply accepted)) (hvalid : c.Validates past p) :
    ∃ f changed, past = [stored (.loadPendingFollow f) (.ok (some p)),
      stored (.confirmPendingFollow p) (.ok changed)] := by
  obtain ⟨pre, d, remoteActor, accept, loads, hc, hconsiders, hok, hloads⟩ := hvalid
  obtain ⟨f, hf⟩ := considers_past hc hconsiders
  have hpre : pre <+: past := hconsiders.prefix.trans hloads
  have hdecide := hconsiders.decide
  cases hresult with
  | undelivered _ hno => exact absurd hpre (hno pre d hc)
  | activity hc' h =>
    obtain ⟨rfl, rfl⟩ := hc.unique_of_prefix hc' hpre h.prefix
    -- the same loads have been made in both views of the call
    have hloaded : ∀ p' loads', d.Considers pre remoteActor accept p' loads' → loads' <+: past →
        p' = p ∧ loads' = loads := by
      intro p' loads' hconsiders' hloads'
      obtain ⟨f', hf'⟩ := considers_past hc hconsiders'
      have hlength : loads'.length = loads.length := by rw [hf, hf']; rfl
      have heq := (List.prefix_of_prefix_length_le hloads' hloads hlength.le).eq_of_length hlength
      refine ⟨?_, heq⟩
      rw [hf, hf'] at heq
      cases heq
      rfl
    generalize hreply : accepted = reply at h
    cases h with
    | early hd | keyMissing hd | sendFailed hd | sent hd | removed hd =>
      rw [hdecide] at hd
      cases hd
    | storageFailed => cases hreply
    | otherPending hd hpending hfollow =>
      rw [hdecide] at hd
      cases hd
      cases hconsiders with
      | given _ hpending' hfollow' =>
        rw [hpending] at hpending'
        cases hpending'
        exact absurd hfollow' hfollow
      | loaded _ hpending' =>
        rw [hpending] at hpending'
        cases hpending'
    | notPending hd hpending =>
      rw [hdecide] at hd
      cases hd
      cases hconsiders with
      | given _ hpending' _ =>
        rw [hpending] at hpending'
        cases hpending'
      | loaded _ _ =>
        have heq := hloads.eq_of_length (by simp)
        have hlast := (List.append_inj' heq rfl).2
        cases hlast
    | refused hconsiders' herror =>
      have hd := hconsiders'.decide
      rw [hdecide] at hd
      cases hd
      obtain ⟨rfl, _⟩ := hloaded _ _ hconsiders' List.prefix_rfl
      rw [hok] at herror
      cases herror
    | confirmed hconsiders' hok' =>
      have hd := hconsiders'.decide
      rw [hdecide] at hd
      cases hd
      obtain ⟨rfl, rfl⟩ := hloaded _ _ hconsiders' (List.prefix_append ..)
      exact ⟨f, _, by rw [hf]; rfl⟩

/-- **When an Accept that is answered is kept.**  In any interleaving of one Accept handler with
calls of `follow_actor`: if `receive_accept_follow` has returned `Ok` for the relationship that the
handler has loaded and the handler has answered 202, then the row of the Follow is accepted exactly
if the relationship that was stored last between the handler's load and its confirmation, if any,
is the one that it has loaded. -/
theorem accept_kept_iff {admits : SqliteStore → Call → Prop} {store : SqliteStore}
    {s : Config SqliteStore Call Op Op.Answer Outcome}
    (hreach : (handlers admits).Reachable store s) {i : Nat}
    {t : Thread Call Op Op.Answer Outcome} {p : PendingFollow} (ht : s.threads[i]? = some t)
    (hvalid : t.call.Validates t.past p) (hanswer : t.rest = .ret (.reply accepted))
    (hothers : ∀ j c, j ≠ i → System.callOf s j = some c → ¬ c.Inbound) :
    (∃ changed, t.past = [stored (.loadPendingFollow p.followActivity) (.ok (some p)),
      stored (.confirmPendingFollow p) (.ok changed)]) ∧
    (s.state.Accepted p.followActivity ↔ rewritten p (System.between i s.trace) = p) := by
  have hresult := System.sat_of_reachable program_sat hreach t (List.mem_of_getElem? ht)
  rw [hanswer] at hresult
  obtain ⟨f, changed, hpast⟩ := past_of_validates hresult hvalid
  have hevents := (System.trace_past hreach).1 i t ht
  rw [hpast] at hevents
  obtain ⟨before, after, htrace, hno, hno'⟩ := System.trace_of_two hevents
  obtain ⟨rfl, hiff⟩ := (race_of_reachable hreach hothers).decided f p changed before _ after
    htrace hno hno'
  exact ⟨⟨changed, hpast⟩, hiff⟩

end

/-! ## an Accept that is lost -/

section
attribute [local instance] libraries

/-- the actor of bob once he has given himself a name -/
def Peer.namedBob : Actor := { bob.actor with name := some "Bob" }

/-- the server of alice once bob has published his name -/
def Peer.laterServer : FederServer :=
  { alice.server with
    resolver :=
      { resolver with
        actorResponse := fun _ => some (published (JsonText.toVec namedBob.serialize)) } }

/-- the call is a retry of the `follow_actor` behind a relationship -/
def Call.Retries (c : Call) (p : PendingFollow) : Prop :=
  ∃ server, c = .followActor server p.localActor p.remoteActor.id p.followActivity

theorem Peer.retry_program : (Call.followActor laterServer pendingFollow.localActor
    pendingFollow.remoteActor.id pendingFollow.followActivity).program =
      (sendFollow alice.actor namedBob followId).map .follow := by
  have hresolve : laterServer.resolver.resolve namedBob.id = .ok namedBob := by
    refine ActorResolver.resolve_of_fetch (fetchDocument_of_published rfl (by decide) rfl rfl ?_)
    exact published_size (by decide +kernel)
  have hlocal : laterServer.getActorById alice.actor.id = .ok (some alice.actor) :=
    congrArg Except.ok (if_pos rfl)
  exact congrArg (Prog.map Outcome.follow) (followActor_program followId hlocal hresolve)

/-- the handler of bob's Accept loads the row, a retry stores bob's new document, and the handler
confirms what it has loaded -/
theorem Peer.exists_lost_accept : ∃ s t,
    (handlers fun _ _ => True).Reachable (alice.store.storePendingFollow pendingFollow) s ∧
    s.threads[0]? = some t ∧ t.call.Validates t.past pendingFollow ∧
    t.rest = .ret (.reply accepted) ∧
    (∀ j c, j ≠ 0 → System.callOf s j = some c → c.Retries pendingFollow) ∧
    s.state.pending followId = some { pendingFollow with remoteActor := namedBob } := by
  obtain ⟨r, hr⟩ := exists_request bob alice accept.serialize
  obtain ⟨hparse, hdecide⟩ := hr.accept_received
  have hcheck : receiveAcceptFollow alice.actor bob.actor pendingFollow accept = .ok () := rfl
  have hload : (alice.store.storePendingFollow pendingFollow).loadPendingFollow followId =
      .ok (some pendingFollow) := SqliteStore.load_storePendingFollow rfl
  generalize alice.store.storePendingFollow pendingFollow = store at hload
  have hloadCall : store.call (.loadPendingFollow followId) = (.ok (some pendingFollow), store) :=
    congrArg (·, store) hload
  let call : Call := .inbox alice.server alice.host hr.received
  let retry : Call := .followActor laterServer pendingFollow.localActor
    pendingFollow.remoteActor.id pendingFollow.followActivity
  obtain ⟨next, hprogram, hnext⟩ : ∃ next,
      call.program = (tryStore (.loadPendingFollow followId) next).map .reply ∧
      next (some pendingFollow) =
        tryStore (.confirmPendingFollow pendingFollow) fun _ => .ret accepted :=
    ⟨_, congrArg (Prog.map Outcome.reply) (inbox_accept rfl hparse hdecide), confirmAccept_ok hcheck⟩
  have hretry : retry.program = (sendFollow alice.actor namedBob followId).map .follow :=
    retry_program
  let named : PendingFollow := { pendingFollow with remoteActor := namedBob }
  have hnamed : named ≠ pendingFollow := by
    intro h
    have hname := congrArg (fun p : PendingFollow => p.remoteActor.name) h
    exact Option.some_ne_none _ hname
  have hpending : (store.storePendingFollow named).pending followId = some named := by
    rw [pending_storePendingFollow (SqliteStore.pending_eq_some.mpr hload)]
    exact congrArg some (if_pos rfl)
  have hstoreCall : store.call (.storePendingFollow named) =
      (.ok (), store.storePendingFollow named) := rfl
  have hconfirm : (store.storePendingFollow named).call (.confirmPendingFollow pendingFollow) =
      (.ok false, store.storePendingFollow named) := by
    show (store.storePendingFollow named).confirmPendingFollow pendingFollow = _
    rw [SqliteStore.confirmPendingFollow_of_load (SqliteStore.pending_eq_some.mp hpending),
      if_neg fun h => hnamed (Option.some.inj h)]
  have harrived : (handlers fun _ _ => True).Reachable store
      ⟨store, [⟨call, [], (tryStore (.loadPendingFollow followId) next).map .reply⟩], []⟩ :=
    reachable_call .refl hprogram trivial
  have hstart := reachable_call harrived hretry trivial
  have hloaded := hstart.tail (step_tryStore (i := 0) rfl hloadCall)
  rw [hnext] at hloaded
  have hstored := hloaded.tail (step_store (i := 1) rfl (Or.inl hstoreCall))
  have hanswered := hstored.tail (step_tryStore (i := 0) rfl hconfirm)
  refine ⟨_, _, hanswered, rfl, ?_, rfl, ?_, hpending⟩
  · exact ⟨[], _, bob.actor, accept, _, .inbox rfl hparse, .loaded hdecide rfl, hcheck,
      List.prefix_append _ _⟩
  · intro j c hj hc
    match j with
    | 0 => exact absurd rfl hj
    | 1 =>
      cases hc
      exact ⟨laterServer, rfl⟩
    | j + 2 => cases hc

/-- the row of bob's Accept stays pending, as the relationship stored last is not the loaded one -/
theorem accept_kept_iff_of_bob : ∃ s, (handlers fun _ _ => True).Reachable
    (Peer.alice.store.storePendingFollow Peer.pendingFollow) s ∧
    rewritten Peer.pendingFollow (System.between 0 s.trace) ≠ Peer.pendingFollow := by
  obtain ⟨s, t, hreach, ht, hvalid, hanswer, hothers, hpending⟩ := Peer.exists_lost_accept
  have hretries : ∀ j c, j ≠ 0 → System.callOf s j = some c → ¬ c.Inbound := by
    intro j c hj hc
    obtain ⟨server, rfl⟩ := hothers j c hj hc
    exact id
  obtain ⟨_, hkept⟩ := accept_kept_iff hreach ht hvalid hanswer hretries
  exact ⟨s, hreach, fun h => not_accepted_of_pending hpending (hkept.mpr h)⟩

/-- **An Accept that is answered can be lost to a retry.** -/
theorem accept_lost_to_retry : ¬ ∀ (store : SqliteStore)
    (s : Config SqliteStore Call Op Op.Answer Outcome) (i : Nat)
    (t : Thread Call Op Op.Answer Outcome) (p : PendingFollow),
    (handlers fun _ _ => True).Reachable store s → s.threads[i]? = some t →
    t.call.Validates t.past p → t.rest = .ret (.reply accepted) →
    (∀ j c, j ≠ i → System.callOf s j = some c → c.Retries p) →
    s.state.Accepted p.followActivity := by
  intro h
  obtain ⟨s, t, hreach, ht, hvalid, hanswer, hothers, hpending⟩ := Peer.exists_lost_accept
  exact not_accepted_of_pending hpending (h _ s 0 t _ hreach ht hvalid hanswer hothers)

end

end Feder
