import Feder.Server.Libraries

/-!
# A follow is accepted on evidence about its own row

In every interleaving of signed inbox requests and `follow_actor` calls, the step that flips a
row of `outbound_follows` is the confirmation of what the row holds at that very step.

* `call_flips`               only a confirmation of its contents flips a row;
* `accepted_on_evidence`     the checks that have passed for these contents.
-/

namespace Feder
open Serde

section
variable [Crates]

/-- the calls of a server that requires signatures, interleaved over one store -/
def signedHandlers : System SqliteStore Call Op Op.Answer Outcome :=
  handlers fun _ c => c.server.inboxAuthPolicy = .RequireSigned

theorem signed_of_reachable {store : SqliteStore} {s : Config SqliteStore Call Op Op.Answer Outcome}
    (h : signedHandlers.Reachable store s) {t : Thread Call Op Op.Answer Outcome}
    (ht : t ∈ s.threads) : t.call.server.inboxAuthPolicy = .RequireSigned := by
  obtain ⟨_, hsigned⟩ := System.call_admitted h t ht
  exact hsigned

/-- the row under a text goes from pending to accepted -/
def Flips (store store' : SqliteStore) (k : String) (row : OutboundFollowRow) : Prop :=
  store.outboundFollows.lookup k = some row ∧ row.state = .pending ∧
    ∃ row', store'.outboundFollows.lookup k = some row' ∧ row'.state = .accepted

omit [Crates] in
theorem not_flips_self {store : SqliteStore} {k : String} {row : OutboundFollowRow} :
    ¬ Flips store store k row := by
  rintro ⟨hrow, hpending, row', hrow', haccepted⟩
  rw [hrow] at hrow'
  cases hrow'
  rw [hpending] at haccepted
  cases haccepted

theorem storePendingFollow_not_flips {store : SqliteStore} {p : PendingFollow} {k : String}
    {row : OutboundFollowRow} : ¬ Flips store (store.storePendingFollow p) k row := by
  rintro ⟨hrow, hpending, row', hrow', haccepted⟩
  rw [SqliteStore.lookup_storePendingFollow] at hrow'
  by_cases hk : k = p.followActivity.str
  · rw [if_pos hk] at hrow'
    cases hrow'
    rw [← hk, hrow] at haccepted
    change (if row.state = .pending then SqliteStore.followRow p .pending else row).state =
      .accepted at haccepted
    rw [if_pos hpending] at haccepted
    cases haccepted
  · rw [if_neg hk, hrow] at hrow'
    cases hrow'
    rw [hpending] at haccepted
    cases haccepted

theorem confirmPendingFollow_flips {store : SqliteStore} {expected : PendingFollow} {k : String}
    {row : OutboundFollowRow} (h : Flips store (store.confirmPendingFollow expected).2 k row) :
    k = expected.followActivity.str ∧
      SqliteStore.readRow expected.followActivity row = .ok expected := by
  by_cases htrue : (store.confirmPendingFollow expected).1 = .ok true
  · rw [SqliteStore.confirmPendingFollow_of_true htrue] at h
    obtain ⟨hrow, hpending, row', hrow', haccepted⟩ := h
    rw [SqliteStore.lookup_accept] at hrow'
    by_cases hk : k = expected.followActivity.str
    · refine ⟨hk, ?_⟩
      have hload := SqliteStore.confirmPendingFollow_true_iff.mp htrue
      obtain ⟨row'', hrow'', _, hread⟩ := SqliteStore.loadPendingFollow_some_iff.mp hload
      rw [← hk, hrow] at hrow''
      cases hrow''
      exact hread
    · rw [if_neg hk, hrow] at hrow'
      cases hrow'
      rw [hpending] at haccepted
      cases haccepted
  · rw [SqliteStore.confirmPendingFollow_of_ne htrue] at h
    exact absurd h not_flips_self

/-- **Only a confirmation of its contents flips a row.** -/
theorem call_flips {store : SqliteStore} {call : StoreCall} {k : String} {row : OutboundFollowRow}
    (h : Flips store (store.call call).2 k row) :
    ∃ expected, call = .confirmPendingFollow expected ∧ k = expected.followActivity.str ∧
      SqliteStore.readRow expected.followActivity row = .ok expected := by
  cases call with
  | confirmPendingFollow expected => exact ⟨expected, rfl, confirmPendingFollow_flips h⟩
  | storePendingFollow p => exact absurd h storePendingFollow_not_flips
  | storeFollower | removeFollower | listFollowers | listFollowerDeliveryTargets
  | loadActorKeyPair | loadPendingFollow | storeNote | loadNote => exact absurd h not_flips_self

theorem executes_flips {store store' : SqliteStore} {call : StoreCall}
    {answer : Except StoreError call.Value} (hx : Executes store call answer store') {k : String}
    {row : OutboundFollowRow} (h : Flips store store' k row) :
    ∃ expected, call = .confirmPendingFollow expected ∧ k = expected.followActivity.str ∧
      SqliteStore.readRow expected.followActivity row = .ok expected := by
  rcases hx with hx | ⟨_, rfl⟩
  · rw [show store' = (store.call call).2 by rw [hx]] at h
    exact call_flips h
  · exact absurd h not_flips_self

/-- **An accepted row has been accepted before, or the step has flipped it.** -/
theorem call_accepted {store : SqliteStore} {call : StoreCall} {k : String}
    {row : OutboundFollowRow} (hrow : (store.call call).2.outboundFollows.lookup k = some row)
    (haccepted : row.state = .accepted) :
    store.outboundFollows.lookup k = some row ∨
      ∃ old, Flips store (store.call call).2 k old ∧ row = { old with state := .accepted } := by
  cases call with
  | storePendingFollow p =>
    change (store.storePendingFollow p).outboundFollows.lookup k = some row at hrow
    rw [SqliteStore.lookup_storePendingFollow] at hrow
    by_cases hk : k = p.followActivity.str
    · rw [if_pos hk, ← hk] at hrow
      have hstored := Option.some.inj hrow
      cases hold : store.outboundFollows.lookup k with
      | none =>
        rw [hold] at hstored
        subst hstored
        cases haccepted
      | some old =>
        rw [hold] at hstored
        change (if old.state = .pending then SqliteStore.followRow p .pending else old) = row at hstored
        by_cases hpending : old.state = .pending
        · rw [if_pos hpending] at hstored
          subst hstored
          cases haccepted
        · rw [if_neg hpending] at hstored
          exact Or.inl (congrArg some hstored)
    · rw [if_neg hk] at hrow
      exact Or.inl hrow
  | confirmPendingFollow expected =>
    change (store.confirmPendingFollow expected).2.outboundFollows.lookup k = some row at hrow
    show _ ∨ ∃ old, Flips store (store.confirmPendingFollow expected).2 k old ∧ _
    by_cases htrue : (store.confirmPendingFollow expected).1 = .ok true
    · rw [SqliteStore.confirmPendingFollow_of_true htrue] at hrow ⊢
      have hlookup := hrow
      rw [SqliteStore.lookup_accept] at hlookup
      by_cases hk : k = expected.followActivity.str
      · rw [if_pos hk, ← hk] at hlookup
        obtain ⟨old, hold, hnew⟩ := Option.map_eq_some_iff.mp hlookup
        by_cases hpending : old.state = .pending
        · rw [if_pos hpending] at hnew
          exact Or.inr ⟨old, ⟨hold, hpending, row, hrow, haccepted⟩, hnew.symm⟩
        · rw [if_neg hpending] at hnew
          exact Or.inl (hnew ▸ hold)
      · rw [if_neg hk] at hlookup
        exact Or.inl hlookup
    · rw [SqliteStore.confirmPendingFollow_of_ne htrue] at hrow
      exact Or.inl hrow
  | storeFollower | removeFollower | listFollowers | listFollowerDeliveryTargets
  | loadActorKeyPair | loadPendingFollow | storeNote | loadNote => exact Or.inl hrow

theorem executes_accepted {store store' : SqliteStore} {call : StoreCall}
    {answer : Except StoreError call.Value} (hx : Executes store call answer store') {k : String}
    {row : OutboundFollowRow} (hrow : store'.outboundFollows.lookup k = some row)
    (haccepted : row.state = .accepted) :
    store.outboundFollows.lookup k = some row ∨
      ∃ old, Flips store store' k old ∧ row = { old with state := .accepted } := by
  rcases hx with hx | ⟨_, rfl⟩
  · rw [show store' = (store.call call).2 by rw [hx]] at hrow ⊢
    exact call_accepted hrow haccepted
  · exact Or.inl hrow

theorem confirmed_of_flips {store store' : SqliteStore} {expected : PendingFollow}
    {answer : Except StoreError Bool}
    (hx : Executes store (.confirmPendingFollow expected) answer store') {k : String}
    {row : OutboundFollowRow} (h : Flips store store' k row) : answer = .ok true := by
  rcases hx with hx | ⟨_, rfl⟩
  · change store.confirmPendingFollow expected = (answer, store') at hx
    by_contra hne
    have hstore := @SqliteStore.confirmPendingFollow_of_ne _ store expected
      (by rw [hx]; exact hne)
    rw [hx] at hstore
    dsimp only at hstore
    rw [hstore] at h
    exact not_flips_self h
  · exact absurd h not_flips_self

theorem callOp_confirm {c : Call} {past : List OpEvent} {pending : PendingFollow}
    (h : CallOp c past (.store (.confirmPendingFollow pending))) :
    ∃ pre d remoteActor accept, c.Delivers pre d ∧
      d.Considers pre remoteActor accept pending past ∧
      receiveAcceptFollow d.localActor remoteActor pending accept = .ok () := by
  cases h with
  | activity hc h =>
    cases h with
    | confirm hconsiders hok => exact ⟨_, _, _, _, hc, hconsiders, hok⟩

theorem delivers_inbox {c : Call} {pre : List OpEvent} {d : Delivery} (h : c.Delivers pre d) :
    d.expectedInbox = d.localActor.inbox ∨ d.localActor.sharedInbox = some d.expectedInbox := by
  cases h with
  | inbox => exact Or.inl rfl
  | shared _ _ _ _ hinbox => exact Or.inr hinbox
  | sharedAccept _ _ _ _ hinbox => exact Or.inr hinbox

/-- **A follow is accepted on evidence about the row that is flipped.**  Whenever a step of any
interleaving takes a row of `outbound_follows` from pending to accepted, it is the step of a
request for which all checks of `receive_accept_follow` hold of the contents of the row at that
step: it is verified as the row's remote actor and was delivered to an inbox of the row's local
actor. -/
theorem accepted_on_evidence {store : SqliteStore}
    {s s' : Config SqliteStore Call Op Op.Answer Outcome}
    (hreach : signedHandlers.Reachable store s) (hstep : signedHandlers.Step s s') {k : String}
    {row : OutboundFollowRow} (hflips : Flips s.state s'.state k row) :
    ∃ i t pre d remoteActor accept pending, s.threads[i]? = some t ∧
      s'.trace = s.trace ++ [(i, stored (.confirmPendingFollow pending) (.ok true))] ∧
      t.call.Delivers pre d ∧ k = pending.followActivity.str ∧
      SqliteStore.readRow pending.followActivity row = .ok pending ∧
      d.VerifiedAs remoteActor ∧ Accept.deserialize d.value = some accept ∧
      AcceptEvidence d.localActor remoteActor pending accept ∧
      (d.expectedInbox = d.localActor.inbox ∨
        d.localActor.sharedInbox = some d.expectedInbox) := by
  cases hstep with
  | start c _ => exact absurd hflips not_flips_self
  | exec i t o k' ans state' ht hrest hx =>
    have hmem := List.mem_of_getElem? ht
    have hop := System.exec_sat program_sat hreach ht hrest
    cases o with
    | sendActivity localActor keyPair activity inbox =>
      have hsame : state' = s.state := hx
      subst hsame
      exact absurd hflips not_flips_self
    | store call =>
      obtain ⟨pending, rfl, hk, hread⟩ := executes_flips hx hflips
      obtain ⟨pre, d, remoteActor, accept, hc, hconsiders, hok⟩ := callOp_confirm hop
      have hpolicy : d.server.inboxAuthPolicy = .RequireSigned := by
        rw [hc.server_eq]
        exact signed_of_reachable hreach hmem
      obtain ⟨hverified, haccept⟩ := decide_accept hpolicy hconsiders.decide
      cases confirmed_of_flips hx hflips
      exact ⟨i, t, pre, d, remoteActor, accept, pending, ht, rfl, hc, hk, hread, hverified,
        haccept, receiveAcceptFollow_ok_iff.mp hok, delivers_inbox hc⟩

end

section
attribute [local instance] libraries

/-- alice's server confirms the Accept of bob -/
theorem accepted_on_evidence_of_bob : ∃ store s s' row, signedHandlers.Reachable store s ∧
    signedHandlers.Step s s' ∧ Flips s.state s'.state Peer.followId.str row ∧
    ∃ d remoteActor pending accept, Delivery.VerifiedAs d remoteActor ∧
      AcceptEvidence d.localActor remoteActor pending accept := by
  obtain ⟨r, hr⟩ := Peer.exists_request .bob .alice Peer.accept.serialize
  obtain ⟨hparse, hdecide⟩ := hr.accept_received
  have hcheck : receiveAcceptFollow Peer.alice.actor Peer.bob.actor Peer.pendingFollow Peer.accept =
      .ok () := rfl
  have hload : (SqliteStore.empty.storePendingFollow Peer.pendingFollow).loadPendingFollow
      Peer.followId = .ok (some Peer.pendingFollow) := SqliteStore.load_storePendingFollow rfl
  generalize SqliteStore.empty.storePendingFollow Peer.pendingFollow = store at hload
  have hloadCall : store.call (.loadPendingFollow Peer.followId) =
      (.ok (some Peer.pendingFollow), store) := congrArg (·, store) hload
  have hconfirm : store.call (.confirmPendingFollow Peer.pendingFollow) =
      (.ok true, store.accept Peer.followId) := by
    show store.confirmPendingFollow Peer.pendingFollow = _
    rw [SqliteStore.confirmPendingFollow_of_load hload, if_pos rfl]
    rfl
  obtain ⟨row, hrow, hpending, _⟩ := SqliteStore.loadPendingFollow_some_iff.mp hload
  have hflips : Flips store (store.accept Peer.followId) Peer.followId.str row := by
    refine ⟨hrow, hpending, { row with state := .accepted }, ?_, rfl⟩
    rw [SqliteStore.lookup_accept, if_pos rfl, hrow, Option.map_some, if_pos hpending]
  -- the request arrives, the handler loads the row, and it confirms what it has loaded
  let call : Call := .inbox Peer.alice.server Peer.alice.host hr.received
  obtain ⟨next, hprogram, hnext⟩ : ∃ next,
      call.program = (tryStore (.loadPendingFollow Peer.followId) next).map .reply ∧
      next (some Peer.pendingFollow) =
        tryStore (.confirmPendingFollow Peer.pendingFollow) fun _ => .ret accepted :=
    ⟨_, congrArg (Prog.map Outcome.reply) (inbox_accept rfl hparse hdecide), confirmAccept_ok hcheck⟩
  have hstart : signedHandlers.Reachable store
      ⟨store, [⟨call, [], (tryStore (.loadPendingFollow Peer.followId) next).map .reply⟩], []⟩ :=
    reachable_call .refl hprogram rfl
  have hloaded := hstart.tail (step_tryStore (i := 0) rfl hloadCall)
  rw [hnext] at hloaded
  obtain ⟨_, _, _, d, remoteActor, accept, pending, _, _, _, _, _, hverified, _, hevidence, _⟩ :=
    accepted_on_evidence hloaded (step_tryStore (i := 0) rfl hconfirm) hflips
  exact ⟨store, _, _, row, hloaded, step_tryStore (i := 0) rfl hconfirm, hflips, d, remoteActor,
    pending, accept, hverified, hevidence⟩

end

end Feder
