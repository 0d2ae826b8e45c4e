import Feder.Lib.Agree
import Feder.Server.Libraries
import Feder.Server.Requests
import Feder.Server.Responses

/-!
# Requests that are processed again

A request that was refused with 500 or 502 is processed again, with the same answers of the
dispatcher and the same resolved actors, until it is accepted.

* `program_agree`         two processings do the same until one of them fails;
* `retried_run`           what is accepted after failures would have been accepted at once;
* `responses_and_store`   every response against the store, and the end of any retries.
-/

namespace Feder
open Serde

section
variable [Crates]

/-! ## what stays the same -/

/-- what the processings of a request have in common: the policy, what the dispatcher answers, and
the actors that are resolved -/
structure Setting where
  inboxAuthPolicy : InboxAuthPolicy
  getActor : String → Option Actor
  getActorById : Iri → Option Actor
  actor : Iri → Actor

/-- the server answers as the setting says, as far as it answers -/
structure FederServer.Within (server : FederServer) (setting : Setting) : Prop where
  policy : server.inboxAuthPolicy = setting.inboxAuthPolicy
  getActor : ∀ {identifier actor}, server.getActor identifier = .ok actor →
    actor = setting.getActor identifier
  getActorById : ∀ {id actor}, server.getActorById id = .ok actor → actor = setting.getActorById id
  resolve : ∀ {id actor}, server.resolver.resolve id = .ok actor → actor = setting.actor id

/-- the same call at a server -/
def Call.servedBy (server : FederServer) : Call → Call
  | .inbox _ identifier request => .inbox server identifier request
  | .sharedInbox _ request => .sharedInbox server request
  | .followActor _ localActorId remoteActorId followId =>
    .followActor server localActorId remoteActorId followId

/-! ## decisions -/

/-- an early return with a failure -/
def Refused (reply : Reply) : Prop := ∃ status, reply = .error status

omit [Crates] in
theorem refused_of_mapError {α : Type} (x : Except StatusCode α) :
    (x.mapError (Except.error : StatusCode → Reply)).Throws Refused := by
  intro reply hreply
  cases x with
  | error status =>
    cases hreply
    exact ⟨status, rfl⟩
  | ok a => cases hreply

omit [Crates] in
/-- checks with a failure for each error agree if they succeed alike -/
theorem agree_of_checks {α : Type} {x y : Except StatusCode α}
    (h : ∀ a b, x = .ok a → y = .ok b → a = b) :
    (x.mapError (Except.error : StatusCode → Reply)).Agree Refused (y.mapError .error) := by
  refine Except.agree_of_ok (refused_of_mapError x) (refused_of_mapError y) ?_
  intro a b ha hb
  exact h a b (mapError_ok.mp ha) (mapError_ok.mp hb)

section
variable {setting : Setting} {d : Delivery} {server : FederServer}

theorem authenticate_agree (hd : d.server.Within setting) (hserver : server.Within setting) :
    (d.authenticate.mapError (Except.error : StatusCode → Reply)).Agree Refused
      (({ d with server := server } : Delivery).authenticate.mapError .error) := by
  have hresolved : ∀ {server' : FederServer} {verifiedActor}, server'.Within setting →
      setting.inboxAuthPolicy = .RequireSigned →
      ({ d with server := server' } : Delivery).authenticate = .ok verifiedActor →
      ∃ id, activityActorId d.value = some id ∧ verifiedActor = some (setting.actor id) := by
    intro server' verifiedActor hwithin hpolicy hauth
    obtain ⟨actor, hverified, hactor, hverify⟩ :=
      authenticate_signed (hwithin.policy.trans hpolicy) hauth
    obtain ⟨_, _, _, hv⟩ := verifySignedRequest_ok hverify
    rw [hverified, hwithin.resolve hv.resolved]
    exact ⟨_, hactor, rfl⟩
  refine agree_of_checks ?_
  intro actor actor' hauth hauth'
  cases hpolicy : setting.inboxAuthPolicy with
  | RequireSigned =>
    obtain ⟨id, hid, rfl⟩ := hresolved hd hpolicy hauth
    obtain ⟨id', hid', rfl⟩ := hresolved hserver hpolicy hauth'
    rw [hid] at hid'
    rw [Option.some.inj hid']
  | AllowUnsignedInsecureDev =>
    have hnone : ∀ {server' : FederServer} {verifiedActor}, server'.Within setting →
        ({ d with server := server' } : Delivery).authenticate = .ok verifiedActor →
        verifiedActor = none := by
      intro server' verifiedActor hwithin hok
      unfold Delivery.authenticate at hok
      rw [show ({ d with server := server' } : Delivery).server.inboxAuthPolicy =
        .AllowUnsignedInsecureDev from hwithin.policy.trans hpolicy] at hok
      exact (Except.ok.inj hok).symm
    rw [hnone hd hauth, hnone hserver hauth']

theorem remoteActor_agree (hd : d.server.Within setting) (hserver : server.Within setting)
    (verifiedActor : Option Actor) (reference : Reference Actor) :
    ((d.remoteActor verifiedActor reference).mapError (Except.error : StatusCode → Reply)).Agree
      Refused
      ((({ d with server := server } : Delivery).remoteActor verifiedActor reference).mapError
        .error) := by
  refine agree_of_checks ?_
  intro actor actor' hactor hactor'
  cases verifiedActor with
  | some verified => exact (Except.ok.inj hactor).symm.trans (Except.ok.inj hactor')
  | none =>
    cases reference with
    | object embedded => exact (Except.ok.inj hactor).symm.trans (Except.ok.inj hactor')
    | id actorId =>
      have hresolved : ∀ {server' : FederServer} {actor}, server'.Within setting →
          resolveActorReference server'.resolver (.id actorId) = .ok actor →
          actor = setting.actor actorId := by
        intro server' actor hwithin hok
        unfold resolveActorReference at hok
        dsimp only at hok
        split at hok
        · rename_i resolved hresolve
          cases hok
          exact hwithin.resolve hresolve
        · cases hok
      rw [hresolved hd hactor, hresolved hserver hactor']

theorem decideFollow_agree (hd : d.server.Within setting) (hserver : server.Within setting)
    (verifiedActor : Option Actor) :
    (d.decideFollow verifiedActor).Agree Refused
      (({ d with server := server } : Delivery).decideFollow verifiedActor) := by
  unfold Delivery.decideFollow
  dsimp only
  cases Follow.deserialize d.value with
  | none => exact .refl _
  | some follow =>
    refine (remoteActor_agree hd hserver verifiedActor follow.actor).bind fun remoteActor => ?_
    exact .refl _

theorem decideAccept_agree (hd : d.server.Within setting) (hserver : server.Within setting)
    (verifiedActor : Option Actor) :
    (d.decideAccept verifiedActor).Agree Refused
      (({ d with server := server } : Delivery).decideAccept verifiedActor) := by
  unfold Delivery.decideAccept
  refine Except.Agree.guard ?_
  dsimp only
  cases Accept.deserialize d.value with
  | none => exact .refl _
  | some accept =>
    refine (remoteActor_agree hd hserver verifiedActor accept.actor).bind fun remoteActor => ?_
    exact .refl _

theorem decideUndo_agree (hd : d.server.Within setting) (hserver : server.Within setting)
    (verifiedActor : Option Actor) :
    (d.decideUndo verifiedActor).Agree Refused
      (({ d with server := server } : Delivery).decideUndo verifiedActor) := by
  unfold Delivery.decideUndo
  refine Except.Agree.guard ?_
  dsimp only
  cases Undo.deserialize d.value with
  | none => exact .refl _
  | some undo =>
    refine (remoteActor_agree hd hserver verifiedActor undo.actor).bind fun remoteActor => ?_
    exact .refl _

/-- **Decisions about one activity agree**, whenever the request is processed. -/
theorem decide_agree (hd : d.server.Within setting) (hserver : server.Within setting) :
    d.decide.Agree Refused ({ d with server := server } : Delivery).decide := by
  unfold Delivery.decide
  refine (authenticate_agree hd hserver).bind fun verifiedActor => ?_
  dsimp only
  split
  · exact (decideFollow_agree hd hserver verifiedActor).bind fun _ => .refl _
  · exact (decideAccept_agree hd hserver verifiedActor).bind fun _ => .refl _
  · exact (decideUndo_agree hd hserver verifiedActor).bind fun _ => .refl _
  · exact .refl _

/-! ## programs -/

/-- the answer of an operation that fails -/
def Bad : (o : Op) → o.Answer → Prop
  | .store _, answer => ∃ e, answer = .error e
  | .sendActivity .., answer => ∃ e, answer = .error e

/-- the programs make the same operations until one of them returns a failure -/
abbrev AgreeOn : Program Reply → Program Reply → Prop := Prog.Agree Refused Bad

theorem agreeOn_failure (status : StatusCode) (p : Program Reply) :
    AgreeOn (.ret (.error status)) p := .left ⟨_, ⟨status, rfl⟩, rfl⟩

theorem agreeOn_failure_right (status : StatusCode) (p : Program Reply) :
    AgreeOn p (.ret (.error status)) := .right ⟨_, ⟨status, rfl⟩, rfl⟩

theorem agreeOn_tryStore {call : StoreCall} {next next' : call.Value → Program Reply}
    (h : ∀ value, AgreeOn (next value) (next' value)) :
    AgreeOn (tryStore call next) (tryStore call next') := by
  refine .op (Op.store call) ?_ ?_ ?_
  · intro answer hgood
    cases answer with
    | error e => exact absurd ⟨e, rfl⟩ hgood
    | ok value => exact h value
  · rintro _ ⟨e, rfl⟩
    exact ⟨_, ⟨_, rfl⟩, rfl⟩
  · rintro _ ⟨e, rfl⟩
    exact ⟨_, ⟨_, rfl⟩, rfl⟩

theorem acceptFollow_agree (localActor : Actor) (outcome : FollowOutcome) :
    AgreeOn (acceptFollow localActor outcome) (acceptFollow localActor outcome) := by
  refine agreeOn_tryStore fun _ => agreeOn_tryStore fun keyPair => ?_
  cases keyPair with
  | none => exact .ret _
  | some keyPair =>
    refine .op _ ?_ ?_ ?_
    · intro answer hgood
      cases answer with
      | error e => exact absurd ⟨e, rfl⟩ hgood
      | ok u => exact .ret _
    · rintro _ ⟨e, rfl⟩
      exact ⟨_, ⟨_, rfl⟩, rfl⟩
    · rintro _ ⟨e, rfl⟩
      exact ⟨_, ⟨_, rfl⟩, rfl⟩

theorem confirmAccept_agree (localActor remoteActor : Actor) (accept : Accept)
    (pending : PendingFollow) :
    AgreeOn (confirmAccept localActor remoteActor accept pending)
      (confirmAccept localActor remoteActor accept pending) := by
  unfold confirmAccept
  split
  · exact .ret _
  · exact .ret _
  · exact agreeOn_tryStore fun _ => .ret _

theorem findPending_agree (remoteActor : Actor) (accept : Accept) :
    AgreeOn (findPending d remoteActor accept)
      (findPending { d with server := server } remoteActor accept) := by
  unfold findPending
  dsimp only
  split
  · split
    · exact confirmAccept_agree _ _ _ _
    · exact .ret _
  · refine agreeOn_tryStore fun pending => ?_
    cases pending with
    | none => exact .ret _
    | some pending => exact confirmAccept_agree _ _ _ _

theorem receiveActivity_agree (hd : d.server.Within setting) (hserver : server.Within setting) :
    AgreeOn (receiveActivity d) (receiveActivity { d with server := server }) := by
  have hdecide := decide_agree hd hserver
  unfold receiveActivity
  generalize d.decide = decision, ({ d with server := server } : Delivery).decide = decision' at *
  cases hdecide with
  | left h =>
    obtain ⟨status, rfl⟩ := h
    exact agreeOn_failure status _
  | right h =>
    obtain ⟨status, rfl⟩ := h
    exact agreeOn_failure_right status _
  | refl =>
    cases decision with
    | error reply => exact .ret reply
    | ok decision =>
      cases decision with
      | follow outcome => exact acceptFollow_agree d.localActor outcome
      | accept remoteActor accept => exact findPending_agree remoteActor accept
      | undo outcome => exact agreeOn_tryStore fun _ => .ret _

end

section
variable {setting : Setting} {server server' : FederServer}

theorem inbox_agree (hserver : server.Within setting) (hserver' : server'.Within setting)
    (identifier : String) (request : InboxRequest) :
    AgreeOn (inbox server identifier request) (inbox server' identifier request) := by
  unfold inbox
  cases hactor : server.getActor identifier with
  | error e => exact agreeOn_failure _ _
  | ok actor =>
    cases hactor' : server'.getActor identifier with
    | error e => exact agreeOn_failure_right _ _
    | ok actor' =>
      obtain rfl : actor = actor' :=
        (hserver.getActor hactor).trans (hserver'.getActor hactor').symm
      cases actor with
      | none => exact .ret _
      | some localActor =>
        cases parseInboxRequest request with
        | error status => exact .ret _
        | ok parsed => exact receiveActivity_agree hserver hserver'

theorem receiveShared_agree (hserver : server.Within setting) (hserver' : server'.Within setting)
    (request : InboxRequest) (value : Json) (target : Option (Iri × Option PendingFollow)) :
    AgreeOn (receiveShared server request value target)
      (receiveShared server' request value target) := by
  cases target with
  | none => exact .ret _
  | some target =>
    obtain ⟨targetId, pending⟩ := target
    unfold receiveShared
    dsimp only
    cases hactor : server.getActorById targetId with
    | error e => exact agreeOn_failure _ _
    | ok actor =>
      cases hactor' : server'.getActorById targetId with
      | error e => exact agreeOn_failure_right _ _
      | ok actor' =>
        obtain rfl : actor = actor' :=
          (hserver.getActorById hactor).trans (hserver'.getActorById hactor').symm
        cases actor with
        | none => exact .ret _
        | some localActor =>
          dsimp only
          cases localActor.sharedInbox with
          | none => exact .ret _
          | some expectedInbox => exact receiveActivity_agree hserver hserver'

theorem sharedInbox_agree (hserver : server.Within setting) (hserver' : server'.Within setting)
    (request : InboxRequest) :
    AgreeOn (sharedInbox server request) (sharedInbox server' request) := by
  unfold sharedInbox
  cases parseInboxRequest request with
  | error status => exact .ret _
  | ok parsed =>
    dsimp only
    unfold sharedInboxTarget
    split
    · split
      · exact receiveShared_agree hserver hserver' _ _ _
      · exact agreeOn_tryStore fun pending => receiveShared_agree hserver hserver' _ _ _
    · exact receiveShared_agree hserver hserver' _ _ _

/-- an outcome that is an early return with a failure -/
def Outcome.Failure (outcome : Outcome) : Prop := ∃ reply, Refused reply ∧ outcome = .reply reply

/-- **Two processings of a request do the same until one of them fails.** -/
theorem program_agree (hserver : server.Within setting) (hserver' : server'.Within setting)
    {c : Call} (hc : c.Inbound) :
    Prog.Agree Outcome.Failure Bad (c.servedBy server).program (c.servedBy server').program := by
  have hfailure : ∀ reply, Refused reply → (Outcome.reply reply).Failure :=
    fun reply h => ⟨reply, h, rfl⟩
  cases c with
  | inbox _ identifier request =>
    exact (inbox_agree hserver hserver' identifier request).map hfailure
  | sharedInbox _ request => exact (sharedInbox_agree hserver hserver' request).map hfailure
  | followActor => exact hc.elim

theorem exec_determined {c : Call} {store store₁ store₂ : SqliteStore} {o : Op}
    {answer answer' : o.Answer}
    (h : (handlers fun _ _ => True).exec c store o answer store₁)
    (h' : (handlers fun _ _ => True).exec c store o answer' store₂) (hgood : ¬ Bad o answer)
    (hgood' : ¬ Bad o answer') : answer = answer' ∧ store₁ = store₂ := by
  cases o with
  | store call =>
    rcases h with h | ⟨hbad, _⟩
    · rcases h' with h' | ⟨hbad', _⟩
      · exact Prod.mk.inj (h.symm.trans h')
      · exact absurd hbad' hgood'
    · exact absurd hbad hgood
  | sendActivity localActor keyPair activity inbox =>
    refine ⟨?_, Eq.trans h (Eq.symm h')⟩
    cases answer with
    | error e => exact absurd ⟨e, rfl⟩ hgood
    | ok u =>
      cases answer' with
      | error e => exact absurd ⟨e, rfl⟩ hgood'
      | ok u' => rfl

/-! ## retries -/

/-- a request has been processed any number of times, each time with 500 or 502 -/
inductive Call.Retried (c : Call) (setting : Setting) : SqliteStore → SqliteStore → Prop where
  | nil {store : SqliteStore} : Retried c setting store store
  | cons {store store₁ store' : SqliteStore} {server : FederServer} {reply : Reply}
      (hserver : server.Within setting) (h : (c.servedBy server).Processes store reply store₁)
      (hreply : statusOf reply ∈ [.INTERNAL_SERVER_ERROR, .BAD_GATEWAY])
      (hrest : Retried c setting store₁ store') : Retried c setting store store'

theorem program_of_follow {c : Call} {d : Delivery} {outcome : FollowOutcome}
    (hc : c.Delivers [] d) (hd : d.decide = .ok (.follow outcome)) :
    c.program = (acceptFollow d.localActor outcome).map .reply := by
  cases hc with
  | inbox hactor hparse => exact congrArg (Prog.map Outcome.reply) (inbox_follow hactor hparse hd)
  | shared hparse htype htarget hactor hinbox =>
    show (sharedInbox _ _).map _ = _
    unfold sharedInbox
    rw [hparse]
    dsimp only
    unfold sharedInboxTarget
    rw [if_neg htype, htarget]
    unfold receiveShared
    dsimp only [Option.map_some]
    rw [hactor]
    dsimp only
    rw [hinbox]
    dsimp only
    unfold receiveActivity
    rw [hd]

theorem accepted_not_failure : ¬ (Outcome.reply accepted).Failure := by
  rintro ⟨reply, ⟨status, rfl⟩, h⟩
  cases h

theorem SqliteStore.storeFollower_idem (store : SqliteStore) (follower : Actor) (following : Iri) :
    (store.storeFollower follower following).storeFollower follower following =
      store.storeFollower follower following := by
  rw [SqliteStore.storeFollower_eq, SqliteStore.storeFollower_eq]
  dsimp only
  rw [Finmap.insert_insert]

/-- a program that stores a follower first does the same where the follower is stored already -/
theorem processes_of_stored {c c' : Call} {store store' : SqliteStore} {d : Delivery}
    {outcome : FollowOutcome} (hc : c.Delivers [] d) (hd : d.decide = .ok (.follow outcome))
    (hagree : Prog.Agree Outcome.Failure Bad c.program c'.program)
    (h : c'.Processes (store.storeFollower outcome.follower outcome.following) accepted store') :
    c'.Processes store accepted store' := by
  rw [program_of_follow hc hd] at hagree
  unfold Call.Processes at h ⊢
  generalize c'.program = p at hagree h ⊢
  generalize hq : (acceptFollow d.localActor outcome).map Outcome.reply = q at hagree
  cases hagree with
  | left hstop =>
    obtain ⟨_, _, rfl⟩ := hstop
    cases hq
  | right hstop => exact absurd (hstop.runs h) accepted_not_failure
  | ret => cases hq
  | op o hnext hk hl =>
    cases hq
    cases h with
    | @op _ _ store₁ _ _ _ answer _ hrely hexec hrest =>
      subst hrely
      cases answer with
      | error e => exact absurd ((hl _ ⟨e, rfl⟩).runs hrest) accepted_not_failure
      | ok u =>
        have hstored : (store.storeFollower outcome.follower outcome.following).storeFollower
            outcome.follower outcome.following = store₁ := (Prod.mk.inj (executes_ok hexec)).2
        rw [SqliteStore.storeFollower_idem] at hstored
        subst hstored
        exact .op rfl (Or.inl rfl) hrest

/-- **What is accepted after failures would have been accepted at once**, with the same store. -/
theorem retried_run {c : Call} (hc : c.Inbound) {store store₁ store₂ : SqliteStore}
    (h : c.Retried setting store store₁) (hserver : server.Within setting)
    (hrun : (c.servedBy server).Processes store₁ accepted store₂) :
    (c.servedBy server).Processes store accepted store₂ := by
  induction h with
  | nil => exact hrun
  | cons hserver' hprocessed hreply _ ih =>
    have hlater := ih hrun
    -- the failed attempt wrote nothing, or the follower that is written again
    cases effect_of_processed hprocessed with
    | unchanged => exact hlater
    | followed hdelivers hdecide =>
      exact processes_of_stored hdelivers hdecide (program_agree hserver' hserver hc) hlater
    | unfollowed | confirmed => exact absurd hreply (by decide)

theorem accepted_of_status {c : Call} {store store' : SqliteStore} {reply : Reply}
    (h : c.Processes store reply store') (hstatus : statusOf reply = .ACCEPTED) :
    reply = accepted := by
  rcases h.regular with heq | ⟨status, hfailure, rfl⟩
  · exact heq
  · have hstatus' : status = .ACCEPTED := hstatus
    subst hstatus'
    exact absurd hfailure (by decide)

/-- **Responses and the store.**  Of every request to an inbox, whatever it holds and whatever the
resolver, the dispatcher, the storage and the delivery come to: with 400, 401, 404 and 415 no table
changes; with 500 and 502 none, or the row of a follower was written by a Follow that has passed
`receive_follow`; with 202 at most one row.  And if it is processed until it is accepted, after any
failures with the same actors, the store is the one that a single accepted processing leaves. -/
theorem responses_and_store {c : Call} (hc : c.Inbound) :
    (∀ store reply store', c.Processes store reply store' →
      (statusOf reply ∈ [.BAD_REQUEST, .UNAUTHORIZED, .NOT_FOUND, .UNSUPPORTED_MEDIA_TYPE] →
        store' = store) ∧
      (statusOf reply ∈ [.INTERNAL_SERVER_ERROR, .BAD_GATEWAY] → store' = store ∨
        ∃ d x, c.Delivers [] d ∧ d.PassesFollow x ∧ store' = { store with
          followers := store.followers.insert (x.id.str, d.localActor.id.str)
            ⟨some x.inbox.str, x.sharedInbox.map Iri.str⟩ }) ∧
      (statusOf reply = .ACCEPTED → store.OneRow store') ∧
      (statusOf reply = .ACCEPTED ∨ statusOf reply ∈ failures)) ∧
    (∀ setting store store₁ server reply store₂, c.Retried setting store store₁ →
      server.Within setting → (c.servedBy server).Processes store₁ reply store₂ →
      statusOf reply = .ACCEPTED →
      (c.servedBy server).Processes store reply store₂ ∧
      ∀ server' reply' store', server'.Within setting →
        (c.servedBy server').Processes store reply' store' → statusOf reply' = .ACCEPTED →
        store₂ = store') := by
  refine ⟨fun store reply store' h => response_of_processed h, ?_⟩
  intro setting store store₁ server reply store₂ hretried hserver hrun hstatus
  obtain rfl := accepted_of_status hrun hstatus
  have hfirst := retried_run hc hretried hserver hrun
  refine ⟨hfirst, ?_⟩
  intro server' reply' store' hserver' hrun' hstatus'
  obtain rfl := accepted_of_status hrun' hstatus'
  have hagree := program_agree hserver hserver' hc
  exact (hagree.runs hfirst hrun' accepted_not_failure accepted_not_failure
    fun _ _ _ _ _ _ => exec_determined).2

section
variable {c : Call} {store store₁ store' : SqliteStore} {reply : Reply}

theorem runs_of_tryStore {call : StoreCall} {next : call.Value → Program Reply} {value : call.Value}
    (hcall : store.call call = (.ok value, store₁))
    (h : Prog.Runs ((handlers fun _ _ => True).exec c) Eq store₁ ((next value).map Outcome.reply)
      (Outcome.reply reply) store') :
    Prog.Runs ((handlers fun _ _ => True).exec c) Eq store ((tryStore call next).map Outcome.reply)
      (Outcome.reply reply) store' := by
  have hexec : Executes store call (.ok value) store₁ := Or.inl hcall
  exact .op rfl hexec h

theorem runs_of_send {localActor : Actor} {keyPair : ActorKeyPair} {activity : Json} {inbox : Iri}
    {next : Except SendError Unit → Program Reply} (answer : Except SendError Unit)
    (h : Prog.Runs ((handlers fun _ _ => True).exec c) Eq store ((next answer).map Outcome.reply)
      (Outcome.reply reply) store') :
    Prog.Runs ((handlers fun _ _ => True).exec c) Eq store
      ((Prog.op (.sendActivity localActor keyPair activity inbox) next).map Outcome.reply)
      (Outcome.reply reply) store' := by
  refine .op rfl ?_ h
  rfl

theorem follow_processes {localActor : Actor} {outcome : FollowOutcome} {keyPair : ActorKeyPair}
    (hprogram : c.program = (acceptFollow localActor outcome).map .reply)
    (hkey : (store.storeFollower outcome.follower outcome.following).call
      (.loadActorKeyPair localActor.id) =
        (.ok (some keyPair), store.storeFollower outcome.follower outcome.following)) :
    c.Processes store accepted (store.storeFollower outcome.follower outcome.following) ∧
    c.Processes store (.error .BAD_GATEWAY)
      (store.storeFollower outcome.follower outcome.following) := by
  have hstored : store.call (.storeFollower outcome.follower outcome.following) =
      (.ok (), store.storeFollower outcome.follower outcome.following) := rfl
  unfold Call.Processes
  rw [hprogram]
  refine ⟨?_, ?_⟩
  · apply runs_of_tryStore hstored
    apply runs_of_tryStore hkey
    apply runs_of_send (.ok ())
    exact .ret rfl
  · apply runs_of_tryStore hstored
    apply runs_of_tryStore hkey
    apply runs_of_send (.error .Request)
    exact .ret rfl

end

end

end

section
attribute [local instance] libraries

namespace Peer

/-- what bob's server answers -/
def bobSetting : Setting where
  inboxAuthPolicy := .RequireSigned
  getActor identifier := if identifier = bob.host then some bob.actor else none
  getActorById id := if id = bob.actor.id then some bob.actor else none
  actor id :=
    match resolver.resolve id with
    | .ok actor => actor
    | .error _ => bob.actor

theorem bob_within : bob.server.Within bobSetting where
  policy := rfl
  getActor h := (Except.ok.inj h).symm
  getActorById h := (Except.ok.inj h).symm
  resolve := by
    intro id actor h
    show actor = match resolver.resolve id with
      | .ok actor => actor
      | .error _ => bob.actor
    rw [show resolver.resolve id = .ok actor from h]

end Peer

/-- bob's Accept of a Follow cannot be delivered at first, and the Follow is processed again -/
theorem responses_and_store_of_bob : ∃ (c : Call) (store₁ store₂ : SqliteStore),
    c.Processes Peer.bob.store (.error .BAD_GATEWAY) store₁ ∧
    c.Processes store₁ accepted store₂ ∧ c.Processes Peer.bob.store accepted store₂ ∧
    Peer.bob.store.OneRow store₂ := by
  obtain ⟨r, hr⟩ := Peer.exists_request .alice .bob Peer.follow.serialize
  obtain ⟨hparse, hdecide⟩ := hr.follow_received
  have hactor : Peer.bob.server.getActor Peer.bob.host = .ok (some Peer.bob.actor) :=
    congrArg Except.ok (if_pos rfl)
  let c : Call := .inbox Peer.bob.server Peer.bob.host hr.received
  have hprogram : c.program = (acceptFollow Peer.bob.actor Peer.followOutcome).map .reply :=
    congrArg (Prog.map Outcome.reply) (inbox_follow hactor hparse hdecide)
  have hkey : ∀ store : SqliteStore, store.keys = Peer.bob.store.keys →
      (store.storeFollower Peer.alice.actor Peer.bob.actor.id).call
        (.loadActorKeyPair Peer.bob.actor.id) = (.ok (some Peer.bob.keyPair),
          store.storeFollower Peer.alice.actor Peer.bob.actor.id) :=
    fun store hkeys => Peer.load_keyPair hkeys
  obtain ⟨_, hfailed⟩ := follow_processes hprogram (hkey Peer.bob.store rfl)
  obtain ⟨hagain, _⟩ := follow_processes hprogram
    (hkey (Peer.bob.store.storeFollower Peer.alice.actor Peer.bob.actor.id) rfl)
  have hretried : c.Retried Peer.bobSetting Peer.bob.store
      (Peer.bob.store.storeFollower Peer.alice.actor Peer.bob.actor.id) :=
    .cons Peer.bob_within hfailed (by decide) .nil
  have hc : c.Inbound := trivial
  obtain ⟨hresponse, hretries⟩ := responses_and_store hc
  obtain ⟨hfirst, _⟩ := hretries _ _ _ Peer.bob.server _ _ hretried Peer.bob_within hagain rfl
  obtain ⟨_, _, hrow, _⟩ := hresponse _ _ _ hfirst
  exact ⟨c, _, _, hfailed, hagain, hfirst, hrow rfl⟩

end

end Feder
