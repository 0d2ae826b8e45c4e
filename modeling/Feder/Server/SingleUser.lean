import Feder.Lib.Lift
import Feder.Server.Deliveries
import Feder.Server.Provisioning

/-!
# The single-user server

The example server: a process loads the key pair of its only actor or generates one, puts the actor
together, and serves it.  Processes start at any time over one database, also while others start or
serve; one that has ended is one whose calls take no more steps.

* `localActor_spec`    what the actor is made of;
* `deployment_sat`     what the processes and their calls do;
* `processes_of_row`   every process serves the key pair of the row;
* `identity_kept`      the identity of the actor outlives every process.
-/

namespace Feder
open Serde Text

section
variable [Crates]

namespace SingleUser

/-! ## the process -/

def IDENTIFIER : String := "alice"
def ORIGIN : String := "http://127.0.0.1:3000"
def HANDLE_HOST : String := "127.0.0.1:3000"

def actorId : String := ORIGIN ++ "/users/" ++ IDENTIFIER

/-- the actor of the process; an IRI that does not parse is a panic -/
def localActor (keyPair : ActorKeyPair) : Option Actor := do
  let id ← Iri.parse actorId
  let inbox ← Iri.parse (actorId ++ "/inbox")
  let outbox ← Iri.parse (actorId ++ "/outbox")
  let followers ← Iri.parse (actorId ++ "/followers")
  let sharedInbox ← Iri.parse (ORIGIN ++ "/inbox")
  let keyId ← Iri.parse (actorId ++ "#main-key")
  { Actor.person id inbox outbox with
    preferredUsername := some IDENTIFIER
    name := some "Alice"
    followers := some followers
    endpoints := some ⟨some sharedInbox⟩ }.setPublicKey
      (.object (.new keyId id keyPair.publicKeyPem))

structure SingleActorDispatcher where
  actor : Actor

def SingleActorDispatcher.getActor (d : SingleActorDispatcher) (identifier : String) :
    Except Unit (Option Actor) :=
  .ok (if identifier = IDENTIFIER then some d.actor else none)

def SingleActorDispatcher.getActorById (d : SingleActorDispatcher) (id : Iri) :
    Except Unit (Option Actor) :=
  .ok (if id = d.actor.id then some d.actor else none)

/-- the server of a process, with what the network answers and the time -/
def SingleActorDispatcher.server (d : SingleActorDispatcher)
    (keyResponse actorResponse : Url → Option HttpResponse) (now : Int) : FederServer where
  getActor := d.getActor
  getActorById := d.getActorById
  resolver := ⟨.AllowPrivateAddress, keyResponse, actorResponse⟩
  inboxAuthPolicy := .AllowUnsignedInsecureDev
  now := now

/-- an operation of a process or of one of its calls -/
inductive DeployOp where
  | key (op : KeyOp)
  /-- the server is built, bound and served -/
  | serve (dispatcher : SingleActorDispatcher)
  | server (op : Op)

@[reducible] def DeployOp.Answer : DeployOp → Type
  | .key op => op.Answer
  | .serve _ => Except Unit Unit
  | .server op => op.Answer

inductive DeployOutcome where
  | failed (e : StoreError)
  | panicked
  /-- the server has been served, or could not be -/
  | exited (result : Except Unit Unit)
  | answered (outcome : ServerOutcome)

/-- `main` behind its key pair -/
def serveActor : Except StoreError ActorKeyPair → Prog DeployOp DeployOp.Answer DeployOutcome
  | .error e => .ret (.failed e)
  | .ok keyPair =>
    match localActor keyPair with
    | none => .ret .panicked
    | some actor => .op (.serve ⟨actor⟩) fun result => .ret (.exited result)

/-- `main` of the example -/
def main : Prog DeployOp DeployOp.Answer DeployOutcome :=
  match Iri.parse actorId with
  | none => .ret .panicked
  | some id => (loadOrGenerateActorKeyPair id).lift .key (fun _ ans => ans) serveActor

/-! ## all processes over one database -/

/-- the database, and the processes that have come to serve -/
structure Deployment where
  store : SqliteStore
  processes : List SingleActorDispatcher

inductive DeployCall where
  | main
  | request (dispatcher : SingleActorDispatcher) (call : ServerCall)

/-- the server that a call is made on -/
def serverOf : ServerCall → FederServer
  | .federation call => call.server
  | .createNote server _ _ | .actor server _ _ | .followers server _ _ | .note server _ _ _
  | .webfinger server _ _ => server

/-- the call is one of the process -/
structure ServedBy (d : SingleActorDispatcher) (call : ServerCall) : Prop where
  server : ∃ keyResponse actorResponse now,
    serverOf call = d.server keyResponse actorResponse now
  handleHost : ∀ server handleHost resource, call = .webfinger server handleHost resource →
    handleHost = HANDLE_HOST

def DeployCall.program : DeployCall → Prog DeployOp DeployOp.Answer DeployOutcome
  | .main => SingleUser.main
  | .request _ call =>
    call.program.lift .server (fun _ ans => ans) fun outcome => .ret (.answered outcome)

inductive DeployExec : Deployment → (op : DeployOp) → op.Answer → Deployment → Prop where
  | key {state : Deployment} {op : KeyOp} {answer : op.Answer} {store : SqliteStore}
    (h : KeyExec state.store op answer store) :
    DeployExec state (.key op) answer { state with store := store }
  | served (state : Deployment) (d : SingleActorDispatcher) :
    DeployExec state (.serve d) (.ok ()) { state with processes := state.processes ++ [d] }
  | notServed (state : Deployment) (d : SingleActorDispatcher) :
    DeployExec state (.serve d) (.error ()) state
  | stored {state : Deployment} {call : StoreCall} {answer : Except StoreError call.Value}
    {store : SqliteStore} (h : Executes state.store call answer store) :
    DeployExec state (.server (.store call)) answer { state with store := store }
  | sent (state : Deployment) (attempt : Attempt) (answer : Except SendError Unit) :
    DeployExec state (.server (.sendActivity attempt.localActor attempt.keyPair attempt.activity
      attempt.inbox)) answer state

/-- processes that start at any time, and the calls of those that serve -/
def deployment : System Deployment DeployCall DeployOp DeployOp.Answer DeployOutcome where
  program := DeployCall.program
  admits state c :=
    match c with
    | .main => True
    | .request d call => d ∈ state.processes ∧ ServedBy d call
  exec _ := DeployExec

abbrev DeployConfig := Config Deployment DeployCall DeployOp DeployOp.Answer DeployOutcome
abbrev DeployThread := Thread DeployCall DeployOp DeployOp.Answer DeployOutcome
abbrev DeployEvent := Event DeployOp DeployOp.Answer

/-! ## the actor -/

/-- **The actor of a process** is always the same one, with the public key of the key pair. -/
theorem localActor_spec {keyPair : ActorKeyPair} {actor : Actor}
    (h : localActor keyPair = some actor) : Iri.parse actorId = some actor.id ∧
      ∃ key, actor.publicKey = some (.object key) ∧ key.owner = actor.id ∧
        key.publicKeyPem = keyPair.publicKeyPem := by
  unfold localActor at h
  obtain ⟨id, hid, h⟩ := Option.bind_eq_some_iff.mp h
  obtain ⟨inbox, _, h⟩ := Option.bind_eq_some_iff.mp h
  obtain ⟨outbox, _, h⟩ := Option.bind_eq_some_iff.mp h
  obtain ⟨followers, _, h⟩ := Option.bind_eq_some_iff.mp h
  obtain ⟨sharedInbox, _, h⟩ := Option.bind_eq_some_iff.mp h
  obtain ⟨keyId, _, h⟩ := Option.bind_eq_some_iff.mp h
  obtain ⟨security, _, rfl⟩ := Option.map_eq_some_iff.mp h
  exact ⟨hid, _, rfl, rfl, rfl⟩

theorem getActor_server {d : SingleActorDispatcher} {identifier : String} {actor : Actor}
    (h : d.getActor identifier = .ok (some actor)) : identifier = IDENTIFIER ∧ actor = d.actor := by
  unfold SingleActorDispatcher.getActor at h
  split at h <;> cases h
  exact ⟨‹_›, rfl⟩

theorem getActorById_server {d : SingleActorDispatcher} {id : Iri} {actor : Actor}
    (h : d.getActorById id = .ok (some actor)) : actor = d.actor := by
  unfold SingleActorDispatcher.getActorById at h
  split at h <;> cases h
  rfl

theorem ServedBy.localActor_eq {d : SingleActorDispatcher} {call : ServerCall} {past : List OpEvent}
    {attempt : Attempt} (h : ServedBy d call) (hs : call.Sends past attempt) :
    attempt.localActor = d.actor := by
  obtain ⟨keyResponse, actorResponse, now, hserver⟩ := h.server
  cases hs with
  | accept hc hd =>
    cases hc with
    | inbox hactor hparse =>
      cases hserver
      exact (getActor_server hactor).2
    | shared hparse htype htarget hactor hinbox =>
      cases hserver
      exact getActorById_server hactor
    | sharedAccept hparse htype hfollow hactor hinbox =>
      cases hserver
      exact getActorById_server hactor
  | follow hlocal hremote =>
    cases hserver
    exact getActorById_server hlocal
  | create hlocal hlisted hinboxes =>
    cases hserver
    exact getActorById_server hlocal

/-! ## what the processes and their calls do -/

/-- the call has loaded the key pair, or has inserted it -/
def Provisioned (past : List DeployEvent) (id : Iri) (keyPair : ActorKeyPair) : Prop :=
  ⟨.key (.loadActorKeyPair id), .ok (some keyPair)⟩ ∈ past ∨
    ⟨.key (.insertOrIgnore id keyPair), .ok 1⟩ ∈ past

/-- an operation of a process or of one of its calls, given what it has done before -/
def DeployDoes : DeployCall → List DeployEvent → DeployOp → Prop
  | .main, _, .key _ => True
  | .main, past, .serve d => ∃ keyPair, localActor keyPair = some d.actor ∧
      Provisioned past d.actor.id keyPair
  | .request _ call, past, .server op => ∃ pre,
      Prog.Lifted DeployOp.server (fun _ ans => ans) past pre ∧ call.SendsOnly pre op
  | _, _, _ => False

/-- **What the processes and their calls do.** -/
theorem deployment_sat (c : DeployCall) :
    Prog.Sat (DeployDoes c) (fun _ _ => True) [] c.program := by
  cases c with
  | request d call =>
    exact (serverCall_sends call).lift .nil (fun past' past op hpast h => ⟨past, hpast, h⟩)
      fun _ _ _ _ _ => trivial
  | main =>
    show Prog.Sat _ _ [] SingleUser.main
    unfold SingleUser.main
    cases hid : Iri.parse actorId with
    | none => trivial
    | some id =>
      refine (loadOrGenerateActorKeyPair_sat id).lift .nil (fun _ _ _ _ _ => trivial) ?_
      intro past' past result hpast hresult
      cases result with
      | error e => trivial
      | ok keyPair =>
        unfold serveActor
        dsimp only
        cases hactor : localActor keyPair with
        | none => trivial
        | some actor =>
          refine ⟨⟨keyPair, hactor, ?_⟩, fun _ => trivial⟩
          obtain ⟨hparse, _⟩ := localActor_spec hactor
          rw [hid] at hparse
          cases hparse
          rcases hresult.1 with hloaded | hinserted
          · obtain ⟨_, hmem, rfl⟩ := hpast.mem hloaded
            exact Or.inl hmem
          · obtain ⟨_, hmem, rfl⟩ := hpast.mem hinserted
            exact Or.inr hmem

/-! ## every run -/

theorem DeployExec.keeps_row {state state' : Deployment} {op : DeployOp} {answer : op.Answer}
    (hx : DeployExec state op answer state') {k : String} {row : KeyRow}
    (h : state.store.keys.lookup k = some row) : state'.store.keys.lookup k = some row := by
  cases hx with
  | key hx => exact hx.keeps h
  | served | notServed | sent => exact h
  | @stored call _ _ hx =>
    rcases hx with hcall | ⟨_, rfl⟩
    · have hkeys := call_keys state.store call
      rw [hcall] at hkeys
      exact hkeys ▸ h
    · exact h

variable {store : SqliteStore} {s : DeployConfig}

theorem row_of_executed (h : deployment.Reachable ⟨store, []⟩ s) {i : Nat}
    {t : DeployThread} (ht : s.threads[i]? = some t) {e : DeployEvent} (he : e ∈ t.past)
    {k : String} {row : KeyRow} (hrow : ∀ state state', DeployExec state e.op e.ans state' →
      state'.store.keys.lookup k = some row) : s.state.store.keys.lookup k = some row := by
  obtain ⟨before, after, hpast⟩ := List.append_of_mem he
  obtain ⟨s₁, s₂, _, _, _, hrun, _, _, hx⟩ := System.executed h ht hpast
  exact System.kept (P := fun state => state.store.keys.lookup k = some row)
    (fun _ _ _ _ _ hx => DeployExec.keeps_row hx) hrun (hrow _ _ hx)

theorem row_of_provisioned (h : deployment.Reachable ⟨store, []⟩ s) {i : Nat}
    {t : DeployThread} (ht : s.threads[i]? = some t) {id : Iri}
    {keyPair : ActorKeyPair} (hp : Provisioned t.past id keyPair) :
    s.state.store.keys.lookup id.str = some (keyRow keyPair) := by
  rcases hp with hloaded | hinserted
  · refine row_of_executed h ht hloaded fun state state' hx => ?_
    cases hx with
    | key hx => exact hx.row_of_load
  · refine row_of_executed h ht hinserted fun state state' hx => ?_
    cases hx with
    | key hx => exact hx.row_of_insertedNew

theorem row_of_loadedKey (h : deployment.Reachable ⟨store, []⟩ s) {i : Nat}
    {t : DeployThread} (ht : s.threads[i]? = some t) {id : Iri}
    {keyPair : ActorKeyPair}
    (he : ⟨.server (.store (.loadActorKeyPair id)), .ok (some keyPair)⟩ ∈ t.past) :
    s.state.store.keys.lookup id.str = some (keyRow keyPair) := by
  refine row_of_executed h ht he fun state state' hx => ?_
  cases hx with
  | stored hx =>
    have hload := executes_ok hx
    cases (congrArg Prod.snd hload)
    exact Feder.row_of_load (congrArg Prod.fst hload)

/-- **Every process serves the key pair of the row.** -/
theorem processes_of_row (h : deployment.Reachable ⟨store, []⟩ s) :
    ∀ d ∈ s.state.processes, ∃ keyPair, localActor keyPair = some d.actor ∧
      s.state.store.keys.lookup d.actor.id.str = some (keyRow keyPair) := by
  refine System.reachable_induction (I := fun s => ∀ d ∈ s.state.processes, ∃ keyPair,
    localActor keyPair = some d.actor ∧
      s.state.store.keys.lookup d.actor.id.str = some (keyRow keyPair)) (List.forall_mem_nil _) ?_ h
  intro s s' hreach hrows hstep
  cases hstep with
  | start c hc => exact hrows
  | exec i t o k answer state' ht hrest hx =>
    have hkept : ∀ d ∈ s.state.processes, ∃ keyPair, localActor keyPair = some d.actor ∧
        state'.store.keys.lookup d.actor.id.str = some (keyRow keyPair) := by
      intro d hd
      obtain ⟨keyPair, hactor, hrow⟩ := hrows d hd
      exact ⟨keyPair, hactor, DeployExec.keeps_row hx hrow⟩
    have hdoes : DeployDoes t.call t.past o :=
      System.exec_sat (S := deployment) deployment_sat hreach ht hrest
    change DeployExec s.state o answer state' at hx
    cases hx with
    | key | notServed | stored | sent => exact hkept
    | served d =>
      intro d' hd'
      rcases List.mem_append.mp hd' with hd' | hd'
      · exact hkept d' hd'
      · cases List.mem_singleton.mp hd'
        cases hcall : t.call with
        | request =>
          rw [hcall] at hdoes
          cases hdoes
        | main =>
          rw [hcall] at hdoes
          obtain ⟨keyPair, hactor, hp⟩ := hdoes
          exact ⟨keyPair, hactor, row_of_provisioned hreach ht hp⟩

theorem DeployExec.processes_subset {state state' : Deployment} {op : DeployOp} {answer : op.Answer}
    (hx : DeployExec state op answer state') : state.processes ⊆ state'.processes := by
  cases hx with
  | served => exact List.subset_append_left _ _
  | key | notServed | stored | sent => exact fun _ hd => hd

theorem process_kept {s s' : DeployConfig} (h : Relation.ReflTransGen deployment.Step s s')
    {d : SingleActorDispatcher} (hd : d ∈ s.state.processes) : d ∈ s'.state.processes :=
  System.kept (S := deployment) (P := fun state => d ∈ state.processes)
    (fun _ _ _ _ _ hx hd => DeployExec.processes_subset hx hd) h hd

theorem process_unique (h : deployment.Reachable ⟨store, []⟩ s) {d d' : SingleActorDispatcher}
    (hd : d ∈ s.state.processes) (hd' : d' ∈ s.state.processes) : d' = d := by
  obtain ⟨keyPair, hactor, hrow⟩ := processes_of_row h d hd
  obtain ⟨keyPair', hactor', hrow'⟩ := processes_of_row h d' hd'
  have hid : d'.actor.id = d.actor.id :=
    Option.some.inj ((localActor_spec hactor').1.symm.trans (localActor_spec hactor).1)
  rw [hid, hrow] at hrow'
  obtain rfl := keyRow_inj (Option.some.inj hrow')
  rw [hactor] at hactor'
  cases d
  cases d'
  cases hactor'
  rfl

theorem request_served (h : deployment.Reachable ⟨store, []⟩ s)
    {t : DeployThread} (ht : t ∈ s.threads)
    {d : SingleActorDispatcher} {call : ServerCall} (hcall : t.call = .request d call) :
    d ∈ s.state.processes ∧ ServedBy d call := by
  have hadmits : deployment.admits s.state t.call := by
    refine System.call_still_admitted ?_ h t ht
    intro c c' state o answer state' hx hadmits
    cases c' with
    | main => trivial
    | request d call => exact ⟨DeployExec.processes_subset hx hadmits.1, hadmits.2⟩
  rw [hcall] at hadmits
  exact hadmits

/-- the step of a call that hands something to `send_activity` -/
def handed (attempt : Attempt) (answer : Except SendError Unit) : DeployEvent :=
  ⟨.server (.sendActivity attempt.localActor attempt.keyPair attempt.activity attempt.inbox),
    answer⟩

theorem sent_of_row (h : deployment.Reachable ⟨store, []⟩ s) {d : SingleActorDispatcher}
    (hd : d ∈ s.state.processes) {i : Nat} {attempt : Attempt} {answer : Except SendError Unit}
    (he : (i, handed attempt answer) ∈ s.trace) :
    attempt.localActor = d.actor ∧ activityActorId attempt.activity = some d.actor.id ∧
      s.state.store.keys.lookup d.actor.id.str = some (keyRow attempt.keyPair) := by
  obtain ⟨earlier, later, htrace⟩ := List.append_of_mem he
  obtain ⟨s₁, t, k, hreach, _, hrun, ht, hrest⟩ := System.traced h htrace
  have hdoes := System.exec_sat (S := deployment) deployment_sat hreach ht hrest
  cases hcall : t.call with
  | main =>
    rw [hcall] at hdoes
    cases hdoes
  | request d' call =>
    rw [hcall] at hdoes
    obtain ⟨pre, hlifted, hsends⟩ := hdoes
    change call.Sends pre attempt at hsends
    obtain ⟨hserving, hserved⟩ := request_served hreach (List.mem_of_getElem? ht) hcall
    have hactor := hserved.localActor_eq hsends
    rw [process_unique h hd (process_kept hrun hserving)] at hactor
    obtain ⟨_, hloaded, rfl⟩ := hlifted.mem hsends.key
    have hrow := System.kept (S := deployment) (P := fun state => state.store.keys.lookup
        attempt.localActor.id.str = some (keyRow attempt.keyPair))
      (fun _ _ _ _ _ hx => DeployExec.keeps_row hx) hrun (row_of_loadedKey hreach ht hloaded)
    have hsaid := hsends.actor
    rw [hactor] at hsaid hrow
    exact ⟨hactor, hsaid, hrow⟩

/-- What a process tells of its actor: the actor document, and what WebFinger finds; nothing is said
of the other calls. -/
def Tells (actor : Actor) : ServerCall → Response → Prop
  | .actor _ identifier _, response => response = notAcceptable ∨
      identifier = IDENTIFIER ∧ response = document actor.serialize
  | .webfinger _ _ resource, response => ∃ host,
      resource = some (acct IDENTIFIER host) ∧ eqIgnoreAsciiCase host HANDLE_HOST = true ∧
        response = ⟨.OK, [("content-type", "application/jrd+json")],
          some (webFingerResponse (acct IDENTIFIER host) actor).serialize⟩
  | _, _ => True

theorem tells_of_process (h : deployment.Reachable ⟨store, []⟩ s) {t : DeployThread}
    (ht : t ∈ s.threads) {d : SingleActorDispatcher} {call : ServerCall} {response : Response}
    (hcall : t.call = .request d call)
    (hrest : t.rest = .ret (.answered (.response (.ok response)))) :
    Tells d.actor call response := by
  obtain ⟨_, hserved⟩ := request_served h ht hcall
  have hreplays := System.replays_of_reachable h ht hrest
  rw [hcall] at hreplays
  obtain ⟨keyResponse, actorResponse, now, hserver⟩ := hserved.server
  cases call with
  | federation | createNote | followers | note => trivial
  | actor server identifier headers =>
    cases hserver
    have hresponse : Get.actor (d.server keyResponse actorResponse now) identifier headers =
        .ok response := by
      injection hreplays.2 with hresponse
      injection hresponse with hresponse
      exact hresponse.symm
    unfold Get.actor at hresponse
    split at hresponse
    · cases hresponse
      exact Or.inl rfl
    · split at hresponse <;> cases hresponse
      rename_i actor hactor
      obtain ⟨hidentifier, rfl⟩ := getActor_server hactor
      exact Or.inr ⟨hidentifier, rfl⟩
  | webfinger server handleHost resource =>
    cases hserver
    obtain rfl := hserved.handleHost _ _ _ rfl
    have hresponse : webfinger (d.server keyResponse actorResponse now) HANDLE_HOST resource =
        .ok response := by
      injection hreplays.2 with hresponse
      injection hresponse with hresponse
      exact hresponse.symm
    obtain ⟨identifier, host, actor, hresource, _, _, _, hhost, hactor, hresponse⟩ :=
      webfinger_ok_iff.mp hresponse
    obtain ⟨rfl, rfl⟩ := getActor_server hactor
    exact ⟨host, hresource, hhost, hresponse⟩

/-- **The identity of the actor outlives every process.**  Processes start at any time over one
database, generate a key pair or find one, serve, and are gone, with all their steps interleaved.
Once one of them serves, the row of the key pair never changes, and all serve the same actor, which
embeds the public key.  Whatever any of them has sent, under the key pair that it has loaded then,
is from that actor and signed by that key; and whatever any of them has answered of the actor, as
its document or by WebFinger, is about that actor. -/
theorem identity_kept (h : deployment.Reachable ⟨store, []⟩ s) {d : SingleActorDispatcher}
    (hd : d ∈ s.state.processes) :
    ∃ keyPair key, localActor keyPair = some d.actor ∧ d.actor.publicKey = some (.object key) ∧
      key.publicKeyPem = keyPair.publicKeyPem ∧ sendKeyId d.actor keyPair = .ok key.id ∧
      (∀ s', Relation.ReflTransGen deployment.Step s s' →
        s'.state.store.keys.lookup d.actor.id.str = some (keyRow keyPair)) ∧
      (∀ d' ∈ s.state.processes, d' = d) ∧
      (∀ i attempt answer, (i, handed attempt answer) ∈ s.trace →
        attempt.localActor = d.actor ∧ attempt.keyPair = keyPair ∧
          activityActorId attempt.activity = some d.actor.id) ∧
      ∀ t ∈ s.threads, ∀ d' call response, t.call = .request d' call →
        t.rest = .ret (.answered (.response (.ok response))) → Tells d.actor call response := by
  obtain ⟨keyPair, hactor, hrow⟩ := processes_of_row h d hd
  obtain ⟨_, key, hkey, howner, hpem⟩ := localActor_spec hactor
  refine ⟨keyPair, key, hactor, hkey, hpem, ?_, fun s' hrun => ?_,
    fun d' hd' => process_unique h hd hd', fun i attempt answer he => ?_,
    fun t ht d' call response hcall hrest => ?_⟩
  · unfold sendKeyId
    rw [hkey]
    dsimp only
    rw [if_neg (not_or.mpr ⟨not_not.mpr howner, not_not.mpr hpem⟩)]
  · exact System.kept (S := deployment) (P := fun state => state.store.keys.lookup d.actor.id.str =
      some (keyRow keyPair)) (fun _ _ _ _ _ hx => DeployExec.keeps_row hx) hrun hrow
  · obtain ⟨hfrom, hsaid, hsigned⟩ := sent_of_row h hd he
    rw [hrow] at hsigned
    exact ⟨hfrom, (keyRow_inj (Option.some.inj hsigned)).symm, hsaid⟩
  · have htells := tells_of_process h ht hcall hrest
    rw [process_unique h hd (request_served h ht hcall).1] at htells
    exact htells

/-! ## a restart -/

theorem deployment_step {i : Nat} {call : DeployCall} {past : List DeployEvent} {o : DeployOp}
    {k : o.Answer → Prog DeployOp DeployOp.Answer DeployOutcome}
    (ht : s.threads[i]? = some ⟨call, past, .op o k⟩) {answer : o.Answer} {state' : Deployment}
    (hx : DeployExec s.state o answer state') :
    deployment.Step s ⟨state', s.threads.set i ⟨call, past ++ [⟨o, answer⟩], k answer⟩,
      s.trace ++ [(i, ⟨o, answer⟩)]⟩ :=
  .exec i ⟨call, past, .op o k⟩ o k answer state' ht rfl hx

theorem reachable_key {init : Deployment} (h : deployment.Reachable init s) {i : Nat}
    {past : List DeployEvent} {op : KeyOp}
    {next : op.Value → Prog KeyOp KeyOp.Answer (Except StoreError ActorKeyPair)}
    (ht : s.threads[i]? =
      some ⟨.main, past, (attempt op next).lift .key (fun _ ans => ans) serveActor⟩)
    {value : op.Value} {store : SqliteStore} (hx : KeyExec s.state.store op (.ok value) store) :
    deployment.Reachable init ⟨{ s.state with store := store },
      s.threads.set i ⟨.main, past ++ [⟨.key op, .ok value⟩],
        (next value).lift .key (fun _ ans => ans) serveActor⟩,
      s.trace ++ [(i, ⟨.key op, .ok value⟩)]⟩ :=
  Relation.ReflTransGen.tail h (deployment_step ht (.key hx))

theorem reachable_serve {init : Deployment} (h : deployment.Reachable init s) {i : Nat}
    {past : List DeployEvent} {keyPair : ActorKeyPair}
    (ht : s.threads[i]? = some ⟨.main, past, serveActor (.ok keyPair)⟩) {actor : Actor}
    (hactor : localActor keyPair = some actor) :
    deployment.Reachable init ⟨{ s.state with processes := s.state.processes ++ [⟨actor⟩] },
      s.threads.set i ⟨.main, past ++ [⟨.serve ⟨actor⟩, .ok ()⟩], .ret (.exited (.ok ()))⟩,
      s.trace ++ [(i, ⟨.serve ⟨actor⟩, .ok ()⟩)]⟩ := by
  have hrest : serveActor (.ok keyPair) =
      .op (.serve ⟨actor⟩) fun result => .ret (.exited result) := by
    unfold serveActor
    dsimp only
    rw [hactor]
  rw [hrest] at ht
  exact Relation.ReflTransGen.tail h (deployment_step ht (.served _ _))

/-- one process generates the key pair and serves, and another one after it -/
theorem exists_restart {store' : SqliteStore} {id : Iri} (hid : Iri.parse actorId = some id)
    {keyPair : ActorKeyPair} {actor : Actor} (hactor : localActor keyPair = some actor)
    (hnone : store.loadActorKeyPair id = .ok none)
    (hnew : store.insertKeyRow id keyPair = some store')
    (hfound : store'.loadActorKeyPair id = .ok (some keyPair)) :
    ∃ s : DeployConfig, deployment.Reachable ⟨store, []⟩ s ∧
      s.state.processes = [⟨actor⟩, ⟨actor⟩] := by
  have hmain : DeployCall.main.program =
      (loadOrGenerateActorKeyPair id).lift .key (fun _ ans => ans) serveActor := by
    show SingleUser.main = _
    unfold SingleUser.main
    rw [hid]
  have h : deployment.Reachable ⟨store, []⟩ ⟨⟨store, []⟩, [⟨.main, [], _⟩], []⟩ :=
    System.reachable_start .refl DeployCall.main hmain trivial
  have h := reachable_key (i := 0) h rfl (.locked _)
  have h := reachable_key (i := 0) h rfl (.loaded hnone)
  have h := reachable_key (i := 0) h rfl (.generated _ keyPair)
  have h := reachable_key (i := 0) h rfl (.locked _)
  have h := reachable_key (i := 0) h rfl (.insertedNew hnew)
  have h := reachable_serve (i := 0) h rfl hactor
  have h := System.reachable_start h .main hmain trivial
  have h := reachable_key (i := 1) h rfl (.locked _)
  have h := reachable_key (i := 1) h rfl (.loaded hfound)
  exact ⟨_, reachable_serve (i := 1) h rfl hactor, rfl⟩

end SingleUser
end

section
attribute [local instance] libraries
open SingleUser

/-- alice's server is started again, and has still the key that it embeds -/
theorem SingleUser.identity_kept_of_restart : ∃ (s : DeployConfig) (d : SingleActorDispatcher),
    deployment.Reachable ⟨.empty, []⟩ s ∧ s.state.processes = [d, d] ∧
    ∃ keyPair key, d.actor.publicKey = some (.object key) ∧
      key.publicKeyPem = keyPair.publicKeyPem ∧
      s.state.store.keys.lookup d.actor.id.str = some (keyRow keyPair) := by
  obtain ⟨id, hid⟩ := Option.isSome_iff_exists.mp
    (show (Iri.parse actorId).isSome = true by decide +kernel)
  obtain ⟨actor, hactor⟩ := Option.isSome_iff_exists.mp
    (show (localActor Peer.alice.keyPair).isSome = true by decide +kernel)
  have hnone : SqliteStore.empty.loadActorKeyPair id = .ok none := rfl
  have hnew : SqliteStore.empty.insertKeyRow id Peer.alice.keyPair = some { SqliteStore.empty with
      keys := SqliteStore.empty.keys.insert id.str (keyRow Peer.alice.keyPair) } := rfl
  have hpair : ActorKeyPair.fromPem (keyRow Peer.alice.keyPair).privateKeyPem
      (keyRow Peer.alice.keyPair).publicKeyPem = .ok Peer.alice.keyPair := rfl
  obtain ⟨s, hs, hprocesses⟩ := exists_restart hid hactor hnone hnew (by
    unfold SqliteStore.loadActorKeyPair
    rw [(insertKeyRow_some hnew).2, if_pos rfl]
    dsimp only
    rw [hpair])
  have hd : (⟨actor⟩ : SingleActorDispatcher) ∈ s.state.processes := by
    rw [hprocesses]
    exact List.mem_cons_self
  obtain ⟨keyPair, key, _, hkey, hpem, _, hrow, _⟩ := identity_kept hs hd
  exact ⟨s, ⟨actor⟩, hs, hprocesses, keyPair, key, hkey, hpem, hrow s .refl⟩

end

end Feder
