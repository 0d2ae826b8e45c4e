import Feder.Lib.Part
import Feder.Server.Documents
import Feder.Server.FollowerHistory
import Feder.Server.NoteLoops
import Feder.Server.WebFinger

/-!
# The whole server

All entry points of a server over one store: the two inboxes and `follow_actor`, `create_note`, and
the documents that are served.  Their storage steps interleave.

* `serverCall_sat`           the operations that each entry point does;
* `federation_undisturbed`   the inboxes and `follow_actor` are not disturbed by the others;
* `documents_unnoticed`      nothing depends on what is read.
-/

namespace Feder
open Serde

section
variable [Crates]

/-! ## the calls -/

inductive ServerCall where
  | federation (call : Call)
  | createNote (server : FederServer) (localActorId : Iri) (input : CreateNoteInput)
  | actor (server : FederServer) (identifier : String) (headers : HeaderMap)
  | followers (server : FederServer) (identifier : String) (headers : HeaderMap)
  | note (server : FederServer) (identifier postId : String) (headers : HeaderMap)
  | webfinger (server : FederServer) (handleHost : String) (resource : Option String)

inductive ServerOutcome where
  | federation (outcome : Outcome)
  | createNote (result : Except CreateNoteError CreateNoteOutcome)
  | response (result : Except StatusCode Response)

def ServerCall.program : ServerCall → Program ServerOutcome
  | .federation call => call.program.map .federation
  | .createNote server localActorId input => (server.createNote localActorId input).map .createNote
  | .actor server identifier headers => .ret (.response (Get.actor server identifier headers))
  | .followers server identifier headers => (Get.followers server identifier headers).map .response
  | .note server identifier postId headers =>
    (Object.note server identifier postId headers).map .response
  | .webfinger server handleHost resource =>
    .ret (.response (Feder.webfinger server handleHost resource))

def ServerCall.server : ServerCall → FederServer
  | .federation call => call.server
  | .createNote server _ _ | .actor server _ _ | .followers server _ _ | .note server _ _ _
  | .webfinger server _ _ => server

/-- the call serves a document -/
def ServerCall.Serves : ServerCall → Prop
  | .federation _ | .createNote _ _ _ => False
  | .actor _ _ _ | .followers _ _ _ | .note _ _ _ _ | .webfinger _ _ _ => True

instance (c : ServerCall) : Decidable c.Serves := by
  cases c <;> unfold ServerCall.Serves <;> infer_instance

/-- The calls of a server that `admits` lets in, with their storage steps interleaved. -/
def wholeServer (admits : ServerCall → Prop) :
    System SqliteStore ServerCall Op Op.Answer ServerOutcome where
  program := ServerCall.program
  admits _ c := admits c
  exec _ store o answer store' :=
    match o, answer with
    | .store call, answer => Executes store call answer store'
    | .sendActivity .., _ => store' = store

abbrev ServerConfig := Config SqliteStore ServerCall Op Op.Answer ServerOutcome

/-! ## what each call does -/

/-- the call leaves the store alone -/
def StoreCall.Reads : StoreCall → Prop
  | .listFollowers _ | .listFollowerDeliveryTargets _ | .loadActorKeyPair _ | .loadPendingFollow _
  | .loadNote _ => True
  | .storeFollower _ _ | .removeFollower _ _ | .storePendingFollow _ | .confirmPendingFollow _
  | .storeNote _ => False

/-- the call is about Notes -/
def StoreCall.OnObjects : StoreCall → Prop
  | .storeNote _ | .loadNote _ => True
  | _ => False

/-- an operation of `create_note`: the Note is stored first, and nothing else is written -/
def NoteOp (server : FederServer) (localActorId : Iri) (input : CreateNoteInput)
    (past : List OpEvent) : Op → Prop
  | .store (.storeNote note) => past = [] ∧ ∃ localActor,
      server.getActorById localActorId = .ok (some localActor) ∧
      note = (Feder.createNote localActor input).note
  | .store call => call.Reads ∧ ¬ call.OnObjects
  | .sendActivity .. => True

/-- an operation of a call, given what it has done before -/
def ServerOp : ServerCall → List OpEvent → Op → Prop
  | .federation call, past, o => CallOp call past o
  | .createNote server localActorId input, past, o => NoteOp server localActorId input past o
  | .actor _ _ _, _, _ | .webfinger _ _ _, _, _ => False
  | .followers server identifier _, past, o => past = [] ∧ ∃ actor,
      server.getActor identifier = .ok (some actor) ∧ o = .store (.listFollowers actor.id)
  | .note server identifier postId _, past, o => past = [] ∧ ∃ actor id,
      server.getActor identifier = .ok (some actor) ∧ noteId actor.id postId = .ok id ∧
        o = .store (.loadNote id)

/-- **`create_note` stores its Note first**, and writes nothing else. -/
theorem createNote_sat (server : FederServer) (localActorId : Iri) (input : CreateNoteInput) :
    Prog.Sat (NoteOp server localActorId input) (fun _ _ => True) []
      (server.createNote localActorId input) := by
  unfold FederServer.createNote
  cases hlocal : server.getActorById localActorId with
  | error e => trivial
  | ok actor =>
    cases actor with
    | none => trivial
    | some localActor =>
      refine ⟨⟨rfl, localActor, hlocal, rfl⟩, fun answer => ?_⟩
      cases answer with
      | error e => trivial
      | ok u =>
        refine sat_coverFollowers (fun _ _ => ⟨trivial, not_false⟩) (fun _ _ => trivial) fun _ _ => ?_
        dsimp only
        split
        · split <;> trivial
        · refine ⟨⟨trivial, not_false⟩, fun answer => ?_⟩
          cases answer with
          | error e => trivial
          | ok keyPair =>
            cases keyPair with
            | none => trivial
            | some keyPair =>
              refine sat_sendAll (fun _ _ _ _ => trivial) fun past error => ?_
              split <;> trivial

theorem followers_sat (server : FederServer) (identifier : String) (headers : HeaderMap) :
    Prog.Sat (ServerOp (.followers server identifier headers)) (fun _ _ => True) []
      (Get.followers server identifier headers) := by
  unfold Get.followers
  cases hactor : server.getActor identifier with
  | error e => trivial
  | ok actor =>
    cases actor with
    | none => trivial
    | some actor =>
      dsimp only
      split
      · trivial
      · refine ⟨⟨rfl, actor, hactor, rfl⟩, fun answer => ?_⟩
        cases answer <;> trivial

theorem note_sat (server : FederServer) (identifier postId : String) (headers : HeaderMap) :
    Prog.Sat (ServerOp (.note server identifier postId headers)) (fun _ _ => True) []
      (Object.note server identifier postId headers) := by
  unfold Object.note
  cases hactor : server.getActor identifier with
  | error e => trivial
  | ok actor =>
    cases actor with
    | none => trivial
    | some actor =>
      dsimp only
      cases hid : noteId actor.id postId with
      | error status => trivial
      | ok id =>
        refine ⟨⟨rfl, actor, id, hactor, hid, rfl⟩, fun answer => ?_⟩
        cases answer with
        | error e => trivial
        | ok note =>
          cases note with
          | none => trivial
          | some note =>
            dsimp only
            split
            · trivial
            · split <;> trivial

/-- **Every operation of a call is a `ServerOp`.** -/
theorem serverCall_sat (c : ServerCall) : Prog.Sat (ServerOp c) (fun _ _ => True) [] c.program := by
  cases c with
  | federation call =>
    exact Prog.sat_map ((program_sat call).mono (fun _ _ h => h) (fun _ _ _ => trivial))
  | createNote server localActorId input =>
    exact Prog.sat_map (createNote_sat server localActorId input)
  | followers server identifier headers =>
    exact Prog.sat_map (followers_sat server identifier headers)
  | note server identifier postId headers =>
    exact Prog.sat_map (note_sat server identifier postId headers)
  | actor | webfinger => trivial

/-! ## the parts -/

/-- the store with another table of Notes -/
def SqliteStore.withObjects (store : SqliteStore) (objects : Table String ObjectRow) :
    SqliteStore := { store with objects := objects }

theorem call_withObjects (store : SqliteStore) (objects : Table String ObjectRow)
    {call : StoreCall} (h : ¬ call.OnObjects) :
    (store.withObjects objects).call call =
      ((store.call call).1, (store.call call).2.withObjects objects) := by
  cases call with
  | storeNote | loadNote => exact absurd trivial h
  | confirmPendingFollow expected =>
    show (store.withObjects objects).confirmPendingFollow expected =
      ((store.confirmPendingFollow expected).1,
        (store.confirmPendingFollow expected).2.withObjects objects)
    have hload : (store.withObjects objects).loadPendingFollow expected.followActivity =
        store.loadPendingFollow expected.followActivity := rfl
    rw [SqliteStore.confirmPendingFollow_eq, SqliteStore.confirmPendingFollow_eq, hload]
    cases store.loadPendingFollow expected.followActivity with
    | error e => rfl
    | ok stored =>
      dsimp only
      split <;> rfl
  | storeFollower | removeFollower | listFollowers | listFollowerDeliveryTargets
  | loadActorKeyPair | storePendingFollow | loadPendingFollow => rfl

theorem executes_withObjects {store store' : SqliteStore} {call : StoreCall}
    {answer : Except StoreError call.Value} (hx : Executes store call answer store')
    (h : ¬ call.OnObjects) (objects : Table String ObjectRow) :
    Executes (store.withObjects objects) call answer (store'.withObjects objects) := by
  rcases hx with hx | ⟨herror, rfl⟩
  · left
    rw [call_withObjects store objects h, hx]
  · exact Or.inr ⟨herror, rfl⟩

theorem executes_reads {store store' : SqliteStore} {call : StoreCall}
    {answer : Except StoreError call.Value} (hx : Executes store call answer store')
    (h : call.Reads) : store' = store := by
  rcases hx with hx | ⟨_, rfl⟩
  · cases call with
    | storeFollower | removeFollower | storePendingFollow | confirmPendingFollow | storeNote =>
      exact absurd h not_false
    | listFollowers | listFollowerDeliveryTargets | loadActorKeyPair | loadPendingFollow
    | loadNote =>
      cases hx
      rfl
  · rfl

theorem callOp_offObjects {c : Call} {past : List OpEvent} {call : StoreCall}
    (h : CallOp c past (.store call)) : ¬ call.OnObjects := by
  cases h with
  | activity _ h => cases h <;> exact not_false
  | loadTarget | storePending | loadKey => exact not_false

theorem serverOp_reads {c : ServerCall} (hserves : c.Serves) {past : List OpEvent} {o : Op}
    (h : ServerOp c past o) : ∃ call : StoreCall, o = .store call ∧ call.Reads := by
  cases c with
  | federation | createNote => exact absurd hserves not_false
  | actor | webfinger => exact absurd h not_false
  | followers =>
    obtain ⟨_, actor, _, rfl⟩ := h
    exact ⟨_, rfl, trivial⟩
  | note =>
    obtain ⟨_, actor, id, _, _, rfl⟩ := h
    exact ⟨_, rfl, trivial⟩

theorem noteOp_frame {server : FederServer} {localActorId : Iri} {input : CreateNoteInput}
    {past : List OpEvent} {call : StoreCall} {store store' : SqliteStore}
    {answer : Except StoreError call.Value}
    (h : NoteOp server localActorId input past (.store call))
    (hx : Executes store call answer store') :
    store' = store.withObjects store'.objects := by
  cases call with
  | storeNote note =>
    rcases hx with hx | ⟨_, rfl⟩
    · cases hx
      rfl
    · rfl
  | listFollowers | listFollowerDeliveryTargets | loadActorKeyPair | loadPendingFollow
  | loadNote =>
    rw [executes_reads hx trivial]
    rfl
  | storeFollower | removeFollower | storePendingFollow | confirmPendingFollow =>
    exact absurd h.1 not_false

theorem wholeServer_exec {admits : ServerCall → Prop} {c : ServerCall}
    {store store' : SqliteStore} {call : StoreCall} {answer : Except StoreError call.Value} :
    (wholeServer admits).exec c store (.store call) answer store' ↔
      Executes store call answer store' := Iff.rfl

def ServerCall.federation? : ServerCall → Option Call
  | .federation call => some call
  | .createNote _ _ _ | .actor _ _ _ | .followers _ _ _ | .note _ _ _ _ | .webfinger _ _ _ => none

/-- what is left of a server without its Notes and documents -/
def federationPart (admits : ServerCall → Prop) :
    System.Part (wholeServer admits) (handlers fun _ c => admits (.federation c)) where
  call := ServerCall.federation?
  result := .federation
  rel store store' := store' = store.withObjects store'.objects
  does c o := ∃ past, ServerOp c past o
  sat c := (serverCall_sat c).mono (fun past _ h => ⟨past, h⟩) (fun _ _ h => h)
  program {c d} h := by
    cases c with
    | federation call =>
      cases h
      rfl
    | createNote | actor | followers | note | webfinger => cases h
  admits {c d _ _} h _ hadmits := by
    cases c with
    | federation call =>
      cases h
      exact hadmits
    | createNote | actor | followers | note | webfinger => cases h
  exec {c d store store₁ store' o answer} h hdoes hrel hx := by
    cases c with
    | federation call =>
      cases h
      obtain ⟨past, hop⟩ := hdoes
      cases o with
      | sendActivity localActor keyPair activity inbox =>
        have hsame : store' = store := hx
        subst hsame
        exact ⟨store₁, rfl, hrel⟩
      | store o =>
        refine ⟨store'.withObjects store₁.objects, ?_, rfl⟩
        show Executes store₁ o answer _
        rw [hrel]
        exact executes_withObjects hx (callOp_offObjects hop) _
    | createNote | actor | followers | note | webfinger => cases h
  others {c store store₁ store' o answer} h hdoes hrel hx := by
    obtain ⟨past, hop⟩ := hdoes
    by_cases hserves : c.Serves
    · obtain ⟨call, rfl, hreads⟩ := serverOp_reads hserves hop
      have hsame : store' = store := executes_reads hx hreads
      rw [hsame]
      exact hrel
    · cases c with
      | federation => cases h
      | actor | followers | note | webfinger => exact absurd trivial hserves
      | createNote server localActorId input =>
        cases o with
        | sendActivity localActor keyPair activity inbox =>
          have hsame : store' = store := hx
          rw [hsame]
          exact hrel
        | store call =>
          have hframe := noteOp_frame hop (wholeServer_exec.mp hx)
          rw [hrel, hframe]
          rfl

/-- what is left of a server without its documents -/
def writersPart (admits : ServerCall → Prop) :
    System.Part (wholeServer admits) (wholeServer fun c => admits c ∧ ¬ c.Serves) where
  call c := if c.Serves then none else some c
  result := id
  rel store store' := store' = store
  does c o := ∃ past, ServerOp c past o
  sat c := (serverCall_sat c).mono (fun past _ h => ⟨past, h⟩) (fun _ _ h => h)
  program {c d} h := by
    split at h
    · cases h
    · cases h
      exact (Prog.map_id _).symm
  admits {c d _ _} h _ hadmits := by
    split at h
    · cases h
    · cases h
      exact ⟨hadmits, ‹_›⟩
  exec {c d store store₁ store' o answer} h _ hrel hx := by
    rw [hrel]
    exact ⟨store', hx, rfl⟩
  others {c store store₁ store' o answer} h hdoes hrel hx := by
    obtain ⟨past, hop⟩ := hdoes
    split at h
    · obtain ⟨call, rfl, hreads⟩ := serverOp_reads ‹_› hop
      rw [executes_reads hx hreads]
      exact hrel
    · cases h

theorem wholeServer_step {admits : ServerCall → Prop} {s : ServerConfig} {i : Nat} {c : ServerCall}
    {past : List OpEvent} {call : StoreCall}
    {next : Except StoreError call.Value → Program ServerOutcome} {value : call.Value}
    {store : SqliteStore} (ht : s.threads[i]? = some ⟨c, past, .op (.store call) next⟩)
    (h : s.state.call call = (.ok value, store)) :
    (wholeServer admits).Step s ⟨store,
      s.threads.set i ⟨c, past ++ [stored call (.ok value)], next (.ok value)⟩,
      s.trace ++ [(i, stored call (.ok value))]⟩ :=
  System.Step.exec i _ (.store call) next (.ok value) store ht rfl (Or.inl h)

/-- the inboxes require signatures -/
def ServerCall.Signed : ServerCall → Prop
  | .federation call => call.server.inboxAuthPolicy = .RequireSigned
  | .createNote _ _ _ | .actor _ _ _ | .followers _ _ _ | .note _ _ _ _ | .webfinger _ _ _ => True

end

section
attribute [local instance] libraries

/-- the headers of a client that accepts ActivityPub -/
def Peer.accepts : HeaderMap where
  entries := [("accept", Text.utf8 "application/activity+json")]
  names := by decide
  values := by decide

/-- bob with a collection of followers -/
def Peer.followedBob : Actor :=
  { Peer.bob.actor with followers := some ⟨"http://b.x/bob/followers", by decide⟩ }

/-- a request for the followers of bob -/
def Peer.followersCall : ServerCall :=
  .followers { Peer.bob.server with getActor := fun _ => .ok (some Peer.followedBob) } Peer.bob.host
    Peer.accepts

/-- what is answered when they have been listed -/
def Peer.followersNext : Except StoreError (List Iri) → Program ServerOutcome
  | .error _ => .ret (.response (.error .INTERNAL_SERVER_ERROR))
  | .ok ids => .ret (.response (servedFollowers Peer.followedBob ids))

theorem Peer.followersCall_program : Peer.followersCall.program =
    .op (.store (.listFollowers Peer.bob.actor.id)) Peer.followersNext := by
  have haccepts : acceptsActivitypub Peer.accepts = true := by decide +kernel
  show (Get.followers _ Peer.bob.host Peer.accepts).map ServerOutcome.response = _
  unfold Get.followers
  dsimp only
  rw [if_neg (not_not.mpr haccepts)]
  refine congrArg _ (funext fun answer => ?_)
  cases answer <;> rfl

/-- the store of bob when alice has followed him -/
def Peer.followedStore : SqliteStore :=
  ({ Peer.bob.store with followers := ∅ } : SqliteStore).storeFollower Peer.alice.actor
    Peer.bob.actor.id

theorem Peer.followedStore_lists :
    Peer.followedStore.listFollowers Peer.bob.actor.id = .ok [Peer.alice.actor.id] := by
  decide +kernel

/-- alice follows bob, and then the followers of bob are listed -/
theorem Peer.exists_listing : ∃ s response,
    (wholeServer ServerCall.Signed).Reachable { Peer.bob.store with followers := ∅ } s ∧
    s.state = Peer.followedStore ∧
    s.threads[1]? = some ⟨Peer.followersCall,
      [stored (.listFollowers Peer.bob.actor.id) (.ok [Peer.alice.actor.id])],
      .ret (.response (.ok response))⟩ ∧
    response.status = .OK := by
  obtain ⟨r, hr⟩ := Peer.exists_request .alice .bob Peer.follow.serialize
  obtain ⟨hparse, hdecide⟩ := hr.follow_received
  let call : ServerCall := .federation (.inbox Peer.bob.server Peer.bob.host hr.received)
  obtain ⟨next, hprogram⟩ : ∃ next, call.program =
      .op (.store (.storeFollower Peer.alice.actor Peer.bob.actor.id)) next :=
    ⟨_, congrArg (fun p => (p.map Outcome.reply).map ServerOutcome.federation)
      (inbox_follow rfl hparse hdecide)⟩
  have hfollow : (wholeServer ServerCall.Signed).Reachable { Peer.bob.store with followers := ∅ }
      ⟨{ Peer.bob.store with followers := ∅ }, [⟨call, [], .op _ next⟩], []⟩ :=
    System.reachable_start .refl call hprogram rfl
  have hfollowed := hfollow.tail
    (@wholeServer_step _ _ _ 0 call [] _ next () Peer.followedStore rfl rfl)
  have hlist := System.reachable_start hfollowed Peer.followersCall Peer.followersCall_program
    trivial
  have hlisted := hlist.tail
    (@wholeServer_step _ _ _ 1 Peer.followersCall [] (.listFollowers Peer.bob.actor.id)
      Peer.followersNext [Peer.alice.actor.id] Peer.followedStore rfl
      (congrArg (·, Peer.followedStore) Peer.followedStore_lists))
  exact ⟨_, _, hlisted, rfl, rfl, rfl⟩

end

section
variable [Crates]

/-- **Notes and documents do not disturb the federation.**  Every interleaving of a server leaves,
when its other calls are taken away, an interleaving of the inboxes and `follow_actor` with the same
steps in the same order, over the same tables of followers, keys and relationships. -/
theorem federation_undisturbed {admits : ServerCall → Prop} {store : SqliteStore} {s : ServerConfig}
    (h : (wholeServer admits).Reachable store s) :
    ∃ t, (handlers fun _ c => admits (.federation c)).Reachable store t ∧
      (federationPart admits).Restricts s t :=
  System.Part.restricts_of_reachable rfl h

end

section
attribute [local instance] libraries

/-- without the request for bob's followers there is the Follow of alice -/
theorem federation_undisturbed_of_bob : ∃ t : Config SqliteStore Call Op Op.Answer Outcome,
    (handlers fun _ c => ServerCall.Signed (.federation c)).Reachable
      { Peer.bob.store with followers := ∅ } t ∧
    t.state = Peer.followedStore.withObjects t.state.objects := by
  obtain ⟨s, _, hs, hstate, _, _⟩ := Peer.exists_listing
  obtain ⟨t, ht, hrestricts⟩ := federation_undisturbed hs
  refine ⟨t, ht, ?_⟩
  rw [← hstate]
  exact hrestricts.state

end

section
variable [Crates]

/-- **What is read leaves no trace.**  Every interleaving leaves, when the requests for documents
are taken away, an interleaving of the other calls with the same steps, over the same store. -/
theorem documents_unnoticed {admits : ServerCall → Prop} {store : SqliteStore} {s : ServerConfig}
    (h : (wholeServer admits).Reachable store s) :
    ∃ t, (wholeServer fun c => admits c ∧ ¬ c.Serves).Reachable store t ∧ t.state = s.state ∧
      (writersPart admits).Restricts s t := by
  obtain ⟨t, ht, hrestricts⟩ := System.Part.restricts_of_reachable (P := writersPart admits) rfl h
  exact ⟨t, ht, hrestricts.state, hrestricts⟩

end

section
attribute [local instance] libraries

/-- without the request for bob's followers the store is the same -/
theorem documents_unnoticed_of_bob : ∃ t : ServerConfig,
    (wholeServer fun c => c.Signed ∧ ¬ c.Serves).Reachable
      { Peer.bob.store with followers := ∅ } t ∧ t.state = Peer.followedStore := by
  obtain ⟨s, _, hs, hstate, _, _⟩ := Peer.exists_listing
  obtain ⟨t, ht, hsame, _⟩ := documents_unnoticed hs
  exact ⟨t, ht, hsame.trans hstate⟩

end

end Feder
