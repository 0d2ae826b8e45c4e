import Feder.Lib.Prog
import Feder.Server.Send
import Feder.Server.Storage

/-!
# Operations of the handlers

The storage calls and the delivery of an activity, as the operations of a program: what a handler
does step by step on the shared store.  All else that a handler asks is fixed for the handler: the
answers of the actor dispatcher and of the network, and the clock (`FederServer`).

* `SqliteStore.call`   one storage call that succeeds;
* `Executes`           one storage call that succeeds, or fails without an effect;
* `handle`             the operations of a handler that runs alone.
-/

namespace Feder
open Serde

variable [Crates]

inductive StoreCall where
  | storeFollower (follower : Actor) (following : Iri)
  | removeFollower (follower following : Iri)
  | listFollowers (following : Iri)
  | listFollowerDeliveryTargets (localActor : Iri)
  | loadActorKeyPair (actorId : Iri)
  | storePendingFollow (follow : PendingFollow)
  | loadPendingFollow (followActivity : Iri)
  | confirmPendingFollow (expected : PendingFollow)
  | storeNote (note : Note)
  | loadNote (noteId : Iri)

/-- what a call returns when it succeeds -/
@[reducible] def StoreCall.Value : StoreCall → Type
  | .storeFollower _ _ | .removeFollower _ _ | .storePendingFollow _ | .storeNote _ => Unit
  | .listFollowers _ => List Iri
  | .listFollowerDeliveryTargets _ => List FollowerDeliveryTarget
  | .loadActorKeyPair _ => Option ActorKeyPair
  | .loadPendingFollow _ => Option PendingFollow
  | .confirmPendingFollow _ => Bool
  | .loadNote _ => Option Note

/-- one storage call whose connection and statements succeed -/
def SqliteStore.call (store : SqliteStore) :
    (call : StoreCall) → Except StoreError call.Value × SqliteStore
  | .storeFollower follower following => (.ok (), store.storeFollower follower following)
  | .removeFollower follower following => (.ok (), store.removeFollower follower following)
  | .listFollowers following => (store.listFollowers following, store)
  | .listFollowerDeliveryTargets localActor =>
    (store.listFollowerDeliveryTargets localActor, store)
  | .loadActorKeyPair actorId => (store.loadActorKeyPair actorId, store)
  | .storePendingFollow follow => (.ok (), store.storePendingFollow follow)
  | .loadPendingFollow followActivity => (store.loadPendingFollow followActivity, store)
  | .confirmPendingFollow expected => store.confirmPendingFollow expected
  | .storeNote note => (.ok (), store.storeNote note)
  | .loadNote noteId => (store.loadNote noteId, store)

/-- an operation of a handler -/
inductive Op where
  | store (call : StoreCall)
  | sendActivity (localActor : Actor) (keyPair : ActorKeyPair) (activity : Json) (inbox : Iri)

@[reducible] def Op.Answer : Op → Type
  | .store call => Except StoreError call.Value
  | .sendActivity .. => Except SendError Unit

abbrev Program (α : Type) := Prog Op Op.Answer α
abbrev OpEvent := Event Op Op.Answer

/-- the event of a storage call -/
def stored (call : StoreCall) (answer : Except StoreError call.Value) : OpEvent :=
  ⟨.store call, answer⟩

/-- what a storage call can answer and do: it succeeds, or it fails without an effect -/
def Executes (store : SqliteStore) (call : StoreCall) (answer : Except StoreError call.Value)
    (store' : SqliteStore) : Prop :=
  store.call call = (answer, store') ∨ ((∃ e, answer = .error e) ∧ store' = store)

/-- what is handed to `send_activity` -/
structure Attempt where
  localActor : Actor
  keyPair : ActorKeyPair
  activity : Json
  inbox : Iri

/-- the store of a server, and what has been handed to `send_activity` so far -/
structure Site where
  store : SqliteStore
  sent : List Attempt

/-- the answers of a handler that runs alone: storage calls succeed, and `deliver` tells the
outcome of a delivery -/
def handle (deliver : Attempt → Except SendError Unit) (site : Site) :
    (o : Op) → o.Answer × Site
  | .store call => ((site.store.call call).1, { site with store := (site.store.call call).2 })
  | .sendActivity localActor keyPair activity inbox =>
    (deliver ⟨localActor, keyPair, activity, inbox⟩,
      { site with sent := site.sent ++ [⟨localActor, keyPair, activity, inbox⟩] })

/-- who may deliver to the inboxes -/
inductive InboxAuthPolicy where
  | AllowUnsignedInsecureDev
  | RequireSigned
deriving DecidableEq

/-- The server as one handler sees it: the answers of the actor dispatcher, the resolver, the
policy and the time of the clock. -/
structure FederServer where
  getActor : String → Except Unit (Option Actor)
  getActorById : Iri → Except Unit (Option Actor)
  resolver : ActorResolver
  inboxAuthPolicy : InboxAuthPolicy
  now : Int

/-- a storage call whose failure is an internal server error -/
def tryStore {α : Type} (call : StoreCall) (next : call.Value → Program (Except StatusCode α)) :
    Program (Except StatusCode α) :=
  .op (.store call) fun
    | .error _ => .ret (.error .INTERNAL_SERVER_ERROR)
    | .ok value => next value

end Feder
