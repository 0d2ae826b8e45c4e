import Feder.Server.Object

/-!
# Documents of local actors

`actor.rs` and `followers.rs`: the handlers that serve a local actor and the collection of its
followers.

* `followers_program`, `servedFollowers_ok`   what the second one does.
-/

namespace Feder
open Serde

variable [Crates]

/-- the response that serves a document -/
def document (body : Json) : Response :=
  ⟨.OK, [("content-type", "application/activity+json"), ("vary", "Accept")], some body⟩

/-- `actor` of `actor.rs` -/
def Get.actor (server : FederServer) (identifier : String) (headers : HeaderMap) :
    Except StatusCode Response :=
  if ¬ acceptsActivitypub headers then .ok notAcceptable
  else
    match server.getActor identifier with
    | .error _ => .error .INTERNAL_SERVER_ERROR
    | .ok none => .error .NOT_FOUND
    | .ok (some actor) => .ok (document actor.serialize)

/-- the collection of some followers -/
def followersCollection (collectionId : Iri) (followers : List Iri) : OrderedCollection Iri :=
  .new collectionId (UInt64.ofNat followers.length) followers

/-- what is served of the followers that are listed -/
def servedFollowers (actor : Actor) (followers : List Iri) : Except StatusCode Response :=
  if ¬ followers.length < 2 ^ 64 then .error .INTERNAL_SERVER_ERROR
  else
    match actor.followers with
    | none => .error .INTERNAL_SERVER_ERROR
    | some collectionId =>
      .ok (document ((followersCollection collectionId followers).serialize Iri.serialize))

/-- `followers` of `followers.rs` -/
def Get.followers (server : FederServer) (identifier : String) (headers : HeaderMap) :
    Program (Except StatusCode Response) :=
  match server.getActor identifier with
  | .error _ => .ret (.error .INTERNAL_SERVER_ERROR)
  | .ok none => .ret (.error .NOT_FOUND)
  | .ok (some actor) =>
    if ¬ acceptsActivitypub headers then .ret (.ok notAcceptable)
    else tryStore (.listFollowers actor.id) fun followers => .ret (servedFollowers actor followers)

theorem followers_program (server : FederServer) (identifier : String) (headers : HeaderMap) :
    (∃ result, Get.followers server identifier headers = .ret result ∧
      ∀ response, result = .ok response → response.status ≠ .OK) ∨
    ∃ actor, server.getActor identifier = .ok (some actor) ∧
      Get.followers server identifier headers =
        tryStore (.listFollowers actor.id) fun followers => .ret (servedFollowers actor followers) := by
  unfold Get.followers
  cases hactor : server.getActor identifier with
  | error e => exact Or.inl ⟨_, rfl, nofun⟩
  | ok actor =>
    cases actor with
    | none => exact Or.inl ⟨_, rfl, nofun⟩
    | some actor =>
      dsimp only
      split
      · refine Or.inl ⟨_, rfl, fun response h => ?_⟩
        cases h
        decide
      · exact Or.inr ⟨actor, rfl, rfl⟩

theorem servedFollowers_ok {actor : Actor} {followers : List Iri} {response : Response}
    (h : servedFollowers actor followers = .ok response) :
    followers.length < 2 ^ 64 ∧ ∃ collectionId, actor.followers = some collectionId ∧
      response = document ((followersCollection collectionId followers).serialize Iri.serialize) := by
  unfold servedFollowers at h
  split at h
  · cases h
  · split at h
    · cases h
    · cases h
      exact ⟨not_not.mp ‹_›, _, ‹_›, rfl⟩

end Feder
