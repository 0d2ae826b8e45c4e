import Mathlib.Tactic.Common

/-!
# The vocabulary types

The ActivityPub data that Feder exchanges and stores (the field `to`, a keyword here, is written
`to_`).  The grammar of IRIs is a parameter of the
whole development (`IriSyntax`): an `Iri` is a text that passes it.
-/

namespace Feder

def activitystreamsContext : String := "https://www.w3.org/ns/activitystreams"
def securityContext : String := "https://w3id.org/security/v1"
def publicCollection : String := "https://www.w3.org/ns/activitystreams#Public"

/-- The check behind `IriString`: which texts are absolute IRIs.  An absolute IRI starts with a
scheme and a colon. -/
class IriSyntax where
  valid : String → Bool
  colon_of_valid : ∀ s, valid s = true → ':' ∈ s.toList
  valid_activitystreamsContext : valid activitystreamsContext = true
  valid_publicCollection : valid publicCollection = true

variable [IriSyntax]

/-- an absolute ActivityPub identifier -/
@[ext] structure Iri where
  str : String
  valid : IriSyntax.valid str = true
deriving DecidableEq

namespace Iri

def parse (s : String) : Option Iri :=
  if h : IriSyntax.valid s = true then some ⟨s, h⟩ else none

@[simp] theorem parse_str (i : Iri) : parse i.str = some i := by
  rw [parse, dif_pos i.valid]

theorem str_of_parse {s : String} {i : Iri} (h : parse s = some i) : i.str = s := by
  unfold parse at h
  split at h
  · cases h; rfl
  · cases h

theorem str_inj {i j : Iri} : i.str = j.str ↔ i = j := by
  rw [Iri.ext_iff]

/-- a text without a colon is no absolute IRI -/
theorem str_ne (i : Iri) {s : String} (h : ':' ∉ s.toList) : i.str ≠ s :=
  fun e => h (e ▸ IriSyntax.colon_of_valid i.str i.valid)

end Iri

def activitystreams : Iri := ⟨activitystreamsContext, IriSyntax.valid_activitystreamsContext⟩
def publicIri : Iri := ⟨publicCollection, IriSyntax.valid_publicCollection⟩

@[simp] theorem activitystreams_str : activitystreams.str = activitystreamsContext := rfl
@[simp] theorem publicIri_str : publicIri.str = publicCollection := rfl

/-- an object slot: an IRI or an embedded object -/
inductive Reference (α : Type) where
  | id (id : Iri)
  | object (object : α)
deriving DecidableEq

/-- zero or more property values -/
@[ext] structure References (α : Type) where
  values : List α
deriving DecidableEq

namespace References
variable {α : Type}

def new : References α := ⟨[]⟩
def one (value : α) : References α := ⟨[value]⟩
def many (values : List α) : References α := ⟨values⟩
def isEmpty (r : References α) : Bool := r.values.isEmpty

end References

inductive NoteType where | Note
deriving DecidableEq
inductive FollowType where | Follow
deriving DecidableEq
inductive AcceptType where | Accept
deriving DecidableEq
inductive UndoType where | Undo
deriving DecidableEq
inductive CreateType where | Create
deriving DecidableEq
inductive OrderedCollectionType where | OrderedCollection
deriving DecidableEq
inductive CryptographicKeyType where | CryptographicKey
deriving DecidableEq

inductive ActorType where
  | Application
  | Group
  | Organization
  | Person
  | Service
deriving DecidableEq

/-- a JSON-LD context of one or more IRIs -/
inductive Context where
  | iri (iri : Iri)
  | iris (iris : List Iri)
deriving DecidableEq

def Context.one (context : Iri) : Context := .iri context

/-- the context with another IRI, unless it is there -/
def Context.include (context : Context) (iri : Iri) : Context :=
  match context with
  | .iri existing => if existing = iri then .iri existing else .iris [existing, iri]
  | .iris existing => if iri ∈ existing then .iris existing else .iris (existing ++ [iri])

structure Endpoints where
  sharedInbox : Option Iri
deriving DecidableEq

structure CryptographicKey where
  id : Iri
  kind : CryptographicKeyType
  owner : Iri
  publicKeyPem : String
deriving DecidableEq

def CryptographicKey.new (id owner : Iri) (publicKeyPem : String) : CryptographicKey where
  id := id
  kind := .CryptographicKey
  owner := owner
  publicKeyPem := publicKeyPem

@[ext] structure Actor where
  context : Option Context
  kind : ActorType
  id : Iri
  inbox : Iri
  outbox : Iri
  followers : Option Iri
  preferredUsername : Option String
  name : Option String
  endpoints : Option Endpoints
  publicKey : Option (Reference CryptographicKey)
deriving DecidableEq

def Actor.new (kind : ActorType) (id inbox outbox : Iri) : Actor where
  context := some (.one activitystreams)
  kind := kind
  id := id
  inbox := inbox
  outbox := outbox
  followers := none
  preferredUsername := none
  name := none
  endpoints := none
  publicKey := none

def Actor.person (id inbox outbox : Iri) : Actor := .new .Person id inbox outbox

/-- the actor with a key, and the context that its members come from -/
def Actor.setPublicKey (actor : Actor) (publicKey : Reference CryptographicKey) : Option Actor :=
  (Iri.parse securityContext).map fun security =>
    { actor with
      context := some ((actor.context.getD (.one activitystreams)).include security)
      publicKey := some publicKey }

@[ext] structure Note where
  context : Option Iri
  kind : NoteType
  id : Iri
  attributedTo : Option (Reference Actor)
  to_ : References Iri
  cc : References Iri
  content : Option String
  mediaType : Option String
  published : Option String
  url : Option Iri
deriving DecidableEq

def Note.new (id : Iri) : Note where
  context := some activitystreams
  kind := .Note
  id := id
  attributedTo := none
  to_ := .new
  cc := .new
  content := none
  mediaType := none
  published := none
  url := none

@[ext] structure Follow where
  context : Option Iri
  kind : FollowType
  id : Iri
  actor : Reference Actor
  object : Reference Actor
deriving DecidableEq

def Follow.new (id : Iri) (actor object : Reference Actor) : Follow where
  context := some activitystreams
  kind := .Follow
  id := id
  actor := actor
  object := object

@[ext] structure Accept where
  context : Option Iri
  kind : AcceptType
  id : Iri
  actor : Reference Actor
  object : Reference Follow
deriving DecidableEq

def Accept.new (id : Iri) (actor : Reference Actor) (object : Reference Follow) : Accept where
  context := some activitystreams
  kind := .Accept
  id := id
  actor := actor
  object := object

/-- an Undo of a Follow -/
@[ext] structure Undo where
  context : Option Iri
  kind : UndoType
  id : Iri
  actor : Reference Actor
  object : Reference Follow
deriving DecidableEq

@[ext] structure Create (α : Type) where
  context : Option Iri
  kind : CreateType
  id : Iri
  actor : Reference Actor
  object : Reference α
  to_ : References Iri
  cc : References Iri
deriving DecidableEq

def Create.new {α : Type} (id : Iri) (actor : Reference Actor) (object : Reference α) :
    Create α where
  context := some activitystreams
  kind := .Create
  id := id
  actor := actor
  object := object
  to_ := .new
  cc := .new

@[ext] structure OrderedCollection (α : Type) where
  context : Option Iri
  kind : OrderedCollectionType
  id : Iri
  totalItems : UInt64
  orderedItems : List α
deriving DecidableEq

def OrderedCollection.new {α : Type} (id : Iri) (totalItems : UInt64) (orderedItems : List α) :
    OrderedCollection α where
  context := some activitystreams
  kind := .OrderedCollection
  id := id
  totalItems := totalItems
  orderedItems := orderedItems

end Feder
