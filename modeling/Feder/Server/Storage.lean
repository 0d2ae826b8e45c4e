import Feder.Core.Follow
import Feder.Core.Key
import Feder.Lib.Table
import Feder.Server.Http
import Feder.Vocab.Codec

/-!
# The SQLite store

`storage/sqlite.rs`: the four tables and the statements that read and write them.  Every function
here is one call whose connection and statements succeed; what remains are the errors that the
stored data itself can cause.

* `lookup_...`                 what a write does to every row of its table;
* `confirmPendingFollow_eq`    a confirmation is a compare-and-set.
-/

namespace Feder
open Serde

inductive StoreError where
  | Io
  | Sqlite
  | Json
  | InvalidIri (value : String)
  | UnsupportedStoredObjectType (objectType : String)
  | LockPoisoned
  | ActorKeyProvisioning
  | ActorKey (error : KeyError)
deriving DecidableEq

/-- the columns of `followers` behind its key `(follower_actor_id, following_actor_id)` -/
structure FollowerRow where
  inboxUrl : Option String
  sharedInboxUrl : Option String
deriving DecidableEq

structure KeyRow where
  privateKeyPem : String
  publicKeyPem : String
deriving DecidableEq

structure ObjectRow where
  objectType : String
  objectJson : String
deriving DecidableEq

/-- the two states that the table admits -/
inductive FollowState where
  | pending
  | accepted
deriving DecidableEq

structure OutboundFollowRow where
  localActorId : String
  remoteActorJson : String
  state : FollowState
deriving DecidableEq

@[ext] structure SqliteStore where
  followers : Table (String × String) FollowerRow
  keys : Table String KeyRow
  objects : Table String ObjectRow
  outboundFollows : Table String OutboundFollowRow
deriving DecidableEq

/-- the tables after `init` on a new database -/
def SqliteStore.empty : SqliteStore := ⟨∅, ∅, ∅, ∅⟩

/-- the addressing facts needed to deliver to a follower -/
structure FollowerDeliveryTarget [IriSyntax] where
  actorId : Iri
  inbox : Iri
  sharedInbox : Option Iri
deriving DecidableEq

variable [Crates]

def parseIri (value : String) : Except StoreError Iri :=
  match Iri.parse value with
  | some iri => .ok iri
  | none => .error (.InvalidIri value)

@[simp] theorem parseIri_str (i : Iri) : parseIri i.str = .ok i := by
  simp [parseIri]

def Actor.sharedInbox (actor : Actor) : Option Iri :=
  actor.endpoints.bind fun endpoints => endpoints.sharedInbox

namespace SqliteStore

/-! ## followers -/

def followerRow (follower : Actor) : FollowerRow where
  inboxUrl := some follower.inbox.str
  sharedInboxUrl := follower.sharedInbox.map Iri.str

def storeFollower (store : SqliteStore) (follower : Actor) (following : Iri) : SqliteStore :=
  { store with
    followers := store.followers.upsert (follower.id.str, following.str) (followerRow follower)
      (fun _ => some (followerRow follower)) }

def removeFollower (store : SqliteStore) (follower following : Iri) : SqliteStore :=
  { store with followers := store.followers.erase (follower.str, following.str) }

def listFollowers (store : SqliteStore) (following : Iri) : Except StoreError (List Iri) :=
  (store.followers.listing (fun k => k.2 == following.str) Prod.fst
    (fun _ => some ())).mapM fun row => parseIri row.1

/-- the row of a follower, if it has an inbox -/
def deliveryRow (store : SqliteStore) (localActor : Iri) (actorId : String) :
    Option (String × Option String) :=
  (store.followers.lookup (actorId, localActor.str)).bind fun row =>
    row.inboxUrl.map fun inbox => (inbox, row.sharedInboxUrl)

def deliveryTarget (row : String × String × Option String) :
    Except StoreError FollowerDeliveryTarget := do
  let actorId ← parseIri row.1
  let inbox ← parseIri row.2.1
  let sharedInbox ←
    match row.2.2 with
    | some url => (parseIri url).map some
    | none => .ok none
  return ⟨actorId, inbox, sharedInbox⟩

def listFollowerDeliveryTargets (store : SqliteStore) (localActor : Iri) :
    Except StoreError (List FollowerDeliveryTarget) :=
  (store.followers.listing (fun k => k.2 == localActor.str) Prod.fst
    (store.deliveryRow localActor)).mapM deliveryTarget

/-! ## keys -/

def loadActorKeyPair (store : SqliteStore) (actorId : Iri) :
    Except StoreError (Option ActorKeyPair) :=
  match store.keys.lookup actorId.str with
  | none => .ok none
  | some row =>
    match ActorKeyPair.fromPem row.privateKeyPem row.publicKeyPem with
    | .ok keyPair => .ok (some keyPair)
    | .error e => .error (.ActorKey e)

/-! ## outbound follows -/

/-- the row of a relationship in a given state -/
def followRow (follow : PendingFollow) (state : FollowState) : OutboundFollowRow where
  localActorId := follow.localActor.str
  remoteActorJson := JsonText.toString follow.remoteActor.serialize
  state := state

def storePendingFollow (store : SqliteStore) (follow : PendingFollow) : SqliteStore :=
  { store with
    outboundFollows := store.outboundFollows.upsert follow.followActivity.str
      (followRow follow .pending)
      -- the conflict clause rewrites the relationship, but only of a pending row
      (fun old =>
        if old.state = .pending then some { followRow follow .pending with state := old.state }
        else none) }

def loadPendingFollow (store : SqliteStore) (followActivity : Iri) :
    Except StoreError (Option PendingFollow) :=
  match store.outboundFollows.lookup followActivity.str with
  | none => .ok none
  | some row =>
    if row.state = .pending then
      match parseIri row.localActorId with
      | .error e => .error e
      | .ok localActor =>
        match ofText Actor.deserialize row.remoteActorJson with
        | none => .error .Json
        | some remoteActor => .ok (some ⟨localActor, remoteActor, followActivity⟩)
    else .ok none

def confirmPendingFollow (store : SqliteStore) (expected : PendingFollow) :
    Except StoreError Bool × SqliteStore :=
  match store.loadPendingFollow expected.followActivity with
  | .error e => (.error e, store)
  | .ok stored =>
    if stored ≠ some expected then (.ok false, store)
    else
      let changed := store.outboundFollows.updateWhere expected.followActivity.str
        (fun row => row.state = .pending) (fun row => { row with state := .accepted })
      (.ok changed.2, { store with outboundFollows := changed.1 })

/-! ## notes -/

def noteRow (note : Note) : ObjectRow := ⟨"Note", JsonText.toString note.serialize⟩

def storeNote (store : SqliteStore) (note : Note) : SqliteStore :=
  { store with
    objects := store.objects.upsert note.id.str (noteRow note) (fun _ => some (noteRow note)) }

def loadNote (store : SqliteStore) (noteId : Iri) : Except StoreError (Option Note) :=
  match store.objects.lookup noteId.str with
  | none => .ok none
  | some row =>
    if row.objectType ≠ "Note" then .error (.UnsupportedStoredObjectType row.objectType)
    else
      match ofText Note.deserialize row.objectJson with
      | none => .error .Json
      | some note => .ok (some note)

/-! ## what the writes do -/

theorem lookup_storeFollower (store : SqliteStore) (follower : Actor) (following : Iri)
    (k : String × String) :
    (store.storeFollower follower following).followers.lookup k =
      if k = (follower.id.str, following.str) then some (followerRow follower)
      else store.followers.lookup k := by
  show (store.followers.upsert _ _ _).lookup k = _
  rw [Table.lookup_upsert]
  cases store.followers.lookup (follower.id.str, following.str) <;> rfl

theorem lookup_removeFollower (store : SqliteStore) (follower following : Iri)
    (k : String × String) :
    (store.removeFollower follower following).followers.lookup k =
      if k = (follower.str, following.str) then none else store.followers.lookup k :=
  Table.lookup_erase' _ _ _

theorem lookup_storeNote (store : SqliteStore) (note : Note) (k : String) :
    (store.storeNote note).objects.lookup k =
      if k = note.id.str then some (noteRow note) else store.objects.lookup k := by
  show (store.objects.upsert _ _ _).lookup k = _
  rw [Table.lookup_upsert]
  cases store.objects.lookup note.id.str <;> rfl

/-- what storing a pending follow leaves in its row: an accepted row is kept -/
def storedRow (old : Option OutboundFollowRow) (follow : PendingFollow) : OutboundFollowRow :=
  match old with
  | some row => if row.state = .pending then followRow follow .pending else row
  | none => followRow follow .pending

theorem lookup_storePendingFollow (store : SqliteStore) (follow : PendingFollow) (k : String) :
    (store.storePendingFollow follow).outboundFollows.lookup k =
      if k = follow.followActivity.str then
        some (storedRow (store.outboundFollows.lookup follow.followActivity.str) follow)
      else store.outboundFollows.lookup k := by
  show (store.outboundFollows.upsert _ _ _).lookup k = _
  rw [Table.lookup_upsert]
  congr 2
  unfold Table.merged storedRow
  cases h : store.outboundFollows.lookup follow.followActivity.str with
  | none => rfl
  | some old =>
    by_cases hs : old.state = .pending
    · simp only [hs, if_true]
      rfl
    · simp only [hs, if_false, Option.getD_none]

/-- what a row of a table is read as -/
def readRow (followActivity : Iri) (row : OutboundFollowRow) : Except StoreError PendingFollow :=
  match parseIri row.localActorId with
  | .error e => .error e
  | .ok localActor =>
    match ofText Actor.deserialize row.remoteActorJson with
    | none => .error .Json
    | some remoteActor => .ok ⟨localActor, remoteActor, followActivity⟩

theorem readRow_followRow (follow : PendingFollow) (state : FollowState) :
    readRow follow.followActivity (followRow follow state) = .ok follow := by
  unfold readRow followRow
  simp only [parseIri_str, ofText_toString _ (Actor.serialize_written _) (by decide : 2 ≤ maxDepth),
    Actor.deserialize_serialize]

theorem loadPendingFollow_some_iff {store : SqliteStore} {f : Iri} {p : PendingFollow} :
    store.loadPendingFollow f = .ok (some p) ↔
      ∃ row, store.outboundFollows.lookup f.str = some row ∧ row.state = .pending ∧
        readRow f row = .ok p := by
  unfold loadPendingFollow readRow
  cases store.outboundFollows.lookup f.str with
  | none => simp
  | some row =>
    by_cases hs : row.state = .pending
    · simp only [hs, if_true, Option.some.injEq, exists_eq_left', true_and]
      cases parseIri row.localActorId with
      | error e => simp
      | ok localActor =>
        cases ofText Actor.deserialize row.remoteActorJson <;> simp
    · simp [hs]

theorem load_storePendingFollow {store : SqliteStore} {p : PendingFollow}
    (h : store.outboundFollows.lookup p.followActivity.str = none) :
    (store.storePendingFollow p).loadPendingFollow p.followActivity = .ok (some p) := by
  refine loadPendingFollow_some_iff.mpr ⟨followRow p .pending, ?_, rfl, readRow_followRow p _⟩
  rw [lookup_storePendingFollow, if_pos rfl, h]
  rfl

theorem followActivity_of_load {store : SqliteStore} {f : Iri} {p : PendingFollow}
    (h : store.loadPendingFollow f = .ok (some p)) : p.followActivity = f := by
  obtain ⟨row, _, _, hr⟩ := loadPendingFollow_some_iff.mp h
  unfold readRow at hr
  split at hr
  · cases hr
  · split at hr
    · cases hr
    · cases hr
      rfl

/-- the store after a confirmation that found what it expected -/
def accept (store : SqliteStore) (f : Iri) : SqliteStore :=
  { store with
    outboundFollows := (store.outboundFollows.updateWhere f.str
      (fun row => row.state = .pending) (fun row => { row with state := .accepted })).1 }

theorem lookup_accept (store : SqliteStore) (f : Iri) (k : String) :
    (store.accept f).outboundFollows.lookup k =
      if k = f.str then (store.outboundFollows.lookup f.str).map
        (fun row => if row.state = .pending then { row with state := .accepted } else row)
      else store.outboundFollows.lookup k := by
  show (store.outboundFollows.updateWhere _ _ _).1.lookup k = _
  rw [Table.lookup_updateWhere]
  simp only [decide_eq_true_eq]

/-- **A confirmation is a compare-and-set**: it succeeds exactly when the expected relationship
is the one a load would return, and otherwise leaves the store alone. -/
theorem confirmPendingFollow_eq (store : SqliteStore) (expected : PendingFollow) :
    store.confirmPendingFollow expected =
      match store.loadPendingFollow expected.followActivity with
      | .error e => (.error e, store)
      | .ok stored =>
        if stored = some expected then (.ok true, store.accept expected.followActivity)
        else (.ok false, store) := by
  unfold confirmPendingFollow
  cases hload : store.loadPendingFollow expected.followActivity with
  | error e => rfl
  | ok stored =>
    by_cases h : stored = some expected
    · subst h
      obtain ⟨row, hrow, hs, _⟩ := loadPendingFollow_some_iff.mp hload
      simp only [ne_eq, not_true_eq_false, if_false, if_true]
      unfold accept Table.updateWhere
      simp only [hrow, hs, decide_true, if_true]
    · simp only [ne_eq, h, not_false_eq_true, if_true, if_false]

theorem confirmPendingFollow_of_load {store : SqliteStore} {expected : PendingFollow}
    {stored : Option PendingFollow}
    (h : store.loadPendingFollow expected.followActivity = .ok stored) :
    store.confirmPendingFollow expected =
      if stored = some expected then (.ok true, store.accept expected.followActivity)
      else (.ok false, store) := by
  rw [confirmPendingFollow_eq, h]

theorem confirmPendingFollow_true_iff {store : SqliteStore} {expected : PendingFollow} :
    (store.confirmPendingFollow expected).1 = .ok true ↔
      store.loadPendingFollow expected.followActivity = .ok (some expected) := by
  rw [confirmPendingFollow_eq]
  cases store.loadPendingFollow expected.followActivity with
  | error e => simp
  | ok stored => by_cases h : stored = some expected <;> simp [h]

theorem confirmPendingFollow_of_ne {store : SqliteStore} {expected : PendingFollow}
    (h : (store.confirmPendingFollow expected).1 ≠ .ok true) :
    (store.confirmPendingFollow expected).2 = store := by
  rw [Ne, confirmPendingFollow_true_iff] at h
  rw [confirmPendingFollow_eq]
  cases hload : store.loadPendingFollow expected.followActivity with
  | error e => rfl
  | ok stored =>
    rw [hload, Except.ok.injEq] at h
    simp only [h, if_false]

theorem confirmPendingFollow_of_true {store : SqliteStore} {expected : PendingFollow}
    (h : (store.confirmPendingFollow expected).1 = .ok true) :
    (store.confirmPendingFollow expected).2 = store.accept expected.followActivity := by
  rw [confirmPendingFollow_true_iff] at h
  rw [confirmPendingFollow_eq, h]
  simp only [if_true]

end SqliteStore

end Feder
