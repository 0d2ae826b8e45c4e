import Feder.Lib.Serde
import Feder.Vocab.Types

/-!
# The JSON codec of the vocabulary

`T.serialize` and `T.deserialize` are the derived codecs of the vocabulary types, put together
from `Serde`; `deserializeAddressing` is the hand-written reading of `to` and `cc`.  Every type
has three results:

* `T.deserialize_serialize`   what was written is read back, with its addresses normalised
                              (`T.norm`: the compact `as:Public` becomes the full IRI);
* `T.norm_of_deserialize`     what was read is already normalised;
* `T.serialize_written`       what is written is a document that its text carries.
-/

set_option linter.unusedSectionVars false

namespace Feder
open Serde
variable [IriSyntax]

/-! ## IRIs, references and lists -/

def Iri.serialize (i : Iri) : Json := .str i.str

def Iri.deserialize : Json → Option Iri
  | .str s => Iri.parse s
  | _ => none

@[simp] theorem Iri.deserialize_str (s : String) : Iri.deserialize (.str s) = Iri.parse s := rfl
@[simp] theorem Iri.deserialize_obj (fields : List (String × Json)) :
    Iri.deserialize (.obj fields) = none := rfl
@[simp] theorem Iri.deserialize_arr (items : List Json) : Iri.deserialize (.arr items) = none := rfl

@[simp] theorem Iri.deserialize_serialize (i : Iri) : Iri.deserialize i.serialize = some i :=
  Iri.parse_str i

theorem Iri.serialize_written {n : Nat} (i : Iri) : i.serialize.Written n := .str _

theorem Iri.serialize_ne_null (i : Iri) : i.serialize ≠ .null := Json.noConfusion

@[simp] theorem Iri.optional_serialize (o : Option Iri) :
    optional Iri.deserialize (.ofKey (o.map Iri.serialize)) = some o := by
  rw [optional_written Iri.serialize_ne_null Iri.deserialize_serialize, Option.map_id']

@[simp] theorem optional_string (o : Option String) :
    optional deString (.ofKey (o.map Json.str)) = some o := by
  rw [optional_written (fun _ => Json.noConfusion) deString_str, Option.map_id']

section
variable {α : Type}

def Reference.serialize (ser : α → Json) : Reference α → Json
  | .id i => i.serialize
  | .object o => ser o

def Reference.deserialize (de : Json → Option α) : Json → Option (Reference α) :=
  untagged (fun j => (Iri.deserialize j).map .id) (fun j => (de j).map .object)

def Reference.map {β : Type} (f : α → β) : Reference α → Reference β
  | .id i => .id i
  | .object o => .object (f o)

@[simp] theorem Reference.map_id (r : Reference α) : r.map (fun a => a) = r := by
  cases r <;> rfl

/-- an embedded value is never taken for an IRI -/
theorem Reference.deserialize_serialize {β : Type} {ser : α → Json} {de : Json → Option β}
    {f : α → β} (hiri : ∀ a, Iri.deserialize (ser a) = none) (hread : ∀ a, de (ser a) = some (f a))
    (r : Reference α) : Reference.deserialize de (r.serialize ser) = some (r.map f) := by
  cases r with
  | id i => exact untagged_left (by simp [Reference.serialize, Reference.map])
  | object o =>
    show untagged _ _ (ser o) = _
    rw [untagged_right (by simp [hiri]), hread]
    rfl

theorem Reference.serialize_written {n : Nat} {ser : α → Json} (h : ∀ a, (ser a).Written n)
    (r : Reference α) : (r.serialize ser).Written n := by
  cases r with
  | id i => exact i.serialize_written
  | object o => exact h o

theorem Reference.serialize_ne_null {ser : α → Json} (h : ∀ a, ser a ≠ .null)
    (r : Reference α) : r.serialize ser ≠ .null := by
  cases r with
  | id i => exact i.serialize_ne_null
  | object o => exact h o

theorem Reference.deserialize_eq_some {de : Json → Option α} {j : Json} {r : Reference α} :
    Reference.deserialize de j = some r ↔
      (∃ i, Iri.deserialize j = some i ∧ r = .id i) ∨
      (Iri.deserialize j = none ∧ ∃ a, de j = some a ∧ r = .object a) := by
  unfold Reference.deserialize untagged
  cases h : Iri.deserialize j with
  | some i => simp [h, eq_comm]
  | none => simp [h, Option.map_eq_some_iff, @eq_comm _ r]

inductive OneOrMany (α : Type) where
  | one (value : α)
  | many (values : List α)

def OneOrMany.deserialize (de : Json → Option α) : Json → Option (OneOrMany α) :=
  untagged (fun j => (de j).map .one) (fun j => (deVec de j).map .many)

/-- nothing is written as an empty array, one value as a scalar, several as an array -/
def References.serialize (ser : α → Json) (r : References α) : Json :=
  match r.values with
  | [] => .arr []
  | [value] => ser value
  | values => .arr (values.map ser)

theorem References.serialize_written {n : Nat} {ser : α → Json} (h : ∀ a, (ser a).Written n)
    (r : References α) : (r.serialize ser).Written (n + 1) := by
  obtain ⟨values⟩ := r
  match values with
  | [] => exact .arr (by simp)
  | [value] => exact (h value).mono (Nat.le_succ n)
  | v :: w :: rest =>
    show Json.Written (n + 1) (.arr ((v :: w :: rest).map ser))
    refine .arr fun j hj => ?_
    obtain ⟨a, _, rfl⟩ := List.mem_map.mp hj
    exact h a

/-- the field of a list of references, which is skipped when the list is empty -/
def References.field (ser : α → Json) (r : References α) : Option Json :=
  if r.isEmpty then none else some (r.serialize ser)

end

/-! ## addressing -/

/-- the address behind a text: two compact forms of the public collection are expanded -/
def parseAddress (value : String) : Option Iri :=
  Iri.parse (if value = "Public" ∨ value = "as:Public" then publicCollection else value)

def deserializeAddressing (j : Json) : Option (References Iri) :=
  match OneOrMany.deserialize deString j with
  | some (.one value) => (parseAddress value).map .one
  | some (.many values) => (values.mapM parseAddress).map .many
  | none => none

/-- the address that a written address is read back as -/
def Iri.norm (i : Iri) : Iri := if i.str = "as:Public" then publicIri else i

def References.norm (r : References Iri) : References Iri := ⟨r.values.map Iri.norm⟩

theorem publicCollection_ne : publicCollection ≠ "as:Public" := by decide

theorem Iri.str_ne_public (i : Iri) : i.str ≠ "Public" := i.str_ne (by decide)

theorem parseAddress_str (i : Iri) : parseAddress i.str = some i.norm := by
  unfold parseAddress Iri.norm
  by_cases h : i.str = "as:Public"
  · rw [if_pos (Or.inr h), if_pos h]
    exact Iri.parse_str publicIri
  · rw [if_neg (by simp [i.str_ne_public, h]), if_neg h, Iri.parse_str]

theorem mapM_parseAddress (l : List Iri) :
    (l.map Iri.str).mapM parseAddress = some (l.map Iri.norm) := by
  induction l with
  | nil => rfl
  | cons i rest ih => simp [parseAddress_str, ih]

theorem deVec_serialize (l : List Iri) :
    deVec deString (.arr (l.map Iri.serialize)) = some (l.map Iri.str) :=
  deVec_written l (fun _ _ => rfl)

/-- **Written addressing is read back normalised.** -/
theorem deserializeAddressing_serialize (r : References Iri) :
    deserializeAddressing (r.serialize Iri.serialize) = some r.norm := by
  obtain ⟨values⟩ := r
  have many : ∀ l : List Iri, OneOrMany.deserialize deString (.arr (l.map Iri.serialize))
      = some (.many (l.map Iri.str)) := by
    intro l
    show untagged _ _ _ = _
    rw [untagged_right rfl, deVec_serialize]
    rfl
  match values with
  | [] => rfl
  | [i] =>
    show (parseAddress i.str).map References.one = _
    rw [parseAddress_str]
    rfl
  | i :: k :: rest =>
    show (match OneOrMany.deserialize deString (.arr ((i :: k :: rest).map Iri.serialize)) with
      | some (.one value) => (parseAddress value).map References.one
      | some (.many values) => (values.mapM parseAddress).map References.many
      | none => none) = _
    rw [many]
    show (((i :: k :: rest).map Iri.str).mapM parseAddress).map References.many = _
    rw [mapM_parseAddress]
    rfl

/-- the field of an empty list is absent and read back as the default -/
theorem defaulted_addressing (r : References Iri) :
    defaulted .new deserializeAddressing (.ofKey (r.field Iri.serialize)) = some r.norm := by
  unfold References.field
  cases h : r.isEmpty with
  | false => exact deserializeAddressing_serialize r
  | true =>
    obtain ⟨values⟩ := r
    have : values = [] := by simpa [References.isEmpty] using h
    subst this
    rfl

theorem norm_of_parseAddress {s : String} {i : Iri} (h : parseAddress s = some i) : i.norm = i := by
  unfold parseAddress at h
  have hs := Iri.str_of_parse h
  unfold Iri.norm
  split at hs
  · rw [if_neg (by rw [hs]; exact publicCollection_ne)]
  · rename_i hn
    rw [if_neg (fun e => hn (Or.inr (hs ▸ e)))]

theorem norm_of_mapM {l : List String} {is : List Iri} (h : l.mapM parseAddress = some is) :
    is.map Iri.norm = is := by
  induction l generalizing is with
  | nil =>
    cases h
    rfl
  | cons s rest ih =>
    rw [List.mapM_cons] at h
    obtain ⟨i, hi, h⟩ := Option.bind_eq_some_iff.mp h
    obtain ⟨js, hjs, h⟩ := Option.bind_eq_some_iff.mp h
    cases h
    rw [List.map_cons, norm_of_parseAddress hi, ih hjs]

theorem norm_of_deserializeAddressing {j : Json} {r : References Iri}
    (h : deserializeAddressing j = some r) : r.norm = r := by
  unfold deserializeAddressing at h
  split at h
  · obtain ⟨i, hi, rfl⟩ := Option.map_eq_some_iff.mp h
    show (⟨[i.norm]⟩ : References Iri) = ⟨[i]⟩
    rw [norm_of_parseAddress hi]
  · obtain ⟨is, his, rfl⟩ := Option.map_eq_some_iff.mp h
    show (⟨is.map Iri.norm⟩ : References Iri) = ⟨is⟩
    rw [norm_of_mapM his]
  · cases h

theorem norm_of_defaulted {s : Slot} {r : References Iri}
    (h : defaulted .new deserializeAddressing s = some r) : r.norm = r := by
  cases s with
  | given j => exact norm_of_deserializeAddressing h
  | missing => cases h; rfl
  | ended => cases h; rfl

/-! ## the types -/

def ActorType.names : List (String × ActorType) :=
  [("Application", .Application), ("Group", .Group), ("Organization", .Organization),
    ("Person", .Person), ("Service", .Service)]

def ActorType.serialize : ActorType → Json
  | .Application => .str "Application"
  | .Group => .str "Group"
  | .Organization => .str "Organization"
  | .Person => .str "Person"
  | .Service => .str "Service"

def ActorType.deserialize : Json → Option ActorType := unitVariant ActorType.names

@[simp] theorem ActorType.deserialize_serialize (k : ActorType) :
    ActorType.deserialize k.serialize = some k := by
  cases k <;> rfl

def NoteType.serialize : NoteType → Json | .Note => .str "Note"
def NoteType.deserialize : Json → Option NoteType := unitVariant [("Note", .Note)]
def FollowType.serialize : FollowType → Json | .Follow => .str "Follow"
def FollowType.deserialize : Json → Option FollowType := unitVariant [("Follow", .Follow)]
def AcceptType.serialize : AcceptType → Json | .Accept => .str "Accept"
def AcceptType.deserialize : Json → Option AcceptType := unitVariant [("Accept", .Accept)]
def UndoType.serialize : UndoType → Json | .Undo => .str "Undo"
def UndoType.deserialize : Json → Option UndoType := unitVariant [("Undo", .Undo)]
def CreateType.serialize : CreateType → Json | .Create => .str "Create"
def CreateType.deserialize : Json → Option CreateType := unitVariant [("Create", .Create)]
def OrderedCollectionType.serialize : OrderedCollectionType → Json
  | .OrderedCollection => .str "OrderedCollection"
def OrderedCollectionType.deserialize : Json → Option OrderedCollectionType :=
  unitVariant [("OrderedCollection", .OrderedCollection)]
def CryptographicKeyType.serialize : CryptographicKeyType → Json
  | .CryptographicKey => .str "CryptographicKey"
def CryptographicKeyType.deserialize : Json → Option CryptographicKeyType :=
  unitVariant [("CryptographicKey", .CryptographicKey)]

def Context.serialize : Context → Json
  | .iri i => i.serialize
  | .iris is => .arr (is.map Iri.serialize)

def Context.deserialize : Json → Option Context :=
  untagged (fun j => (Iri.deserialize j).map .iri) (fun j => (deVec Iri.deserialize j).map .iris)

def Endpoints.serialize (e : Endpoints) : Json :=
  ofFields [("sharedInbox", e.sharedInbox.map Iri.serialize)]

def Endpoints.deserialize (j : Json) : Option Endpoints := do
  let field ← slots ["sharedInbox"] j
  let sharedInbox ← optional Iri.deserialize (field "sharedInbox")
  return ⟨sharedInbox⟩

def CryptographicKey.serialize (k : CryptographicKey) : Json :=
  ofFields [("id", some k.id.serialize), ("type", some k.kind.serialize),
    ("owner", some k.owner.serialize), ("publicKeyPem", some (.str k.publicKeyPem))]

def CryptographicKey.deserialize (j : Json) : Option CryptographicKey := do
  let field ← slots ["id", "type", "owner", "publicKeyPem"] j
  let id ← required Iri.deserialize (field "id")
  let kind ← defaulted .CryptographicKey CryptographicKeyType.deserialize (field "type")
  let owner ← required Iri.deserialize (field "owner")
  let publicKeyPem ← required deString (field "publicKeyPem")
  return ⟨id, kind, owner, publicKeyPem⟩

def Actor.serialize (a : Actor) : Json :=
  ofFields [("@context", a.context.map Context.serialize), ("type", some a.kind.serialize),
    ("id", some a.id.serialize), ("inbox", some a.inbox.serialize),
    ("outbox", some a.outbox.serialize), ("followers", a.followers.map Iri.serialize),
    ("preferredUsername", a.preferredUsername.map Json.str), ("name", a.name.map Json.str),
    ("endpoints", a.endpoints.map Endpoints.serialize),
    ("publicKey", a.publicKey.map (Reference.serialize CryptographicKey.serialize))]

def Actor.deserialize (j : Json) : Option Actor := do
  let field ← slots ["@context", "type", "id", "inbox", "outbox", "followers",
    "preferredUsername", "name", "endpoints", "publicKey"] j
  let context ← optional Context.deserialize (field "@context")
  let kind ← required ActorType.deserialize (field "type")
  let id ← required Iri.deserialize (field "id")
  let inbox ← required Iri.deserialize (field "inbox")
  let outbox ← required Iri.deserialize (field "outbox")
  let followers ← optional Iri.deserialize (field "followers")
  let preferredUsername ← optional deString (field "preferredUsername")
  let name ← optional deString (field "name")
  let endpoints ← optional Endpoints.deserialize (field "endpoints")
  let publicKey ← optional (Reference.deserialize CryptographicKey.deserialize)
    (field "publicKey")
  return ⟨context, kind, id, inbox, outbox, followers, preferredUsername, name, endpoints,
    publicKey⟩

def Note.serialize (n : Note) : Json :=
  ofFields [("@context", n.context.map Iri.serialize), ("type", some n.kind.serialize),
    ("id", some n.id.serialize),
    ("attributedTo", n.attributedTo.map (Reference.serialize Actor.serialize)),
    ("to", n.to_.field Iri.serialize), ("cc", n.cc.field Iri.serialize),
    ("content", n.content.map Json.str), ("mediaType", n.mediaType.map Json.str),
    ("published", n.published.map Json.str), ("url", n.url.map Iri.serialize)]

def Note.deserialize (j : Json) : Option Note := do
  let field ← slots ["@context", "type", "id", "attributedTo", "to", "cc", "content",
    "mediaType", "published", "url"] j
  let context ← optional Iri.deserialize (field "@context")
  let kind ← required NoteType.deserialize (field "type")
  let id ← required Iri.deserialize (field "id")
  let attributedTo ← optional (Reference.deserialize Actor.deserialize) (field "attributedTo")
  let to_ ← defaulted .new deserializeAddressing (field "to")
  let cc ← defaulted .new deserializeAddressing (field "cc")
  let content ← optional deString (field "content")
  let mediaType ← optional deString (field "mediaType")
  let published ← optional deString (field "published")
  let url ← optional Iri.deserialize (field "url")
  return ⟨context, kind, id, attributedTo, to_, cc, content, mediaType, published, url⟩

def Follow.serialize (f : Follow) : Json :=
  ofFields [("@context", f.context.map Iri.serialize), ("type", some f.kind.serialize),
    ("id", some f.id.serialize), ("actor", some (f.actor.serialize Actor.serialize)),
    ("object", some (f.object.serialize Actor.serialize))]

def Follow.deserialize (j : Json) : Option Follow := do
  let field ← slots ["@context", "type", "id", "actor", "object"] j
  let context ← optional Iri.deserialize (field "@context")
  let kind ← required FollowType.deserialize (field "type")
  let id ← required Iri.deserialize (field "id")
  let actor ← required (Reference.deserialize Actor.deserialize) (field "actor")
  let object ← required (Reference.deserialize Actor.deserialize) (field "object")
  return ⟨context, kind, id, actor, object⟩

def Accept.serialize (a : Accept) : Json :=
  ofFields [("@context", a.context.map Iri.serialize), ("type", some a.kind.serialize),
    ("id", some a.id.serialize), ("actor", some (a.actor.serialize Actor.serialize)),
    ("object", some (a.object.serialize Follow.serialize))]

def Accept.deserialize (j : Json) : Option Accept := do
  let field ← slots ["@context", "type", "id", "actor", "object"] j
  let context ← optional Iri.deserialize (field "@context")
  let kind ← required AcceptType.deserialize (field "type")
  let id ← required Iri.deserialize (field "id")
  let actor ← required (Reference.deserialize Actor.deserialize) (field "actor")
  let object ← required (Reference.deserialize Follow.deserialize) (field "object")
  return ⟨context, kind, id, actor, object⟩

def Undo.serialize (u : Undo) : Json :=
  ofFields [("@context", u.context.map Iri.serialize), ("type", some u.kind.serialize),
    ("id", some u.id.serialize), ("actor", some (u.actor.serialize Actor.serialize)),
    ("object", some (u.object.serialize Follow.serialize))]

def Undo.deserialize (j : Json) : Option Undo := do
  let field ← slots ["@context", "type", "id", "actor", "object"] j
  let context ← optional Iri.deserialize (field "@context")
  let kind ← required UndoType.deserialize (field "type")
  let id ← required Iri.deserialize (field "id")
  let actor ← required (Reference.deserialize Actor.deserialize) (field "actor")
  let object ← required (Reference.deserialize Follow.deserialize) (field "object")
  return ⟨context, kind, id, actor, object⟩

section
variable {α : Type}

def Create.serialize (ser : α → Json) (c : Create α) : Json :=
  ofFields [("@context", c.context.map Iri.serialize), ("type", some c.kind.serialize),
    ("id", some c.id.serialize), ("actor", some (c.actor.serialize Actor.serialize)),
    ("object", some (c.object.serialize ser)), ("to", c.to_.field Iri.serialize),
    ("cc", c.cc.field Iri.serialize)]

def Create.deserialize (de : Json → Option α) (j : Json) : Option (Create α) := do
  let field ← slots ["@context", "type", "id", "actor", "object", "to", "cc"] j
  let context ← optional Iri.deserialize (field "@context")
  let kind ← required CreateType.deserialize (field "type")
  let id ← required Iri.deserialize (field "id")
  let actor ← required (Reference.deserialize Actor.deserialize) (field "actor")
  let object ← required (Reference.deserialize de) (field "object")
  let to_ ← defaulted .new deserializeAddressing (field "to")
  let cc ← defaulted .new deserializeAddressing (field "cc")
  return ⟨context, kind, id, actor, object, to_, cc⟩

def OrderedCollection.serialize (ser : α → Json) (c : OrderedCollection α) : Json :=
  ofFields [("@context", c.context.map Iri.serialize), ("type", some c.kind.serialize),
    ("id", some c.id.serialize), ("totalItems", some (.int c.totalItems.toNat)),
    ("orderedItems", some (.arr (c.orderedItems.map ser)))]

def OrderedCollection.deserialize (de : Json → Option α) (j : Json) :
    Option (OrderedCollection α) := do
  let field ← slots ["@context", "type", "id", "totalItems", "orderedItems"] j
  let context ← optional Iri.deserialize (field "@context")
  let kind ← required OrderedCollectionType.deserialize (field "type")
  let id ← required Iri.deserialize (field "id")
  let totalItems ← required deU64 (field "totalItems")
  let orderedItems ← required (deVec de) (field "orderedItems")
  return ⟨context, kind, id, totalItems, orderedItems⟩

end

/-! ## what was written is read back -/

theorem Context.serialize_ne_null (c : Context) : c.serialize ≠ .null := by
  cases c <;> exact Json.noConfusion

theorem Context.deserialize_serialize (c : Context) : Context.deserialize c.serialize = some c := by
  cases c with
  | iri i => exact untagged_left (by simp [Context.serialize])
  | iris is =>
    show untagged _ _ (Json.arr _) = _
    rw [untagged_right rfl, deVec_written is (fun i _ => i.deserialize_serialize), List.map_id']
    rfl

theorem Endpoints.serialize_ne_null (e : Endpoints) : e.serialize ≠ .null := ofFields_ne_null _

theorem Endpoints.deserialize_serialize (e : Endpoints) :
    Endpoints.deserialize e.serialize = some e := by
  unfold Endpoints.deserialize Endpoints.serialize
  rw [slots_ofFields _ _ (by simp)]
  simp

theorem CryptographicKey.deserialize_serialize (k : CryptographicKey) :
    CryptographicKey.deserialize k.serialize = some k := by
  unfold CryptographicKey.deserialize CryptographicKey.serialize
  rw [slots_ofFields _ _ (by simp)]
  have hkind : CryptographicKeyType.deserialize k.kind.serialize = some k.kind := by
    cases k.kind; rfl
  simp [List.lookup_cons, hkind]

theorem optional_publicKey (o : Option (Reference CryptographicKey)) :
    optional (Reference.deserialize CryptographicKey.deserialize)
      (.ofKey (o.map (Reference.serialize CryptographicKey.serialize))) = some o := by
  rw [optional_written (fun r => r.serialize_ne_null (fun k => ofFields_ne_null _))
    (fun r => r.deserialize_serialize (fun k => rfl) CryptographicKey.deserialize_serialize)]
  cases o with
  | none => rfl
  | some r => rw [Option.map_some, Reference.map_id]

theorem Actor.deserialize_serialize (a : Actor) : Actor.deserialize a.serialize = some a := by
  unfold Actor.deserialize Actor.serialize
  rw [slots_ofFields _ _ (by simp)]
  have hcontext : optional Context.deserialize (.ofKey (a.context.map Context.serialize))
      = some a.context := by
    rw [optional_written Context.serialize_ne_null Context.deserialize_serialize, Option.map_id']
  have hendpoints : optional Endpoints.deserialize (.ofKey (a.endpoints.map Endpoints.serialize))
      = some a.endpoints := by
    rw [optional_written Endpoints.serialize_ne_null Endpoints.deserialize_serialize,
      Option.map_id']
  simp [List.lookup_cons, hcontext, hendpoints, optional_publicKey]

theorem deserialize_actor (r : Reference Actor) :
    Reference.deserialize Actor.deserialize (r.serialize Actor.serialize) = some r := by
  rw [r.deserialize_serialize (fun _ => rfl) Actor.deserialize_serialize, Reference.map_id]

theorem optional_actor (o : Option (Reference Actor)) :
    optional (Reference.deserialize Actor.deserialize)
      (.ofKey (o.map (Reference.serialize Actor.serialize))) = some o := by
  rw [optional_written (fun r => r.serialize_ne_null (fun _ => ofFields_ne_null _))
    deserialize_actor, Option.map_id']

/-- the note with its addresses as they are read back -/
def Note.norm (n : Note) : Note := { n with to_ := n.to_.norm, cc := n.cc.norm }

theorem Note.deserialize_serialize (n : Note) : Note.deserialize n.serialize = some n.norm := by
  unfold Note.deserialize Note.serialize
  rw [slots_ofFields _ _ (by simp)]
  have hkind : NoteType.deserialize n.kind.serialize = some n.kind := by
    cases n.kind; rfl
  simp [List.lookup_cons, hkind, optional_actor, defaulted_addressing, Note.norm]

theorem Follow.deserialize_serialize (f : Follow) : Follow.deserialize f.serialize = some f := by
  unfold Follow.deserialize Follow.serialize
  rw [slots_ofFields _ _ (by simp)]
  have hkind : FollowType.deserialize f.kind.serialize = some f.kind := by
    cases f.kind; rfl
  simp [List.lookup_cons, hkind, deserialize_actor]

theorem deserialize_follow (r : Reference Follow) :
    Reference.deserialize Follow.deserialize (r.serialize Follow.serialize) = some r := by
  rw [r.deserialize_serialize (fun _ => rfl) Follow.deserialize_serialize, Reference.map_id]

theorem Accept.deserialize_serialize (a : Accept) : Accept.deserialize a.serialize = some a := by
  unfold Accept.deserialize Accept.serialize
  rw [slots_ofFields _ _ (by simp)]
  have hkind : AcceptType.deserialize a.kind.serialize = some a.kind := by
    cases a.kind; rfl
  simp [List.lookup_cons, hkind, deserialize_actor, deserialize_follow]

theorem Undo.deserialize_serialize (u : Undo) : Undo.deserialize u.serialize = some u := by
  unfold Undo.deserialize Undo.serialize
  rw [slots_ofFields _ _ (by simp)]
  have hkind : UndoType.deserialize u.kind.serialize = some u.kind := by
    cases u.kind; rfl
  simp [List.lookup_cons, hkind, deserialize_actor, deserialize_follow]

section
variable {α : Type}

/-- the activity with its own addresses and those of its object as they are read back -/
def Create.norm (f : α → α) (c : Create α) : Create α :=
  { c with object := c.object.map f, to_ := c.to_.norm, cc := c.cc.norm }

theorem Create.deserialize_serialize {ser : α → Json} {de : Json → Option α} {f : α → α}
    (hiri : ∀ a, Iri.deserialize (ser a) = none) (hread : ∀ a, de (ser a) = some (f a))
    (c : Create α) : Create.deserialize de (c.serialize ser) = some (c.norm f) := by
  unfold Create.deserialize Create.serialize
  rw [slots_ofFields _ _ (by simp)]
  have hkind : CreateType.deserialize c.kind.serialize = some c.kind := by
    cases c.kind; rfl
  simp [List.lookup_cons, hkind, deserialize_actor, defaulted_addressing, Create.norm,
    Reference.deserialize_serialize hiri hread]

theorem OrderedCollection.deserialize_serialize {ser : α → Json} {de : Json → Option α}
    (hread : ∀ a, de (ser a) = some a) (c : OrderedCollection α) :
    OrderedCollection.deserialize de (c.serialize ser) = some c := by
  unfold OrderedCollection.deserialize OrderedCollection.serialize
  rw [slots_ofFields _ _ (by simp)]
  have hkind : OrderedCollectionType.deserialize c.kind.serialize = some c.kind := by
    cases c.kind; rfl
  have hitems : deVec de (.arr (c.orderedItems.map ser)) = some c.orderedItems := by
    rw [deVec_written _ (fun a _ => hread a), List.map_id']
  simp [List.lookup_cons, hkind, hitems, deU64_written]

end

/-! ## what was read is normalised -/

theorem Note.norm_of_deserialize {j : Json} {n : Note} (h : Note.deserialize j = some n) :
    n.norm = n := by
  unfold Note.deserialize at h
  simp only [Option.bind_eq_bind, Option.bind_eq_some_iff] at h
  obtain ⟨field, _, context, _, kind, _, id, _, attributedTo, _, to_, hto, cc, hcc, content, _,
    mediaType, _, published, _, url, _, h⟩ := h
  cases h
  simp only [Note.norm, norm_of_defaulted hto, norm_of_defaulted hcc]

theorem Reference.map_of_deserialize {α : Type} {de : Json → Option α} {f : α → α}
    (hf : ∀ j a, de j = some a → f a = a) {j : Json} {r : Reference α}
    (h : Reference.deserialize de j = some r) : r.map f = r := by
  rcases Reference.deserialize_eq_some.mp h with ⟨i, _, rfl⟩ | ⟨_, a, ha, rfl⟩
  · rfl
  · show Reference.object (f a) = _
    rw [hf j a ha]

theorem Create.norm_of_deserialize {α : Type} {de : Json → Option α} {f : α → α}
    (hf : ∀ j a, de j = some a → f a = a) {j : Json} {c : Create α}
    (h : Create.deserialize de j = some c) : c.norm f = c := by
  unfold Create.deserialize at h
  simp only [Option.bind_eq_bind, Option.bind_eq_some_iff] at h
  obtain ⟨field, _, context, _, kind, _, id, _, actor, _, object, hobject, to_, hto, cc, hcc,
    h⟩ := h
  cases h
  obtain ⟨j', _, hj'⟩ := required_eq_some.mp hobject
  simp only [Create.norm, norm_of_defaulted hto, norm_of_defaulted hcc,
    Reference.map_of_deserialize hf hj']

/-! ## what is written is carried by its text -/

theorem kind_written {n : Nat} :
    (∀ k : ActorType, k.serialize.Written n) ∧ (∀ k : NoteType, k.serialize.Written n) ∧
    (∀ k : FollowType, k.serialize.Written n) ∧ (∀ k : AcceptType, k.serialize.Written n) ∧
    (∀ k : UndoType, k.serialize.Written n) ∧ (∀ k : CreateType, k.serialize.Written n) ∧
    (∀ k : OrderedCollectionType, k.serialize.Written n) ∧
    (∀ k : CryptographicKeyType, k.serialize.Written n) := by
  refine ⟨?_, ?_, ?_, ?_, ?_, ?_, ?_, ?_⟩ <;> (intro k; cases k <;> exact .str _)

theorem mem_field_written {α : Type} {n : Nat} {ser : α → Json} (h : ∀ a, (ser a).Written n)
    (r : References α) : ∀ j ∈ r.field ser, j.Written (n + 1) := by
  intro j hj
  unfold References.field at hj
  split at hj
  · cases hj
  · cases hj
    exact r.serialize_written h

theorem mem_map_written {α : Type} {n : Nat} {ser : α → Json} (h : ∀ a, (ser a).Written n)
    (o : Option α) : ∀ j ∈ o.map ser, j.Written n := by
  intro j hj
  obtain ⟨a, _, rfl⟩ := Option.map_eq_some_iff.mp hj
  exact h a

theorem mem_some_written {n : Nat} {j : Json} (h : j.Written n) : ∀ k ∈ some j, k.Written n := by
  intro k hk
  cases hk
  exact h

theorem Context.serialize_written (c : Context) : c.serialize.Written 1 := by
  cases c with
  | iri i => exact i.serialize_written
  | iris is =>
    refine .arr fun j hj => ?_
    obtain ⟨i, _, rfl⟩ := List.mem_map.mp hj
    exact i.serialize_written

theorem Endpoints.serialize_written (e : Endpoints) : e.serialize.Written 1 := by
  refine written_ofFields _ (by simp) ?_
  simp only [List.forall_mem_singleton]
  exact mem_map_written Iri.serialize_written _

theorem CryptographicKey.serialize_written (k : CryptographicKey) : k.serialize.Written 1 := by
  refine written_ofFields _ (by simp) ?_
  simp only [List.forall_mem_cons, List.not_mem_nil, false_implies, implies_true, and_true]
  exact ⟨mem_some_written k.id.serialize_written,
    mem_some_written (kind_written.2.2.2.2.2.2.2 _),
    mem_some_written k.owner.serialize_written, mem_some_written (.str _)⟩

theorem Actor.serialize_written (a : Actor) : a.serialize.Written 2 := by
  refine written_ofFields _ (by simp) ?_
  simp only [List.forall_mem_cons, List.not_mem_nil, false_implies, implies_true, and_true]
  exact ⟨mem_map_written Context.serialize_written _, mem_some_written (kind_written.1 _),
    mem_some_written a.id.serialize_written, mem_some_written a.inbox.serialize_written,
    mem_some_written a.outbox.serialize_written, mem_map_written Iri.serialize_written _,
    mem_map_written .str _, mem_map_written .str _,
    mem_map_written Endpoints.serialize_written _,
    mem_map_written (Reference.serialize_written CryptographicKey.serialize_written) _⟩

theorem Follow.serialize_written (f : Follow) : f.serialize.Written 3 := by
  refine written_ofFields _ (by simp) ?_
  simp only [List.forall_mem_cons, List.not_mem_nil, false_implies, implies_true, and_true]
  exact ⟨mem_map_written Iri.serialize_written _, mem_some_written (kind_written.2.2.1 _),
    mem_some_written f.id.serialize_written,
    mem_some_written (f.actor.serialize_written Actor.serialize_written),
    mem_some_written (f.object.serialize_written Actor.serialize_written)⟩

/-- an actor stands beside a Follow in an Accept and in an Undo -/
theorem actor_beside_follow (r : Reference Actor) : (r.serialize Actor.serialize).Written 3 :=
  r.serialize_written fun a => a.serialize_written.mono (by decide)

theorem Accept.serialize_written (a : Accept) : a.serialize.Written 4 := by
  refine written_ofFields _ (by simp) ?_
  simp only [List.forall_mem_cons, List.not_mem_nil, false_implies, implies_true, and_true]
  exact ⟨mem_map_written Iri.serialize_written _, mem_some_written (kind_written.2.2.2.1 _),
    mem_some_written a.id.serialize_written, mem_some_written (actor_beside_follow _),
    mem_some_written (a.object.serialize_written Follow.serialize_written)⟩

theorem Undo.serialize_written (u : Undo) : u.serialize.Written 4 := by
  refine written_ofFields _ (by simp) ?_
  simp only [List.forall_mem_cons, List.not_mem_nil, false_implies, implies_true, and_true]
  exact ⟨mem_map_written Iri.serialize_written _, mem_some_written (kind_written.2.2.2.2.1 _),
    mem_some_written u.id.serialize_written, mem_some_written (actor_beside_follow _),
    mem_some_written (u.object.serialize_written Follow.serialize_written)⟩

theorem Note.serialize_written (n : Note) : n.serialize.Written 3 := by
  refine written_ofFields _ (by simp) ?_
  simp only [List.forall_mem_cons, List.not_mem_nil, false_implies, implies_true, and_true]
  exact ⟨mem_map_written Iri.serialize_written _, mem_some_written (kind_written.2.1 _),
    mem_some_written n.id.serialize_written,
    mem_map_written (Reference.serialize_written Actor.serialize_written) _,
    mem_field_written Iri.serialize_written _, mem_field_written Iri.serialize_written _,
    mem_map_written .str _, mem_map_written .str _, mem_map_written .str _,
    mem_map_written Iri.serialize_written _⟩

theorem Create.serialize_written {α : Type} {n : Nat} {ser : α → Json}
    (h : ∀ a, (ser a).Written (n + 3)) (c : Create α) : (c.serialize ser).Written (n + 4) := by
  refine written_ofFields _ (by simp) ?_
  simp only [List.forall_mem_cons, List.not_mem_nil, false_implies, implies_true, and_true]
  exact ⟨mem_map_written Iri.serialize_written _,
    mem_some_written (kind_written.2.2.2.2.2.1 _), mem_some_written c.id.serialize_written,
    mem_some_written ((actor_beside_follow _).mono (Nat.le_add_left ..)),
    mem_some_written (c.object.serialize_written h),
    mem_field_written Iri.serialize_written _, mem_field_written Iri.serialize_written _⟩

theorem OrderedCollection.serialize_written {α : Type} {n : Nat} {ser : α → Json}
    (h : ∀ a, (ser a).Written n) (c : OrderedCollection α) : (c.serialize ser).Written (n + 2) := by
  refine written_ofFields _ (by simp) ?_
  simp only [List.forall_mem_cons, List.not_mem_nil, false_implies, implies_true, and_true]
  have hitems : (Json.arr (c.orderedItems.map ser)).Written (n + 1) := by
    refine .arr fun j hj => ?_
    obtain ⟨a, _, rfl⟩ := List.mem_map.mp hj
    exact h a
  have htotal : (Json.int c.totalItems.toNat).Written (n + 1) := by
    have hlt : c.totalItems.toNat < 2 ^ 64 := c.totalItems.toNat_lt
    exact .int (by omega) (by omega)
  exact ⟨mem_map_written Iri.serialize_written _, mem_some_written (kind_written.2.2.2.2.2.2.1 _),
    mem_some_written c.id.serialize_written, mem_some_written htotal, mem_some_written hitems⟩

end Feder
