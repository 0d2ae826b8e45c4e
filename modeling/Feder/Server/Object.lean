import Feder.Core.Note
import Feder.Server.Libraries
import Feder.Server.Negotiation

/-!
# Stored Notes

`object.rs`: the handler that serves a stored Note, and what becomes of a created Note in the store.
A Note is written as it is and read back normalised: the compact `as:Public` in its addresses
becomes the public collection.

* `runCalls_loadNote`      a stored Note is loaded until another one is stored under its id;
* `isPublicNote_norm`      the visibility of a Note that was read back;
* `createdNote_kept_iff`   when a created Note and its visibility are kept.
-/

namespace Feder
open Serde

section
variable [Crates]

/-! ## the handler -/

structure Response where
  status : StatusCode
  headers : List (String × String)
  body : Option Json

def noteId (actorId : Iri) (postId : String) : Except StatusCode Iri :=
  match (HttpSyntax.pushSegments actorId.str ["posts", postId]).bind Iri.parse with
  | some noteId => .ok noteId
  | none => .error .INTERNAL_SERVER_ERROR

def notAcceptable : Response := ⟨.NOT_ACCEPTABLE, [("vary", "Accept")], none⟩

/-- the response that serves a Note -/
def served (note : Note) : Response :=
  ⟨.OK, [("content-type", "application/activity+json"), ("vary", "Accept")], some note.serialize⟩

/-- `note` of `object.rs` -/
def Object.note (server : FederServer) (identifier postId : String) (headers : HeaderMap) :
    Program (Except StatusCode Response) :=
  match server.getActor identifier with
  | .error _ => .ret (.error .INTERNAL_SERVER_ERROR)
  | .ok none => .ret (.error .NOT_FOUND)
  | .ok (some actor) =>
    match noteId actor.id postId with
    | .error status => .ret (.error status)
    | .ok noteId =>
      tryStore (.loadNote noteId) fun
        | none => .ret (.error .NOT_FOUND)
        | some note =>
          if ¬ isPublicNote note then .ret (.error .NOT_FOUND)
          else if ¬ acceptsActivitypub headers then .ret (.ok notAcceptable)
          else .ret (.ok (served note))

theorem run_note {deliver : Attempt → Except SendError Unit} {site : Site} {server : FederServer}
    {identifier postId : String} {headers : HeaderMap} {actor : Actor} {id : Iri} {note : Note}
    (hactor : server.getActor identifier = .ok (some actor))
    (hid : noteId actor.id postId = .ok id) (hload : site.store.loadNote id = .ok (some note))
    (haccepts : acceptsActivitypub headers = true) :
    (Prog.run (handle deliver) site (Object.note server identifier postId headers)).1 =
      if isPublicNote note then .ok (served note) else .error .NOT_FOUND := by
  have hcall : (handle deliver site (.store (.loadNote id))).1 = .ok (some note) := hload
  unfold Object.note
  rw [hactor]
  dsimp only
  rw [hid]
  dsimp only
  unfold tryStore
  rw [Prog.run_op, hcall]
  dsimp only
  by_cases hpublic : isPublicNote note = true
  · rw [if_neg (not_not.mpr hpublic), if_neg (not_not.mpr haccepts), if_pos hpublic]
    rfl
  · rw [if_pos hpublic, if_neg hpublic]
    rfl

/-! ## the store of a Note -/

/-- the store after some storage calls -/
def SqliteStore.runCalls (store : SqliteStore) (calls : List StoreCall) : SqliteStore :=
  calls.foldl (fun store call => (store.call call).2) store

/-- the call stores a Note under an id -/
def StoreCall.StoresNote (id : Iri) : StoreCall → Prop
  | .storeNote note => note.id = id
  | _ => False

theorem loadNote_congr {store store' : SqliteStore} {id : Iri}
    (h : store.objects.lookup id.str = store'.objects.lookup id.str) :
    store.loadNote id = store'.loadNote id := by
  unfold SqliteStore.loadNote
  rw [h]

theorem call_loadNote {store : SqliteStore} {call : StoreCall} {id : Iri}
    (h : ¬ call.StoresNote id) : (store.call call).2.loadNote id = store.loadNote id := by
  cases call with
  | storeNote note =>
    apply loadNote_congr
    show (store.storeNote note).objects.lookup id.str = _
    rw [SqliteStore.lookup_storeNote, if_neg]
    intro e
    exact h (Iri.str_inj.mp e.symm)
  | confirmPendingFollow expected =>
    show (store.confirmPendingFollow expected).2.loadNote id = _
    by_cases htrue : (store.confirmPendingFollow expected).1 = .ok true
    · rw [SqliteStore.confirmPendingFollow_of_true htrue]
      rfl
    · rw [SqliteStore.confirmPendingFollow_of_ne htrue]
  | storeFollower | removeFollower | listFollowers | listFollowerDeliveryTargets
  | loadActorKeyPair | storePendingFollow | loadPendingFollow | loadNote => rfl

/-- **A stored Note is loaded, normalised, until another one is stored under its id.** -/
theorem runCalls_loadNote (store : SqliteStore) (note : Note) {calls : List StoreCall}
    (h : ∀ call ∈ calls, ¬ call.StoresNote note.id) :
    ((store.storeNote note).runCalls calls).loadNote note.id = .ok (some note.norm) := by
  induction calls using List.reverseRecOn with
  | nil =>
    have hrow : (store.storeNote note).objects.lookup note.id.str =
        some (SqliteStore.noteRow note) := by
      rw [SqliteStore.lookup_storeNote, if_pos rfl]
    have hread : ofText Note.deserialize (SqliteStore.noteRow note).objectJson =
        some note.norm := by
      show ofText Note.deserialize (JsonText.toString note.serialize) = _
      rw [ofText_toString _ note.serialize_written (by decide), Note.deserialize_serialize]
    show (store.storeNote note).loadNote note.id = _
    unfold SqliteStore.loadNote
    rw [hrow]
    dsimp only
    rw [if_neg (by rw [not_not]; rfl), hread]
  | append_singleton calls call ih =>
    have hlast := h call (List.mem_append_right _ (List.mem_singleton.mpr rfl))
    show ((store.storeNote note).runCalls (calls ++ [call])).loadNote note.id = _
    unfold SqliteStore.runCalls at ih ⊢
    rw [List.foldl_append, List.foldl_cons, List.foldl_nil, call_loadNote hlast]
    exact ih fun call hcall => h call (List.mem_append_left _ hcall)

/-! ## normalised addresses -/

/-- the address is the compact name of the public collection -/
def CompactPublic (address : Iri) : Prop := address.str = "as:Public"

theorem Iri.norm_eq_self_iff {address : Iri} : address.norm = address ↔ ¬ CompactPublic address := by
  unfold Iri.norm CompactPublic
  constructor
  · intro h hcompact
    rw [if_pos hcompact] at h
    rw [← h] at hcompact
    change publicCollection = "as:Public" at hcompact
    exact absurd hcompact (by decide)
  · intro h
    exact if_neg h

theorem Note.norm_eq_self_iff {note : Note} :
    note.norm = note ↔ ∀ address ∈ note.addresses, ¬ CompactPublic address := by
  have hmap : ∀ l : List Iri, l.map Iri.norm = l ↔ ∀ address ∈ l, ¬ CompactPublic address := by
    intro l
    have hinj : l.map Iri.norm = l.map (fun address => address) ↔
        ∀ address ∈ l, address.norm = address := List.map_inj_left
    rw [List.map_id'] at hinj
    simp only [hinj, Iri.norm_eq_self_iff]
  unfold Note.addresses
  simp only [List.forall_mem_append, ← hmap]
  constructor
  · intro h
    exact ⟨congrArg (fun n => n.to_.values) h, congrArg (fun n => n.cc.values) h⟩
  · rintro ⟨hto, hcc⟩
    unfold Note.norm References.norm
    rw [hto, hcc]

/-- **The visibility of a Note that was read back**: a compact address has made it public. -/
theorem isPublicNote_norm (note : Note) :
    isPublicNote note.norm = true ↔
      isPublicNote note = true ∨ ∃ address ∈ note.addresses, CompactPublic address := by
  have haddresses : note.norm.addresses = note.addresses.map Iri.norm := by
    unfold Note.addresses
    rw [List.map_append]
    rfl
  unfold isPublicNote
  rw [haddresses, List.any_map, List.any_eq_true, List.any_eq_true, ← exists_or]
  refine exists_congr fun address => ?_
  rw [← and_or_left]
  refine and_congr_right fun _ => ?_
  show (address.norm.str == publicCollection) = true ↔ (address.str == publicCollection) = true ∨ _
  unfold Iri.norm CompactPublic
  by_cases hcompact : address.str = "as:Public"
  · rw [if_pos hcompact]
    simp [hcompact]
  · rw [if_neg hcompact]
    simp [hcompact]

/-! ## created Notes -/

/-- A Note is stored faithfully: until another one is stored under its id, it is loaded as it was
stored, and served if and only if it was public, and the other ids are not affected. -/
structure NoteKept (store : SqliteStore) (note : Note) : Prop where
  loaded : ∀ calls, (∀ call ∈ calls, ¬ call.StoresNote note.id) →
    ((store.storeNote note).runCalls calls).loadNote note.id = .ok (some note)
  others : ∀ noteId ≠ note.id, (store.storeNote note).loadNote noteId = store.loadNote noteId
  visibility : ∀ loaded, (store.storeNote note).loadNote note.id = .ok (some loaded) →
    isPublicNote loaded = isPublicNote note
  handler : ∀ calls, (∀ call ∈ calls, ¬ call.StoresNote note.id) →
    ∀ deliver sent server identifier actor postId headers,
    server.getActor identifier = .ok (some actor) → noteId actor.id postId = .ok note.id →
    acceptsActivitypub headers = true →
    (Prog.run (handle deliver) ⟨(store.storeNote note).runCalls calls, sent⟩
      (Object.note server identifier postId headers)).1 =
      if isPublicNote note then .ok (served note) else .error .NOT_FOUND

/-- a Note that is its own normal form is stored faithfully, and no other one -/
theorem noteKept_iff_norm (store : SqliteStore) (note : Note) :
    NoteKept store note ↔ note.norm = note := by
  constructor
  · intro h
    have hloaded := h.loaded [] (List.forall_mem_nil _)
    rw [runCalls_loadNote store note (List.forall_mem_nil _)] at hloaded
    exact Option.some.inj (Except.ok.inj hloaded)
  · intro hnorm
    have hload : ∀ calls, (∀ call ∈ calls, ¬ call.StoresNote note.id) →
        ((store.storeNote note).runCalls calls).loadNote note.id = .ok (some note) := by
      intro calls hcalls
      rw [runCalls_loadNote store note hcalls, hnorm]
    refine ⟨hload, fun id hid => ?_, fun loaded hloaded => ?_, ?_⟩
    · exact @call_loadNote _ store (.storeNote note) _ fun e => hid e.symm
    · rw [show store.storeNote note = (store.storeNote note).runCalls [] from rfl,
        hload [] (List.forall_mem_nil _)] at hloaded
      rw [Option.some.inj (Except.ok.inj hloaded)]
    · intro calls hcalls deliver sent server identifier actor postId headers hactor hid haccepts
      exact run_note hactor hid (hload calls hcalls) haccepts

/-- **When a created Note and its visibility are kept**: exactly if no address in its `to` and `cc`
is the compact `as:Public`. -/
theorem createdNote_kept_iff (store : SqliteStore) (localActor : Actor) (input : CreateNoteInput) :
    NoteKept store (createNote localActor input).note ↔
      ∀ address ∈ input.to_.values ++ input.cc.values, ¬ CompactPublic address := by
  rw [noteKept_iff_norm]
  exact Note.norm_eq_self_iff

end

section
attribute [local instance] libraries

/-- a Note for the compact address only -/
def Peer.compactNote : CreateNoteInput where
  noteId := ⟨"http://a.x/alice/posts/1", by decide⟩
  createId := ⟨"http://a.x/alice/creates/1", by decide⟩
  to_ := ⟨[⟨"as:Public", by decide⟩]⟩
  cc := ⟨[]⟩
  content := "Hello"
  mediaType := none
  published := none
  url := none

/-- **A Note for the compact address is not public when it is created, and is when it is loaded.** -/
theorem compactNote_not_kept : ¬ NoteKept .empty (createNote Peer.alice.actor Peer.compactNote).note ∧
    isPublicNote (createNote Peer.alice.actor Peer.compactNote).note = false ∧
    ∃ loaded, (SqliteStore.empty.storeNote
      (createNote Peer.alice.actor Peer.compactNote).note).loadNote Peer.compactNote.noteId =
        .ok (some loaded) ∧ isPublicNote loaded = true := by
  generalize hnote : (createNote Peer.alice.actor Peer.compactNote).note = note
  have hcompact : ∃ address ∈ note.addresses, CompactPublic address := by
    rw [← hnote]
    exact ⟨_, List.mem_singleton.mpr rfl, rfl⟩
  refine ⟨fun hkept => ?_, ?_, note.norm, ?_, ?_⟩
  · obtain ⟨address, hmem, haddress⟩ := hcompact
    exact Note.norm_eq_self_iff.mp ((noteKept_iff_norm _ _).mp hkept) address hmem haddress
  · rw [← hnote]
    decide
  · have hid : note.id = Peer.compactNote.noteId := by
      rw [← hnote]
      rfl
    rw [← hid]
    exact runCalls_loadNote .empty note (List.forall_mem_nil _)
  · exact (isPublicNote_norm note).mpr (Or.inr hcompact)

end

end Feder
