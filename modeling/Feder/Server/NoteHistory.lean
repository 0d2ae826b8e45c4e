import Feder.Server.Object
import Feder.Server.Responses
import Feder.Server.WholeServer

/-!
# Notes over time

The Notes of a server, while its other calls go on: an abstract map from ids to the Notes created
last, the table that represents it, and what is served of it.

* `notes_history`   the table is the history of the created Notes;
* `note_page`       what is served is that history at the moment of its load, and nothing else.
-/

namespace Feder
open Serde

section
variable [Crates]

/-! ## the abstract map -/

/-- the Note that was created last under each id -/
abbrev Notes := Iri → Option Note

def Notes.put (notes : Notes) (note : Note) : Notes := Function.update notes note.id (some note)

/-- the map after some Notes, the last one winning -/
def notesAfter (created : List Note) : Notes := created.foldl Notes.put fun _ => none

/-- the Note that a storage step stores -/
def storedNote : OpEvent → Option Note
  | ⟨.store (.storeNote note), .ok _⟩ => some note
  | _ => none

/-- the Notes of a trace in the order of their steps, each with the number of its call -/
def noteWrites (trace : List (Nat × OpEvent)) : List (Nat × Note) := System.writes storedNote trace

/-- every id is loaded as the map has it, normalised -/
def RepresentsNotes (store : SqliteStore) (notes : Notes) : Prop :=
  ∀ id, store.loadNote id = .ok ((notes id).map Note.norm)

theorem storeNote_represents {store : SqliteStore} {notes : Notes}
    (h : RepresentsNotes store notes) (note : Note) :
    RepresentsNotes (store.storeNote note) (notes.put note) := by
  intro id
  unfold Notes.put
  rw [Function.update_apply]
  by_cases hid : id = note.id
  · subst hid
    rw [if_pos rfl]
    exact runCalls_loadNote store note (List.forall_mem_nil _)
  · rw [if_neg hid, ← h id]
    exact @call_loadNote _ store (.storeNote note) id fun e => hid e.symm

theorem storedNote_eq_none {call : StoreCall} (h : ∀ note, call ≠ .storeNote note)
    (answer : Except StoreError call.Value) : storedNote (stored call answer) = none := by
  cases call with
  | storeNote note => exact absurd rfl (h note)
  | storeFollower | removeFollower | listFollowers | listFollowerDeliveryTargets
  | loadActorKeyPair | storePendingFollow | loadPendingFollow | confirmPendingFollow
  | loadNote => rfl

theorem executes_representsNotes {store store' : SqliteStore} {notes : Notes} {call : StoreCall}
    {answer : Except StoreError call.Value} (hx : Executes store call answer store')
    (h : RepresentsNotes store notes) :
    RepresentsNotes store' ((storedNote (stored call answer)).elim notes notes.put) := by
  by_cases hnote : ∃ note, call = .storeNote note
  · obtain ⟨note, rfl⟩ := hnote
    cases answer with
    | error e =>
      rw [executes_error hx]
      exact h
    | ok u =>
      have hstore : store' = store.storeNote note := (congrArg Prod.snd (executes_ok hx)).symm
      rw [hstore]
      exact storeNote_represents h note
  · have hother : ∀ note, call ≠ .storeNote note := not_exists.mp hnote
    rw [storedNote_eq_none hother]
    rcases hx with hx | ⟨_, rfl⟩
    · intro id
      have hstore : (store.call call).2 = store' := congrArg Prod.snd hx
      have hnot : ¬ call.StoresNote id := by
        cases call with
        | storeNote note => exact absurd rfl (hother note)
        | storeFollower | removeFollower | listFollowers | listFollowerDeliveryTargets
        | loadActorKeyPair | storePendingFollow | loadPendingFollow | confirmPendingFollow
        | loadNote => exact not_false
      rw [← hstore, call_loadNote hnot]
      exact h id
    · exact h

/-! ## what is served -/

/-- what is answered to a request for a Note, given the Note under its id -/
def answerNote (headers : HeaderMap) : Option Note → Except StatusCode Response
  | none => .error .NOT_FOUND
  | some note =>
    if ¬ isPublicNote note then .error .NOT_FOUND
    else if ¬ acceptsActivitypub headers then .ok notAcceptable
    else .ok (served note)

theorem note_program (server : FederServer) (identifier postId : String) (headers : HeaderMap) :
    (∃ status, Object.note server identifier postId headers = .ret (.error status)) ∨
    ∃ actor id, server.getActor identifier = .ok (some actor) ∧ noteId actor.id postId = .ok id ∧
      Object.note server identifier postId headers =
        tryStore (.loadNote id) fun note => .ret (answerNote headers note) := by
  unfold Object.note
  cases hactor : server.getActor identifier with
  | error e => exact Or.inl ⟨_, rfl⟩
  | ok actor =>
    cases actor with
    | none => exact Or.inl ⟨_, rfl⟩
    | some actor =>
      dsimp only
      cases hid : noteId actor.id postId with
      | error status => exact Or.inl ⟨_, rfl⟩
      | ok id =>
        refine Or.inr ⟨actor, id, rfl, hid,
          congrArg (tryStore (.loadNote id)) (funext fun note => ?_)⟩
        cases note with
        | none => rfl
        | some note =>
          dsimp only [answerNote]
          split
          · rfl
          · split <;> rfl

theorem note_atomic (server : FederServer) (identifier postId : String) (headers : HeaderMap) :
    (Object.note server identifier postId headers).Atomic := by
  rcases note_program server identifier postId headers with ⟨status, hret⟩ | ⟨_, id, _, _, hload⟩
  · rw [hret]
    trivial
  · rw [hload]
    intro answer
    cases answer <;> exact ⟨_, rfl⟩

theorem mem_of_notesAfter {created : List Note} {id : Iri} {note : Note}
    (h : notesAfter created id = some note) : note ∈ created ∧ note.id = id := by
  induction created using List.reverseRecOn with
  | nil => cases h
  | append_singleton created last ih =>
    have hput : notesAfter (created ++ [last]) = (notesAfter created).put last :=
      List.foldl_append
    rw [hput] at h
    unfold Notes.put at h
    rw [Function.update_apply] at h
    by_cases hid : id = last.id
    · rw [if_pos hid] at h
      cases h
      exact ⟨List.mem_append_right _ (List.mem_singleton.mpr rfl), hid.symm⟩
    · rw [if_neg hid] at h
      exact ⟨List.mem_append_left _ (ih h).1, (ih h).2⟩

/-! ## every interleaving -/

/-- the Note that a call creates -/
def ServerCall.Creates (c : ServerCall) (note : Note) : Prop :=
  ∃ server localActorId input localActor, c = .createNote server localActorId input ∧
    server.getActorById localActorId = .ok (some localActor) ∧
    note = (Feder.createNote localActor input).note

theorem creates_of_serverOp {c : ServerCall} {past : List OpEvent} {o : Op} {answer : o.Answer}
    (h : ServerOp c past o) {note : Note} (hnote : storedNote ⟨o, answer⟩ = some note) :
    c.Creates note ∧ past = [] := by
  obtain ⟨u, ho⟩ : ∃ u : Unit, (⟨o, answer⟩ : OpEvent) = stored (.storeNote note) (.ok u) := by
    cases o with
    | sendActivity => cases hnote
    | store call =>
      by_cases hcall : ∃ note, call = .storeNote note
      · obtain ⟨note', rfl⟩ := hcall
        cases answer with
        | error e => cases hnote
        | ok u =>
          cases hnote
          exact ⟨u, rfl⟩
      · have hnone := storedNote_eq_none (not_exists.mp hcall) answer
        exact absurd (hnone.symm.trans hnote) (by simp)
  cases ho
  cases c with
  | federation call => exact absurd trivial (callOp_offObjects h)
  | actor | webfinger => exact h.elim
  | followers =>
    obtain ⟨_, actor, _, hop⟩ := h
    cases hop
  | note =>
    obtain ⟨_, actor, id, _, _, hop⟩ := h
    cases hop
  | createNote server localActorId input =>
    obtain ⟨hpast, localActor, hactor, rfl⟩ := h
    exact ⟨⟨server, localActorId, input, localActor, rfl, hactor, rfl⟩, hpast⟩

theorem stored_of_createNote {server : FederServer} {localActorId : Iri} {input : CreateNoteInput}
    {past : List OpEvent} {outcome : CreateNoteOutcome}
    (h : (server.createNote localActorId input).Replays past (.ok outcome)) :
    ∃ localActor rest, server.getActorById localActorId = .ok (some localActor) ∧
      past = stored (.storeNote (Feder.createNote localActor input).note) (.ok ()) :: rest := by
  unfold FederServer.createNote at h
  cases hactor : server.getActorById localActorId with
  | error e =>
    rw [hactor] at h
    cases h.2
  | ok actor =>
    cases actor with
    | none =>
      rw [hactor] at h
      cases h.2
    | some localActor =>
      rw [hactor] at h
      obtain ⟨answer, rest, hpast, hrest⟩ := h
      cases answer with
      | error e => cases hrest.2
      | ok u => exact ⟨localActor, rest, rfl, hpast⟩

variable {admits : ServerCall → Prop} {store : SqliteStore} {s : ServerConfig}

theorem notes_represented (h : (wholeServer admits).Reachable { store with objects := ∅ } s) :
    RepresentsNotes s.state (notesAfter ((noteWrites s.trace).map Prod.snd)) := by
  have hempty : RepresentsNotes { store with objects := ∅ } fun _ => none := fun _ => rfl
  refine System.folded_of_reachable hempty (fun c store o answer store' notes hx hr => ?_) h
  cases o with
  | sendActivity localActor keyPair activity inbox =>
    have hsame : store' = store := hx
    rw [hsame]
    exact hr
  | store call => exact executes_representsNotes (wholeServer_exec.mp hx) hr

theorem created_of_reachable (h : (wholeServer admits).Reachable store s) {i : Nat} {note : Note}
    (hnote : (i, note) ∈ noteWrites s.trace) : ∃ c, System.callOf s i = some c ∧ c.Creates note := by
  obtain ⟨⟨o, answer⟩, he, hstored⟩ := System.mem_writes.mp hnote
  obtain ⟨c, past, hc, hop⟩ := System.sat_of_mem_trace serverCall_sat h he
  exact ⟨c, hc, (creates_of_serverOp hop hstored).1⟩

end

section
attribute [local instance] libraries

/-- alice's first Note, for everyone -/
def Peer.publicNote : CreateNoteInput :=
  { Peer.compactNote with to_ := ⟨[publicIri]⟩ }

def Peer.createdNote : Note := (createNote Peer.alice.actor Peer.publicNote).note

def Peer.createCall : ServerCall :=
  .createNote Peer.alice.server Peer.alice.actor.id Peer.publicNote

/-- a request for the Note -/
def Peer.noteCall : ServerCall := .note Peer.alice.server Peer.alice.host "1" Peer.accepts

/-- what is answered when the Note has been loaded -/
def Peer.noteNext : Except StoreError (Option Note) → Program ServerOutcome
  | .error _ => .ret (.response (.error .INTERNAL_SERVER_ERROR))
  | .ok note => .ret (.response (answerNote Peer.accepts note))

theorem Peer.noteCall_program :
    Peer.noteCall.program = .op (.store (.loadNote Peer.publicNote.noteId)) Peer.noteNext := by
  have hactor : Peer.alice.server.getActor Peer.alice.host = .ok (some Peer.alice.actor) := rfl
  have hid : noteId Peer.alice.actor.id "1" = .ok Peer.publicNote.noteId := by decide +kernel
  rcases note_program Peer.alice.server Peer.alice.host "1" Peer.accepts with
    ⟨status, hret⟩ | ⟨actor, id, hactor', hid', hload⟩
  · unfold Object.note at hret
    rw [hactor] at hret
    dsimp only at hret
    rw [hid] at hret
    cases hret
  · rw [hactor] at hactor'
    cases hactor'
    rw [hid] at hid'
    cases hid'
    show (Object.note _ _ _ _).map ServerOutcome.response = _
    rw [hload]
    refine congrArg _ (funext fun answer => ?_)
    cases answer <;> rfl

/-- alice creates her Note, and it is asked for -/
theorem Peer.exists_noteRun : ∃ s past result,
    (wholeServer fun _ => True).Reachable { Peer.alice.store with objects := ∅ } s ∧
    s.threads[1]? = some ⟨Peer.noteCall, past, .ret (.response result)⟩ ∧
    s.state = { Peer.alice.store with objects := ∅ }.storeNote Peer.createdNote := by
  obtain ⟨next, hprogram⟩ : ∃ next, Peer.createCall.program =
      .op (.store (.storeNote Peer.createdNote)) next := ⟨_, rfl⟩
  have hcreate : (wholeServer fun _ => True).Reachable { Peer.alice.store with objects := ∅ }
      ⟨{ Peer.alice.store with objects := ∅ }, [⟨Peer.createCall, [], .op _ next⟩], []⟩ :=
    System.reachable_start .refl Peer.createCall hprogram trivial
  have hcreated := hcreate.tail (@wholeServer_step _ _ _ 0 Peer.createCall [] _ next () _ rfl rfl)
  have hask := System.reachable_start hcreated Peer.noteCall Peer.noteCall_program trivial
  have hload := runCalls_loadNote { Peer.alice.store with objects := ∅ } Peer.createdNote
    (List.forall_mem_nil _)
  have hanswered := hask.tail (@wholeServer_step _ _ _ 1 Peer.noteCall []
    (.loadNote Peer.publicNote.noteId) Peer.noteNext (some Peer.createdNote.norm) _ rfl
    (congrArg (·, { Peer.alice.store with objects := ∅ }.storeNote Peer.createdNote) hload))
  exact ⟨_, _, _, hanswered, rfl, rfl⟩

end

section
variable [Crates] {admits : ServerCall → Prop} {store : SqliteStore} {s : ServerConfig}

/-- **The table of Notes is the history of the created Notes.**  In every interleaving of a server
from an empty table on, every stored Note is the one that its call creates, no call stores twice,
and a call that succeeds has stored its Note; every id is loaded as the last Note that was stored
under it, with its compact public addresses written out. -/
theorem notes_history (h : (wholeServer admits).Reachable { store with objects := ∅ } s) :
    let writes := noteWrites s.trace
    (∀ i note, (i, note) ∈ writes → ∃ c, System.callOf s i = some c ∧ c.Creates note) ∧
    (writes.map Prod.fst).Nodup ∧
    (∀ i t outcome, s.threads[i]? = some t → t.rest = .ret (.createNote (.ok outcome)) →
      ∃ note, t.call.Creates note ∧ (i, note) ∈ writes) ∧
    ∀ id, s.state.loadNote id = .ok ((notesAfter (writes.map Prod.snd) id).map Note.norm) := by
  intro writes
  refine ⟨fun i note hnote => created_of_reachable h hnote, ?_, ?_, notes_represented h⟩
  · refine System.once_of_reachable serverCall_sat (fun c past o answer hop hsome => ?_) h
    obtain ⟨note, hnote⟩ := Option.isSome_iff_exists.mp hsome
    rw [(creates_of_serverOp hop hnote).2]
    exact List.forall_mem_nil _
  · intro i t outcome ht hrest
    have hreplays := System.replays_of_reachable h (List.mem_of_getElem? ht) hrest
    change t.call.program.Replays t.past (.createNote (.ok outcome)) at hreplays
    cases hcall : t.call with
    | createNote server localActorId input =>
      rw [hcall] at hreplays
      obtain ⟨result, hresult, hreplays⟩ := hreplays.of_map
      cases hresult
      obtain ⟨localActor, rest, hactor, hpast⟩ := stored_of_createNote hreplays
      let note := (Feder.createNote localActor input).note
      refine ⟨note, ⟨server, localActorId, input, localActor, rfl, hactor, rfl⟩,
        System.mem_writes.mpr ⟨stored (.storeNote note) (.ok ()), ?_, rfl⟩⟩
      rw [← System.mem_eventsOf, (System.trace_past h).1 i t ht, hpast]
      exact List.mem_cons_self
    | federation | followers | note =>
      rw [hcall] at hreplays
      obtain ⟨result, hresult, _⟩ := hreplays.of_map
      cases hresult
    | actor | webfinger =>
      rw [hcall] at hreplays
      cases hreplays.2

end

section
attribute [local instance] libraries

/-- the Note of alice is loaded as the history has it -/
theorem notes_history_of_alice : ∃ s : ServerConfig,
    s.state = { Peer.alice.store with objects := ∅ }.storeNote Peer.createdNote ∧
    ∀ id, s.state.loadNote id =
      .ok ((notesAfter ((noteWrites s.trace).map Prod.snd) id).map Note.norm) := by
  obtain ⟨s, _, _, hs, _, hstate⟩ := Peer.exists_noteRun
  obtain ⟨_, _, _, hload⟩ := notes_history hs
  exact ⟨s, hstate, hload⟩

end

section
variable [Crates] {admits : ServerCall → Prop} {store : SqliteStore} {s : ServerConfig}

/-- **What is served of a Note is the history at the moment of its load.**  In every interleaving of
a server from an empty table on, a request for a Note has been refused at once, or its load has
failed, or it has met at one of the steps the Note that was created last under the id behind its
path: the answer is that of `answerNote` for it, so that a document is served only of a Note that is
public as it was read back, whose call created it under that id before. -/
theorem note_page (h : (wholeServer admits).Reachable { store with objects := ∅ } s) {i : Nat}
    {t : Thread ServerCall Op Op.Answer ServerOutcome} {server : FederServer}
    {identifier postId : String} {headers : HeaderMap} {result : Except StatusCode Response}
    (ht : s.threads[i]? = some t) (hcall : t.call = .note server identifier postId headers)
    (hrest : t.rest = .ret (.response result)) :
    (∃ status, Object.note server identifier postId headers = .ret (.error status) ∧
      result = .error status) ∨
    ∃ actor id, server.getActor identifier = .ok (some actor) ∧ noteId actor.id postId = .ok id ∧
      ((∃ e, stored (.loadNote id) (.error e) ∈ t.past ∧ result = .error .INTERNAL_SERVER_ERROR) ∨
        ∃ before note, note = notesAfter ((noteWrites before).map Prod.snd) id ∧
          before ++ [(i, stored (.loadNote id) (.ok (note.map Note.norm)))] <+: s.trace ∧
          result = answerNote headers (note.map Note.norm) ∧
          ∀ n, note = some n → n.id = id ∧ ∃ j c, (j, n) ∈ noteWrites before ∧
            System.callOf s j = some c ∧ c.Creates n) := by
  have hprogram : (wholeServer admits).program t.call =
      (Object.note server identifier postId headers).map .response := by
    rw [hcall]
    rfl
  have hatomic : ((wholeServer admits).program t.call).Atomic := by
    rw [hprogram]
    exact (note_atomic server identifier postId headers).map _
  rcases note_program server identifier postId headers with
    ⟨status, hret⟩ | ⟨actor, id, hactor, hid, hload⟩
  · rcases System.atomic_of_reachable h ht hatomic hrest with hend | ⟨o, k, _, _, _, hop, _⟩
    · rw [hprogram, hret] at hend
      cases hend
      exact Or.inl ⟨status, hret, rfl⟩
    · rw [hprogram, hret] at hop
      cases hop
  · refine Or.inr ⟨actor, id, hactor, hid, ?_⟩
    rcases System.atomic_of_reachable h ht hatomic hrest with
      hend | ⟨o, k, answer, s₁, store₂, hop, hanswer, _, hreach, _, hmoment, hx⟩
    · rw [hprogram, hload] at hend
      cases hend
    · rw [hprogram, hload] at hop
      cases hop
      cases answer with
      | error e =>
        cases hanswer
        refine Or.inl ⟨e, ?_, rfl⟩
        rw [← (System.trace_past h).1 i t ht]
        exact System.mem_eventsOf.mpr
          (hmoment.subset (List.mem_append_right _ (List.mem_singleton.mpr rfl)))
      | ok loaded =>
        have hanswered : answerNote headers loaded = result :=
          ServerOutcome.response.inj (Prog.ret.inj hanswer)
        have hcallOk := executes_ok (wholeServer_exec.mp hx)
        have hloaded : s₁.state.loadNote id = .ok loaded := congrArg Prod.fst hcallOk
        rw [notes_represented hreach id] at hloaded
        cases hloaded
        refine Or.inr ⟨s₁.trace, _, rfl, hmoment, hanswered.symm, fun n hn => ?_⟩
        obtain ⟨hmem, hnid⟩ := mem_of_notesAfter hn
        obtain ⟨⟨j, n'⟩, hj, rfl⟩ := List.mem_map.mp hmem
        obtain ⟨c, hc, hcreates⟩ := created_of_reachable h
          (System.writes_subset ((List.prefix_append _ _).trans hmoment) hj)
        exact ⟨hnid, j, c, hj, hc, hcreates⟩

end

section
attribute [local instance] libraries

/-- the answer to the request for alice's Note is what the history says -/
theorem note_page_of_alice : ∃ (s : ServerConfig) (t : Thread ServerCall Op Op.Answer ServerOutcome)
    (result : Except StatusCode Response), t.call = Peer.noteCall ∧
    ((∃ e, stored (.loadNote Peer.publicNote.noteId) (.error e) ∈ t.past ∧
        result = .error .INTERNAL_SERVER_ERROR) ∨
      ∃ before note, note = notesAfter ((noteWrites before).map Prod.snd) Peer.publicNote.noteId ∧
        before ++ [(1, stored (.loadNote Peer.publicNote.noteId) (.ok (note.map Note.norm)))] <+:
          s.trace ∧
        result = answerNote Peer.accepts (note.map Note.norm)) := by
  obtain ⟨s, past, result, hs, hthread, _⟩ := Peer.exists_noteRun
  refine ⟨s, ⟨Peer.noteCall, past, .ret (.response result)⟩, result, rfl, ?_⟩
  have hid : noteId Peer.alice.actor.id "1" = .ok Peer.publicNote.noteId := by decide +kernel
  rcases note_page hs hthread rfl rfl with
    ⟨status, hret, _⟩ | ⟨actor, id, hactor, hid', hfailed | ⟨before, note, hnote, hmoment, hresult, _⟩⟩
  · have hprogram := congrArg (Prog.map ServerOutcome.response) hret
    change Peer.noteCall.program = _ at hprogram
    rw [Peer.noteCall_program] at hprogram
    cases hprogram
  · cases hactor
    rw [hid] at hid'
    cases hid'
    exact Or.inl hfailed
  · cases hactor
    rw [hid] at hid'
    cases hid'
    exact Or.inr ⟨before, note, hnote, hmoment, hresult⟩

end

end Feder
