import Feder.Server.Libraries

/-!
# Key provisioning

`load_or_generate_actor_key_pair` and `insert_actor_key_pair` of `storage/sqlite.rs` as programs
over the `keys` table.  Every statement is an operation of its own: the lock of a handle only
rules interleavings out, and two handles on one database do not share it.

* `KeyExec.keeps`          no statement rewrites a row;
* `provisioned_row`        what a call returns is the row of its actor;
* `provisioning_agrees`    all calls agree on one identity in every interleaving.
-/

namespace Feder

section
variable [Crates]

/-! ## the statements -/

def keyRow (keyPair : ActorKeyPair) : KeyRow := ⟨keyPair.privateKeyPem, keyPair.publicKeyPem⟩

/-- the new row of an actor, unless there is one -/
def SqliteStore.insertKeyRow (store : SqliteStore) (actorId : Iri) (keyPair : ActorKeyPair) :
    Option SqliteStore :=
  match store.keys.lookup actorId.str with
  | none => some { store with keys := store.keys.insert actorId.str (keyRow keyPair) }
  | some _ => none

inductive KeyOp where
  /-- the lock of the handle -/
  | connection
  | loadActorKeyPair (actorId : Iri)
  | generateActorKeyPair
  /-- the insert of a generated pair, with `ON CONFLICT(actor_id) DO NOTHING` -/
  | insertOrIgnore (actorId : Iri) (keyPair : ActorKeyPair)
  | insert (actorId : Iri) (keyPair : ActorKeyPair)

/-- what an operation returns when it succeeds; an insert that may be ignored counts its rows -/
@[reducible] def KeyOp.Value : KeyOp → Type
  | .connection | .insert .. => Unit
  | .loadActorKeyPair _ => Option ActorKeyPair
  | .generateActorKeyPair => ActorKeyPair
  | .insertOrIgnore .. => Nat

@[reducible] def KeyOp.Answer (op : KeyOp) : Type := Except StoreError op.Value

abbrev KeyEvent := Event KeyOp KeyOp.Answer

/-- What an operation can answer and do.  A generated pair is any pair. -/
inductive KeyExec : SqliteStore → (op : KeyOp) → op.Answer → SqliteStore → Prop where
  | locked (store : SqliteStore) : KeyExec store .connection (.ok ()) store
  | poisoned (store : SqliteStore) : KeyExec store .connection (.error .LockPoisoned) store
  | loaded {store : SqliteStore} {actorId : Iri} {answer : Except StoreError (Option ActorKeyPair)}
    (h : store.loadActorKeyPair actorId = answer) :
    KeyExec store (.loadActorKeyPair actorId) answer store
  | generated (store : SqliteStore) (keyPair : ActorKeyPair) :
    KeyExec store .generateActorKeyPair (.ok keyPair) store
  | notGenerated (store : SqliteStore) (e : KeyError) :
    KeyExec store .generateActorKeyPair (.error (.ActorKey e)) store
  | inserted {store store' : SqliteStore} {actorId : Iri} {keyPair : ActorKeyPair}
    (h : store.insertKeyRow actorId keyPair = some store') :
    KeyExec store (.insert actorId keyPair) (.ok ()) store'
  | conflict {store : SqliteStore} {actorId : Iri} {keyPair : ActorKeyPair}
    (h : store.insertKeyRow actorId keyPair = none) :
    KeyExec store (.insert actorId keyPair) (.error .Sqlite) store
  | insertedNew {store store' : SqliteStore} {actorId : Iri} {keyPair : ActorKeyPair}
    (h : store.insertKeyRow actorId keyPair = some store') :
    KeyExec store (.insertOrIgnore actorId keyPair) (.ok 1) store'
  | ignored {store : SqliteStore} {actorId : Iri} {keyPair : ActorKeyPair}
    (h : store.insertKeyRow actorId keyPair = none) :
    KeyExec store (.insertOrIgnore actorId keyPair) (.ok 0) store
  /-- a statement that fails for a reason of its own -/
  | failed (store : SqliteStore) (op : KeyOp) : KeyExec store op (.error .Sqlite) store

/-! ## the calls -/

/-- the operator `?`: an error ends the call -/
def attempt {α : Type} (op : KeyOp)
    (next : op.Value → Prog KeyOp KeyOp.Answer (Except StoreError α)) :
    Prog KeyOp KeyOp.Answer (Except StoreError α) :=
  .op op fun
    | .error e => .ret (.error e)
    | .ok value => next value

/-- `load_or_insert_actor_key_pair` with the generator that its caller hands it -/
def loadOrGenerateActorKeyPair (actorId : Iri) :
    Prog KeyOp KeyOp.Answer (Except StoreError ActorKeyPair) :=
  attempt .connection fun _ =>
  attempt (.loadActorKeyPair actorId) fun
    | some keyPair => .ret (.ok keyPair)
    | none =>
      -- the lock is released while the pair is generated
      attempt .generateActorKeyPair fun generated =>
      attempt .connection fun _ =>
      attempt (.insertOrIgnore actorId generated) fun inserted =>
        if inserted = 1 then .ret (.ok generated)
        else
          attempt (.loadActorKeyPair actorId) fun
            | some keyPair => .ret (.ok keyPair)
            | none => .ret (.error .ActorKeyProvisioning)

def insertActorKeyPair (actorId : Iri) (keyPair : ActorKeyPair) :
    Prog KeyOp KeyOp.Answer (Except StoreError Unit) :=
  attempt .connection fun _ =>
  attempt (.insert actorId keyPair) fun _ => .ret (.ok ())

inductive KeyCall where
  | loadOrGenerateActorKeyPair (actorId : Iri)
  | insertActorKeyPair (actorId : Iri) (keyPair : ActorKeyPair)

inductive KeyOutcome where
  | provisioned (result : Except StoreError ActorKeyPair)
  | inserted (result : Except StoreError Unit)

def KeyCall.actorId : KeyCall → Iri
  | .loadOrGenerateActorKeyPair actorId | .insertActorKeyPair actorId _ => actorId

def KeyCall.program : KeyCall → Prog KeyOp KeyOp.Answer KeyOutcome
  | .loadOrGenerateActorKeyPair actorId =>
    (Feder.loadOrGenerateActorKeyPair actorId).map .provisioned
  | .insertActorKeyPair actorId keyPair =>
    (Feder.insertActorKeyPair actorId keyPair).map .inserted

/-- any number of calls, through any handles, interleaved over one database -/
def provisioners : System SqliteStore KeyCall KeyOp KeyOp.Answer KeyOutcome where
  program := KeyCall.program
  admits _ _ := True
  exec _ := KeyExec

/-! ## what a statement does -/

omit [Crates] in
theorem keyRow_inj {keyPair keyPair' : ActorKeyPair} (h : keyRow keyPair = keyRow keyPair') :
    keyPair = keyPair' :=
  ActorKeyPair.ext (congrArg KeyRow.privateKeyPem h) (congrArg KeyRow.publicKeyPem h)

theorem keyRow_of_fromPem {privateKeyPem publicKeyPem : String} {keyPair : ActorKeyPair}
    (h : ActorKeyPair.fromPem privateKeyPem publicKeyPem = .ok keyPair) :
    keyRow keyPair = ⟨privateKeyPem, publicKeyPem⟩ := by
  unfold ActorKeyPair.fromPem at h
  split at h
  · cases h
  · split at h
    · cases h
    · split at h
      · cases h
      · cases h
        rfl

theorem row_of_load {store : SqliteStore} {actorId : Iri} {keyPair : ActorKeyPair}
    (h : store.loadActorKeyPair actorId = .ok (some keyPair)) :
    store.keys.lookup actorId.str = some (keyRow keyPair) := by
  unfold SqliteStore.loadActorKeyPair at h
  split at h
  · cases h
  · rename_i row hrow
    split at h
    · rename_i hpem
      cases h
      rw [hrow, keyRow_of_fromPem hpem]
    · cases h

theorem no_row_of_load {store : SqliteStore} {actorId : Iri}
    (h : store.loadActorKeyPair actorId = .ok none) : store.keys.lookup actorId.str = none := by
  unfold SqliteStore.loadActorKeyPair at h
  split at h
  · assumption
  · split at h <;> cases h

theorem insertKeyRow_some {store store' : SqliteStore} {actorId : Iri} {keyPair : ActorKeyPair}
    (h : store.insertKeyRow actorId keyPair = some store') :
    store.keys.lookup actorId.str = none ∧
      ∀ k, store'.keys.lookup k =
        if k = actorId.str then some (keyRow keyPair) else store.keys.lookup k := by
  unfold SqliteStore.insertKeyRow at h
  split at h
  · rename_i hrow
    cases h
    exact ⟨hrow, fun k => Table.lookup_insert' _ _ _ _⟩
  · cases h

theorem insertKeyRow_none {store : SqliteStore} {actorId : Iri} {keyPair : ActorKeyPair}
    (h : store.insertKeyRow actorId keyPair = none) :
    ∃ row, store.keys.lookup actorId.str = some row := by
  unfold SqliteStore.insertKeyRow at h
  split at h
  · cases h
  · exact ⟨_, ‹_›⟩

/-- **No statement rewrites a row.** -/
theorem KeyExec.keeps {store store' : SqliteStore} {op : KeyOp} {answer : op.Answer}
    (hx : KeyExec store op answer store') {k : String} {row : KeyRow}
    (h : store.keys.lookup k = some row) : store'.keys.lookup k = some row := by
  have hinsert : ∀ {actorId keyPair}, store.insertKeyRow actorId keyPair = some store' →
      store'.keys.lookup k = some row := by
    intro actorId keyPair hi
    obtain ⟨hnone, hlookup⟩ := insertKeyRow_some hi
    rw [hlookup, if_neg, h]
    rintro rfl
    rw [hnone] at h
    cases h
  cases hx with
  | inserted hi | insertedNew hi => exact hinsert hi
  | locked | poisoned | loaded | generated | notGenerated | conflict | ignored | failed => exact h

theorem KeyExec.row_of_load {store store' : SqliteStore} {actorId : Iri} {keyPair : ActorKeyPair}
    (hx : KeyExec store (.loadActorKeyPair actorId) (.ok (some keyPair)) store') :
    store'.keys.lookup actorId.str = some (keyRow keyPair) := by
  cases hx with
  | loaded hload => exact Feder.row_of_load hload

theorem KeyExec.no_row_of_load {store store' : SqliteStore} {actorId : Iri}
    (hx : KeyExec store (.loadActorKeyPair actorId) (.ok none) store') :
    store.keys.lookup actorId.str = none := by
  cases hx with
  | loaded hload => exact Feder.no_row_of_load hload

theorem KeyExec.row_of_insertedNew {store store' : SqliteStore} {actorId : Iri}
    {keyPair : ActorKeyPair} (hx : KeyExec store (.insertOrIgnore actorId keyPair) (.ok 1) store') :
    store'.keys.lookup actorId.str = some (keyRow keyPair) := by
  cases hx with
  | insertedNew hnew =>
    obtain ⟨_, hlookup⟩ := insertKeyRow_some hnew
    rw [hlookup, if_pos rfl]

theorem KeyExec.exists_row {store store' : SqliteStore} {actorId : Iri} {keyPair : ActorKeyPair}
    {n : Nat} (hx : KeyExec store (.insertOrIgnore actorId keyPair) (.ok n) store') :
    ∃ row, store'.keys.lookup actorId.str = some row := by
  cases hx with
  | insertedNew hnew =>
    obtain ⟨_, hlookup⟩ := insertKeyRow_some hnew
    exact ⟨keyRow keyPair, by rw [hlookup, if_pos rfl]⟩
  | ignored hconflict => exact insertKeyRow_none hconflict

theorem KeyExec.creates {store store' : SqliteStore} {actorId : Iri} {keyPair : ActorKeyPair}
    (hx : KeyExec store (.insert actorId keyPair) (.ok ()) store') :
    store.keys.lookup actorId.str = none ∧
      store'.keys.lookup actorId.str = some (keyRow keyPair) := by
  cases hx with
  | inserted hnew =>
    obtain ⟨hnone, hlookup⟩ := insertKeyRow_some hnew
    exact ⟨hnone, by rw [hlookup, if_pos rfl]⟩

theorem KeyExec.ne_provisioning {store store' : SqliteStore} {op : KeyOp} {answer : op.Answer}
    (hx : KeyExec store op answer store') : answer ≠ .error .ActorKeyProvisioning := by
  cases hx with
  | loaded hload =>
    rintro rfl
    unfold SqliteStore.loadActorKeyPair at hload
    split at hload
    · cases hload
    · split at hload <;> cases hload
  | locked | poisoned | generated | notGenerated | inserted | conflict | insertedNew | ignored
  | failed => nofun

theorem row_kept {s s' : Config SqliteStore KeyCall KeyOp KeyOp.Answer KeyOutcome}
    (h : Relation.ReflTransGen provisioners.Step s s') {k : String} {row : KeyRow}
    (hrow : s.state.keys.lookup k = some row) : s'.state.keys.lookup k = some row := by
  induction h with
  | refl => exact hrow
  | tail _ hstep ih =>
    cases hstep with
    | start => exact ih
    | exec i t o k' ans state' _ _ hx => exact KeyExec.keeps hx ih

/-! ## what a call has seen when it returns -/

/-- no answer and no effect of the operation changes a store -/
def KeyOp.LeavesStore (op : KeyOp) : Prop :=
  ∀ store answer store', KeyExec store op answer store' → store' = store

/-- the events behind an outcome -/
def Evidence : KeyCall → List KeyEvent → KeyOutcome → Prop
  | .loadOrGenerateActorKeyPair actorId, past, .provisioned (.ok keyPair) =>
    ⟨.loadActorKeyPair actorId, .ok (some keyPair)⟩ ∈ past ∨
      ⟨.insertOrIgnore actorId keyPair, .ok 1⟩ ∈ past
  | .loadOrGenerateActorKeyPair actorId, past, .provisioned (.error e) =>
    (∃ event ∈ past, event.ans = .error e) ∨ ∃ before keyPair n,
      past = before ++ [⟨.insertOrIgnore actorId keyPair, .ok n⟩] ++
        [⟨.loadActorKeyPair actorId, .ok none⟩]
  | .insertActorKeyPair actorId keyPair, past, .inserted (.ok _) =>
    ⟨.insert actorId keyPair, .ok ()⟩ ∈ past
  | .insertActorKeyPair .., past, .inserted (.error e) => ∃ event ∈ past, event.ans = .error e
  | _, _, _ => False

/-- no generation has failed -/
def Generates (past : List KeyEvent) : Prop := ∀ e, ⟨.generateActorKeyPair, .error e⟩ ∉ past

/-- the outcome is backed by events, and a failed generation is the whole of what a call has done
and its outcome -/
def Concludes (call : KeyCall) (past : List KeyEvent) (outcome : KeyOutcome) : Prop :=
  Evidence call past outcome ∧ ∀ e, ⟨.generateActorKeyPair, .error e⟩ ∈ past →
    outcome = .provisioned (.error e) ∧ ∀ event ∈ past, event.op.LeavesStore

theorem sat_attempt {α : Type} {φ : List KeyEvent → KeyOp → Prop}
    {ψ : List KeyEvent → Except StoreError α → Prop} {past : List KeyEvent} {op : KeyOp}
    {next : op.Value → Prog KeyOp KeyOp.Answer (Except StoreError α)} (hop : φ past op)
    (herror : ∀ e, ψ (past ++ [⟨op, .error e⟩]) (.error e))
    (hok : ∀ value, Prog.Sat φ ψ (past ++ [⟨op, .ok value⟩]) (next value)) :
    Prog.Sat φ ψ past (attempt op next) := by
  refine ⟨hop, fun answer => ?_⟩
  cases answer with
  | error e => exact herror e
  | ok value => exact hok value

theorem connection_leaves : KeyOp.LeavesStore .connection := by
  intro store answer store' hx
  cases hx <;> rfl

theorem loadActorKeyPair_leaves (actorId : Iri) :
    KeyOp.LeavesStore (.loadActorKeyPair actorId) := by
  intro store answer store' hx
  cases hx <;> rfl

theorem generateActorKeyPair_leaves : KeyOp.LeavesStore .generateActorKeyPair := by
  intro store answer store' hx
  cases hx <;> rfl

theorem Generates.concat {past : List KeyEvent} (h : Generates past) (event : KeyEvent)
    (hevent : ∀ e, event ≠ ⟨.generateActorKeyPair, .error e⟩) : Generates (past ++ [event]) := by
  intro e he
  rcases List.mem_append.mp he with he | he
  · exact h e he
  · exact hevent e (List.mem_singleton.mp he).symm

theorem Generates.concludes {past : List KeyEvent} (h : Generates past) {call : KeyCall}
    {outcome : KeyOutcome} (hevidence : Evidence call past outcome) :
    Concludes call past outcome :=
  ⟨hevidence, fun e he => absurd he (h e)⟩

theorem last_mem {past : List KeyEvent} {event : KeyEvent} : event ∈ past ++ [event] :=
  List.mem_append_right _ List.mem_cons_self

/-- an operation other than the generation that fails ends the call with its error -/
theorem Generates.concludes_error {past : List KeyEvent} (h : Generates past) {actorId : Iri}
    {op : KeyOp} {e : StoreError} (hop : op ≠ .generateActorKeyPair) :
    Concludes (.loadOrGenerateActorKeyPair actorId) (past ++ [⟨op, .error e⟩])
      (.provisioned (.error e)) := by
  have hgenerates : Generates (past ++ [⟨op, .error e⟩]) :=
    h.concat _ fun e' he => hop (congrArg Event.op he)
  exact hgenerates.concludes (Or.inl ⟨_, last_mem, rfl⟩)

theorem loadOrGenerateActorKeyPair_sat (actorId : Iri) :
    Prog.Sat (fun past _ => Generates past)
      (fun past result => Concludes (.loadOrGenerateActorKeyPair actorId) past (.provisioned result))
      [] (loadOrGenerateActorKeyPair actorId) := by
  have hstart : Generates [] := fun _ => List.not_mem_nil
  unfold loadOrGenerateActorKeyPair
  refine sat_attempt hstart (fun e => hstart.concludes_error nofun) fun _ => ?_
  have hlocked := hstart.concat ⟨.connection, .ok ()⟩ nofun
  refine sat_attempt hlocked (fun e => hlocked.concludes_error nofun) fun found => ?_
  have hloaded := hlocked.concat ⟨.loadActorKeyPair actorId, .ok found⟩ nofun
  cases found with
  | some keyPair => exact hloaded.concludes (Or.inl last_mem)
  | none =>
    refine sat_attempt hloaded (fun e => ⟨Or.inl ⟨_, last_mem, rfl⟩, ?_⟩) fun generated => ?_
    · -- the generation is the last operation of the call
      intro e' he'
      rcases List.mem_append.mp he' with he' | he'
      · exact absurd he' (hloaded e')
      · cases List.mem_singleton.mp he'
        refine ⟨rfl, List.forall_mem_append.mpr ⟨?_, ?_⟩⟩
        · exact List.forall_mem_cons.mpr ⟨connection_leaves, List.forall_mem_singleton.mpr
            (loadActorKeyPair_leaves actorId)⟩
        · exact List.forall_mem_singleton.mpr generateActorKeyPair_leaves
    · have hgenerated := hloaded.concat ⟨.generateActorKeyPair, .ok generated⟩ nofun
      refine sat_attempt hgenerated (fun e => hgenerated.concludes_error nofun) fun _ => ?_
      have hlocked := hgenerated.concat ⟨.connection, .ok ()⟩ nofun
      refine sat_attempt hlocked (fun e => hlocked.concludes_error nofun) fun inserted => ?_
      have hinserted := hlocked.concat ⟨.insertOrIgnore actorId generated, .ok inserted⟩ nofun
      by_cases hnew : inserted = 1
      · subst hnew
        rw [if_pos rfl]
        exact hinserted.concludes (Or.inr last_mem)
      · rw [if_neg hnew]
        refine sat_attempt hinserted (fun e => hinserted.concludes_error nofun) fun found => ?_
        have hfound := hinserted.concat ⟨.loadActorKeyPair actorId, .ok found⟩ nofun
        cases found with
        | some keyPair => exact hfound.concludes (Or.inl last_mem)
        | none => exact hfound.concludes (Or.inr ⟨_, generated, inserted, rfl⟩)

theorem insertActorKeyPair_sat (actorId : Iri) (keyPair : ActorKeyPair) :
    Prog.Sat (fun past _ => Generates past)
      (fun past result => Concludes (.insertActorKeyPair actorId keyPair) past (.inserted result))
      [] (insertActorKeyPair actorId keyPair) := by
  have hstart : Generates [] := fun _ => List.not_mem_nil
  have herror : ∀ {past : List KeyEvent} {op : KeyOp} {e : StoreError}, Generates past →
      op ≠ .generateActorKeyPair → Concludes (.insertActorKeyPair actorId keyPair)
        (past ++ [⟨op, .error e⟩]) (.inserted (.error e)) := by
    intro past op e h hop
    exact (h.concat _ fun e' he => hop (congrArg Event.op he)).concludes ⟨_, last_mem, rfl⟩
  refine sat_attempt hstart (fun e => herror hstart nofun) fun _ => ?_
  have hlocked := hstart.concat ⟨.connection, .ok ()⟩ nofun
  refine sat_attempt hlocked (fun e => herror hlocked nofun) fun _ => ?_
  exact (hlocked.concat ⟨.insert actorId keyPair, .ok ()⟩ nofun).concludes last_mem

theorem keyCall_sat (call : KeyCall) :
    Prog.Sat (fun past _ => Generates past) (Concludes call) [] call.program := by
  cases call with
  | loadOrGenerateActorKeyPair actorId =>
    exact Prog.sat_map (loadOrGenerateActorKeyPair_sat actorId)
  | insertActorKeyPair actorId keyPair => exact Prog.sat_map (insertActorKeyPair_sat actorId keyPair)

/-! ## every interleaving -/

abbrev KeyConfig := Config SqliteStore KeyCall KeyOp KeyOp.Answer KeyOutcome

/-- the call of a thread has created the row of the actor: no row before its insert, and its pair
since then -/
def Creates (store : SqliteStore) (s : KeyConfig) (i : Nat) (actorId : Iri)
    (keyPair : ActorKeyPair) : Prop :=
  ∃ s₁ s₂, provisioners.Reachable store s₁ ∧ provisioners.Step s₁ s₂ ∧
    Relation.ReflTransGen provisioners.Step s₂ s ∧
    s₂.trace = s₁.trace ++ [(i, ⟨.insert actorId keyPair, .ok ()⟩)] ∧
    s₁.state.keys.lookup actorId.str = none ∧
    s₂.state.keys.lookup actorId.str = some (keyRow keyPair)

section
variable {store : SqliteStore} {s : KeyConfig} {t : Thread KeyCall KeyOp KeyOp.Answer KeyOutcome}

theorem concludes_of_reachable (h : provisioners.Reachable store s) (ht : t ∈ s.threads)
    {outcome : KeyOutcome} (hrest : t.rest = .ret outcome) : Concludes t.call t.past outcome := by
  have hsat := System.sat_of_reachable keyCall_sat h t ht
  rw [hrest] at hsat
  exact hsat

theorem row_of_loaded (h : provisioners.Reachable store s) (ht : t ∈ s.threads) {actorId : Iri}
    {keyPair : ActorKeyPair} (he : ⟨.loadActorKeyPair actorId, .ok (some keyPair)⟩ ∈ t.past) :
    s.state.keys.lookup actorId.str = some (keyRow keyPair) := by
  obtain ⟨i, hi⟩ := List.mem_iff_getElem?.mp ht
  obtain ⟨before, after, hpast⟩ := List.append_of_mem he
  obtain ⟨s₁, s₂, _, _, _, hlater, _, _, hx⟩ := System.executed h hi hpast
  exact row_kept hlater (KeyExec.row_of_load hx)

theorem row_of_inserted (h : provisioners.Reachable store s) (ht : t ∈ s.threads) {actorId : Iri}
    {keyPair : ActorKeyPair} (he : ⟨.insertOrIgnore actorId keyPair, .ok 1⟩ ∈ t.past) :
    s.state.keys.lookup actorId.str = some (keyRow keyPair) := by
  obtain ⟨i, hi⟩ := List.mem_iff_getElem?.mp ht
  obtain ⟨before, after, hpast⟩ := List.append_of_mem he
  obtain ⟨s₁, s₂, _, _, _, hlater, _, _, hx⟩ := System.executed h hi hpast
  exact row_kept hlater (KeyExec.row_of_insertedNew hx)

theorem found_after_insert (h : provisioners.Reachable store s) (ht : t ∈ s.threads)
    {actorId : Iri} {keyPair : ActorKeyPair} {n : Nat} {before : List KeyEvent} :
    t.past ≠ before ++ [⟨.insertOrIgnore actorId keyPair, .ok n⟩] ++
      [⟨.loadActorKeyPair actorId, .ok none⟩] := by
  intro hpast
  obtain ⟨i, hi⟩ := List.mem_iff_getElem?.mp ht
  obtain ⟨s₁, s₂, _, hreach, _, _, hthread, _, hload⟩ := System.executed h hi hpast
  obtain ⟨s₃, s₄, _, _, _, hbetween, _, _, hinsert⟩ := System.executed hreach hthread rfl
  obtain ⟨row, hrow⟩ := KeyExec.exists_row hinsert
  have hkept : s₁.state.keys.lookup actorId.str = some row := row_kept hbetween hrow
  rw [KeyExec.no_row_of_load hload] at hkept
  cases hkept

theorem error_of_past (h : provisioners.Reachable store s) (ht : t ∈ s.threads)
    {event : KeyEvent} (he : event ∈ t.past) : event.ans ≠ .error .ActorKeyProvisioning := by
  obtain ⟨i, hi⟩ := List.mem_iff_getElem?.mp ht
  obtain ⟨before, after, hpast⟩ := List.append_of_mem he
  obtain ⟨s₁, s₂, _, _, _, _, _, _, hx⟩ := System.executed h hi hpast
  exact KeyExec.ne_provisioning hx

/-- **What a provisioning returns is the row of its actor.** -/
theorem provisioned_row (h : provisioners.Reachable store s) (ht : t ∈ s.threads)
    {keyPair : ActorKeyPair} (hrest : t.rest = .ret (.provisioned (.ok keyPair))) :
    s.state.keys.lookup t.call.actorId.str = some (keyRow keyPair) := by
  obtain ⟨hevidence, _⟩ := concludes_of_reachable h ht hrest
  cases hcall : t.call with
  | loadOrGenerateActorKeyPair actorId =>
    rw [hcall] at hevidence
    rcases hevidence with hloaded | hinserted
    · exact row_of_loaded h ht hloaded
    · exact row_of_inserted h ht hinserted
  | insertActorKeyPair =>
    rw [hcall] at hevidence
    cases hevidence

theorem not_provisioning (h : provisioners.Reachable store s) (ht : t ∈ s.threads) :
    t.rest ≠ .ret (.provisioned (.error .ActorKeyProvisioning)) ∧
      t.rest ≠ .ret (.inserted (.error .ActorKeyProvisioning)) := by
  refine ⟨fun hrest => ?_, fun hrest => ?_⟩
  · obtain ⟨hevidence, _⟩ := concludes_of_reachable h ht hrest
    cases hcall : t.call with
    | loadOrGenerateActorKeyPair actorId =>
      rw [hcall] at hevidence
      rcases hevidence with ⟨event, he, herror⟩ | ⟨before, keyPair, n, hpast⟩
      · exact error_of_past h ht he herror
      · exact found_after_insert h ht hpast
    | insertActorKeyPair =>
      rw [hcall] at hevidence
      cases hevidence
  · obtain ⟨hevidence, _⟩ := concludes_of_reachable h ht hrest
    cases hcall : t.call with
    | loadOrGenerateActorKeyPair actorId =>
      rw [hcall] at hevidence
      cases hevidence
    | insertActorKeyPair =>
      rw [hcall] at hevidence
      obtain ⟨event, he, herror⟩ := hevidence
      exact error_of_past h ht he herror

theorem insert_creates (h : provisioners.Reachable store s) {i : Nat}
    (ht : s.threads[i]? = some t) (hrest : t.rest = .ret (.inserted (.ok ()))) :
    ∃ actorId keyPair, t.call = .insertActorKeyPair actorId keyPair ∧
      Creates store s i actorId keyPair := by
  obtain ⟨hevidence, _⟩ := concludes_of_reachable h (List.mem_of_getElem? ht) hrest
  cases hcall : t.call with
  | loadOrGenerateActorKeyPair actorId =>
    rw [hcall] at hevidence
    cases hevidence
  | insertActorKeyPair actorId keyPair =>
    rw [hcall] at hevidence
    obtain ⟨before, after, hpast⟩ := List.append_of_mem hevidence
    obtain ⟨s₁, s₂, _, hreach, hstep, hlater, _, htrace, hx⟩ := System.executed h ht hpast
    obtain ⟨hnone, hrow⟩ := KeyExec.creates hx
    exact ⟨actorId, keyPair, rfl, s₁, s₂, hreach, hstep, hlater, htrace, hnone, hrow⟩

/-- a call whose generation has failed is over, and has changed nothing -/
theorem unchanged_of_not_generated (h : provisioners.Reachable store s) (ht : t ∈ s.threads)
    {e : StoreError} (he : ⟨.generateActorKeyPair, .error e⟩ ∈ t.past) :
    t.rest = .ret (.provisioned (.error e)) ∧ ∀ event ∈ t.past, event.op.LeavesStore := by
  have hsat := System.sat_of_reachable keyCall_sat h t ht
  cases hrest : t.rest with
  | ret outcome =>
    obtain ⟨_, hfailed⟩ := concludes_of_reachable h ht hrest
    obtain ⟨houtcome, hleaves⟩ := hfailed e he
    exact ⟨congrArg Prog.ret houtcome, hleaves⟩
  | op o k =>
    rw [hrest] at hsat
    exact absurd he (hsat.1 e)

/-- **Key provisioning agrees in every interleaving.**  A row never changes once it is present;
whatever a provisioning returns is the row, so that all agree; an insert that returns has created
the row; the provisioning error is never returned; and a call whose generation has failed leaves
every store as it was. -/
theorem provisioning_agrees (h : provisioners.Reachable store s) :
    (∀ s' k row, Relation.ReflTransGen provisioners.Step s s' →
      s.state.keys.lookup k = some row → s'.state.keys.lookup k = some row) ∧
    (∀ t ∈ s.threads, ∀ keyPair, t.rest = .ret (.provisioned (.ok keyPair)) →
      s.state.keys.lookup t.call.actorId.str = some (keyRow keyPair)) ∧
    (∀ t ∈ s.threads, ∀ t' ∈ s.threads, ∀ keyPair keyPair', t.call.actorId = t'.call.actorId →
      t.rest = .ret (.provisioned (.ok keyPair)) →
      t'.rest = .ret (.provisioned (.ok keyPair')) → keyPair = keyPair') ∧
    (∀ i t, s.threads[i]? = some t → t.rest = .ret (.inserted (.ok ())) →
      ∃ actorId keyPair, t.call = .insertActorKeyPair actorId keyPair ∧
        Creates store s i actorId keyPair) ∧
    (∀ t ∈ s.threads, t.rest ≠ .ret (.provisioned (.error .ActorKeyProvisioning)) ∧
      t.rest ≠ .ret (.inserted (.error .ActorKeyProvisioning))) ∧
    ∀ t ∈ s.threads, ∀ e, ⟨.generateActorKeyPair, .error e⟩ ∈ t.past →
      t.rest = .ret (.provisioned (.error e)) ∧ ∀ event ∈ t.past, event.op.LeavesStore := by
  refine ⟨fun s' k row hlater hrow => row_kept hlater hrow,
    fun t ht keyPair hrest => provisioned_row h ht hrest, ?_,
    fun i t ht hrest => insert_creates h ht hrest, fun t ht => not_provisioning h ht,
    fun t ht e he => unchanged_of_not_generated h ht he⟩
  intro t ht t' ht' keyPair keyPair' hactor hrest hrest'
  have hrow := provisioned_row h ht hrest
  rw [hactor, provisioned_row h ht' hrest'] at hrow
  exact keyRow_inj (Option.some.inj hrow).symm

theorem reachable_attempt (h : provisioners.Reachable store s) {i : Nat} {call : KeyCall}
    {past : List KeyEvent} {α : Type} {op : KeyOp}
    {next : op.Value → Prog KeyOp KeyOp.Answer (Except StoreError α)}
    {f : Except StoreError α → KeyOutcome}
    (ht : s.threads[i]? = some ⟨call, past, (attempt op next).map f⟩) {value : op.Value}
    {state : SqliteStore} (hx : KeyExec s.state op (.ok value) state) :
    provisioners.Reachable store ⟨state,
      s.threads.set i ⟨call, past ++ [⟨op, .ok value⟩], (next value).map f⟩,
      s.trace ++ [(i, ⟨op, .ok value⟩)]⟩ :=
  Relation.ReflTransGen.tail h
    (.exec i ⟨call, past, (attempt op next).map f⟩ op _ (.ok value) state ht rfl hx)

end

end

/-! ## two generations at once -/

section
attribute [local instance] libraries
open Peer

/-- Two calls have found no pair and generated one each; the later insert is ignored, and its call
returns the pair of the other -/
theorem Peer.exists_race : ∃ s t t',
    provisioners.Reachable .empty s ∧ s.threads = [t, t'] ∧
    t.call = .loadOrGenerateActorKeyPair alice.actor.id ∧ t'.call = t.call ∧
    t.rest = .ret (.provisioned (.ok alice.keyPair)) ∧
    t'.rest = .ret (.provisioned (.ok alice.keyPair)) ∧
    ⟨.generateActorKeyPair, .ok bob.keyPair⟩ ∈ t'.past := by
  let call : KeyCall := .loadOrGenerateActorKeyPair alice.actor.id
  have hnone : SqliteStore.loadActorKeyPair .empty alice.actor.id = .ok none := rfl
  have hnew : SqliteStore.insertKeyRow .empty alice.actor.id alice.keyPair =
      some alice.store := rfl
  have hrow : alice.store.keys.lookup alice.actor.id.str = some (keyRow alice.keyPair) :=
    (insertKeyRow_some hnew).2 _
  have hconflict : alice.store.insertKeyRow alice.actor.id bob.keyPair = none := by
    unfold SqliteStore.insertKeyRow
    rw [hrow]
  have hfound : alice.store.loadActorKeyPair alice.actor.id = .ok (some alice.keyPair) :=
    congrArg Prod.fst (@load_keyPair alice alice.store rfl)
  have h : provisioners.Reachable .empty ⟨.empty, [⟨call, [], call.program⟩], []⟩ :=
    System.reachable_start .refl call rfl trivial
  have h := System.reachable_start h call rfl trivial
  have h := reachable_attempt (i := 0) h rfl (.locked _)
  have h := reachable_attempt (i := 0) h rfl (.loaded hnone)
  have h := reachable_attempt (i := 1) h rfl (.locked _)
  have h := reachable_attempt (i := 1) h rfl (.loaded hnone)
  have h := reachable_attempt (i := 1) h rfl (.generated _ bob.keyPair)
  have h := reachable_attempt (i := 0) h rfl (.generated _ alice.keyPair)
  have h := reachable_attempt (i := 0) h rfl (.locked _)
  have h := reachable_attempt (i := 0) h rfl (.insertedNew hnew)
  have h := reachable_attempt (i := 1) h rfl (.locked _)
  have h := reachable_attempt (i := 1) h rfl (.ignored hconflict)
  have h := reachable_attempt (i := 1) h rfl (.loaded hfound)
  exact ⟨_, _, _, h, rfl, rfl, rfl, rfl, rfl, by simp⟩

theorem provisioning_agrees_of_race : ∃ s : KeyConfig, provisioners.Reachable .empty s ∧
    s.state.keys.lookup alice.actor.id.str = some (keyRow alice.keyPair) ∧
    ∀ t ∈ s.threads, ∀ keyPair, t.rest = .ret (.provisioned (.ok keyPair)) →
      s.state.keys.lookup t.call.actorId.str = some (keyRow keyPair) := by
  obtain ⟨s, t, t', hreach, hthreads, hcall, _, hrest, _, _⟩ := exists_race
  obtain ⟨_, hrow, _⟩ := provisioning_agrees hreach
  have ht : t ∈ s.threads := hthreads ▸ List.mem_cons_self
  have halice := hrow t ht _ hrest
  rw [hcall] at halice
  exact ⟨s, hreach, halice, hrow⟩

end

end Feder
