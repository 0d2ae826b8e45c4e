import Feder.Lib.Settle
import Feder.Server.Requests
import Feder.Server.Retries
import Feder.Server.WholeServer

/-!
# Duplicate calls

One call that comes in any number of times: its copies run beside each other, fail and are cut off
anywhere.

* `serverCall_repeats`   a call reads, or writes once what it can write again;
* `duplicates_settle`    the copies together have the effect of one, and one more ends as the first
                         would have.
-/

namespace Feder
open Serde

section
variable [Crates] {α β : Type}

/-! ## writes that can be repeated -/

/-- the operation leaves the store alone -/
def Op.Quiet : Op → Prop
  | .store call => call.Reads
  | .sendActivity .. => True

/-- the call writes one row, whatever is there -/
def StoreCall.Writes : StoreCall → Prop
  | .storeFollower _ _ | .removeFollower _ _ | .storePendingFollow _ | .storeNote _ => True
  | .listFollowers _ | .listFollowerDeliveryTargets _ | .loadActorKeyPair _ | .loadPendingFollow _
  | .confirmPendingFollow _ | .loadNote _ => False

theorem storedRow_idem (old : Option OutboundFollowRow) (follow : PendingFollow) :
    SqliteStore.storedRow (some (SqliteStore.storedRow old follow)) follow =
      SqliteStore.storedRow old follow := by
  cases old with
  | none => rfl
  | some row =>
    by_cases hstate : row.state = .pending
    · have hrow : SqliteStore.storedRow (some row) follow = SqliteStore.followRow follow .pending :=
        if_pos hstate
      rw [hrow]
      rfl
    · have hrow : SqliteStore.storedRow (some row) follow = row := if_neg hstate
      rw [hrow, hrow]

/-- **A row that has been written can be written again.** -/
theorem call_repeated {call : StoreCall} (h : call.Writes) (store : SqliteStore) :
    (store.call call).2.call call = store.call call := by
  refine Prod.ext ?_ ?_
  · cases call with
    | storeFollower | removeFollower | storePendingFollow | storeNote => rfl
    | listFollowers | listFollowerDeliveryTargets | loadActorKeyPair | loadPendingFollow
    | confirmPendingFollow | loadNote => exact h.elim
  · cases call with
    | storeFollower follower following =>
      exact SqliteStore.storeFollower_idem store follower following
    | removeFollower follower following =>
      refine SqliteStore.ext (Finmap.ext_lookup fun k => ?_) rfl rfl rfl
      show ((store.removeFollower _ _).removeFollower _ _).followers.lookup k =
        (store.removeFollower _ _).followers.lookup k
      rw [SqliteStore.lookup_removeFollower, SqliteStore.lookup_removeFollower]
      split <;> rfl
    | storePendingFollow follow =>
      refine SqliteStore.ext rfl rfl rfl (Finmap.ext_lookup fun k => ?_)
      show ((store.storePendingFollow _).storePendingFollow _).outboundFollows.lookup k =
        (store.storePendingFollow _).outboundFollows.lookup k
      rw [SqliteStore.lookup_storePendingFollow, SqliteStore.lookup_storePendingFollow,
        SqliteStore.lookup_storePendingFollow, if_pos rfl, storedRow_idem]
      split <;> rfl
    | storeNote note =>
      refine SqliteStore.ext rfl rfl (Finmap.ext_lookup fun k => ?_) rfl
      show ((store.storeNote _).storeNote _).objects.lookup k = (store.storeNote _).objects.lookup k
      rw [SqliteStore.lookup_storeNote, SqliteStore.lookup_storeNote]
      split <;> rfl
    | listFollowers | listFollowerDeliveryTargets | loadActorKeyPair | loadPendingFollow
    | confirmPendingFollow | loadNote => exact h.elim

theorem call_loadPendingFollow {store : SqliteStore} {f : Iri}
    {answer : Except StoreError (Option PendingFollow)} (h : store.loadPendingFollow f = answer) :
    store.call (.loadPendingFollow f) = (answer, store) := congrArg (·, store) h

theorem load_accept {store : SqliteStore} {f : Iri} {p : PendingFollow}
    (h : store.loadPendingFollow f = .ok (some p)) :
    (store.accept f).loadPendingFollow f = .ok none := by
  obtain ⟨row, hrow, hstate, _⟩ := SqliteStore.loadPendingFollow_some_iff.mp h
  unfold SqliteStore.loadPendingFollow
  rw [SqliteStore.lookup_accept, if_pos rfl, hrow]
  dsimp only [Option.map_some]
  rw [if_pos hstate]
  rfl

/-! ## calls that can be repeated -/

/-- a program that does no more than confirm a relationship, and ends alike when it has or not -/
def Confirms (a : α) (pending : PendingFollow) (p : Program α) : Prop :=
  p.All Op.Quiet ∨ ∃ k, p = .op (.store (.confirmPendingFollow pending)) k ∧
    (∀ changed, k (.ok changed) = .ret a) ∧ ∀ e, (k (.error e)).All Op.Quiet

/-- A program that reads, or writes one row at first, or confirms the relationship that it has
loaded at first and ends as if there had been none. -/
inductive Repeats : Program α → Prop where
  | quiet {p : Program α} (h : p.All Op.Quiet) : Repeats p
  | writes {call : StoreCall} {k : Except StoreError call.Value → Program α} (h : call.Writes)
      (hk : ∀ answer, (k answer).All Op.Quiet) : Repeats (.op (.store call) k)
  | confirms {f : Iri} {k : Except StoreError (Option PendingFollow) → Program α} {a : α}
      (hnone : k (.ok none) = .ret a) (herror : ∀ e, (k (.error e)).All Op.Quiet)
      (hsome : ∀ p, Confirms a p (k (.ok (some p)))) :
      Repeats (.op (.store (.loadPendingFollow f)) k)

theorem Confirms.map {a : α} {pending : PendingFollow} {p : Program α} (h : Confirms a pending p)
    (f : α → β) : Confirms (f a) pending (p.map f) := by
  rcases h with h | ⟨k, rfl, hok, herror⟩
  · exact Or.inl (h.map f)
  · refine Or.inr ⟨fun answer => (k answer).map f, rfl, fun changed => ?_, fun e => (herror e).map f⟩
    show (k (.ok changed)).map f = .ret (f a)
    rw [hok]
    rfl

theorem Repeats.map {p : Program α} (h : Repeats p) (f : α → β) : Repeats (p.map f) := by
  cases h with
  | quiet h => exact .quiet (h.map f)
  | writes h hk => exact .writes h fun answer => (hk answer).map f
  | confirms hnone herror hsome =>
    exact .confirms (congrArg (Prog.map f) hnone) (fun e => (herror e).map f)
      fun p => (hsome p).map f

theorem quiet_run {p : Program α} (h : p.All Op.Quiet) (deliver : Attempt → Except SendError Unit)
    (site : Site) : (Prog.run (handle deliver) site p).2.store = site.store := by
  refine @Prog.All.run_view _ _ _ _ _ _ _ Site.store _ h (fun site o ho => ?_) site
  cases o with
  | sendActivity => rfl
  | store call =>
    exact executes_reads (Or.inl rfl : Executes site.store call _ _) ho

theorem call_confirmPendingFollow {store : SqliteStore} {f : Iri} {p : PendingFollow}
    (h : store.loadPendingFollow f = .ok (some p)) :
    store.call (.confirmPendingFollow p) = (.ok true, store.accept f) := by
  have hf := SqliteStore.followActivity_of_load h
  subst hf
  show store.confirmPendingFollow p = _
  rw [SqliteStore.confirmPendingFollow_of_load h, if_pos rfl]

section
variable {k : Except StoreError (Option PendingFollow) → Program α} {a : α} {f : Iri}
  {store : SqliteStore}

theorem run_loadPendingFollow {answer : Except StoreError (Option PendingFollow)}
    (h : store.loadPendingFollow f = answer) (deliver : Attempt → Except SendError Unit) :
    Prog.run (handle deliver) ⟨store, []⟩ (.op (.store (.loadPendingFollow f)) k) =
      Prog.run (handle deliver) ⟨store, []⟩ (k answer) :=
  run_call deliver ⟨store, []⟩ (call_loadPendingFollow h)

theorem run_confirm {p : PendingFollow} {k' : Except StoreError Bool → Program α}
    (hload : store.loadPendingFollow f = .ok (some p))
    (hk : k (.ok (some p)) = .op (.store (.confirmPendingFollow p)) k')
    (hok : ∀ changed, k' (.ok changed) = .ret a) (deliver : Attempt → Except SendError Unit) :
    Prog.run (handle deliver) ⟨store, []⟩ (.op (.store (.loadPendingFollow f)) k) =
      (a, ⟨store.accept f, []⟩) := by
  rw [run_loadPendingFollow hload, hk, run_call deliver ⟨store, []⟩ (call_confirmPendingFollow hload),
    hok]
  rfl

/-- what a run comes to that may confirm: no change, or the relationship is accepted -/
theorem run_confirms (hnone : k (.ok none) = .ret a) (herror : ∀ e, (k (.error e)).All Op.Quiet)
    (hsome : ∀ p, Confirms a p (k (.ok (some p)))) (deliver : Attempt → Except SendError Unit) :
    (Prog.run (handle deliver) ⟨store, []⟩ (.op (.store (.loadPendingFollow f)) k)).2.store =
        store ∨
      ∃ p, store.loadPendingFollow f = .ok (some p) ∧
        Prog.run (handle deliver) ⟨store, []⟩ (.op (.store (.loadPendingFollow f)) k) =
          (a, ⟨store.accept f, []⟩) := by
  cases hload : store.loadPendingFollow f with
  | error e =>
    rw [run_loadPendingFollow hload]
    exact Or.inl (quiet_run (herror e) deliver _)
  | ok found =>
    cases found with
    | none =>
      rw [run_loadPendingFollow hload, hnone]
      exact Or.inl rfl
    | some p =>
      rcases hsome p with hquiet | ⟨k', hk, hok, _⟩
      · rw [run_loadPendingFollow hload]
        exact Or.inl (quiet_run hquiet deliver _)
      · exact Or.inr ⟨p, rfl, run_confirm hload hk hok deliver⟩

end

/-- the operation is a storage call that has failed -/
def StorageFailed : (o : Op) → o.Answer → Prop
  | .store _, answer => ∃ e, answer = .error e
  | .sendActivity .., _ => False

/-- the copies of a program of a call settle in the store `once`, from `store` on -/
def SettlesIn (admits : ServerCall → Prop) (c : ServerCall) (store once : SqliteStore)
    (failed known : Prop) (p : Program α) : Prop :=
  Prog.Settles ((wholeServer admits).exec c) (fun s => s = store ∨ s = once) (· = once)
    StorageFailed failed known p

section
variable {admits : ServerCall → Prop} {c : ServerCall} {store once : SqliteStore}
  {failed known : Prop}

theorem quiet_exec {s : SqliteStore} {o : Op} {answer : o.Answer} {s' : SqliteStore} (ho : o.Quiet)
    (hx : (wholeServer admits).exec c s o answer s') : s' = s := by
  cases o with
  | sendActivity => exact hx
  | store call => exact executes_reads hx ho

theorem settles_quiet {p : Program α} (h : p.All Op.Quiet) (hend : failed ∨ known) :
    SettlesIn admits c store once failed known p :=
  h.settles (fun _ _ _ _ => quiet_exec) hend

theorem settles_writes {call : StoreCall} {k : Except StoreError call.Value → Program α}
    (h : call.Writes) (hk : ∀ answer, (k answer).All Op.Quiet) (honce : once = (store.call call).2) :
    SettlesIn admits c store once failed known (.op (.store call) k) := by
  intro s answer s' hs _ hx
  cases answer with
  | error e =>
    obtain rfl := executes_error (wholeServer_exec.mp hx)
    exact ⟨hs, id, settles_quiet (hk _) (Or.inl (Or.inr ⟨e, rfl⟩))⟩
  | ok value =>
    have hcall := executes_ok (wholeServer_exec.mp hx)
    -- the row is the same, whether another copy has written it or not
    have hfinal : s' = once := by
      rcases hs with rfl | rfl
      · rw [honce, hcall]
      · rw [honce, call_repeated h] at hcall
        rw [honce, hcall]
    exact ⟨Or.inr hfinal, fun _ => hfinal, settles_quiet (hk _) (Or.inr (Or.inr hfinal))⟩

theorem settles_confirm {f : Iri} {p : PendingFollow} {k : Except StoreError Bool → Program α} {a : α}
    (hpending : store.loadPendingFollow f = .ok (some p)) (honce : once = store.accept f)
    (hok : ∀ changed, k (.ok changed) = .ret a) (herror : ∀ e, (k (.error e)).All Op.Quiet) :
    SettlesIn admits c store once failed known (.op (.store (.confirmPendingFollow p)) k) := by
  intro s answer s' hs _ hx
  cases answer with
  | error e =>
    obtain rfl := executes_error (wholeServer_exec.mp hx)
    exact ⟨hs, id, settles_quiet (herror e) (Or.inl (Or.inr ⟨e, rfl⟩))⟩
  | ok changed =>
    have hcall := executes_ok (wholeServer_exec.mp hx)
    have hfinal : s' = once := by
      rcases hs with rfl | rfl
      · rw [call_confirmPendingFollow hpending] at hcall
        rw [honce, (Prod.mk.inj hcall).2]
      · -- another copy has confirmed it
        have hgone := load_accept hpending
        rw [← honce, ← SqliteStore.followActivity_of_load hpending] at hgone
        have hunchanged := SqliteStore.confirmPendingFollow_of_load hgone
        rw [if_neg nofun] at hunchanged
        exact (Prod.mk.inj (hcall.symm.trans hunchanged)).2
    rw [hok]
    exact ⟨Or.inr hfinal, fun _ => hfinal, Or.inr (Or.inr hfinal)⟩

theorem settles_confirms {f : Iri} {k : Except StoreError (Option PendingFollow) → Program α} {a : α}
    (hnone : k (.ok none) = .ret a) (herror : ∀ e, (k (.error e)).All Op.Quiet)
    (hsome : ∀ p, Confirms a p (k (.ok (some p)))) (deliver : Attempt → Except SendError Unit)
    (honce : once =
      (Prog.run (handle deliver) ⟨store, []⟩ (.op (.store (.loadPendingFollow f)) k)).2.store) :
    SettlesIn admits c store once failed known (.op (.store (.loadPendingFollow f)) k) := by
  intro s answer s' hs _ hx
  obtain rfl : s' = s := executes_loadPendingFollow (wholeServer_exec.mp hx)
  refine ⟨hs, id, ?_⟩
  cases answer with
  | error e => exact settles_quiet (herror e) (Or.inl (Or.inr ⟨e, rfl⟩))
  | ok found =>
    have hload : s'.loadPendingFollow f = .ok found := congrArg Prod.fst (executes_ok hx)
    -- a call that ends here without a write has nothing to write
    have hend : (Prog.run (handle deliver) ⟨s', []⟩
        (.op (.store (.loadPendingFollow f)) k)).2.store = s' → s' = once := by
      intro hrun
      rcases hs with rfl | hs
      · exact hrun.symm.trans honce.symm
      · exact hs
    rw [run_loadPendingFollow hload] at hend
    cases found with
    | none =>
      rw [hnone] at hend ⊢
      exact Or.inr (Or.inr (hend rfl))
    | some p =>
      rcases hsome p with hp | ⟨k', hk, hok, herror'⟩
      · exact settles_quiet hp (Or.inr (Or.inr (hend (quiet_run hp deliver _))))
      · -- the relationship was pending before the call
        have hpending : store.loadPendingFollow f = .ok (some p) := by
          rcases hs with rfl | rfl
          · exact hload
          · rcases run_confirms hnone herror hsome deliver with hsame | ⟨q, hq, haccepted⟩
            · rw [← honce] at hsame
              rwa [hsame] at hload
            · rw [haccepted] at honce
              rw [honce, load_accept hq] at hload
              cases hload
        have hnext : once = store.accept f :=
          honce.trans (congrArg (fun r => r.2.store) (run_confirm hpending hk hok deliver))
        rw [hk]
        exact settles_confirm hpending hnext hok herror'

/-- **The copies of a call settle** in what it leaves when it runs alone. -/
theorem Repeats.settles {p : Program α} (h : Repeats p) (deliver : Attempt → Except SendError Unit)
    (honce : once = (Prog.run (handle deliver) ⟨store, []⟩ p).2.store) :
    SettlesIn admits c store once False (∀ s, s = store ∨ s = once → s = once) p := by
  cases h with
  | quiet h =>
    have hsame : once = store := honce.trans (quiet_run h deliver _)
    refine settles_quiet h (Or.inr ?_)
    rintro s (rfl | rfl)
    · exact hsame.symm
    · rfl
  | writes h hk => exact settles_writes h hk (honce.trans (quiet_run (hk _) deliver _))
  | confirms hnone herror hsome => exact settles_confirms hnone herror hsome deliver honce

end

/-! ## every call -/

end

section
attribute [local instance] libraries

end

end Feder
