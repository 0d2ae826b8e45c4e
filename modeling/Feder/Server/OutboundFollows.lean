import Feder.Lib.OneWay
import Feder.Server.Storage

/-!
# `outbound_follows` is a one-way state machine

The three calls on pending follows refine the one-way cells, one cell for each follow id: the
table `Represents` the cells, and every call answers as the cells do.

* `call_represents`    one call;
* `run_represents`     a run from the empty store;
* `outboundFollows_oneWay`   the properties of the cells, stated of the store.
-/

namespace Feder
open Serde OneWay
variable [Crates]

abbrev FollowCall := Op Iri PendingFollow
abbrev FollowAnswer := Except StoreError (Answer PendingFollow)

namespace SqliteStore

/-- one call on the pending follows -/
def followCall (store : SqliteStore) : FollowCall → FollowAnswer × SqliteStore
  | .store follow => (.ok .stored, store.storePendingFollow follow)
  | .load followActivity => ((store.loadPendingFollow followActivity).map .loaded, store)
  | .confirm expected =>
    ((store.confirmPendingFollow expected).1.map .confirmed,
      (store.confirmPendingFollow expected).2)

/-- the row of a cell -/
def cellRow : Cell PendingFollow → Option OutboundFollowRow
  | .empty => none
  | .pending follow => some (followRow follow .pending)
  | .accepted follow => some (followRow follow .accepted)

/-- the table holds the cells, and every cell a follow of its own id -/
structure Represents (store : SqliteStore) (cells : Iri → Cell PendingFollow) : Prop where
  row : ∀ f : Iri, store.outboundFollows.lookup f.str = cellRow (cells f)
  pending : ∀ f p, cells f = .pending p → p.followActivity = f
  accepted : ∀ f p, cells f = .accepted p → p.followActivity = f

theorem represents_empty : Represents .empty (fun _ => .empty) where
  row _ := rfl
  pending _ _ h := by cases h
  accepted _ _ h := by cases h

theorem load_of_represents {store : SqliteStore} {cells : Iri → Cell PendingFollow}
    (h : Represents store cells) (f : Iri) :
    store.loadPendingFollow f = .ok (cells f).visible := by
  have hrow := h.row f
  cases hc : cells f with
  | empty =>
    rw [hc] at hrow
    unfold loadPendingFollow
    rw [hrow]
    rfl
  | pending p =>
    rw [hc] at hrow
    have hread := readRow_followRow p .pending
    rw [h.pending f p hc] at hread
    exact loadPendingFollow_some_iff.mpr ⟨_, hrow, rfl, hread⟩
  | accepted p =>
    rw [hc] at hrow
    unfold loadPendingFollow
    rw [hrow]
    rfl

theorem storePendingFollow_represents {store : SqliteStore} {cells : Iri → Cell PendingFollow}
    (h : Represents store cells) (p : PendingFollow) :
    Represents (store.storePendingFollow p)
      (Function.update cells p.followActivity ((cells p.followActivity).put p)) := by
  have hcell : ∀ f, Function.update cells p.followActivity ((cells p.followActivity).put p) f =
      if f = p.followActivity then (cells p.followActivity).put p else cells f :=
    fun f => Function.update_apply ..
  refine ⟨fun f => ?_, fun f q hq => ?_, fun f q hq => ?_⟩
  · rw [lookup_storePendingFollow, hcell]
    by_cases e : f = p.followActivity
    · rw [if_pos (congrArg Iri.str e), if_pos e, h.row p.followActivity]
      cases cells p.followActivity <;> rfl
    · rw [if_neg (fun hs => e (Iri.str_inj.mp hs)), if_neg e, h.row f]
  · rw [hcell] at hq
    by_cases e : f = p.followActivity
    · rw [if_pos e] at hq
      cases hc : cells p.followActivity <;> rw [hc] at hq <;> cases hq <;> exact e.symm
    · rw [if_neg e] at hq
      exact h.pending f q hq
  · rw [hcell] at hq
    by_cases e : f = p.followActivity
    · rw [if_pos e] at hq
      cases hc : cells p.followActivity <;> rw [hc] at hq <;> cases hq
      rw [e]
      exact h.accepted _ q hc
    · rw [if_neg e] at hq
      exact h.accepted f q hq

theorem accept_represents {store : SqliteStore} {cells : Iri → Cell PendingFollow}
    (h : Represents store cells) {p : PendingFollow}
    (hp : cells p.followActivity = .pending p) :
    Represents (store.accept p.followActivity)
      (Function.update cells p.followActivity (.accepted p)) := by
  refine ⟨fun f => ?_, fun f q hq => ?_, fun f q hq => ?_⟩
  · rw [lookup_accept, Function.update_apply]
    by_cases e : f = p.followActivity
    · rw [if_pos (congrArg Iri.str e), if_pos e, h.row p.followActivity, hp]
      rfl
    · rw [if_neg (fun hs => e (Iri.str_inj.mp hs)), if_neg e, h.row f]
  · rw [Function.update_apply] at hq
    by_cases e : f = p.followActivity
    · rw [if_pos e] at hq
      cases hq
    · rw [if_neg e] at hq
      exact h.pending f q hq
  · rw [Function.update_apply] at hq
    by_cases e : f = p.followActivity
    · rw [if_pos e] at hq
      cases hq
      exact e.symm
    · rw [if_neg e] at hq
      exact h.accepted f q hq

/-- **One call refines one operation on the cells.** -/
theorem call_represents (store : SqliteStore) (cells : Iri → Cell PendingFollow)
    (call : FollowCall) (h : Represents store cells) :
    (store.followCall call).1 = .ok (step PendingFollow.followActivity cells call).1 ∧
      Represents (store.followCall call).2 (step PendingFollow.followActivity cells call).2 := by
  cases call with
  | store p => exact ⟨rfl, storePendingFollow_represents h p⟩
  | load f =>
    refine ⟨?_, h⟩
    show (store.loadPendingFollow f).map Answer.loaded = _
    rw [load_of_represents h f]
    rfl
  | confirm e =>
    simp only [followCall, step]
    rw [confirmPendingFollow_of_load (load_of_represents h e.followActivity)]
    by_cases hp : cells e.followActivity = .pending e
    · have hv : (cells e.followActivity).visible = some e := visible_eq_some.mpr hp
      rw [if_pos hp, if_pos hv]
      exact ⟨rfl, accept_represents h hp⟩
    · have hv : (cells e.followActivity).visible ≠ some e := fun hv => hp (visible_eq_some.mp hv)
      rw [if_neg hp, if_neg hv]
      exact ⟨rfl, h⟩

/-- the answers and the store after a sequence of calls -/
def followCalls (store : SqliteStore) (calls : List FollowCall) :
    List (FollowCall × FollowAnswer) × SqliteStore :=
  Machine.run followCall store calls

/-- the cells after a sequence of operations -/
def followCells (cells : Iri → Cell PendingFollow) (calls : List FollowCall) :
    List (FollowCall × Answer PendingFollow) × (Iri → Cell PendingFollow) :=
  Machine.run (step PendingFollow.followActivity) cells calls

/-- the history of the store that answers as the cells do -/
def answered (history : List (FollowCall × Answer PendingFollow)) :
    List (FollowCall × FollowAnswer) :=
  history.map fun e => (e.1, .ok e.2)

theorem run_represents {store : SqliteStore} {cells : Iri → Cell PendingFollow}
    (h : Represents store cells) (calls : List FollowCall) :
    (store.followCalls calls).1 = answered (followCells cells calls).1 ∧
      Represents (store.followCalls calls).2 (followCells cells calls).2 :=
  Machine.run_simulates call_represents h calls

/-- the last relationship stored under an id -/
abbrev lastStoredFollow (f : Iri) (history : List (FollowCall × FollowAnswer)) :
    Option PendingFollow :=
  lastStored PendingFollow.followActivity f history

/-- a confirmation under an id returned `true` -/
abbrev ConfirmedFollow (f : Iri) (history : List (FollowCall × FollowAnswer)) : Prop :=
  Confirmed PendingFollow.followActivity (.ok (.confirmed true)) f history

theorem lastStoredFollow_answered (f : Iri)
    (history : List (FollowCall × Answer PendingFollow)) :
    lastStoredFollow f (answered history) =
      lastStored PendingFollow.followActivity f history :=
  lastStored_map _ Except.ok f history

theorem confirmedFollow_answered {f : Iri}
    {history : List (FollowCall × Answer PendingFollow)} :
    ConfirmedFollow f (answered history) ↔
      Confirmed PendingFollow.followActivity (.confirmed true) f history :=
  confirmed_map (f := Except.ok) (fun _ _ e => Except.ok.inj e)

theorem followCall_of_ne (store : SqliteStore) (call : FollowCall) {k : String}
    (h : k ≠ (call.key PendingFollow.followActivity).str) :
    (store.followCall call).2.outboundFollows.lookup k = store.outboundFollows.lookup k := by
  cases call with
  | store p =>
    show (store.storePendingFollow p).outboundFollows.lookup k = _
    rw [lookup_storePendingFollow]
    exact if_neg h
  | load f => rfl
  | confirm e =>
    show (store.confirmPendingFollow e).2.outboundFollows.lookup k = _
    by_cases ht : (store.confirmPendingFollow e).1 = .ok true
    · rw [confirmPendingFollow_of_true ht, lookup_accept]
      exact if_neg h
    · rw [confirmPendingFollow_of_ne ht]

/-- **`outbound_follows` is a one-way state machine.**  After any calls on the empty store: a load
finds exactly the last relationship stored under its id, unless a confirmation under it has
succeeded; a confirmation succeeds exactly when a load would find what it expects, and otherwise
leaves the store unchanged; after a success the row is accepted with its two actors for good, no
later confirmation under its id succeeds; and no call touches the row of another id. -/
theorem outboundFollows_oneWay (calls : List FollowCall) :
    let history := (SqliteStore.empty.followCalls calls).1
    let store := (SqliteStore.empty.followCalls calls).2
    (∀ f p, store.loadPendingFollow f = .ok (some p) ↔
      lastStoredFollow f history = some p ∧ ¬ ConfirmedFollow f history) ∧
    (∀ e, ((store.confirmPendingFollow e).1 = .ok true ↔
        store.loadPendingFollow e.followActivity = .ok (some e)) ∧
      ((store.confirmPendingFollow e).1 = .ok true ∨
        store.confirmPendingFollow e = (.ok false, store))) ∧
    (∀ e, (store.confirmPendingFollow e).1 = .ok true → ∀ later,
      ((store.confirmPendingFollow e).2.followCalls later).2.outboundFollows.lookup
          e.followActivity.str = some (followRow e .accepted) ∧
      ¬ ConfirmedFollow e.followActivity
        ((store.confirmPendingFollow e).2.followCalls later).1) ∧
    (∀ (call : FollowCall) (k : String),
      k ≠ (call.key PendingFollow.followActivity).str →
        (store.followCall call).2.outboundFollows.lookup k = store.outboundFollows.lookup k) := by
  intro history store
  obtain ⟨hhistory, hstore⟩ := run_represents represents_empty calls
  have htracks := tracks_run PendingFollow.followActivity calls
  refine ⟨?_, ?_, ?_, ?_⟩
  · intro f p
    rw [load_of_represents hstore f, Except.ok.injEq, followCells, visible_iff htracks]
    show _ ↔ lastStoredFollow f (SqliteStore.empty.followCalls calls).1 = some p ∧
      ¬ ConfirmedFollow f (SqliteStore.empty.followCalls calls).1
    rw [hhistory, lastStoredFollow_answered, confirmedFollow_answered]
    rfl
  · intro e
    refine ⟨confirmPendingFollow_true_iff, ?_⟩
    rw [confirmPendingFollow_of_load (load_of_represents hstore e.followActivity)]
    by_cases hv : ((followCells (fun _ => .empty) calls).2 e.followActivity).visible = some e
    · rw [if_pos hv]
      exact Or.inl rfl
    · rw [if_neg hv]
      exact Or.inr rfl
  · intro e htrue later
    have hload := confirmPendingFollow_true_iff.mp htrue
    rw [load_of_represents hstore e.followActivity, Except.ok.injEq] at hload
    have hpending := visible_eq_some.mp hload
    rw [confirmPendingFollow_of_true htrue]
    obtain ⟨hhistory', hstore'⟩ := run_represents (accept_represents hstore hpending) later
    have hcell : Function.update (followCells (fun _ => .empty) calls).2 e.followActivity
        (.accepted e) e.followActivity = .accepted e := Function.update_self ..
    obtain ⟨haccepted, hnone⟩ := accepted_run hcell later
    refine ⟨?_, ?_⟩
    · rw [hstore'.row e.followActivity, followCells, haccepted]
      rfl
    · rw [hhistory', confirmedFollow_answered]
      exact hnone
  · intro call k hk
    exact store.followCall_of_ne call hk

end SqliteStore

end Feder
