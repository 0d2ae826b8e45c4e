import Feder.Vocab.Types

/-!
# Follow, Accept and Undo decisions

The decisions of `follow.rs` and `undo.rs` about one activity, as pure functions.  For each of
them one lemma says when it succeeds and with what (`receiveAcceptFollow_ok_iff`,
`receiveFollow_ok_iff`, `receiveUndoFollow_ok_iff`); callers use these and never unfold the
decision.
-/

namespace Feder

theorem ite_error_eq_ok {ε α : Type} {p : Prop} [Decidable p] {e : ε} {x : Except ε α} {a : α} :
    (if p then .error e else x) = .ok a ↔ ¬ p ∧ x = .ok a := by
  by_cases h : p <;> simp [h]

variable [IriSyntax]

structure FollowOutcome where
  follower : Actor
  following : Iri
  accept : Accept
  recipientInbox : Iri
deriving DecidableEq

/-- a pending outbound Follow relationship -/
@[ext] structure PendingFollow where
  localActor : Iri
  remoteActor : Actor
  followActivity : Iri
deriving DecidableEq

structure CreateFollowOutcome where
  relationship : PendingFollow
  activity : Follow
deriving DecidableEq

inductive AcceptFollowError where
  | WrongActor
  | WrongFollow
  | WrongFollowActor
  | WrongFollowObject
  | WrongLocalActor
deriving DecidableEq

inductive FollowError where
  | WrongActor
  | WrongObject
deriving DecidableEq

def referenceId : Reference Actor → Iri
  | .id i => i
  | .object actor => actor.id

def followReferenceId : Reference Follow → Iri
  | .id i => i
  | .object follow => follow.id

@[simp] theorem referenceId_id (i : Iri) : referenceId (.id i) = i := rfl
@[simp] theorem referenceId_object (a : Actor) : referenceId (.object a) = a.id := rfl
@[simp] theorem followReferenceId_id (i : Iri) : followReferenceId (.id i) = i := rfl
@[simp] theorem followReferenceId_object (f : Follow) : followReferenceId (.object f) = f.id := rfl

def createFollow (localActor remoteActor : Actor) (followId : Iri) : CreateFollowOutcome where
  relationship := ⟨localActor.id, remoteActor, followId⟩
  activity := Follow.new followId (.id localActor.id) (.id remoteActor.id)

def receiveAcceptFollow (localActor remoteActor : Actor) (pending : PendingFollow)
    (accept : Accept) : Except AcceptFollowError Unit :=
  if pending.localActor ≠ localActor.id then .error .WrongLocalActor
  else if pending.remoteActor.id ≠ remoteActor.id ∨ referenceId accept.actor ≠ remoteActor.id then
    .error .WrongActor
  else if followReferenceId accept.object ≠ pending.followActivity then .error .WrongFollow
  else
    match accept.object with
    | .object follow =>
      if referenceId follow.actor ≠ localActor.id then .error .WrongFollowActor
      else if referenceId follow.object ≠ remoteActor.id then .error .WrongFollowObject
      else .ok ()
    | .id _ => .ok ()

/-- the checks that an Accept of a pending Follow has to pass -/
structure AcceptEvidence (localActor remoteActor : Actor) (pending : PendingFollow)
    (accept : Accept) : Prop where
  pendingLocal : pending.localActor = localActor.id
  pendingRemote : pending.remoteActor.id = remoteActor.id
  actor : referenceId accept.actor = remoteActor.id
  follow : followReferenceId accept.object = pending.followActivity
  followActor : ∀ f, accept.object = .object f → referenceId f.actor = localActor.id
  followObject : ∀ f, accept.object = .object f → referenceId f.object = remoteActor.id

theorem receiveAcceptFollow_ok_iff {localActor remoteActor : Actor} {pending : PendingFollow}
    {accept : Accept} :
    receiveAcceptFollow localActor remoteActor pending accept = .ok () ↔
      AcceptEvidence localActor remoteActor pending accept := by
  unfold receiveAcceptFollow
  simp only [ite_error_eq_ok, not_or, not_not]
  constructor
  · rintro ⟨hlocal, ⟨hremote, hactor⟩, hfollow, h⟩
    refine ⟨hlocal, hremote, hactor, hfollow, fun f hf => ?_, fun f hf => ?_⟩
    · simp only [hf, ite_error_eq_ok, not_not] at h
      exact h.1
    · simp only [hf, ite_error_eq_ok, not_not] at h
      exact h.2.1
  · rintro ⟨hlocal, hremote, hactor, hfollow, hfa, hfo⟩
    refine ⟨hlocal, ⟨hremote, hactor⟩, hfollow, ?_⟩
    cases hobj : accept.object with
    | id i => rfl
    | object f =>
      simp only [ite_error_eq_ok, not_not]
      exact ⟨hfa f hobj, hfo f hobj, trivial⟩

def receiveFollow (localActor remoteActor : Actor) (follow : Follow) (acceptId : Iri) :
    Except FollowError FollowOutcome :=
  if referenceId follow.object ≠ localActor.id then .error .WrongObject
  else if referenceId follow.actor ≠ remoteActor.id then .error .WrongActor
  else
    .ok {
      follower := remoteActor
      following := localActor.id
      -- the Follow is echoed with the resolved actor embedded in it
      accept := Accept.new acceptId (.id localActor.id)
        (.object { follow with actor := .object remoteActor })
      recipientInbox := remoteActor.inbox }

theorem receiveFollow_ok_iff {localActor remoteActor : Actor} {follow : Follow} {acceptId : Iri}
    {outcome : FollowOutcome} :
    receiveFollow localActor remoteActor follow acceptId = .ok outcome ↔
      referenceId follow.object = localActor.id ∧ referenceId follow.actor = remoteActor.id ∧
      outcome = ⟨remoteActor, localActor.id, Accept.new acceptId (.id localActor.id)
        (.object { follow with actor := .object remoteActor }), remoteActor.inbox⟩ := by
  unfold receiveFollow
  simp only [ite_error_eq_ok, not_not, Except.ok.injEq]
  rw [@eq_comm _ outcome]

/-! ## Undo -/

structure UndoFollowOutcome where
  follower : Iri
  following : Iri
deriving DecidableEq

inductive UndoFollowError where
  | LinkedFollow
  | WrongActor
  | WrongObject
deriving DecidableEq

/-- `reference_id` of `undo.rs` -/
def Undo.referenceId : Reference Actor → Iri
  | .id i => i
  | .object actor => actor.id

theorem Undo.referenceId_eq : Undo.referenceId = Feder.referenceId := by
  funext r
  cases r <;> rfl

def receiveUndoFollow (localActor remoteActor : Actor) (undo : Undo) :
    Except UndoFollowError UndoFollowOutcome :=
  if Undo.referenceId undo.actor ≠ remoteActor.id then .error .WrongActor
  else
    match undo.object with
    | .id _ => .error .LinkedFollow
    | .object follow =>
      if Undo.referenceId follow.actor ≠ remoteActor.id then .error .WrongActor
      else if Undo.referenceId follow.object ≠ localActor.id then .error .WrongObject
      else .ok ⟨remoteActor.id, localActor.id⟩

theorem receiveUndoFollow_ok_iff {localActor remoteActor : Actor} {undo : Undo}
    {outcome : UndoFollowOutcome} :
    receiveUndoFollow localActor remoteActor undo = .ok outcome ↔
      referenceId undo.actor = remoteActor.id ∧
      (∃ f, undo.object = .object f ∧ referenceId f.actor = remoteActor.id ∧
        referenceId f.object = localActor.id) ∧
      outcome = ⟨remoteActor.id, localActor.id⟩ := by
  unfold receiveUndoFollow
  rw [Undo.referenceId_eq]
  simp only [ite_error_eq_ok, not_not]
  cases undo.object with
  | id i => simp
  | object f =>
    simp only [ite_error_eq_ok, not_not, Except.ok.injEq, Reference.object.injEq,
      exists_eq_left']
    rw [@eq_comm _ outcome, and_assoc]

end Feder
