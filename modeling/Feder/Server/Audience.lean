import Feder.Core.Note
import Feder.Server.Libraries
import Feder.Server.Requests

/-!
# The audience of a Note

`note.rs` of the server crate: `create_note` stores a Note, gathers the inboxes of its recipients
and sends the Create activity to each of them.  The two loops over the recipients keep the inboxes
and actors seen so far.

* `Audience.Gathered`      what the loops have gathered;
* `run_coverFollowers`, `gathered_resolve`   the two loops;
* `run_sendAll`            the deliveries;
* `createNote_delivers`    the Note reaches exactly its audience, each inbox once.
-/

namespace Feder
open Serde

section
variable [Crates]

inductive CreateNoteError where
  | ActorDispatcher
  | LocalActorNotFound (actor : Iri)
  | Storage (error : StoreError)
  | ActorResolver (error : ActorResolveError)
  | MissingActorKey (actor : Iri)
  | ActivitySender (error : SendError)

/-! ## the loops over the recipients -/

/-- what `resolve_note_recipients` accumulates -/
structure Audience where
  inboxes : List Iri
  coveredActorIds : Finset Iri
  seenInboxes : Finset Iri
  firstActorResolveError : Option ActorResolveError

def Audience.empty : Audience := ⟨[], ∅, ∅, none⟩

def Audience.addInbox (audience : Audience) (inbox : Iri) : Audience :=
  if inbox ∈ audience.seenInboxes then audience
  else
    { audience with
      seenInboxes := insert inbox audience.seenInboxes
      inboxes := audience.inboxes ++ [inbox] }

def Audience.addCovered (audience : Audience) (actorId : Iri) : Audience :=
  { audience with coveredActorIds := insert actorId audience.coveredActorIds }

/-- the shared inbox of a follower, or else its own -/
def FollowerDeliveryTarget.deliveryInbox (target : FollowerDeliveryTarget) : Iri :=
  target.sharedInbox.getD target.inbox

def coverTarget (audience : Audience) (target : FollowerDeliveryTarget) : Audience :=
  (audience.addCovered target.actorId).addInbox target.deliveryInbox

/-- the first loop, over the followers collections -/
def coverFollowers {α : Type} (next : Audience → Program (Except CreateNoteError α)) :
    List NoteRecipient → Audience → Program (Except CreateNoteError α)
  | [], audience => next audience
  | .Followers localActorId :: rest, audience =>
    .op (.store (.listFollowerDeliveryTargets localActorId)) fun
      | .error e => .ret (.error (.Storage e))
      | .ok targets => coverFollowers next rest (targets.foldl coverTarget audience)
  | .Actor _ :: rest, audience => coverFollowers next rest audience

/-- one turn of the second loop, over the actors -/
def resolveRecipient (resolver : ActorResolver) (audience : Audience) :
    NoteRecipient → Audience
  | .Followers _ => audience
  | .Actor actorId =>
    if actorId ∈ audience.coveredActorIds then audience
    else
      match resolver.resolve actorId with
      | .ok actor => (audience.addCovered actor.id).addInbox actor.inbox
      | .error e =>
        { audience with
          firstActorResolveError := audience.firstActorResolveError.or (some e) }

def resolveNoteRecipients {α : Type} (resolver : ActorResolver) (recipients : List NoteRecipient)
    (next : Audience → Program (Except CreateNoteError α)) : Program (Except CreateNoteError α) :=
  coverFollowers (fun audience => next (recipients.foldl (resolveRecipient resolver) audience))
    recipients .empty

/-- the loop over the inboxes, with the first error of a delivery -/
def sendAll {α : Type} (localActor : Actor) (keyPair : ActorKeyPair) (activity : Json)
    (next : Option SendError → Program α) : List Iri → Option SendError → Program α
  | [], firstSendError => next firstSendError
  | inbox :: rest, firstSendError =>
    .op (.sendActivity localActor keyPair activity inbox) fun
      | .error e => sendAll localActor keyPair activity next rest (firstSendError.or (some e))
      | .ok () => sendAll localActor keyPair activity next rest firstSendError

def FederServer.createNote (server : FederServer) (localActorId : Iri) (input : CreateNoteInput) :
    Program (Except CreateNoteError CreateNoteOutcome) :=
  match server.getActorById localActorId with
  | .error _ => .ret (.error .ActorDispatcher)
  | .ok none => .ret (.error (.LocalActorNotFound localActorId))
  | .ok (some localActor) =>
    let outcome := Feder.createNote localActor input
    .op (.store (.storeNote outcome.note)) fun
      | .error e => .ret (.error (.Storage e))
      | .ok () =>
        resolveNoteRecipients server.resolver outcome.recipients fun audience =>
          if audience.inboxes.isEmpty then
            match audience.firstActorResolveError with
            | some e => .ret (.error (.ActorResolver e))
            | none => .ret (.ok outcome)
          else
            .op (.store (.loadActorKeyPair localActor.id)) fun
              | .error e => .ret (.error (.Storage e))
              | .ok none => .ret (.error (.MissingActorKey localActor.id))
              | .ok (some keyPair) =>
                sendAll localActor keyPair (outcome.activity.serialize Note.serialize)
                  (fun firstSendError =>
                    match firstSendError, audience.firstActorResolveError with
                    | some e, _ => .ret (.error (.ActivitySender e))
                    | none, some e => .ret (.error (.ActorResolver e))
                    | none, none => .ret (.ok outcome))
                  audience.inboxes none

/-! ## what the loops gather -/

/-- the inboxes, once each, and the actors that the loops have gathered -/
structure Audience.Gathered (audience : Audience) (inboxes covered : Iri → Prop) : Prop where
  nodup : audience.inboxes.Nodup
  seen : ∀ i, i ∈ audience.seenInboxes ↔ i ∈ audience.inboxes
  inboxes_iff : ∀ i, i ∈ audience.inboxes ↔ inboxes i
  covered_iff : ∀ i, i ∈ audience.coveredActorIds ↔ covered i

theorem Audience.gathered_empty : Audience.empty.Gathered (fun _ => False) (fun _ => False) :=
  ⟨List.nodup_nil, fun _ => by simp [Audience.empty], fun _ => by simp [Audience.empty],
    fun _ => by simp [Audience.empty]⟩

section
variable {audience : Audience} {inboxes covered : Iri → Prop}

theorem Audience.Gathered.congr {inboxes' covered' : Iri → Prop}
    (h : audience.Gathered inboxes covered) (hinboxes : ∀ i, inboxes i ↔ inboxes' i)
    (hcovered : ∀ i, covered i ↔ covered' i) : audience.Gathered inboxes' covered' :=
  ⟨h.nodup, h.seen, fun i => (h.inboxes_iff i).trans (hinboxes i),
    fun i => (h.covered_iff i).trans (hcovered i)⟩

theorem Audience.Gathered.addCovered (h : audience.Gathered inboxes covered) (actorId : Iri) :
    (audience.addCovered actorId).Gathered inboxes (fun i => covered i ∨ i = actorId) :=
  ⟨h.nodup, h.seen, h.inboxes_iff, fun i => by
    show i ∈ insert actorId audience.coveredActorIds ↔ _
    rw [Finset.mem_insert, h.covered_iff, or_comm]⟩

theorem Audience.Gathered.addInbox (h : audience.Gathered inboxes covered) (inbox : Iri) :
    (audience.addInbox inbox).Gathered (fun i => inboxes i ∨ i = inbox) covered := by
  unfold Audience.addInbox
  by_cases hseen : inbox ∈ audience.seenInboxes
  · rw [if_pos hseen]
    refine ⟨h.nodup, h.seen, fun i => ?_, h.covered_iff⟩
    rw [h.inboxes_iff]
    constructor
    · exact Or.inl
    · rintro (hi | rfl)
      · exact hi
      · exact (h.inboxes_iff i).mp ((h.seen i).mp hseen)
  · rw [if_neg hseen]
    have hnew : inbox ∉ audience.inboxes := fun hi => hseen ((h.seen inbox).mpr hi)
    refine ⟨List.nodup_append'.mpr ⟨h.nodup, List.nodup_singleton inbox, ?_⟩, fun i => ?_,
      fun i => ?_, h.covered_iff⟩
    · exact List.disjoint_singleton.mpr hnew
    · show i ∈ insert inbox audience.seenInboxes ↔ i ∈ audience.inboxes ++ [inbox]
      rw [Finset.mem_insert, h.seen, List.mem_append, List.mem_singleton, or_comm]
    · show i ∈ audience.inboxes ++ [inbox] ↔ _
      rw [List.mem_append, List.mem_singleton, h.inboxes_iff]

@[simp] theorem Audience.addInbox_error (audience : Audience) (inbox : Iri) :
    (audience.addInbox inbox).firstActorResolveError = audience.firstActorResolveError := by
  unfold Audience.addInbox
  split <;> rfl

@[simp] theorem Audience.addCovered_error (audience : Audience) (actorId : Iri) :
    (audience.addCovered actorId).firstActorResolveError = audience.firstActorResolveError := rfl

theorem coverTargets_error (targets : List FollowerDeliveryTarget) (audience : Audience) :
    (targets.foldl coverTarget audience).firstActorResolveError =
      audience.firstActorResolveError := by
  induction targets generalizing audience with
  | nil => rfl
  | cons target rest ih =>
    rw [List.foldl_cons, ih]
    simp [coverTarget]

theorem Audience.Gathered.coverTargets (h : audience.Gathered inboxes covered)
    (targets : List FollowerDeliveryTarget) :
    (targets.foldl coverTarget audience).Gathered
      (fun i => inboxes i ∨ ∃ t ∈ targets, i = t.deliveryInbox)
      (fun i => covered i ∨ ∃ t ∈ targets, i = t.actorId) := by
  induction targets generalizing audience inboxes covered with
  | nil => exact h.congr (by simp) (by simp)
  | cons target rest ih =>
    rw [List.foldl_cons]
    refine (ih ((h.addCovered target.actorId).addInbox target.deliveryInbox)).congr
      (fun i => ?_) (fun i => ?_)
    · rw [List.exists_mem_cons_iff, or_assoc]
    · rw [List.exists_mem_cons_iff, or_assoc]

/-! ## the first loop -/

/-- a followers collection is among the recipients -/
def NamesFollowers (recipients : List NoteRecipient) : Prop :=
  ∃ localActorId, .Followers localActorId ∈ recipients

variable (deliver : Attempt → Except SendError Unit) {site : Site}

/-- **The first loop** gathers the followers if a followers collection is among the recipients. -/
theorem run_coverFollowers (α : Type) {recipients : List NoteRecipient}
    {targets : List FollowerDeliveryTarget}
    (hlist : ∀ localActorId, .Followers localActorId ∈ recipients →
      site.store.listFollowerDeliveryTargets localActorId = .ok targets)
    (h : audience.Gathered inboxes covered) :
    ∃ audience', audience'.firstActorResolveError = audience.firstActorResolveError ∧
      audience'.Gathered
        (fun i => inboxes i ∨ NamesFollowers recipients ∧ ∃ t ∈ targets, i = t.deliveryInbox)
        (fun i => covered i ∨ NamesFollowers recipients ∧ ∃ t ∈ targets, i = t.actorId) ∧
      ∀ next : Audience → Program (Except CreateNoteError α),
        Prog.run (handle deliver) site (coverFollowers next recipients audience) =
          Prog.run (handle deliver) site (next audience') := by
  induction recipients generalizing audience inboxes covered with
  | nil =>
    refine ⟨audience, rfl, h.congr (fun i => ?_) (fun i => ?_), fun next => rfl⟩
    · simp [NamesFollowers]
    · simp [NamesFollowers]
  | cons recipient rest ih =>
    have hrest := fun localActorId hmem => hlist localActorId (List.mem_cons_of_mem _ hmem)
    cases recipient with
    | Actor actorId =>
      obtain ⟨audience', herror, hgathered, hrun⟩ := ih hrest h
      refine ⟨audience', herror, hgathered.congr (fun i => ?_) (fun i => ?_), hrun⟩
      · simp [NamesFollowers]
      · simp [NamesFollowers]
    | Followers localActorId =>
      have hcall : site.store.call (.listFollowerDeliveryTargets localActorId) =
          (.ok targets, site.store) :=
        congrArg (·, site.store) (hlist localActorId List.mem_cons_self)
      have hnames : NamesFollowers (.Followers localActorId :: rest) :=
        ⟨localActorId, List.mem_cons_self⟩
      obtain ⟨audience', herror, hgathered, hrun⟩ := ih hrest (h.coverTargets targets)
      refine ⟨audience', herror.trans (coverTargets_error targets audience),
        hgathered.congr (fun i => ?_) (fun i => ?_),
        fun next => (run_call deliver site hcall).trans (hrun next)⟩
      · -- whatever a later collection adds has been added
        simp only [hnames, true_and]
        rw [or_assoc, or_iff_left_of_imp And.right]
      · simp only [hnames, true_and]
        rw [or_assoc, or_iff_left_of_imp And.right]

/-! ## the second loop -/

/-- an actor that the second loop has to resolve -/
def Needed (recipients : List NoteRecipient) (covered : Iri → Prop) (e : Iri) : Prop :=
  .Actor e ∈ recipients ∧ ¬ covered e

/-- what the second loop has done behind some recipients, where the first one has gathered
`inboxes` and `covered` -/
structure Audience.Resolved (audience : Audience) (resolver : ActorResolver)
    (done : List NoteRecipient) (inboxes covered : Iri → Prop) : Prop where
  gathered : audience.Gathered
    (fun i => inboxes i ∨ ∃ e actor, Needed done covered e ∧ resolver.resolve e = .ok actor ∧
      i = actor.inbox)
    (fun i => covered i ∨ Needed done covered i ∧ ∃ actor, resolver.resolve i = .ok actor)
  error_iff : audience.firstActorResolveError = none ↔
    ∀ e, Needed done covered e → ∃ actor, resolver.resolve e = .ok actor

theorem needed_concat {done : List NoteRecipient} {recipient : NoteRecipient}
    {covered : Iri → Prop} {e : Iri} :
    Needed (done ++ [recipient]) covered e ↔
      Needed done covered e ∨ recipient = .Actor e ∧ ¬ covered e := by
  unfold Needed
  rw [List.mem_append, List.mem_singleton, or_and_right, @eq_comm _ recipient]

theorem Audience.Resolved.skip {resolver : ActorResolver} {done : List NoteRecipient}
    {recipient : NoteRecipient} (h : audience.Resolved resolver done inboxes covered)
    (hskip : ∀ e, recipient = .Actor e → ¬ covered e →
      Needed done covered e ∧ ∃ actor, resolver.resolve e = .ok actor) :
    audience.Resolved resolver (done ++ [recipient]) inboxes covered := by
  have hneeded : ∀ e, Needed (done ++ [recipient]) covered e ↔ Needed done covered e := by
    intro e
    rw [needed_concat]
    constructor
    · rintro (he | ⟨he, hnot⟩)
      · exact he
      · exact (hskip e he hnot).1
    · exact Or.inl
  obtain ⟨hgathered, herror⟩ := h
  refine ⟨hgathered.congr (fun i => ?_) (fun i => ?_), ?_⟩
  · simp only [hneeded]
  · simp only [hneeded]
  · simp only [hneeded]
    exact herror

section
variable {resolver : ActorResolver} {done done' : List NoteRecipient} {actorId : Iri}

theorem Audience.Resolved.resolved (h : audience.Resolved resolver done inboxes covered)
    (hneeded : ∀ e, Needed done' covered e ↔ Needed done covered e ∨ e = actorId) {actor : Actor}
    (hresolve : resolver.resolve actorId = .ok actor) :
    ((audience.addCovered actor.id).addInbox actor.inbox).Resolved resolver done' inboxes
      covered := by
  have hid : actor.id = actorId := ActorResolver.resolve_id hresolve
  refine ⟨((h.gathered.addCovered actor.id).addInbox actor.inbox).congr (fun i => ?_)
    (fun i => ?_), ?_⟩
  · simp only [hneeded]
    constructor
    · rintro ((hi | ⟨e, other, he, hother, hi⟩) | hi)
      · exact Or.inl hi
      · exact Or.inr ⟨e, other, Or.inl he, hother, hi⟩
      · exact Or.inr ⟨actorId, actor, Or.inr rfl, hresolve, hi⟩
    · rintro (hi | ⟨e, other, he | rfl, hother, hi⟩)
      · exact Or.inl (Or.inl hi)
      · exact Or.inl (Or.inr ⟨e, other, he, hother, hi⟩)
      · rw [hresolve] at hother
        cases hother
        exact Or.inr hi
  · simp only [hneeded]
    constructor
    · rintro ((hi | ⟨hi, hok⟩) | rfl)
      · exact Or.inl hi
      · exact Or.inr ⟨Or.inl hi, hok⟩
      · exact Or.inr ⟨Or.inr hid, actor, hid ▸ hresolve⟩
    · rintro (hi | ⟨hi | rfl, hok⟩)
      · exact Or.inl (Or.inl hi)
      · exact Or.inl (Or.inr ⟨hi, hok⟩)
      · exact Or.inr hid.symm
  · rw [Audience.addInbox_error, Audience.addCovered_error, h.error_iff]
    simp only [hneeded]
    constructor
    · rintro hall e (he | rfl)
      · exact hall e he
      · exact ⟨actor, hresolve⟩
    · exact fun hall e he => hall e (Or.inl he)

theorem Audience.Resolved.notResolved (h : audience.Resolved resolver done inboxes covered)
    (hneeded : ∀ e, Needed done' covered e ↔ Needed done covered e ∨ e = actorId)
    {error : ActorResolveError} (hresolve : resolver.resolve actorId = .error error) :
    Audience.Resolved { audience with
        firstActorResolveError := audience.firstActorResolveError.or (some error) }
      resolver done' inboxes covered := by
  have hnone : ∀ actor, resolver.resolve actorId ≠ .ok actor := by
    intro actor hok
    rw [hresolve] at hok
    cases hok
  have hgathered := h.gathered
  refine ⟨⟨hgathered.nodup, hgathered.seen, fun i => ?_, fun i => ?_⟩, ?_⟩
  · rw [hgathered.inboxes_iff]
    simp only [hneeded]
    constructor
    · rintro (hi | ⟨e, other, he, hother, hi⟩)
      · exact Or.inl hi
      · exact Or.inr ⟨e, other, Or.inl he, hother, hi⟩
    · rintro (hi | ⟨e, other, he | rfl, hother, hi⟩)
      · exact Or.inl hi
      · exact Or.inr ⟨e, other, he, hother, hi⟩
      · exact absurd hother (hnone other)
  · rw [hgathered.covered_iff]
    simp only [hneeded]
    constructor
    · rintro (hi | ⟨hi, hok⟩)
      · exact Or.inl hi
      · exact Or.inr ⟨Or.inl hi, hok⟩
    · rintro (hi | ⟨hi | rfl, actor, hok⟩)
      · exact Or.inl hi
      · exact Or.inr ⟨hi, actor, hok⟩
      · exact absurd hok (hnone actor)
  · simp only [hneeded, Option.or_eq_none_iff, reduceCtorEq, and_false, false_iff]
    intro hall
    obtain ⟨actor, hok⟩ := hall actorId (Or.inr rfl)
    exact hnone actor hok

end

theorem Audience.Resolved.step {resolver : ActorResolver} {done : List NoteRecipient}
    (h : audience.Resolved resolver done inboxes covered) (recipient : NoteRecipient) :
    (resolveRecipient resolver audience recipient).Resolved resolver (done ++ [recipient])
      inboxes covered := by
  cases recipient with
  | Followers localActorId => exact h.skip nofun
  | Actor actorId =>
    unfold resolveRecipient
    dsimp only
    by_cases hcovered : actorId ∈ audience.coveredActorIds
    · rw [if_pos hcovered]
      refine h.skip fun e he hnot => ?_
      cases he
      exact ((h.gathered.covered_iff actorId).mp hcovered).resolve_left hnot
    · rw [if_neg hcovered]
      rw [h.gathered.covered_iff, not_or] at hcovered
      have hneeded : ∀ e, Needed (done ++ [.Actor actorId]) covered e ↔
          Needed done covered e ∨ e = actorId := by
        intro e
        rw [needed_concat]
        constructor
        · rintro (he | ⟨he, _⟩)
          · exact Or.inl he
          · cases he
            exact Or.inr rfl
        · rintro (he | rfl)
          · exact Or.inl he
          · exact Or.inr ⟨rfl, hcovered.1⟩
      cases hresolve : resolver.resolve actorId with
      | ok actor => exact h.resolved hneeded hresolve
      | error error => exact h.notResolved hneeded hresolve

/-- **The second loop** resolves what the first one has not covered. -/
theorem Audience.Gathered.resolve (h : audience.Gathered inboxes covered)
    (herror : audience.firstActorResolveError = none) (resolver : ActorResolver)
    (recipients : List NoteRecipient) :
    (recipients.foldl (resolveRecipient resolver) audience).Resolved resolver recipients inboxes
      covered := by
  induction recipients using List.reverseRecOn with
  | nil =>
    refine ⟨h.congr (fun i => ?_) (fun i => ?_), ?_⟩
    · simp [Needed]
    · simp [Needed]
    · simp [Needed, herror]
  | append_singleton recipients recipient ih =>
    rw [List.foldl_append]
    exact ih.step recipient

/-! ## the deliveries -/

/-- the first error of some deliveries -/
def firstError (attempts : List Attempt) : Option SendError :=
  attempts.findSome? fun attempt =>
    match deliver attempt with
    | .error e => some e
    | .ok () => none

theorem firstError_eq_none {attempts : List Attempt} :
    firstError deliver attempts = none ↔ ∀ attempt ∈ attempts, deliver attempt = .ok () := by
  unfold firstError
  rw [List.findSome?_eq_none_iff]
  refine forall₂_congr fun attempt _ => ?_
  cases deliver attempt with
  | error e => simp
  | ok u => simp

theorem run_attempt {α : Type} {localActor : Actor} {keyPair : ActorKeyPair} {activity : Json}
    {inbox : Iri} {next : Except SendError Unit → Program α} {site : Site}
    {answer : Except SendError Unit}
    (h : deliver ⟨localActor, keyPair, activity, inbox⟩ = answer) :
    Prog.run (handle deliver) site (.op (.sendActivity localActor keyPair activity inbox) next) =
      Prog.run (handle deliver)
        { site with sent := site.sent ++ [⟨localActor, keyPair, activity, inbox⟩] }
        (next answer) := by
  subst h
  rfl

/-- **Every inbox is attempted**, whatever the outcomes of the others. -/
theorem run_sendAll {α : Type} {localActor : Actor} {keyPair : ActorKeyPair} {activity : Json}
    {next : Option SendError → Program α} (site : Site) (inboxes : List Iri)
    (first : Option SendError) :
    Prog.run (handle deliver) site (sendAll localActor keyPair activity next inboxes first) =
      Prog.run (handle deliver)
        { site with sent := site.sent ++ inboxes.map (⟨localActor, keyPair, activity, ·⟩) }
        (next (first.or (firstError deliver
          (inboxes.map (⟨localActor, keyPair, activity, ·⟩))))) := by
  induction inboxes generalizing site first with
  | nil => simp [sendAll, firstError]
  | cons inbox rest ih =>
    unfold sendAll
    unfold firstError at ih ⊢
    rw [List.map_cons, List.findSome?_cons]
    cases hdeliver : deliver ⟨localActor, keyPair, activity, inbox⟩ with
    | error e =>
      rw [run_attempt deliver hdeliver]
      dsimp only
      rw [ih]
      simp only [List.append_assoc, List.singleton_append, Option.or_assoc, Option.some_or]
    | ok u =>
      rw [run_attempt deliver hdeliver]
      dsimp only
      rw [ih]
      simp only [List.append_assoc, List.singleton_append]

/-! ## the audience -/

/-- the addresses of a new Note -/
def CreateNoteInput.addresses (input : CreateNoteInput) : List Iri :=
  input.to_.values ++ input.cc.values

/-- the followers collection of the actor is addressed, as such -/
def addressesFollowers (localActor : Actor) (input : CreateNoteInput) : Bool :=
  input.addresses.any fun address =>
    localActor.followers = some address && address.str ≠ publicCollection &&
      address ≠ localActor.id

/-- an actor of its own is addressed -/
def AddressesActor (localActor : Actor) (input : CreateNoteInput) (e : Iri) : Prop :=
  e ∈ input.addresses ∧ localActor.followers ≠ some e ∧ e.str ≠ publicCollection ∧
    e ≠ localActor.id

theorem namesFollowers_iff {localActor : Actor} {input : CreateNoteInput} :
    NamesFollowers (Feder.createNote localActor input).recipients ↔
      addressesFollowers localActor input = true := by
  unfold NamesFollowers addressesFollowers
  show (∃ i, .Followers i ∈ noteRecipients localActor _) ↔ _
  simp only [mem_noteRecipients, noteRecipient_followers, List.any_eq_true, Bool.and_eq_true,
    decide_eq_true_eq]
  constructor
  · rintro ⟨_, address, hmem, rfl, hfollowers, hpublic, hself⟩
    exact ⟨address, hmem, ⟨hfollowers, hpublic⟩, hself⟩
  · rintro ⟨address, hmem, ⟨hfollowers, hpublic⟩, hself⟩
    exact ⟨_, address, hmem, rfl, hfollowers, hpublic, hself⟩

theorem needed_iff {localActor : Actor} {input : CreateNoteInput} {covered : Iri → Prop} {e : Iri} :
    Needed (Feder.createNote localActor input).recipients covered e ↔
      AddressesActor localActor input e ∧ ¬ covered e := by
  unfold Needed AddressesActor
  show .Actor e ∈ noteRecipients localActor _ ∧ _ ↔ _
  simp only [mem_noteRecipients, noteRecipient_actor]
  constructor
  · rintro ⟨⟨_, hmem, rfl, hfollowers, hpublic, hself⟩, hcovered⟩
    exact ⟨⟨hmem, hfollowers, hpublic, hself⟩, hcovered⟩
  · rintro ⟨⟨hmem, hfollowers, hpublic, hself⟩, hcovered⟩
    exact ⟨⟨e, hmem, rfl, hfollowers, hpublic, hself⟩, hcovered⟩

/-- a program behind an event keeps it in its past -/
theorem sat_of_past {α : Type} {event : OpEvent} {P : Op → Prop} {past : List OpEvent}
    (h : event ∈ past) (p : Program α) :
    Prog.Sat (fun past o => P o → event ∈ past) (fun _ _ => True) past p := by
  induction p generalizing past with
  | ret a => trivial
  | op o k ih => exact ⟨fun _ => h, fun answer => ih answer (List.mem_append_left _ h)⟩

/-- the operation is a delivery -/
def Op.Sends : Op → Prop
  | .store _ => False
  | .sendActivity .. => True

/-- **The Note is stored before the first delivery**, in every run. -/
theorem createNote_stores_first {server : FederServer} {localActorId : Iri} {localActor : Actor}
    (hactor : server.getActorById localActorId = .ok (some localActor)) (input : CreateNoteInput) :
    Prog.Sat (fun past o => o.Sends →
        stored (.storeNote (Feder.createNote localActor input).note) (.ok ()) ∈ past)
      (fun _ _ => True) [] (server.createNote localActorId input) := by
  unfold FederServer.createNote
  rw [hactor]
  refine ⟨nofun, fun answer => ?_⟩
  cases answer with
  | error e => trivial
  | ok u => exact sat_of_past List.mem_cons_self _

/-- the result of `create_note` behind the deliveries -/
def noteResult (outcome : CreateNoteOutcome) (sendError : Option SendError)
    (resolveError : Option ActorResolveError) : Except CreateNoteError CreateNoteOutcome :=
  match sendError, resolveError with
  | some e, _ => .error (.ActivitySender e)
  | none, some e => .error (.ActorResolver e)
  | none, none => .ok outcome

theorem noteResult_ok {outcome : CreateNoteOutcome} {sendError : Option SendError}
    {resolveError : Option ActorResolveError} :
    (∃ result, noteResult outcome sendError resolveError = .ok result) ↔
      resolveError = none ∧ sendError = none := by
  cases sendError <;> cases resolveError <;> simp [noteResult]

/-- what is handed to `send_activity` for a Note -/
def noteAttempt (localActor : Actor) (keyPair : ActorKeyPair) (input : CreateNoteInput)
    (inbox : Iri) : Attempt :=
  ⟨localActor, keyPair, (Feder.createNote localActor input).activity.serialize Note.serialize,
    inbox⟩

/-- the run of `create_note`, with the audience that its loops gather -/
theorem run_createNote {server : FederServer} {localActorId : Iri} {localActor : Actor}
    (hactor : server.getActorById localActorId = .ok (some localActor)) (input : CreateNoteInput)
    {store : SqliteStore} {targets : List FollowerDeliveryTarget}
    (htargets : addressesFollowers localActor input = true →
      store.listFollowerDeliveryTargets localActor.id = .ok targets)
    {keyPair : ActorKeyPair} (hkey : store.loadActorKeyPair localActor.id = .ok (some keyPair)) :
    ∃ audience : Audience,
      audience.Resolved server.resolver (Feder.createNote localActor input).recipients
        (fun i => addressesFollowers localActor input = true ∧
          ∃ t ∈ targets, i = t.deliveryInbox)
        (fun i => addressesFollowers localActor input = true ∧ ∃ t ∈ targets, i = t.actorId) ∧
      Prog.run (handle deliver) ⟨store, []⟩ (server.createNote localActorId input) =
        (noteResult (Feder.createNote localActor input)
          (firstError deliver (audience.inboxes.map (noteAttempt localActor keyPair input)))
          audience.firstActorResolveError,
          ⟨store.storeNote (Feder.createNote localActor input).note,
            audience.inboxes.map (noteAttempt localActor keyPair input)⟩) := by
  let note : Note := (Feder.createNote localActor input).note
  have hlist : ∀ localActorId, .Followers localActorId ∈ noteRecipients localActor note →
      (store.storeNote note).listFollowerDeliveryTargets localActorId = .ok targets := by
    intro localActorId hmem
    obtain ⟨_, _, hrecipient⟩ := mem_noteRecipients.mp hmem
    obtain ⟨rfl, _⟩ := noteRecipient_followers.mp hrecipient
    exact htargets (namesFollowers_iff.mp ⟨_, hmem⟩)
  have hstored : store.call (.storeNote note) = (.ok (), store.storeNote note) := rfl
  have hloaded : (store.storeNote note).call (.loadActorKeyPair localActor.id) =
      (.ok (some keyPair), store.storeNote note) := congrArg (·, store.storeNote note) hkey
  obtain ⟨followers, herror, hfollowers, hrun⟩ :=
    @run_coverFollowers _ _ _ _ deliver ⟨store.storeNote note, []⟩ CreateNoteOutcome
      (noteRecipients localActor note) targets hlist Audience.gathered_empty
  have hgathered : followers.Gathered
      (fun i => addressesFollowers localActor input = true ∧ ∃ t ∈ targets, i = t.deliveryInbox)
      (fun i => addressesFollowers localActor input = true ∧ ∃ t ∈ targets, i = t.actorId) := by
    refine hfollowers.congr (fun i => ?_) (fun i => ?_)
    · rw [false_or, ← namesFollowers_iff]
      rfl
    · rw [false_or, ← namesFollowers_iff]
      rfl
  refine ⟨_, hgathered.resolve herror server.resolver (noteRecipients localActor note), ?_⟩
  unfold FederServer.createNote
  rw [hactor]
  refine (run_call deliver ⟨store, []⟩ hstored).trans ((hrun _).trans ?_)
  dsimp only
  rw [show (Feder.createNote localActor input).recipients = noteRecipients localActor note from rfl]
  generalize (noteRecipients localActor note).foldl (resolveRecipient server.resolver) followers =
    audience
  by_cases hempty : audience.inboxes.isEmpty = true
  · rw [if_pos hempty, List.isEmpty_iff.mp hempty]
    cases audience.firstActorResolveError <;> rfl
  · rw [if_neg hempty, run_call deliver _ hloaded]
    dsimp only
    rw [run_sendAll]
    have hattempts : audience.inboxes.map (fun inbox => (⟨localActor, keyPair,
        (Feder.createNote localActor input).activity.serialize Note.serialize, inbox⟩ : Attempt)) =
          audience.inboxes.map (noteAttempt localActor keyPair input) := rfl
    rw [hattempts, Option.none_or, List.nil_append]
    cases firstError deliver (audience.inboxes.map (noteAttempt localActor keyPair input)) <;>
      cases audience.firstActorResolveError <;> rfl

/-- **A Note reaches exactly its audience.**  The attempted inboxes are distinct, and are those of
the followers, if the followers collection is addressed, and of the addressed actors that are no
such followers and can be resolved.  Every attempt carries the Create activity and comes after the
Note has been stored, and the call succeeds just when all those actors are resolved and all
attempts succeed. -/
theorem createNote_delivers (server : FederServer) (localActorId : Iri) (localActor : Actor)
    (hactor : server.getActorById localActorId = .ok (some localActor)) (input : CreateNoteInput)
    (store : SqliteStore) (targets : List FollowerDeliveryTarget)
    (htargets : addressesFollowers localActor input = true →
      store.listFollowerDeliveryTargets localActor.id = .ok targets)
    (keyPair : ActorKeyPair) (hkey : store.loadActorKeyPair localActor.id = .ok (some keyPair)) :
    let T := if addressesFollowers localActor input then targets else []
    let E := fun e => AddressesActor localActor input e ∧ ∀ t ∈ T, e ≠ t.actorId
    let run := Prog.run (handle deliver) ⟨store, []⟩ (server.createNote localActorId input)
    let attempted := run.2.sent.map Attempt.inbox
    attempted.Nodup ∧
    (∀ i, i ∈ attempted ↔ (∃ t ∈ T, i = t.sharedInbox.getD t.inbox) ∨
      ∃ e actor, E e ∧ server.resolver.resolve e = .ok actor ∧ i = actor.inbox) ∧
    run.2.sent = attempted.map (noteAttempt localActor keyPair input) ∧
    Prog.Sat (fun past o => o.Sends →
        stored (.storeNote (Feder.createNote localActor input).note) (.ok ()) ∈ past)
      (fun _ _ => True) [] (server.createNote localActorId input) ∧
    ((∃ outcome, run.1 = .ok outcome) ↔
      (∀ e, E e → ∃ actor, server.resolver.resolve e = .ok actor) ∧
        ∀ attempt ∈ run.2.sent, deliver attempt = .ok ()) := by
  obtain ⟨audience, ⟨hgathered, herror⟩, hrun⟩ := run_createNote deliver hactor input htargets hkey
  intro T E run attempted
  have hT : ∀ (column : FollowerDeliveryTarget → Iri) i,
      (addressesFollowers localActor input = true ∧ ∃ t ∈ targets, i = column t) ↔
        ∃ t ∈ T, i = column t := by
    intro column i
    show _ ↔ ∃ t ∈ (if addressesFollowers localActor input then targets else []), i = column t
    split <;> simp [*]
  have hneeded : ∀ e, Needed (Feder.createNote localActor input).recipients
      (fun i => addressesFollowers localActor input = true ∧ ∃ t ∈ targets, i = t.actorId) e ↔
        E e := by
    intro e
    rw [needed_iff, hT]
    simp only [E, not_exists, not_and]
  have hrun' : run = _ := hrun
  have hsent : run.2.sent = audience.inboxes.map (noteAttempt localActor keyPair input) := by
    rw [hrun']
  have hattempted : attempted = audience.inboxes := by
    show run.2.sent.map Attempt.inbox = _
    rw [hsent, List.map_map]
    exact List.map_id' _
  have hresult : run.1 = noteResult (Feder.createNote localActor input)
      (firstError deliver run.2.sent) audience.firstActorResolveError := by
    rw [hrun']
  refine ⟨hattempted ▸ hgathered.nodup, fun i => ?_, hattempted ▸ hsent,
    createNote_stores_first hactor input, ?_⟩
  · rw [hattempted, hgathered.inboxes_iff, hT]
    simp only [hneeded]
    rfl
  · rw [hresult, noteResult_ok, firstError_eq_none, herror]
    simp only [hneeded]

end

end

/-! ## a Note to followers and to one of them -/

section
attribute [local instance] libraries

namespace Peer

/-- alice with a followers collection -/
def followedAlice : Actor :=
  { alice.actor with followers := some ⟨"http://a.x/alice/followers", by decide⟩ }

def followedServer : FederServer :=
  { alice.server with getActorById := fun _ => .ok (some followedAlice) }

/-- a Note to the followers, to alice herself and to bob -/
def noteInput : CreateNoteInput where
  noteId := ⟨"http://a.x/notes/1", by decide⟩
  createId := ⟨"http://a.x/creates/1", by decide⟩
  to_ := ⟨[⟨"http://a.x/alice/followers", by decide⟩, alice.actor.id]⟩
  cc := ⟨[bob.actor.id]⟩
  content := "hello"
  mediaType := none
  published := none
  url := none

def bobTarget : FollowerDeliveryTarget := ⟨bob.actor.id, bob.actor.inbox, bob.actor.sharedInbox⟩

end Peer

/-- bob follows alice: the Note goes to his shared inbox, and the call succeeds -/
theorem createNote_delivers_of_alice :
    let run := Prog.run (handle fun _ => .ok ())
      ⟨Peer.alice.store.storeFollower Peer.bob.actor Peer.alice.actor.id, []⟩
      (Peer.followedServer.createNote Peer.alice.actor.id Peer.noteInput)
    (⟨"http://b.x/inbox", by decide⟩ : Iri) ∈ run.2.sent.map Attempt.inbox ∧
      ∃ outcome, run.1 = .ok outcome := by
  have hlist : (Peer.alice.store.storeFollower Peer.bob.actor
      Peer.alice.actor.id).listFollowerDeliveryTargets Peer.alice.actor.id =
        .ok [Peer.bobTarget] := by decide +kernel
  have haddressed : addressesFollowers Peer.followedAlice Peer.noteInput = true := by decide
  have hkey : (Peer.alice.store.storeFollower Peer.bob.actor
      Peer.alice.actor.id).loadActorKeyPair Peer.alice.actor.id =
        .ok (some Peer.alice.keyPair) :=
    congrArg Prod.fst (@Peer.load_keyPair .alice _ rfl)
  obtain ⟨_, hmem, _, _, hok⟩ := createNote_delivers (fun _ => .ok ()) Peer.followedServer
    Peer.alice.actor.id Peer.followedAlice rfl Peer.noteInput
    (Peer.alice.store.storeFollower Peer.bob.actor Peer.alice.actor.id) [Peer.bobTarget]
    (fun _ => hlist) Peer.alice.keyPair hkey
  rw [haddressed] at hmem hok
  refine ⟨(hmem _).mpr (Or.inl ⟨Peer.bobTarget, List.mem_cons_self, rfl⟩),
    hok.mpr ⟨fun e he => ?_, fun _ _ => rfl⟩⟩
  -- the only other address is the one of a follower
  obtain ⟨⟨haddress, hfollowers, _, hself⟩, hcovered⟩ := he
  have hbob : e ≠ Peer.bobTarget.actorId := hcovered Peer.bobTarget List.mem_cons_self
  rcases List.mem_cons.mp haddress with rfl | haddress
  · exact absurd rfl hfollowers
  · rcases List.mem_cons.mp haddress with rfl | haddress
    · exact absurd rfl hself
    · exact absurd (List.mem_singleton.mp haddress) hbob

end

end Feder
