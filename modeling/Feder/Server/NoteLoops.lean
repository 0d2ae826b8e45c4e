import Feder.Lib.History
import Feder.Server.Audience

/-!
# The loops of `create_note` beside other calls

While other calls run, the first loop over the recipients lists the followers at several steps, and
the loop over the inboxes sends at several steps.

* `sat_coverFollowers`, `sat_sendAll`             the operations of the loops;
* `replays_coverFollowers`, `replays_sendAll`     what the loops have done when the call succeeds;
* `gathered_listed`                               what is gathered behind the listings.
-/

namespace Feder
open Serde

section
variable [Crates]

/-! ## what the loops do -/

/-- the followers that were listed -/
def listedTargets (past : List OpEvent) : List FollowerDeliveryTarget :=
  past.flatMap fun
    | ⟨.store (.listFollowerDeliveryTargets _), .ok targets⟩ => targets
    | _ => []

/-- the inboxes that were delivered to -/
def sentTo (past : List OpEvent) : List Iri :=
  past.filterMap fun
    | ⟨.sendActivity _ _ _ inbox, _⟩ => some inbox
    | _ => none

/-- a delivery that succeeds -/
def delivered (localActor : Actor) (keyPair : ActorKeyPair) (activity : Json) (inbox : Iri) :
    OpEvent :=
  ⟨.sendActivity localActor keyPair activity inbox, .ok ()⟩

/-- the listings of the first loop -/
structure Lists.Of (recipients : List NoteRecipient) (listed : List OpEvent) : Prop where
  only : ∀ e ∈ listed, ∃ localActorId targets, .Followers localActorId ∈ recipients ∧
    e = stored (.listFollowerDeliveryTargets localActorId) (.ok targets)
  all : ∀ localActorId, .Followers localActorId ∈ recipients →
    ∃ targets, stored (.listFollowerDeliveryTargets localActorId) (.ok targets) ∈ listed

section
variable {recipients : List NoteRecipient} {listed past : List OpEvent}

theorem Lists.Of.sentTo (h : Lists.Of recipients listed) : sentTo listed = [] := by
  unfold Feder.sentTo
  rw [List.filterMap_eq_nil_iff]
  intro e he
  obtain ⟨_, _, _, rfl⟩ := h.only e he
  rfl

theorem Lists.Of.mem_targets (h : Lists.Of recipients listed) {target : FollowerDeliveryTarget} :
    target ∈ listedTargets listed ↔ ∃ localActorId targets, .Followers localActorId ∈ recipients ∧
      stored (.listFollowerDeliveryTargets localActorId) (.ok targets) ∈ listed ∧
      target ∈ targets := by
  unfold listedTargets
  rw [List.mem_flatMap]
  constructor
  · rintro ⟨e, he, htarget⟩
    obtain ⟨localActorId, targets, hmem, rfl⟩ := h.only e he
    exact ⟨localActorId, targets, hmem, he, htarget⟩
  · rintro ⟨localActorId, targets, _, he, htarget⟩
    exact ⟨_, he, htarget⟩

theorem Lists.Of.actor (h : Lists.Of recipients listed) (actorId : Iri) :
    Lists.Of (.Actor actorId :: recipients) listed := by
  refine ⟨fun e he => ?_, fun l hl => ?_⟩
  · obtain ⟨l, targets, hl, he⟩ := h.only e he
    exact ⟨l, targets, List.mem_cons_of_mem _ hl, he⟩
  · cases hl with
    | tail _ hl => exact h.all l hl

theorem Lists.Of.followers (h : Lists.Of recipients listed) (localActorId : Iri)
    (targets : List FollowerDeliveryTarget) :
    Lists.Of (.Followers localActorId :: recipients)
      (stored (.listFollowerDeliveryTargets localActorId) (.ok targets) :: listed) := by
  refine ⟨fun e he => ?_, fun l hl => ?_⟩
  · rcases List.mem_cons.mp he with rfl | he
    · exact ⟨localActorId, targets, List.mem_cons_self, rfl⟩
    · obtain ⟨l, targets, hl, he⟩ := h.only e he
      exact ⟨l, targets, List.mem_cons_of_mem _ hl, he⟩
  · rcases List.mem_cons.mp hl with hl | hl
    · cases hl
      exact ⟨targets, List.mem_cons_self⟩
    · obtain ⟨targets, ht⟩ := h.all l hl
      exact ⟨targets, List.mem_cons_of_mem _ ht⟩

/-- **The first loop** covers the followers that it has listed. -/
theorem replays_coverFollowers {α : Type} {next : Audience → Program (Except CreateNoteError α)}
    {audience : Audience} {a : α}
    (h : (coverFollowers next recipients audience).Replays past (.ok a)) :
    ∃ listed rest, past = listed ++ rest ∧ Lists.Of recipients listed ∧
      (next ((listedTargets listed).foldl coverTarget audience)).Replays rest (.ok a) := by
  induction recipients generalizing audience past with
  | nil => exact ⟨[], past, rfl, ⟨List.forall_mem_nil _, nofun⟩, h⟩
  | cons recipient recipients ih =>
    cases recipient with
    | Actor actorId =>
      obtain ⟨listed, rest, hpast, hlists, hrest⟩ := ih h
      exact ⟨listed, rest, hpast, hlists.actor actorId, hrest⟩
    | Followers localActorId =>
      obtain ⟨answer, later, rfl, hlater⟩ := h
      cases answer with
      | error e => cases hlater.2
      | ok targets =>
        obtain ⟨listed, rest, rfl, hlists, hrest⟩ := ih hlater
        refine ⟨stored (.listFollowerDeliveryTargets localActorId) (.ok targets) :: listed, rest, rfl,
          hlists.followers localActorId targets, ?_⟩
        show (next ((targets ++ listedTargets listed).foldl coverTarget audience)).Replays _ _
        rw [List.foldl_append]
        exact hrest

/-- what the loops gather behind the listings -/
theorem gathered_listed (resolver : ActorResolver) (recipients : List NoteRecipient)
    (listed : List OpEvent) :
    (recipients.foldl (resolveRecipient resolver)
      ((listedTargets listed).foldl coverTarget .empty)).Resolved resolver recipients
        (fun i => ∃ t ∈ listedTargets listed, i = t.deliveryInbox)
        (fun i => ∃ t ∈ listedTargets listed, i = t.actorId) := by
  have hlisted : ((listedTargets listed).foldl coverTarget .empty).Gathered
      (fun i => ∃ t ∈ listedTargets listed, i = t.deliveryInbox)
      (fun i => ∃ t ∈ listedTargets listed, i = t.actorId) := by
    refine (Audience.gathered_empty.coverTargets (listedTargets listed)).congr (fun i => ?_)
      (fun i => ?_)
    · rw [false_or]
    · rw [false_or]
  exact hlisted.resolve (coverTargets_error _ _) _ _

/-- **The deliveries** go to every inbox, and end without an error only if all succeed. -/
theorem replays_sendAll {α : Type} {localActor : Actor} {keyPair : ActorKeyPair} {activity : Json}
    {next : Option SendError → Program α} {inboxes : List Iri} {first : Option SendError} {a : α}
    (h : (sendAll localActor keyPair activity next inboxes first).Replays past a) :
    ∃ sent rest error, past = sent ++ rest ∧ (next error).Replays rest a ∧
      (error = none → first = none ∧
        sent = inboxes.map (delivered localActor keyPair activity)) := by
  induction inboxes generalizing first past with
  | nil => exact ⟨[], past, first, rfl, h, fun hnone => ⟨hnone, rfl⟩⟩
  | cons inbox inboxes ih =>
    obtain ⟨answer, later, rfl, hlater⟩ := h
    cases answer with
    | error e =>
      obtain ⟨sent, rest, error, rfl, hrest, hnone⟩ := ih hlater
      refine ⟨⟨.sendActivity localActor keyPair activity inbox, .error e⟩ :: sent, rest, error, rfl,
        hrest, fun herror => ?_⟩
      have hfirst := (hnone herror).1
      cases first <;> cases hfirst
    | ok u =>
      obtain ⟨sent, rest, error, rfl, hrest, hnone⟩ := ih hlater
      refine ⟨delivered localActor keyPair activity inbox :: sent, rest, error, rfl, hrest,
        fun herror => ?_⟩
      obtain ⟨hfirst, rfl⟩ := hnone herror
      exact ⟨hfirst, rfl⟩

end

/-! ## the operations of the loops -/

section
variable {α : Type} {φ : List OpEvent → Op → Prop}

/-- the first loop, by what comes behind its listings -/
theorem sat_coverFollowers {ψ : List OpEvent → Except CreateNoteError α → Prop}
    {next : Audience → Program (Except CreateNoteError α)} {recipients : List NoteRecipient}
    {audience : Audience} {past : List OpEvent}
    (hlist : ∀ past localActorId, φ past (.store (.listFollowerDeliveryTargets localActorId)))
    (herror : ∀ past e, ψ past (.error e))
    (hnext : ∀ listed, Lists.Of recipients listed →
      Prog.Sat φ ψ (past ++ listed) (next ((listedTargets listed).foldl coverTarget audience))) :
    Prog.Sat φ ψ past (coverFollowers next recipients audience) := by
  induction recipients generalizing audience past with
  | nil =>
    have hsat := hnext [] ⟨List.forall_mem_nil _, nofun⟩
    rw [List.append_nil] at hsat
    exact hsat
  | cons recipient recipients ih =>
    cases recipient with
    | Actor actorId => exact ih fun listed hlisted => hnext listed (hlisted.actor actorId)
    | Followers localActorId =>
      refine ⟨hlist _ _, fun answer => ?_⟩
      cases answer with
      | error e => exact herror _ _
      | ok targets =>
        refine ih fun listed hlisted => ?_
        have hsat := hnext _ (hlisted.followers localActorId targets)
        change Prog.Sat φ ψ _ (next ((targets ++ listedTargets listed).foldl _ _)) at hsat
        rw [List.foldl_append] at hsat
        rw [List.append_assoc]
        exact hsat

/-- the loop over the inboxes: each delivery comes behind those of the inboxes before it -/
theorem sat_sendAll {ψ : List OpEvent → α → Prop} {localActor : Actor} {keyPair : ActorKeyPair}
    {activity : Json} {next : Option SendError → Program α} {inboxes : List Iri}
    {first : Option SendError} {past : List OpEvent}
    (hsend : ∀ sent inbox rest, inboxes = sentTo sent ++ inbox :: rest →
      φ (past ++ sent) (.sendActivity localActor keyPair activity inbox))
    (hnext : ∀ past error, Prog.Sat φ ψ past (next error)) :
    Prog.Sat φ ψ past (sendAll localActor keyPair activity next inboxes first) := by
  induction inboxes generalizing first past with
  | nil => exact hnext past first
  | cons inbox inboxes ih =>
    refine ⟨?_, fun answer => ?_⟩
    · have hfirst := hsend [] inbox inboxes rfl
      rw [List.append_nil] at hfirst
      exact hfirst
    · have hlater : ∀ sent other rest, inboxes = sentTo sent ++ other :: rest →
          φ (past ++ [⟨.sendActivity localActor keyPair activity inbox, answer⟩] ++ sent)
            (.sendActivity localActor keyPair activity other) := by
        intro sent other rest hinboxes
        rw [List.append_assoc]
        refine hsend (⟨.sendActivity localActor keyPair activity inbox, answer⟩ :: sent) other rest ?_
        rw [hinboxes]
        rfl
      cases answer with
      | error e => exact ih hlater
      | ok u => exact ih hlater

end

end

end Feder
