import Feder.Server.Routes

/-!
# The identity that is acted on

Verification and routing read the ids of an activity from its raw JSON, the protocol decides on the
activity that the codec read.  Both readings find the same ids.

* `Decoded`               what the codec read of the slots of an activity;
* `reference_sound`       the raw reading of a decoded slot finds its id or none;
* `raw_identity`          the raw ids of a Follow, an Accept and an Undo are those of the activity.
-/

namespace Feder
open Serde

section
variable [Crates]

/-- The raw reading `raw` of a slot against the id decoded there: never another id, and that id
where the slot is a text or an object. -/
structure SameId (slot : Option Json) (raw : Option Iri) (decoded : Iri) : Prop where
  sound : ∀ i, raw = some i → i = decoded
  total : ∀ j, slot = some j → isSlot j = true → raw = some decoded

/-! ## decoded slots -/

theorem isSlot_of_valueReferenceId {j : Json} {i : Iri} (h : valueReferenceId j = some i) :
    isSlot j = true := by
  cases j with
  | str | obj => rfl
  | null | bool | int | decimal | arr => cases h

/-- **The raw reading of a decoded slot finds its id or none.** -/
theorem reference_sound {α : Type} {de : Json → Option α} {idOf : Reference α → Iri}
    (hslot : ∀ {j r}, isSlot j = true → Reference.deserialize de j = some r →
      valueReferenceId j = some (idOf r))
    {j : Json} {r : Reference α} (h : Reference.deserialize de j = some r) :
    SameId (some j) (valueReferenceId j) (idOf r) := by
  constructor
  · intro i hi
    have hr := hslot (isSlot_of_valueReferenceId hi) h
    rw [hi] at hr
    exact Option.some.inj hr
  · intro j' hj' hslot'
    cases hj'
    exact hslot hslot' h

/-- what the codec read of the slots of an activity with an object of type `α` -/
structure Decoded {α : Type} (kind : String) (de : Json → Option α) (value : Json)
    (actor : Reference Actor) (object : Reference α) : Prop where
  type : ∀ s, activityType value = some s → s = kind
  actor : ∀ j, value.get "actor" = some j → Reference.deserialize Actor.deserialize j = some actor
  object : ∀ j, value.get "object" = some j → Reference.deserialize de j = some object

theorem Decoded.of_arr {α : Type} {kind : String} {de : Json → Option α} {items : List Json}
    {actor : Reference Actor} {object : Reference α} :
    Decoded kind de (.arr items) actor object := by
  constructor
  · intro s h
    cases h
  · intro j h
    cases h
  · intro j h
    cases h

omit [Crates] in
theorem required_lookup {β : Type} {de : Json → Option β} {fields : List (String × Json)}
    {name : String} {b : β} (h : required de (.ofKey (fields.lookup name)) = some b) {j : Json}
    (hj : (Json.obj fields).get name = some j) : de j = some b := by
  obtain ⟨j', hj', hb⟩ := required_ofKey h
  rw [Json.get_obj, hj'] at hj
  cases hj
  exact hb

omit [Crates] in
theorem activityType_of_required {κ : Type} {name : String} {k : κ}
    {fields : List (String × Json)} {k' : κ}
    (h : required (unitVariant [(name, k)]) (.ofKey (fields.lookup "type")) = some k') (s : String)
    (hs : activityType (.obj fields) = some s) : s = name := by
  obtain ⟨j, hj, htext⟩ := Option.bind_eq_some_iff.mp hs
  have hk := required_lookup h hj
  cases j with
  | str t =>
    cases htext
    by_contra hne
    have hnone : unitVariant [(name, k)] (.str s) = none := by
      show List.lookup s [(name, k)] = none
      rw [List.lookup_cons, beq_false_of_ne hne]
      rfl
    rw [hnone] at hk
    cases hk
  | null | bool | int | decimal | arr | obj => cases htext

theorem Follow.decoded {value : Json} {f : Follow} (h : Follow.deserialize value = some f) :
    Decoded "Follow" Actor.deserialize value f.actor f.object := by
  unfold Follow.deserialize at h
  simp only [Option.bind_eq_bind, Option.bind_eq_some_iff] at h
  obtain ⟨field, hfield, _, _, _, htype, _, _, actor, hactor, object, hobject, h⟩ := h
  cases h
  cases value with
  | obj fields =>
    rw [slots_obj hfield] at htype hactor hobject
    exact ⟨activityType_of_required htype, fun _ => required_lookup hactor,
      fun _ => required_lookup hobject⟩
  | arr items => exact Decoded.of_arr
  | null | bool | int | decimal | str => cases hfield

theorem Accept.decoded {value : Json} {a : Accept} (h : Accept.deserialize value = some a) :
    Decoded "Accept" Follow.deserialize value a.actor a.object := by
  unfold Accept.deserialize at h
  simp only [Option.bind_eq_bind, Option.bind_eq_some_iff] at h
  obtain ⟨field, hfield, _, _, _, htype, _, _, actor, hactor, object, hobject, h⟩ := h
  cases h
  cases value with
  | obj fields =>
    rw [slots_obj hfield] at htype hactor hobject
    exact ⟨activityType_of_required htype, fun _ => required_lookup hactor,
      fun _ => required_lookup hobject⟩
  | arr items => exact Decoded.of_arr
  | null | bool | int | decimal | str => cases hfield

theorem Undo.decoded {value : Json} {u : Undo} (h : Undo.deserialize value = some u) :
    Decoded "Undo" Follow.deserialize value u.actor u.object := by
  unfold Undo.deserialize at h
  simp only [Option.bind_eq_bind, Option.bind_eq_some_iff] at h
  obtain ⟨field, hfield, _, _, _, htype, _, _, actor, hactor, object, hobject, h⟩ := h
  cases h
  cases value with
  | obj fields =>
    rw [slots_obj hfield] at htype hactor hobject
    exact ⟨activityType_of_required htype, fun _ => required_lookup hactor,
      fun _ => required_lookup hobject⟩
  | arr items => exact Decoded.of_arr
  | null | bool | int | decimal | str => cases hfield

/-! ## the raw ids of an activity -/

section
variable {α : Type} {kind : String} {de : Json → Option α} {value : Json}
  {actor : Reference Actor} {object : Reference α}

theorem Decoded.sameActor (h : Decoded kind de value actor object) :
    SameId (value.get "actor") (activityActorId value) (referenceId actor) := by
  unfold activityActorId
  cases hj : value.get "actor" with
  | none =>
    refine ⟨fun i hi => ?_, fun j hj => ?_⟩
    · cases hi
    · cases hj
  | some j => exact reference_sound actor_slot (h.actor j hj)

theorem Decoded.sameObject {idOf : Reference α → Iri}
    (hslot : ∀ {j r}, isSlot j = true → Reference.deserialize de j = some r →
      valueReferenceId j = some (idOf r))
    (h : Decoded kind de value actor object) :
    SameId (value.get "object") ((value.get "object").bind valueReferenceId) (idOf object) := by
  cases hj : value.get "object" with
  | none =>
    refine ⟨fun i hi => ?_, fun j hj => ?_⟩
    · cases hi
    · cases hj
  | some j => exact reference_sound hslot (h.object j hj)

end

/-- the target of an activity is read along its type -/
theorem activityTargetId_cases {value : Json} {target : Iri}
    (h : activityTargetId value = some target) :
    (activityType value = some "Follow" ∧
        (value.get "object").bind valueReferenceId = some target) ∨
      (activityType value = some "Undo" ∧
        ∃ j, value.get "object" = some j ∧ (j.get "object").bind valueReferenceId = some target) := by
  unfold activityTargetId at h
  split at h
  · rename_i htype
    exact Or.inl ⟨htype, h⟩
  · rename_i htype
    obtain ⟨k, hk, htarget⟩ := Option.bind_eq_some_iff.mp h
    obtain ⟨j, hj, hnested⟩ := Option.bind_eq_some_iff.mp hk
    refine Or.inr ⟨htype, j, hj, ?_⟩
    rw [hnested, Option.bind_some]
    exact htarget
  · cases h

theorem embedded_of_nested {j : Json} {r : Reference Follow}
    (h : Reference.deserialize Follow.deserialize j = some r) {k : Json}
    (hk : j.get "object" = some k) :
    ∃ f, r = .object f ∧ Reference.deserialize Actor.deserialize k = some f.object := by
  rcases Reference.deserialize_eq_some.mp h with ⟨i, hi, rfl⟩ | ⟨_, f, hf, rfl⟩
  · cases j with
    | obj fields => cases hi
    | null | bool | int | decimal | str | arr => cases hk
  · exact ⟨f, rfl, (Follow.decoded hf).object k hk⟩

/-- **The raw ids of an activity are those of the decoded one.**  The actor and the object of an
Accept: where a raw id is found it is the decoded one, and it is found in every text and object.
The target of a Follow and of an Undo with an embedded Follow: the same, where the type of the
activity is a text. -/
theorem raw_identity (value : Json) :
    (∀ f, Follow.deserialize value = some f →
      SameId (value.get "actor") (activityActorId value) (referenceId f.actor) ∧
      (∀ t, activityTargetId value = some t → t = referenceId f.object) ∧
      ((activityType value).isSome →
        SameId (value.get "object") (activityTargetId value) (referenceId f.object))) ∧
    (∀ a, Accept.deserialize value = some a →
      SameId (value.get "actor") (activityActorId value) (referenceId a.actor) ∧
      activityTargetId value = none ∧
      SameId (value.get "object") ((value.get "object").bind valueReferenceId)
        (followReferenceId a.object)) ∧
    (∀ u, Undo.deserialize value = some u →
      SameId (value.get "actor") (activityActorId value) (referenceId u.actor) ∧
      (∀ t, activityTargetId value = some t →
        ∃ f, u.object = .object f ∧ t = referenceId f.object) ∧
      (∀ f, u.object = .object f → (activityType value).isSome →
        SameId ((value.get "object").bind (Json.get "object")) (activityTargetId value)
          (referenceId f.object))) := by
  refine ⟨fun f hf => ?_, fun a ha => ?_, fun u hu => ?_⟩
  · have hdecoded := Follow.decoded hf
    have hobject := hdecoded.sameObject actor_slot
    have hsound : ∀ t, activityTargetId value = some t → t = referenceId f.object := by
      intro t ht
      rcases activityTargetId_cases ht with ⟨_, h⟩ | ⟨htype, _⟩
      · exact hobject.sound t h
      · exact absurd (hdecoded.type _ htype) (by decide)
    refine ⟨hdecoded.sameActor, hsound, fun htext => ⟨hsound, fun j hj hslot => ?_⟩⟩
    obtain ⟨s, hs⟩ := Option.isSome_iff_exists.mp htext
    unfold activityTargetId
    rw [hs, hdecoded.type s hs]
    exact hobject.total j hj hslot
  · have hdecoded := Accept.decoded ha
    refine ⟨hdecoded.sameActor, ?_, hdecoded.sameObject fun hslot h => (follow_slot hslot h).1⟩
    rw [Option.eq_none_iff_forall_ne_some]
    intro t ht
    rcases activityTargetId_cases ht with ⟨htype, _⟩ | ⟨htype, _⟩
    · exact absurd (hdecoded.type _ htype) (by decide)
    · exact absurd (hdecoded.type _ htype) (by decide)
  · have hdecoded := Undo.decoded hu
    have hsound : ∀ t, activityTargetId value = some t →
        ∃ f, u.object = .object f ∧ t = referenceId f.object := by
      intro t ht
      rcases activityTargetId_cases ht with ⟨htype, _⟩ | ⟨_, j, hj, h⟩
      · exact absurd (hdecoded.type _ htype) (by decide)
      · obtain ⟨k, hk, htarget⟩ := Option.bind_eq_some_iff.mp h
        obtain ⟨f, hf, hnested⟩ := embedded_of_nested (hdecoded.object j hj) hk
        exact ⟨f, hf, (reference_sound actor_slot hnested).sound t htarget⟩
    refine ⟨hdecoded.sameActor, hsound, fun f hf htext => ⟨fun t ht => ?_, fun k hk hslot => ?_⟩⟩
    · obtain ⟨f', hf', ht'⟩ := hsound t ht
      rw [hf] at hf'
      cases hf'
      exact ht'
    · obtain ⟨s, hs⟩ := Option.isSome_iff_exists.mp htext
      obtain ⟨j, hj, hjk⟩ := Option.bind_eq_some_iff.mp hk
      obtain ⟨f', hf', hnested⟩ := embedded_of_nested (hdecoded.object j hj) hjk
      rw [hf] at hf'
      cases hf'
      unfold activityTargetId
      rw [hs, hdecoded.type s hs]
      show ((value.get "object").bind (Json.get "object")).bind valueReferenceId = _
      rw [hk, Option.bind_some]
      exact (reference_sound actor_slot hnested).total k rfl hslot

end

section
attribute [local instance] libraries

/-- alice's Follow of bob, bob's Accept and alice's Undo are routed as they are decoded -/
theorem raw_identity_of_peers :
    activityTargetId Peer.follow.serialize = some Peer.bob.actor.id ∧
    (Peer.accept.serialize.get "object").bind valueReferenceId = some Peer.followId ∧
    activityTargetId Peer.undo.serialize = some Peer.bob.actor.id := by
  obtain ⟨_, _, hfollow⟩ := (raw_identity Peer.follow.serialize).1 Peer.follow
    (Follow.deserialize_serialize _)
  obtain ⟨_, _, haccept⟩ := (raw_identity Peer.accept.serialize).2.1 Peer.accept
    (Accept.deserialize_serialize _)
  obtain ⟨_, _, hundo⟩ := (raw_identity Peer.undo.serialize).2.2 Peer.undo
    (Undo.deserialize_serialize _)
  exact ⟨(hfollow rfl).total _ rfl rfl, haccept.total _ rfl rfl,
    (hundo Peer.follow rfl rfl).total _ rfl rfl⟩

/-- a Follow whose type is an object over `null` is read, but its target is not -/
theorem target_of_object_type : ¬ ∀ value f, Follow.deserialize value = some f →
    (∀ name ∈ ["type", "object"], ∃ j, value.get name = some j ∧ isSlot j = true) →
    ∃ t, activityTargetId value = some t := by
  intro h
  let value : Json := .obj [("type", .obj [("Follow", .null)]), ("id", Peer.followId.serialize),
    ("actor", Peer.alice.actor.id.serialize), ("object", Peer.bob.actor.id.serialize)]
  have hread : Follow.deserialize value = some ⟨none, .Follow, Peer.followId,
      .id Peer.alice.actor.id, .id Peer.bob.actor.id⟩ := by
    rfl
  obtain ⟨t, ht⟩ := h value _ hread (by
    intro name hname
    simp only [List.mem_cons, List.not_mem_nil, or_false] at hname
    rcases hname with rfl | rfl
    · exact ⟨_, rfl, rfl⟩
    · exact ⟨_, rfl, rfl⟩)
  cases ht

end

end Feder
