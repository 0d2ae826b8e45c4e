import Feder.Vocab.Types

/-!
# Notes

The construction of a local Note and its Create activity, the visibility test and the derivation
of the recipients (`note.rs` of the core crate).

* `mem_noteRecipients`   the recipients are those of the addresses.
-/

namespace Feder
variable [IriSyntax]

/-- a delivery intent derived from the addressing of a Note -/
inductive NoteRecipient where
  | Followers (localActor : Iri)
  | Actor (address : Iri)
deriving DecidableEq

structure CreateNoteInput where
  noteId : Iri
  createId : Iri
  to_ : References Iri
  cc : References Iri
  content : String
  mediaType : Option String
  published : Option String
  url : Option Iri
deriving DecidableEq

structure CreateNoteOutcome where
  note : Note
  activity : Create Note
  recipients : List NoteRecipient
deriving DecidableEq

/-- the addresses of a Note in the order of `to` and `cc` -/
def Note.addresses (note : Note) : List Iri := note.to_.values ++ note.cc.values

def isPublicNote (note : Note) : Bool :=
  note.addresses.any (fun recipient => recipient.str == publicCollection)

/-- the recipient behind one address, none for the public collection and the actor itself -/
def noteRecipient (localActor : Actor) (address : Iri) : Option NoteRecipient :=
  if address.str = publicCollection ∨ address = localActor.id then none
  else if localActor.followers = some address then some (.Followers localActor.id)
  else some (.Actor address)

/-- one turn of the loop over the addresses -/
def addRecipient (localActor : Actor) (recipients : List NoteRecipient) (address : Iri) :
    List NoteRecipient :=
  match noteRecipient localActor address with
  | none => recipients
  | some recipient =>
    if recipient ∈ recipients then recipients else recipients ++ [recipient]

def noteRecipients (localActor : Actor) (note : Note) : List NoteRecipient :=
  note.addresses.foldl (addRecipient localActor) []

def createNote (localActor : Actor) (input : CreateNoteInput) : CreateNoteOutcome :=
  let actor : Reference Actor := .id localActor.id
  let note : Note :=
    { Note.new input.noteId with
      attributedTo := some actor
      to_ := input.to_
      cc := input.cc
      content := some input.content
      mediaType := input.mediaType
      published := input.published
      url := input.url }
  let activity : Create Note :=
    { Create.new input.createId actor (.object note) with
      to_ := note.to_
      cc := note.cc }
  ⟨note, activity, noteRecipients localActor note⟩

@[simp] theorem createNote_to (localActor : Actor) (input : CreateNoteInput) :
    (createNote localActor input).note.to_ = input.to_ := rfl

@[simp] theorem createNote_cc (localActor : Actor) (input : CreateNoteInput) :
    (createNote localActor input).note.cc = input.cc := rfl

/-! ## the recipients -/

theorem mem_addRecipient {localActor : Actor} {recipients : List NoteRecipient} {address : Iri}
    {r : NoteRecipient} : r ∈ addRecipient localActor recipients address ↔
      r ∈ recipients ∨ noteRecipient localActor address = some r := by
  unfold addRecipient
  cases noteRecipient localActor address with
  | none => simp
  | some recipient =>
    dsimp only
    by_cases h : recipient ∈ recipients
    · rw [if_pos h]
      constructor
      · exact Or.inl
      · rintro (hr | hr)
        · exact hr
        · exact Option.some.inj hr ▸ h
    · rw [if_neg h, List.mem_append, List.mem_singleton, Option.some.injEq, @eq_comm _ r]

/-- **The recipients are those of the addresses.** -/
theorem mem_noteRecipients {localActor : Actor} {note : Note} {r : NoteRecipient} :
    r ∈ noteRecipients localActor note ↔
      ∃ address ∈ note.addresses, noteRecipient localActor address = some r := by
  have hfold : ∀ (addresses : List Iri) (recipients : List NoteRecipient),
      r ∈ addresses.foldl (addRecipient localActor) recipients ↔
        r ∈ recipients ∨ ∃ address ∈ addresses, noteRecipient localActor address = some r := by
    intro addresses
    induction addresses with
    | nil => simp
    | cons address rest ih =>
      intro recipients
      rw [List.foldl_cons, ih, mem_addRecipient, or_assoc]
      simp
  unfold noteRecipients
  rw [hfold]
  simp

theorem noteRecipient_followers {localActor : Actor} {address i : Iri} :
    noteRecipient localActor address = some (.Followers i) ↔
      i = localActor.id ∧ localActor.followers = some address ∧ address.str ≠ publicCollection ∧
        address ≠ localActor.id := by
  unfold noteRecipient
  split
  · rename_i h
    simp only [reduceCtorEq, false_iff]
    rintro ⟨_, _, hpublic, hself⟩
    exact h.elim hpublic hself
  · rename_i h
    rw [not_or] at h
    split
    · rename_i hfollowers
      simp only [Option.some.injEq, NoteRecipient.Followers.injEq, @eq_comm _ localActor.id i]
      exact ⟨fun hi => ⟨hi, hfollowers, h⟩, And.left⟩
    · rename_i hfollowers
      simp only [Option.some.injEq, reduceCtorEq, false_iff]
      exact fun h => hfollowers h.2.1

theorem noteRecipient_actor {localActor : Actor} {address e : Iri} :
    noteRecipient localActor address = some (.Actor e) ↔
      e = address ∧ localActor.followers ≠ some e ∧ e.str ≠ publicCollection ∧
        e ≠ localActor.id := by
  unfold noteRecipient
  split
  · rename_i h
    simp only [reduceCtorEq, false_iff]
    rintro ⟨rfl, _, hpublic, hself⟩
    exact h.elim hpublic hself
  · rename_i h
    rw [not_or] at h
    split
    · rename_i hfollowers
      simp only [Option.some.injEq, reduceCtorEq, false_iff]
      rintro ⟨rfl, hne, _⟩
      exact hne hfollowers
    · rename_i hfollowers
      simp only [Option.some.injEq, NoteRecipient.Actor.injEq]
      constructor
      · rintro rfl
        exact ⟨rfl, hfollowers, h⟩
      · exact fun h => h.1.symm

end Feder
