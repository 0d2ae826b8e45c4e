import Feder.Server.Libraries

/-!
# What a verified request proves

A request that passes `verify_signed_request` is signed, over its own content, with a key of its own
actor, and agrees with any sent request whose signature it carries.

* `verifySignedRequest_sound`   the soundness of `verify_signed_request`.
-/

namespace Feder
open Serde Text

section
variable [Crates]

/-- the key is the one that the actor's own document names, or carries -/
def Advertises (actor : Actor) (key : CryptographicKey) : Prop :=
  actor.publicKey = some (.id key.id) ∨
    ∃ advertised, actor.publicKey = some (.object advertised) ∧ advertised.id = key.id ∧
      advertised.owner = actor.id ∧ advertised.publicKeyPem = key.publicKeyPem

theorem advertises_of_owns {actor : Actor} {key : CryptographicKey}
    (h : actorOwnsKey actor key = true) : Advertises actor key := by
  unfold actorOwnsKey at h
  split at h
  · rename_i advertisedKeyId hkey
    rw [beq_iff_eq] at h
    exact Or.inl (h ▸ hkey)
  · rename_i advertised hkey
    rw [Bool.and_eq_true, Bool.and_eq_true, beq_iff_eq, beq_iff_eq, beq_iff_eq] at h
    exact Or.inr ⟨advertised, hkey, h.1.1, h.1.2, h.2⟩
  · cases h

/-- **Soundness of `verify_signed_request`.**  A request that is verified carries the id of its
actor, is signed with a key that this actor owns and advertises, over its own method, target and
`Host`, `Date` and `Digest` headers, each of which it has once; and if it carries the signature of
a request that `send_activity` built, it agrees with that request in all that is signed and in
the body. -/
theorem verifySignedRequest_sound (hcrypto : SecureCrypto) (resolver : ActorResolver) (now : Int)
    (request : InboxRequest) (activityActorId expectedInbox : Iri) (actor : Actor)
    (h : verifySignedRequest resolver now request activityActorId expectedInbox = .ok actor) :
    ∃ header signature signedHeaders publicKey,
      (request.headers.get "signature").bind toStr = some header ∧
      parseSignatureHeader header = some signature ∧
      (actor.id = activityActorId ∧ publicKey.id.str = signature.keyId ∧
        resolver.resolveKey publicKey.id = .ok publicKey ∧ publicKey.owner = actor.id ∧
        resolver.resolve actor.id = .ok actor ∧ Advertises actor publicKey) ∧
      (verifyDraftCavage publicKey.publicKeyPem request.method.str request.uri.requestTarget
          signedHeaders signature.signature = .ok () ∧
        (∀ h ∈ signedHeaders, IsHeaderOf request.headers h) ∧
        ∀ name ∈ ["host", "date", "digest"], ∃ text, (name, text) ∈ signedHeaders) ∧
      (∀ addressPolicy now' localActor keyPair activity inbox r,
        buildRequest addressPolicy now' localActor keyPair activity inbox = .ok r →
        signatureValue keyPair r.method r.requestTarget r.headers = .ok signature.signature →
        SameSigned request r) := by
  obtain ⟨signature, signedHeaders, publicKey, hv⟩ := verifySignedRequest_ok h
  obtain ⟨header, hheader, hparse⟩ := hv.header
  obtain ⟨added, hadded, hnames, hheaders⟩ := collectSignedHeaders_some hv.collected
  rw [List.nil_append] at hadded
  subst hadded
  have hid := hv.actorId
  refine ⟨header, signature, signedHeaders, publicKey, hheader, hparse,
    ⟨hid, Iri.str_of_parse hv.keyId, hv.resolvedKey, ?_, ?_, advertises_of_owns hv.owns⟩,
    ⟨hv.verified, hheaders, ?_⟩, ?_⟩
  · rw [hid, hv.owner]
  · rw [hid, hv.resolved]
  · intro name hname
    have hmem := hv.required name hname
    rw [← hnames] at hmem
    obtain ⟨a, ha, rfl⟩ := List.mem_map.mp hmem
    exact ⟨a.2, ha⟩
  · intro addressPolicy now' localActor keyPair activity inbox r hbuilt hsignature
    exact sameSigned_of_verified hcrypto hv (buildRequest_ok hbuilt) hsignature

end

section
attribute [local instance] libraries

/-- a request from one server to the other -/
theorem verifySignedRequest_sound_between_peers : ∃ request publicKey,
    verifySignedRequest Peer.resolver 0 request Peer.alice.actor.id Peer.bob.actor.inbox =
      .ok Peer.alice.actor ∧
    publicKey.owner = Peer.alice.actor.id ∧ Advertises Peer.alice.actor publicKey := by
  obtain ⟨r, hr⟩ := Peer.exists_request .alice .bob .null
  obtain ⟨_, _, _, publicKey, _, _, ⟨_, _, _, howner, _, hadvertises⟩, _⟩ :=
    verifySignedRequest_sound libraries_secure Peer.resolver 0 _ Peer.alice.actor.id
      Peer.bob.actor.inbox Peer.alice.actor hr.verified
  exact ⟨_, publicKey, hr.verified, howner, hadvertises⟩

end

end Feder
