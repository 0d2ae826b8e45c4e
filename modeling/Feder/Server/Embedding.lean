import Feder.Server.Confinement

/-!
# IPv4 addresses in IPv6 addresses

The check of an address against the standard forms in which an IPv6 address embeds an IPv4 address.
A mapped address is judged as the address behind it, and the prefixes of NAT64 and 6to4 are not
public; the compatible form `::a.b.c.d` is in no network but `::/128` and `::1/128`.

* `rejects_mapped`, `rejects_nat64`, `rejects_sixToFour`, `rejects_compatible`   each form;
* `closedUnderEmbedding_iff`   where no rejected address is accepted in another form.
-/

namespace Feder

/-- the check refuses an address -/
def Rejects (address : IpAddr) : Prop := ∃ blocked, validatePublicAddress address = .error blocked

/-- the standard forms of an IPv6 address with an IPv4 address in it -/
inductive Embedding where
  | mapped
  | compatible
  | nat64
  | sixToFour (rest : BitVec 80)
deriving DecidableEq

/-- `::ffff:v`, `::v`, `64:ff9b::v` and an address in `2002:v::/48` -/
def Embedding.embed (v : BitVec 32) : Embedding → BitVec 128
  | .mapped => 0#80 ++ 0xffff#16 ++ v
  | .compatible => 0#96 ++ v
  | .nat64 => 0x64#16 ++ 0xff9b#16 ++ 0#64 ++ v
  | .sixToFour rest => 0x2002#16 ++ v ++ rest

/-- An IPv4 address that is rejected is rejected in every form, and one that is accepted is accepted
in the mapped form. -/
structure ClosedUnderEmbedding (v : BitVec 32) : Prop where
  rejected : Rejects (.V4 v) → ∀ form : Embedding, Rejects (.V6 (form.embed v))
  accepted : validatePublicAddress (.V4 v) = .ok () →
    validatePublicAddress (.V6 (Embedding.mapped.embed v)) = .ok ()

/-! ## the numbers of the forms -/

theorem toNat_append_add {m n : Nat} (x : BitVec m) (y : BitVec n) :
    (x ++ y).toNat = 2 ^ n * x.toNat + y.toNat := by
  rw [BitVec.toNat_append, ← Nat.shiftLeft_add_eq_or_of_lt y.isLt, Nat.shiftLeft_eq, Nat.mul_comm]

namespace Embedding

theorem toNat_mapped (v : BitVec 32) : (mapped.embed v).toNat = 2 ^ 32 * 0xffff + v.toNat := by
  unfold embed
  rw [toNat_append_add, toNat_append_add]
  rfl

theorem toNat_compatible (v : BitVec 32) : (compatible.embed v).toNat = v.toNat := by
  unfold embed
  rw [toNat_append_add]
  exact Nat.zero_add _

theorem toNat_nat64 (v : BitVec 32) :
    (nat64.embed v).toNat = 2 ^ 32 * (0x64 * 2 ^ 80 + 0xff9b * 2 ^ 64) + v.toNat := by
  unfold embed
  rw [toNat_append_add, toNat_append_add, toNat_append_add]
  rfl

theorem toNat_sixToFour (v : BitVec 32) (rest : BitVec 80) :
    ((sixToFour rest).embed v).toNat = 2 ^ 80 * (2 ^ 32 * 0x2002 + v.toNat) + rest.toNat := by
  unfold embed
  rw [toNat_append_add, toNat_append_add]
  rfl

end Embedding

/-! ## the check of each form -/

theorem rejects_or_ok (address : IpAddr) :
    Rejects address ∨ validatePublicAddress address = .ok () := by
  unfold Rejects
  cases validatePublicAddress address with
  | error blocked => exact Or.inl ⟨blocked, rfl⟩
  | ok u => exact Or.inr rfl

theorem not_rejects_iff {address : IpAddr} :
    ¬ Rejects address ↔ validatePublicAddress address = .ok () := by
  refine ⟨(rejects_or_ok address).resolve_left, fun h => ?_⟩
  rintro ⟨blocked, hblocked⟩
  rw [h] at hblocked
  cases hblocked

theorem networks_ok_iff {address : IpAddr} :
    validateNetworks address = .ok () ↔ IsPublic address := by
  refine ⟨public_of_networks, fun h => ?_⟩
  unfold validateNetworks
  rw [if_neg]
  rw [Bool.not_eq_true, List.any_eq_false]
  intro network hnetwork hcontains
  rw [h network hnetwork] at hcontains
  cases hcontains

theorem validate_of_not_mapped {address : BitVec 128} (h : toIpv4Mapped address = none) :
    validatePublicAddress (.V6 address) = .ok () ↔ IsPublic (.V6 address) := by
  unfold validatePublicAddress
  dsimp only
  rw [h]
  exact networks_ok_iff

theorem toIpv4Mapped_eq_none {address : BitVec 128} (h : address.toNat / 2 ^ 32 ≠ 0xffff) :
    toIpv4Mapped address = none := by
  unfold toIpv4Mapped
  rw [if_neg]
  intro e
  have hnat := congrArg BitVec.toNat e
  rw [BitVec.toNat_ushiftRight, Nat.shiftRight_eq_div_pow] at hnat
  exact h hnat

/-- membership in a network, in numbers -/
theorem contains_iff {network address : BitVec 128} {length : Nat} :
    (IpNet.V6 network length).contains (.V6 address) = true ↔
      address.toNat / 2 ^ (128 - length) = network.toNat / 2 ^ (128 - length) := by
  unfold IpNet.contains
  rw [beq_iff_eq, BitVec.toNat_eq, BitVec.toNat_ushiftRight, BitVec.toNat_ushiftRight,
    Nat.shiftRight_eq_div_pow, Nat.shiftRight_eq_div_pow]

theorem rejects_of_network (network : BitVec 128) (length : Nat) {address : BitVec 128}
    (hnetwork : IpNet.V6 network length ∈ nonPublicNetworks)
    (h : address.toNat / 2 ^ (128 - length) = network.toNat / 2 ^ (128 - length))
    (hmapped : address.toNat / 2 ^ 32 ≠ 0xffff) : Rejects (.V6 address) := by
  by_contra hrejects
  have hpublic := (validate_of_not_mapped (toIpv4Mapped_eq_none hmapped)).mp
    (not_rejects_iff.mp hrejects)
  have hcontains := hpublic _ hnetwork
  rw [contains_iff.mpr h] at hcontains
  cases hcontains

/-- **The mapped form is judged as the address behind it.** -/
theorem rejects_mapped (v : BitVec 32) :
    Rejects (.V6 (Embedding.mapped.embed v)) ↔ Rejects (.V4 v) := by
  have hmapped : toIpv4Mapped (Embedding.mapped.embed v) = some v := by
    unfold toIpv4Mapped
    rw [if_pos]
    · exact congrArg some BitVec.setWidth_append_eq_right
    · apply BitVec.eq_of_toNat_eq
      have hlt := v.isLt
      rw [BitVec.toNat_ushiftRight, Nat.shiftRight_eq_div_pow, Embedding.toNat_mapped]
      show _ = 0xffff
      omega
  rw [← not_iff_not, not_rejects_iff, not_rejects_iff]
  unfold validatePublicAddress
  dsimp only
  rw [hmapped]

/-- **Every NAT64 address is rejected.** -/
theorem rejects_nat64 (v : BitVec 32) : Rejects (.V6 (Embedding.nat64.embed v)) := by
  have hlt := v.isLt
  have hnat := Embedding.toNat_nat64 v
  apply rejects_of_network (ipv6 0x64 0xff9b 0 0 0 0 0 0) 96 (by decide)
  · rw [hnat, show (ipv6 0x64 0xff9b 0 0 0 0 0 0).toNat = 2 ^ 32 * (0x64 * 2 ^ 80 + 0xff9b * 2 ^ 64)
      from rfl]
    omega
  · omega

/-- **Every 6to4 address is rejected.** -/
theorem rejects_sixToFour (v : BitVec 32) (rest : BitVec 80) :
    Rejects (.V6 ((Embedding.sixToFour rest).embed v)) := by
  have hlt := v.isLt
  have hrest := rest.isLt
  have hnat := Embedding.toNat_sixToFour v rest
  apply rejects_of_network (ipv6 0x2002 0 0 0 0 0 0 0) 16 (by decide)
  · rw [hnat, show (ipv6 0x2002 0 0 0 0 0 0 0).toNat = 2 ^ 112 * 0x2002 from rfl]
    omega
  · omega

/-- a prefix of a network that no address below 2^32 has -/
def apartFromLow : IpNet → Bool
  | .V4 _ _ => true
  | .V6 network length => length ≤ 96 && network.toNat / 2 ^ (128 - length) != 0

theorem networks_low : ∀ network ∈ nonPublicNetworks, apartFromLow network = true ∨
    network = .V6 0 128 ∨ network = .V6 1 128 := by
  decide

/-- **The compatible form is rejected for two addresses only.** -/
theorem rejects_compatible (v : BitVec 32) :
    Rejects (.V6 (Embedding.compatible.embed v)) ↔ v = 0 ∨ v = 1 := by
  have hlt := v.isLt
  have hnat := Embedding.toNat_compatible v
  have hmapped : (Embedding.compatible.embed v).toNat / 2 ^ 32 ≠ 0xffff := by
    rw [hnat, Nat.div_eq_of_lt hlt]
    decide
  constructor
  · intro hrejects
    by_contra hv
    rw [not_or] at hv
    refine not_rejects_iff.mpr ?_ hrejects
    rw [validate_of_not_mapped (toIpv4Mapped_eq_none hmapped)]
    intro network hnetwork
    rw [← Bool.not_eq_true]
    intro hcontains
    rcases networks_low network hnetwork with hapart | rfl | rfl
    · cases network with
      | V4 _ _ => cases hcontains
      | V6 network length =>
        rw [apartFromLow, Bool.and_eq_true, decide_eq_true_eq, bne_iff_ne] at hapart
        obtain ⟨hlength, hne⟩ := hapart
        rw [contains_iff, hnat] at hcontains
        have hwide : 2 ^ 32 ≤ 2 ^ (128 - length) := Nat.pow_le_pow_right (by omega) (by omega)
        rw [Nat.div_eq_of_lt (by omega)] at hcontains
        exact hne hcontains.symm
    · rw [contains_iff, hnat, Nat.sub_self, Nat.pow_zero, Nat.div_one, Nat.div_one] at hcontains
      exact hv.1 (BitVec.eq_of_toNat_eq hcontains)
    · rw [contains_iff, hnat, Nat.sub_self, Nat.pow_zero, Nat.div_one, Nat.div_one] at hcontains
      exact hv.2 (BitVec.eq_of_toNat_eq hcontains)
  · rintro (rfl | rfl)
    · exact rejects_of_network 0 128 (by decide) (by rw [hnat]; rfl) hmapped
    · exact rejects_of_network 1 128 (by decide) (by rw [hnat]; rfl) hmapped

/-! ## all forms -/

/-- **Where no rejected address is accepted in another form**: exactly for the public addresses and
for the two whose compatible form is a network of its own.  All the other forms are as the address
behind them, or rejected. -/
theorem closedUnderEmbedding_iff (v : BitVec 32) :
    (ClosedUnderEmbedding v ↔
      validatePublicAddress (.V4 v) = .ok () ∨ v = ipv4 0 0 0 0 ∨ v = ipv4 0 0 0 1) ∧
    (Rejects (.V4 v) → ∀ form ≠ Embedding.compatible, Rejects (.V6 (form.embed v))) := by
  have hothers : Rejects (.V4 v) → ∀ form ≠ Embedding.compatible, Rejects (.V6 (form.embed v)) := by
    intro hrejects form hform
    cases form with
    | mapped => exact (rejects_mapped v).mpr hrejects
    | compatible => exact absurd rfl hform
    | nat64 => exact rejects_nat64 v
    | sixToFour rest => exact rejects_sixToFour v rest
  refine ⟨⟨fun hclosed => ?_, fun h => ⟨fun hrejects form => ?_, fun hok => ?_⟩⟩, hothers⟩
  · rcases rejects_or_ok (.V4 v) with hrejects | hok
    · exact Or.inr ((rejects_compatible v).mp (hclosed.rejected hrejects .compatible))
    · exact Or.inl hok
  · rcases h with hok | hv
    · exact absurd hrejects (not_rejects_iff.mpr hok)
    · by_cases hform : form = .compatible
      · rw [hform]
        exact (rejects_compatible v).mpr hv
      · exact hothers hrejects form hform
  · rw [← not_rejects_iff, rejects_mapped, not_rejects_iff]
    exact hok

/-- **The loopback address is accepted in the compatible form**, as the literal host of a URL too. -/
theorem compatible_loopback_accepted : ¬ ClosedUnderEmbedding (ipv4 127 0 0 1) ∧
    validateLiteralHost (some (.Ipv6 (Embedding.compatible.embed (ipv4 127 0 0 1)))) .PublicOnly =
      .ok () := by
  refine ⟨fun hclosed => ?_, by decide⟩
  have hrejects := hclosed.rejected ⟨_, rfl⟩ .compatible
  rw [rejects_compatible] at hrejects
  revert hrejects
  decide

end Feder
