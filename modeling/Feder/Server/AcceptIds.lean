import Feder.Lib.Percent
import Feder.Server.Completion

/-!
# Accept ids

The id of an Accept is that of the local actor with a fragment that holds the id of the Follow,
percent-encoded.

* `acceptIdForFollow_inj`      an Accept id determines both of the ids that it was made from;
* `acceptIds_collision_free`   when there is an Accept id, and when two Follows share one.
-/

namespace Feder
open Text

/-! ## the encoding of a Follow id -/

theorem percentEncode_eq (s : String) : percentEncode s = Percent.encodeText Char.isAlphanum s := rfl

theorem keeps_alphanum : Percent.Keeps Char.isAlphanum := by
  intro c hc
  refine ⟨?_, ?_⟩
  · have hnat := toNat_of_isAlphanum hc
    omega
  · rintro rfl
    revert hc
    decide

theorem percentEncode_inj {a b : String} (h : percentEncode a = percentEncode b) : a = b := by
  rw [percentEncode_eq, percentEncode_eq] at h
  exact Percent.encodeText_inj keeps_alphanum h

theorem isAlphanum_hexDigit {n : Nat} (h : n < 16) : (hexDigit n).isAlphanum = true := by
  have hnat := Percent.toNat_hexDigit h
  rw [isAlphanum_iff]
  split at hnat <;> omega

theorem mem_percentEncode {s : String} {c : Char} (h : c ∈ (percentEncode s).toList) :
    c.isAlphanum = true ∨ c = '%' := by
  rw [percentEncode, String.toList_ofList] at h
  obtain ⟨b, _, hc⟩ := List.mem_flatMap.mp h
  have hlt : b.toNat < 256 := b.toNat_lt
  dsimp only at hc
  split at hc
  · rename_i halphanum
    cases List.mem_singleton.mp hc
    exact Or.inl halphanum
  · simp only [List.mem_cons, List.not_mem_nil, or_false] at hc
    rcases hc with rfl | rfl | rfl
    · exact Or.inr rfl
    · exact Or.inl (isAlphanum_hexDigit (by omega))
    · exact Or.inl (isAlphanum_hexDigit (by omega))

theorem accepts_chars (s : String) : ∀ c ∈ ("accepts/" ++ percentEncode s).toList,
    c.isAlphanum = true ∨ c = '/' ∨ c = '%' := by
  intro c hc
  rw [String.toList_append, List.mem_append] at hc
  rcases hc with hc | hc
  · have hall : "accepts/".toList.all (fun c => c.isAlphanum || c == '/') = true := by decide
    have hchar := List.all_eq_true.mp hall c hc
    rw [Bool.or_eq_true, beq_iff_eq] at hchar
    exact hchar.imp_right Or.inl
  · exact (mem_percentEncode hc).imp_right Or.inr

section
variable [Crates]

/-! ## one fragment -/

/-- an IRI can be given a fragment of letters, digits, slashes and escapes exactly if it has none -/
def OneFragment : Prop :=
  ∀ (i : Iri) (fragment : String), isFragment fragment.toList = true →
    (∀ c ∈ fragment.toList, c.isAlphanum = true ∨ c = '/' ∨ c = '%') →
    (IriSyntax.valid (i.str ++ "#" ++ fragment) = true ↔ '#' ∉ i.str.toList)

theorem acceptIdForFollow_ok_iff (hone : OneFragment) {localActorId followId : Iri} :
    (∃ acceptId, acceptIdForFollow localActorId followId = .ok acceptId) ↔
      '#' ∉ localActorId.str.toList := by
  rw [← hone localActorId _ (isFragment_accepts followId.str) (accepts_chars followId.str)]
  unfold acceptIdForFollow
  rw [acceptId_text]
  constructor
  · rintro ⟨acceptId, h⟩
    split at h
    · rename_i hparse
      rw [← Iri.str_of_parse hparse]
      exact Iri.valid _
    · cases h
  · intro hvalid
    rw [Iri.parse, dif_pos hvalid]
    exact ⟨_, rfl⟩

theorem str_of_acceptIdForFollow {localActorId followId acceptId : Iri}
    (h : acceptIdForFollow localActorId followId = .ok acceptId) :
    acceptId.str.toList = localActorId.str.toList ++
      '#' :: ("accepts/".toList ++ (percentEncode followId.str).toList) := by
  unfold acceptIdForFollow at h
  split at h
  · rename_i hparse
    cases h
    rw [Iri.str_of_parse hparse, acceptId_text]
    simp
  · cases h

/-- **An Accept id determines both of the ids that it was made from.** -/
theorem acceptIdForFollow_inj (hone : OneFragment) {localActorId followId localActorId' followId'
    acceptId : Iri} (h : acceptIdForFollow localActorId followId = .ok acceptId)
    (h' : acceptIdForFollow localActorId' followId' = .ok acceptId) :
    localActorId = localActorId' ∧ followId = followId' := by
  have hplain := (acceptIdForFollow_ok_iff hone).mp ⟨_, h⟩
  have hplain' := (acceptIdForFollow_ok_iff hone).mp ⟨_, h'⟩
  -- neither local actor has a fragment, so the first number sign is where both ids end
  have htexts := (str_of_acceptIdForFollow h).symm.trans (str_of_acceptIdForFollow h')
  obtain ⟨hlocal, hfragment⟩ := sep_inj hplain hplain' htexts
  have hencoded := String.toList_inj.mp (List.append_cancel_left hfragment)
  exact ⟨Iri.str_inj.mp (String.toList_inj.mp hlocal), Iri.str_inj.mp (percentEncode_inj hencoded)⟩

/-! ## the Accepts that are sent -/

/-- the Accept of a Follow that gets past the checks has the id made for the two -/
theorem acceptId_of_decide {d : Delivery} {outcome : FollowOutcome} {follow : Follow}
    (h : d.decide = .ok (.follow outcome)) (hfollow : Follow.deserialize d.value = some follow) :
    acceptIdForFollow d.localActor.id follow.id = .ok outcome.accept.id := by
  obtain ⟨_, _, hd⟩ := decide_ok h
  cases hd with
  | follow _ ho =>
    obtain ⟨follow', _, _, hfollow', _, hid, hreceive⟩ := decideFollow_ok ho
    obtain ⟨_, _, rfl⟩ := receiveFollow_ok_iff.mp hreceive
    rw [hfollow] at hfollow'
    cases hfollow'
    exact hid

/-- **Accept ids are well-formed and collision-free.**  There is one exactly if the local actor has
no fragment, and it determines the local actor and the Follow; so two Follows that get past the
checks, at any inbox and however often, have Accepts with one id exactly if they are one Follow to
one local actor. -/
theorem acceptIds_collision_free (hone : OneFragment) :
    (∀ localActorId followId, (∃ acceptId, acceptIdForFollow localActorId followId = .ok acceptId) ↔
      '#' ∉ localActorId.str.toList) ∧
    (∀ localActorId followId localActorId' followId' acceptId,
      acceptIdForFollow localActorId followId = .ok acceptId →
      acceptIdForFollow localActorId' followId' = .ok acceptId →
      localActorId = localActorId' ∧ followId = followId') ∧
    ∀ (d d' : Delivery) (outcome outcome' : FollowOutcome) (follow follow' : Follow),
      d.decide = .ok (.follow outcome) → Follow.deserialize d.value = some follow →
      d'.decide = .ok (.follow outcome') → Follow.deserialize d'.value = some follow' →
      (outcome.accept.id = outcome'.accept.id ↔
        d.localActor.id = d'.localActor.id ∧ follow.id = follow'.id) := by
  refine ⟨fun _ _ => acceptIdForFollow_ok_iff hone,
    fun _ _ _ _ _ h h' => acceptIdForFollow_inj hone h h', ?_⟩
  intro d d' outcome outcome' follow follow' h hfollow h' hfollow'
  have hid := acceptId_of_decide h hfollow
  have hid' := acceptId_of_decide h' hfollow'
  constructor
  · intro e
    rw [← e] at hid'
    exact acceptIdForFollow_inj hone hid hid'
  · rintro ⟨hlocal, hsame⟩
    rw [hlocal, hsame, hid'] at hid
    exact (Except.ok.inj hid).symm

end

section
attribute [local instance] libraries

theorem libraries_oneFragment : OneFragment := by
  intro i fragment hfragment _
  refine ⟨fun hvalid hmem => ?_, fun h => libraries_allowsFragments i fragment h hfragment⟩
  change Libraries.validIri (i.str ++ "#" ++ fragment) = true at hvalid
  obtain ⟨before, after, hsplit⟩ := List.append_of_mem hmem
  have hlist : (i.str ++ "#" ++ fragment).toList =
      before ++ '#' :: (after ++ '#' :: fragment.toList) := by
    rw [String.toList_append, String.toList_append, hsplit]
    simp
  unfold Libraries.validIri at hvalid
  split at hvalid
  · rename_i c scheme rest hcolon
    obtain ⟨hstr, _⟩ := splitOnce_eq hcolon
    rw [Bool.and_eq_true, Bool.and_eq_true, Bool.and_eq_true, decide_eq_true_eq] at hvalid
    obtain ⟨⟨⟨hc, hscheme⟩, _⟩, hcount⟩ := hvalid
    -- the scheme has no number sign, so that both of them stand behind it
    have hscheme' : (c :: scheme).count '#' = 0 := by
      rw [List.count_eq_zero]
      rintro (_ | ⟨_, h⟩)
      · revert hc
        decide
      · have hchar := List.all_eq_true.mp hscheme _ h
        revert hchar
        decide
    have hall := congrArg (List.count '#') (hlist.symm.trans hstr)
    simp only [List.count_append, List.count_cons, hscheme'] at hall
    simp at hall
    omega
  · cases hvalid

/-- the Accept of bob for the Follow of alice is that of no other Follow -/
theorem acceptIds_collision_free_of_bob :
    acceptIdForFollow Peer.bob.actor.id Peer.followId = .ok Peer.acceptId ∧
    ∀ localActorId followId, acceptIdForFollow localActorId followId = .ok Peer.acceptId →
      localActorId = Peer.bob.actor.id ∧ followId = Peer.followId := by
  have hid : acceptIdForFollow Peer.bob.actor.id Peer.followId = .ok Peer.acceptId := by decide
  obtain ⟨_, hinjective, _⟩ := acceptIds_collision_free libraries_oneFragment
  exact ⟨hid, fun _ _ h => hinjective _ _ _ _ _ h hid⟩

end

end Feder
