import Feder.Server.Http

/-!
# Content negotiation

`negotiation.rs`: the media ranges of the `Accept` headers and the choice between ActivityPub and
HTML.

* `parseQuality_le`     a quality is at most 1000;
* `preferred_best`      the preference found is that of the best range of the wanted types.
-/

namespace Feder
open Text

def ACTIVITYPUB_MEDIA_TYPES : List String :=
  ["application/activity+json", "application/ld+json", "application/json"]

def HTML_MEDIA_TYPES : List String := ["text/html", "application/xhtml+xml"]

structure MediaRange where
  mediaType : Mime
  quality : Nat
  order : Nat

structure Preference where
  quality : Nat
  order : Nat
deriving DecidableEq

def prefers (left right : Preference) : Bool :=
  left.quality > right.quality || (left.quality == right.quality && left.order < right.order)

/-- the number that a text of digits stands for, zero for the empty text -/
def digitsValue (digits : List Char) : Nat :=
  digits.foldl (fun n c => 10 * n + (c.toNat - 48)) 0

/-- a quality in thousandths -/
def parseQuality (value : String) : Option Nat :=
  let (whole, fraction) := (splitOnce '.' value.toList).getD (value.toList, [])
  if fraction.length > 3 || !fraction.all Char.isDigit then none
  else if whole = ['0'] then some (digitsValue fraction * 10 ^ (3 - fraction.length))
  else if whole = ['1'] ∧ fraction.all (· == '0') then some 1000
  else none

/-- the first parameter of a name -/
def Mime.getParam (mediaType : Mime) (name : String) : Option String :=
  (mediaType.params.find? fun p => eqIgnoreAsciiCase p.1 name).map Prod.snd

/-- one turn of the loop over the media ranges, none where the range is left out -/
def mediaRange (mediaType : Mime) (order : Nat) : Option MediaRange :=
  let quality :=
    match mediaType.getParam "q" with
    | none => some 1000
    | some value => parseQuality value
  quality.bind fun quality => if quality > 0 then some ⟨mediaType, quality, order⟩ else none

/-- the preferred one of two, the first where neither is -/
def better (current candidate : Preference) : Preference :=
  if prefers candidate current then candidate else current

def preferred (mediaTypes : List String) (ranges : List MediaRange) : Option Preference :=
  let found := ranges.filter fun range => mediaTypes.contains range.mediaType.essence
  match found.map fun range => (⟨range.quality, range.order⟩ : Preference) with
  | [] => none
  | first :: rest => some (rest.foldl better first)

section
variable [Crates]

/-- the media ranges of the `Accept` headers; one that is left out keeps its place in the order -/
def acceptedRanges (headers : HeaderMap) : List MediaRange :=
  let values := (headers.getAll "accept").filterMap toStr
  let mediaTypes := (values.flatMap fun value => split ',' value.toList).filterMap fun entry =>
    HttpSyntax.parseMime (String.ofList (trimChars entry))
  mediaTypes.zipIdx.filterMap fun p => mediaRange p.1 p.2

def acceptsActivitypub (headers : HeaderMap) : Bool :=
  let ranges := acceptedRanges headers
  match preferred ACTIVITYPUB_MEDIA_TYPES ranges, preferred HTML_MEDIA_TYPES ranges with
  | some activitypub, some html => prefers activitypub html
  | some _, none => true
  | none, _ => false

end

/-! ## qualities -/

theorem digitsValue_concat (digits : List Char) (c : Char) :
    digitsValue (digits ++ [c]) = 10 * digitsValue digits + (c.toNat - 48) := by
  unfold digitsValue
  rw [List.foldl_append]
  rfl

theorem digitsValue_lt {digits : List Char} (h : ∀ c ∈ digits, c.isDigit = true) :
    digitsValue digits < 10 ^ digits.length := by
  induction digits using List.reverseRecOn with
  | nil => decide
  | append_singleton digits c ih =>
    have hprefix := ih fun d hd => h d (List.mem_append_left _ hd)
    have hdigit : c.toNat ≤ 57 := by
      have hc := h c (List.mem_append_right _ (List.mem_singleton.mpr rfl))
      rw [Char.isDigit, Bool.and_eq_true, decide_eq_true_eq, decide_eq_true_eq] at hc
      exact UInt32.le_iff_toNat_le.mp hc.2
    rw [digitsValue_concat, List.length_append, List.length_singleton, Nat.pow_succ]
    omega

/-- **A quality is at most 1000**, so that reading it overflows nothing. -/
theorem parseQuality_le {value : String} {quality : Nat} (h : parseQuality value = some quality) :
    quality ≤ 1000 := by
  unfold parseQuality at h
  generalize (splitOnce '.' value.toList).getD (value.toList, []) = parts at h
  obtain ⟨whole, fraction⟩ := parts
  dsimp only at h
  split at h
  · cases h
  · rename_i hfraction
    rw [Bool.or_eq_true, not_or, decide_eq_true_eq, Bool.not_eq_true', Bool.not_eq_false,
      List.all_eq_true] at hfraction
    obtain ⟨hlength, hdigits⟩ := hfraction
    split at h
    · cases h
      have hvalue := digitsValue_lt hdigits
      have hpow : 10 ^ fraction.length * 10 ^ (3 - fraction.length) = 1000 := by
        rw [← Nat.pow_add, show fraction.length + (3 - fraction.length) = 3 by omega]
      calc digitsValue fraction * 10 ^ (3 - fraction.length)
          ≤ 10 ^ fraction.length * 10 ^ (3 - fraction.length) :=
            Nat.mul_le_mul_right _ (Nat.le_of_lt hvalue)
        _ = 1000 := hpow
    · split at h
      · cases h
        exact Nat.le_refl _
      · cases h

/-! ## preferences -/

theorem prefers_trans {a b c : Preference} (hab : prefers b a = false) (hbc : prefers c b = false) :
    prefers c a = false := by
  unfold prefers at *
  simp only [Bool.or_eq_false_iff, Bool.and_eq_false_iff, decide_eq_false_iff_not,
    beq_eq_false_iff_ne] at *
  omega

/-- the loop ends with one of its candidates, and none of them is preferred to it -/
theorem best_of_foldl (first : Preference) (rest : List Preference) :
    let best := rest.foldl better first
    best ∈ first :: rest ∧ ∀ p ∈ first :: rest, prefers p best = false := by
  have hself : ∀ p : Preference, prefers p p = false := by
    intro p
    simp [prefers]
  induction rest generalizing first with
  | nil =>
    refine ⟨List.mem_singleton.mpr rfl, fun p hp => ?_⟩
    cases List.mem_singleton.mp hp
    exact hself first
  | cons candidate rest ih =>
    intro best
    by_cases hprefers : prefers candidate first = true
    · have hbest : best = rest.foldl better candidate := by
        show rest.foldl better (if _ then _ else _) = _
        rw [if_pos hprefers]
      obtain ⟨hmem, hnone⟩ := ih candidate
      rw [hbest]
      refine ⟨List.mem_cons_of_mem _ hmem, fun p hp => ?_⟩
      rcases List.mem_cons.mp hp with rfl | hp
      · refine prefers_trans (hnone candidate (List.mem_cons_self ..)) ?_
        unfold prefers at hprefers ⊢
        simp only [Bool.or_eq_true, Bool.and_eq_true, decide_eq_true_eq, beq_iff_eq] at hprefers
        simp only [Bool.or_eq_false_iff, Bool.and_eq_false_iff, decide_eq_false_iff_not,
          beq_eq_false_iff_ne]
        omega
      · exact hnone p hp
    · have hbest : best = rest.foldl better first := by
        show rest.foldl better (if _ then _ else _) = _
        rw [if_neg hprefers]
      obtain ⟨hmem, hnone⟩ := ih first
      rw [hbest]
      refine ⟨?_, fun p hp => ?_⟩
      · rcases List.mem_cons.mp hmem with h | h
        · rw [h]
          exact List.mem_cons_self ..
        · exact List.mem_cons_of_mem _ (List.mem_cons_of_mem _ h)
      · rcases List.mem_cons.mp hp with rfl | hp
        · exact hnone p (List.mem_cons_self ..)
        · rcases List.mem_cons.mp hp with rfl | hp
          · exact prefers_trans (hnone first (List.mem_cons_self ..))
              (Bool.not_eq_true _ ▸ hprefers)
          · exact hnone p (List.mem_cons_of_mem _ hp)

/-- **The preference found is that of the best range of the wanted types.** -/
theorem preferred_best {mediaTypes : List String} {ranges : List MediaRange} {best : Preference}
    (h : preferred mediaTypes ranges = some best) :
    (∃ range ∈ ranges, mediaTypes.contains range.mediaType.essence = true ∧
      best = ⟨range.quality, range.order⟩) ∧
    ∀ range ∈ ranges, mediaTypes.contains range.mediaType.essence = true →
      prefers ⟨range.quality, range.order⟩ best = false := by
  unfold preferred at h
  dsimp only at h
  split at h
  · cases h
  · rename_i first rest hfound
    cases h
    obtain ⟨hmem, hnone⟩ := best_of_foldl first rest
    rw [← hfound] at hmem hnone
    constructor
    · obtain ⟨range, hrange, hbest⟩ := List.mem_map.mp hmem
      obtain ⟨hrange, hwanted⟩ := List.mem_filter.mp hrange
      exact ⟨range, hrange, hwanted, hbest.symm⟩
    · intro range hrange hwanted
      exact hnone _ (List.mem_map.mpr ⟨range, List.mem_filter.mpr ⟨hrange, hwanted⟩, rfl⟩)

end Feder
