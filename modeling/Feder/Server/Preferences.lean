import Feder.Server.Libraries
import Feder.Server.Negotiation
import Mathlib.Data.List.Sort

/-!
# Quality, then position

Content negotiation as a sort: the ranges of the wanted types by descending quality, in the order of
the headers where the qualities are equal.  The code finds the first of them without sorting, from
the two best ranges of either type and the positions of all ranges.

* `parseQuality_eq_some`       a quality is read by the grammar of qualities;
* `parseQualityU16_eq`         the arithmetic of reading it neither underflows nor overflows;
* `best_of_sorted`             the first range of the sort is the preferred one;
* `acceptsActivitypub_sorted`  the answer is the type of the first range of the sort.
-/

namespace Feder
open Text

/-! ## the grammar of qualities -/

/-- `qvalue = ( "0" [ "." 0*3DIGIT ] ) / ( "1" [ "." 0*3("0") ] )`, in thousandths -/
inductive IsQvalue : List Char → Nat → Prop where
  | zero : IsQvalue ['0'] 0
  | fraction {digits : List Char} (hlength : digits.length ≤ 3)
      (hdigits : ∀ d ∈ digits, d.isDigit = true) :
      IsQvalue ('0' :: '.' :: digits)
        (digitsValue (digits ++ List.replicate (3 - digits.length) '0'))
  | one : IsQvalue ['1'] 1000
  | zeros {n : Nat} (hn : n ≤ 3) : IsQvalue ('1' :: '.' :: List.replicate n '0') 1000

theorem digitsValue_zeros (digits : List Char) (n : Nat) :
    digitsValue (digits ++ List.replicate n '0') = digitsValue digits * 10 ^ n := by
  induction n with
  | zero => rw [List.replicate_zero, List.append_nil, Nat.pow_zero, Nat.mul_one]
  | succ n ih =>
    rw [List.replicate_succ', ← List.append_assoc, digitsValue_concat, ih, Nat.pow_succ]
    show 10 * (digitsValue digits * 10 ^ n) + 0 = _
    rw [Nat.add_zero, Nat.mul_comm 10, Nat.mul_assoc]

/-- what stands before and after the first point -/
def qualityParts (value : String) : List Char × List Char :=
  (splitOnce '.' value.toList).getD (value.toList, [])

theorem parseQuality_parts (value : String) : parseQuality value =
    if (qualityParts value).2.length > 3 || !(qualityParts value).2.all Char.isDigit then none
    else if (qualityParts value).1 = ['0'] then
      some (digitsValue (qualityParts value).2 * 10 ^ (3 - (qualityParts value).2.length))
    else if (qualityParts value).1 = ['1'] ∧ (qualityParts value).2.all (· == '0') then some 1000
    else none := rfl

theorem qualityParts_eq (value : String) :
    (value.toList = (qualityParts value).1 ∧ (qualityParts value).2 = []) ∨
      value.toList = (qualityParts value).1 ++ '.' :: (qualityParts value).2 := by
  unfold qualityParts
  cases h : splitOnce '.' value.toList with
  | none => exact Or.inl ⟨rfl, rfl⟩
  | some parts => exact Or.inr (splitOnce_eq h).1

theorem qualityParts_point {value : String} {whole fraction : List Char} (hwhole : '.' ∉ whole)
    (h : value.toList = whole ++ '.' :: fraction) : qualityParts value = (whole, fraction) := by
  unfold qualityParts
  rw [h, splitOnce_of_not_mem hwhole]
  rfl

theorem qualityParts_plain {value : String} (h : '.' ∉ value.toList) :
    qualityParts value = (value.toList, []) := by
  unfold qualityParts
  cases hsplit : splitOnce '.' value.toList with
  | none => rfl
  | some parts => exact absurd (mem_of_splitOnce hsplit) h

/-- **A quality is read by the grammar of qualities.** -/
theorem parseQuality_eq_some {value : String} {quality : Nat} :
    parseQuality value = some quality ↔ IsQvalue value.toList quality := by
  constructor
  · intro h
    have htext := qualityParts_eq value
    rw [parseQuality_parts] at h
    generalize qualityParts value = parts at h htext
    obtain ⟨whole, fraction⟩ := parts
    dsimp only at h htext
    split at h
    · cases h
    · rename_i hfraction
      rw [Bool.or_eq_true, not_or, decide_eq_true_eq, Bool.not_eq_true', Bool.not_eq_false,
        List.all_eq_true, Nat.not_lt] at hfraction
      obtain ⟨hlength, hdigits⟩ := hfraction
      split at h
      · rename_i hwhole
        cases h
        subst hwhole
        rw [← digitsValue_zeros]
        rcases htext with ⟨htext, rfl⟩ | htext
        · rw [htext]
          exact .zero
        · rw [htext]
          exact .fraction hlength hdigits
      · split at h
        · rename_i hone
          cases h
          obtain ⟨rfl, hzeros⟩ := hone
          have hreplicate : fraction = List.replicate fraction.length '0' :=
            List.eq_replicate_of_mem fun d hd => beq_iff_eq.mp (List.all_eq_true.mp hzeros d hd)
          rcases htext with ⟨htext, rfl⟩ | htext
          · rw [htext]
            exact .one
          · rw [htext, hreplicate]
            exact .zeros hlength
        · cases h
  · generalize htext : value.toList = text
    intro h
    rw [parseQuality_parts]
    cases h with
    | zero =>
      rw [qualityParts_plain (by rw [htext]; decide), htext]
      rfl
    | fraction hlength hdigits =>
      have hall := List.all_eq_true.mpr hdigits
      rw [qualityParts_point (show '.' ∉ ['0'] by decide) htext, digitsValue_zeros]
      dsimp only
      rw [hall, Bool.not_true, Bool.or_false, if_neg (by rw [decide_eq_true_eq]; omega), if_pos rfl]
    | one =>
      rw [qualityParts_plain (by rw [htext]; decide), htext]
      rfl
    | @zeros n hn =>
      rw [qualityParts_point (show '.' ∉ ['1'] by decide) htext]
      dsimp only
      rw [List.length_replicate]
      have hdigit : (List.replicate n '0').all Char.isDigit = true :=
        List.all_eq_true.mpr fun d hd => (List.eq_of_mem_replicate hd) ▸ rfl
      have hzero : (List.replicate n '0').all (· == '0') = true :=
        List.all_eq_true.mpr fun d hd => beq_iff_eq.mpr (List.eq_of_mem_replicate hd)
      rw [hdigit, Bool.not_true, Bool.or_false, if_neg (by rw [decide_eq_true_eq]; omega),
        if_neg (by decide), if_pos ⟨rfl, hzero⟩]

/-! ## the arithmetic -/

/-- subtraction of unsigned numbers, which fails where it underflows -/
def checkedSub (a b : Nat) : Option Nat := if b ≤ a then some (a - b) else none

/-- a result in `u16`, which fails where it overflows -/
def checkedU16 (n : Nat) : Option Nat := if n < 2 ^ 16 then some n else none

/-- `parse_quality` with the arithmetic of the machine, which fails outside of the numbers that it
has -/
def parseQualityU16 (value : String) : Option (Option Nat) :=
  let (whole, fraction) := (splitOnce '.' value.toList).getD (value.toList, [])
  if fraction.length > 3 || !fraction.all Char.isDigit then some none
  else if whole = ['0'] then
    (checkedSub 3 fraction.length).bind fun padding =>
      -- `parse` fails for the empty text and for a number that is too large
      let number := if fraction = [] then 0 else (checkedU16 (digitsValue fraction)).getD 0
      (checkedU16 (10 ^ padding)).bind fun power => (checkedU16 (number * power)).map some
  else if whole = ['1'] ∧ fraction.all (· == '0') then some (some 1000)
  else some none

/-- **Reading a quality neither underflows nor overflows.** -/
theorem parseQualityU16_eq (value : String) : parseQualityU16 value = some (parseQuality value) := by
  have hle := fun quality => @parseQuality_le value quality
  unfold parseQualityU16
  unfold parseQuality at hle ⊢
  generalize (splitOnce '.' value.toList).getD (value.toList, []) = parts at hle ⊢
  obtain ⟨whole, fraction⟩ := parts
  dsimp only at hle ⊢
  split
  · rfl
  · rename_i hfraction
    rw [if_neg hfraction] at hle
    rw [Bool.or_eq_true, not_or, decide_eq_true_eq, Bool.not_eq_true', Bool.not_eq_false,
      List.all_eq_true, Nat.not_lt] at hfraction
    obtain ⟨hlength, hdigits⟩ := hfraction
    split
    · rename_i hwhole
      rw [if_pos hwhole] at hle
      have hproduct := hle _ rfl
      have hpow : ∀ n ≤ 3, 10 ^ n ≤ 1000 := fun n hn =>
        Nat.pow_le_pow_right (by omega) hn
      have hnumber : (if fraction = [] then 0 else (checkedU16 (digitsValue fraction)).getD 0) =
          digitsValue fraction := by
        have hvalue := digitsValue_lt hdigits
        have hbound := hpow _ hlength
        split
        · rename_i hempty
          rw [hempty]
          rfl
        · unfold checkedU16
          rw [if_pos (by omega)]
          rfl
      have hpadding := hpow (3 - fraction.length) (Nat.sub_le ..)
      unfold checkedSub
      rw [if_pos hlength, Option.bind_some, hnumber]
      unfold checkedU16
      rw [if_pos (by omega), Option.bind_some, if_pos (by omega)]
      rfl
    · split
      · rfl
      · rfl

/-! ## the sort -/

def wanted (mediaType : Mime) : Bool :=
  ACTIVITYPUB_MEDIA_TYPES.contains mediaType.essence || HTML_MEDIA_TYPES.contains mediaType.essence

/-- by descending quality; Mathlib's insertion sort keeps the order of equals -/
def byQuality {α : Type} (quality : α → Nat) (ranges : List α) : List α :=
  ranges.insertionSort fun a b => quality b ≤ quality a

theorem byQuality_cons {α : Type} (quality : α → Nat) (a : α) (ranges : List α) :
    (byQuality quality (a :: ranges)).head? =
      match (byQuality quality ranges).head? with
      | none => some a
      | some first => if quality first ≤ quality a then some a else some first := by
  unfold byQuality
  rw [List.insertionSort_cons]
  cases ranges.insertionSort fun a b => quality b ≤ quality a with
  | nil => rfl
  | cons first rest =>
    rw [List.orderedInsert_cons]
    dsimp only [List.head?_cons]
    split
    · rfl
    · rfl

def MediaRange.preference (range : MediaRange) : Preference := ⟨range.quality, range.order⟩

theorem prefers_eq_false_iff {left right : Preference} : prefers left right = false ↔
    left.quality ≤ right.quality ∧ (left.quality = right.quality → right.order ≤ left.order) := by
  unfold prefers
  simp only [Bool.or_eq_false_iff, Bool.and_eq_false_iff, decide_eq_false_iff_not,
    beq_eq_false_iff_ne]
  omega

/-- **The first range of the sort is the preferred one.** -/
theorem best_of_sorted {ranges : List MediaRange} (hordered : ranges.Pairwise (·.order < ·.order))
    {first : MediaRange} (h : (byQuality MediaRange.quality ranges).head? = some first) :
    first ∈ ranges ∧ ∀ range ∈ ranges, prefers range.preference first.preference = false := by
  induction ranges generalizing first with
  | nil => cases h
  | cons a rest ih =>
    obtain ⟨hbefore, hrest⟩ := List.pairwise_cons.mp hordered
    have hself : prefers a.preference a.preference = false :=
      prefers_eq_false_iff.mpr ⟨Nat.le_refl _, fun _ => Nat.le_refl _⟩
    rw [byQuality_cons] at h
    cases hhead : (byQuality MediaRange.quality rest).head? with
    | none =>
      rw [hhead] at h
      cases h
      have hempty : rest = [] := by
        unfold byQuality at hhead
        rw [List.head?_eq_none_iff, ← List.length_eq_zero_iff, List.length_insertionSort,
          List.length_eq_zero_iff] at hhead
        exact hhead
      subst hempty
      refine ⟨List.mem_cons_self .., fun range hrange => ?_⟩
      cases List.mem_singleton.mp hrange
      exact hself
    | some best =>
      rw [hhead] at h
      dsimp only at h
      obtain ⟨hbest, hnone⟩ := ih hrest hhead
      split at h
      · rename_i hle
        cases h
        refine ⟨List.mem_cons_self .., fun range hrange => ?_⟩
        rcases List.mem_cons.mp hrange with rfl | hrange
        · exact hself
        · have hle' := (prefers_eq_false_iff.mp (hnone range hrange)).1
          have hlater := hbefore range hrange
          exact prefers_eq_false_iff.mpr ⟨Nat.le_trans hle' hle, fun _ => Nat.le_of_lt hlater⟩
      · rename_i hgt
        cases h
        refine ⟨List.mem_cons_of_mem _ hbest, fun range hrange => ?_⟩
        rcases List.mem_cons.mp hrange with rfl | hrange
        · rw [Nat.not_le] at hgt
          exact prefers_eq_false_iff.mpr ⟨Nat.le_of_lt hgt, fun e => absurd e (Nat.ne_of_lt hgt)⟩
        · exact hnone range hrange

/-! ## the best of either type -/

theorem prefers_antisymm {left right : Preference} (h : prefers left right = false)
    (h' : prefers right left = false) : left = right := by
  obtain ⟨hle, horder⟩ := prefers_eq_false_iff.mp h
  obtain ⟨hle', horder'⟩ := prefers_eq_false_iff.mp h'
  have hquality := Nat.le_antisymm hle hle'
  have hsame := Nat.le_antisymm (horder' hquality.symm) (horder hquality)
  cases left
  cases right
  exact congrArg₂ Preference.mk hquality hsame

theorem prefers_total {left right : Preference} (h : prefers left right = false)
    (hne : left ≠ right) : prefers right left = true := by
  by_contra h'
  exact hne (prefers_antisymm h (Bool.not_eq_true _ ▸ h'))

theorem preferred_none {mediaTypes : List String} {ranges : List MediaRange}
    (h : preferred mediaTypes ranges = none) :
    ∀ range ∈ ranges, mediaTypes.contains range.mediaType.essence = false := by
  unfold preferred at h
  dsimp only at h
  split at h
  · rename_i hempty
    intro range hrange
    have hfilter := List.filter_eq_nil_iff.mp (List.map_eq_nil_iff.mp hempty) range hrange
    exact Bool.not_eq_true _ ▸ hfilter
  · cases h

theorem types_disjoint {essence : String}
    (h : ACTIVITYPUB_MEDIA_TYPES.contains essence = true) :
    HTML_MEDIA_TYPES.contains essence = false := by
  have hall : ACTIVITYPUB_MEDIA_TYPES.all (fun e => !HTML_MEDIA_TYPES.contains e) = true := by decide
  have hone := List.all_eq_true.mp hall essence (List.contains_iff_mem.mp h)
  rwa [Bool.not_eq_true'] at hone

theorem wanted_of_activitypub {mediaType : Mime}
    (h : ACTIVITYPUB_MEDIA_TYPES.contains mediaType.essence = true) : wanted mediaType = true := by
  rw [wanted, h, Bool.true_or]

theorem wanted_of_html {mediaType : Mime}
    (h : HTML_MEDIA_TYPES.contains mediaType.essence = true) : wanted mediaType = true := by
  rw [wanted, h, Bool.or_true]

theorem range_of_order {ranges : List MediaRange} (hordered : ranges.Pairwise (·.order < ·.order))
    {range range' : MediaRange} (h : range ∈ ranges) (h' : range' ∈ ranges)
    (hsame : range.order = range'.order) : range = range' := by
  have hnodup : (ranges.map MediaRange.order).Nodup :=
    List.pairwise_map.mpr (hordered.imp Nat.ne_of_lt)
  exact List.inj_on_of_nodup_map hnodup h h' hsame

/-- the first range of the wanted types in the sort -/
def firstWanted (ranges : List MediaRange) : Option MediaRange :=
  (byQuality MediaRange.quality (ranges.filter fun range => wanted range.mediaType)).head?

/-- no wanted range is preferred to the range -/
structure IsFirst (ranges : List MediaRange) (first : MediaRange) : Prop where
  mem : first ∈ ranges
  wanted : wanted first.mediaType = true
  best : ∀ range ∈ ranges, Feder.wanted range.mediaType = true →
    prefers range.preference first.preference = false

theorem isFirst_of_firstWanted {ranges : List MediaRange}
    (hordered : ranges.Pairwise (·.order < ·.order)) {first : MediaRange}
    (h : firstWanted ranges = some first) : IsFirst ranges first := by
  obtain ⟨hmem, hbest⟩ := best_of_sorted (hordered.sublist List.filter_sublist) h
  obtain ⟨hrange, hwanted⟩ := List.mem_filter.mp hmem
  exact ⟨hrange, hwanted, fun range hrange hw => hbest range (List.mem_filter.mpr ⟨hrange, hw⟩)⟩

theorem exists_firstWanted {ranges : List MediaRange} {range : MediaRange} (hrange : range ∈ ranges)
    (hwanted : wanted range.mediaType = true) : ∃ first, firstWanted ranges = some first := by
  apply Option.isSome_iff_exists.mp
  rw [firstWanted, List.isSome_head?, byQuality]
  intro hempty
  have hfiltered : range ∈ ranges.filter fun range => wanted range.mediaType :=
    List.mem_filter.mpr ⟨hrange, hwanted⟩
  rw [← List.mem_insertionSort fun a b : MediaRange => b.quality ≤ a.quality, hempty] at hfiltered
  cases hfiltered

theorem preferred_first {mediaTypes : List String} {ranges : List MediaRange}
    {first : MediaRange} {best : Preference} (hfirst : IsFirst ranges first)
    (hwanted : ∀ mediaType : Mime, mediaTypes.contains mediaType.essence = true →
      wanted mediaType = true)
    (htype : mediaTypes.contains first.mediaType.essence = true)
    (h : preferred mediaTypes ranges = some best) : best = first.preference := by
  obtain ⟨⟨range, hrange, hcontains, rfl⟩, hnone⟩ := preferred_best h
  exact prefers_antisymm (hfirst.best range hrange (hwanted _ hcontains))
    (hnone first hfirst.mem htype)

/-- the better one of the best ranges of either type has the type of the first of the sort -/
theorem prefers_iff_first {ranges : List MediaRange}
    (hordered : ranges.Pairwise (·.order < ·.order)) {first : MediaRange}
    (hfirst : IsFirst ranges first) {activitypub html : Preference}
    (ha : preferred ACTIVITYPUB_MEDIA_TYPES ranges = some activitypub)
    (hh : preferred HTML_MEDIA_TYPES ranges = some html) :
    prefers activitypub html = true ↔
      ACTIVITYPUB_MEDIA_TYPES.contains first.mediaType.essence = true := by
  obtain ⟨⟨range, hrange, hcontains, hrangeEq⟩, _⟩ := preferred_best ha
  obtain ⟨⟨range', hrange', hcontains', hrangeEq'⟩, _⟩ := preferred_best hh
  constructor
  · intro hprefers
    by_contra hother
    have hhtml : HTML_MEDIA_TYPES.contains first.mediaType.essence = true := by
      have hwanted := hfirst.wanted
      rw [Bool.not_eq_true] at hother
      rwa [wanted, hother, Bool.false_or] at hwanted
    have hnot := hfirst.best range hrange (wanted_of_activitypub hcontains)
    rw [hrangeEq, preferred_first hfirst (fun _ => wanted_of_html) hhtml hh] at hprefers
    rw [show prefers range.preference first.preference = true from hprefers] at hnot
    cases hnot
  · intro htype
    rw [preferred_first hfirst (fun _ => wanted_of_activitypub) htype ha, hrangeEq']
    refine prefers_total (hfirst.best range' hrange' (wanted_of_html hcontains')) ?_
    -- two ranges of one position are one range, which cannot have both types
    intro hsame
    have hone := range_of_order hordered hrange' hfirst.mem (congrArg Preference.order hsame)
    rw [hone, types_disjoint htype] at hcontains'
    cases hcontains'

/-- the choice between the best ranges of the two types -/
def chooses (ranges : List MediaRange) : Bool :=
  match preferred ACTIVITYPUB_MEDIA_TYPES ranges, preferred HTML_MEDIA_TYPES ranges with
  | some activitypub, some html => prefers activitypub html
  | some _, none => true
  | none, _ => false

/-- **The choice is the type of the first wanted range of the sort.** -/
theorem chooses_iff {ranges : List MediaRange} (hordered : ranges.Pairwise (·.order < ·.order)) :
    chooses ranges = true ↔ ∃ first, firstWanted ranges = some first ∧
      ACTIVITYPUB_MEDIA_TYPES.contains first.mediaType.essence = true := by
  unfold chooses
  cases ha : preferred ACTIVITYPUB_MEDIA_TYPES ranges with
  | none =>
    refine ⟨fun h => (nomatch h), ?_⟩
    rintro ⟨first, hfirst, htype⟩
    rw [preferred_none ha first (isFirst_of_firstWanted hordered hfirst).mem] at htype
    cases htype
  | some activitypub =>
    obtain ⟨⟨range, hrange, hcontains, _⟩, _⟩ := preferred_best ha
    obtain ⟨first, hfirst⟩ := exists_firstWanted hrange (wanted_of_activitypub hcontains)
    have hisFirst := isFirst_of_firstWanted hordered hfirst
    simp only [hfirst, Option.some.injEq, exists_eq_left']
    cases hh : preferred HTML_MEDIA_TYPES ranges with
    | none =>
      refine ⟨fun _ => ?_, fun _ => rfl⟩
      have hwanted := hisFirst.wanted
      rwa [wanted, preferred_none hh first hisFirst.mem, Bool.or_false] at hwanted
    | some html => exact prefers_iff_first hordered hisFirst ha hh

/-! ## the ranges of the headers -/

/-- a quality above zero, which is 1000 where there is none -/
def usableQuality (mediaType : Mime) : Option Nat :=
  (match mediaType.getParam "q" with
  | none => some 1000
  | some value => parseQuality value).filter (0 < ·)

theorem mediaRange_eq (mediaType : Mime) (order : Nat) :
    mediaRange mediaType order =
      (usableQuality mediaType).map fun quality => ⟨mediaType, quality, order⟩ := by
  have hfilter : ∀ found : Option Nat,
      (found.bind fun quality => if quality > 0 then some (⟨mediaType, quality, order⟩ : MediaRange)
        else none) = (found.filter (0 < ·)).map fun quality => ⟨mediaType, quality, order⟩ := by
    intro found
    cases found with
    | none => rfl
    | some quality =>
      by_cases hquality : quality > 0
      · simp [hquality]
      · have hzero : quality = 0 := by omega
        subst hzero
        rfl
  unfold mediaRange usableQuality
  cases mediaType.getParam "q" with
  | none => exact hfilter _
  | some value => exact hfilter _

/-- the ranges keep the order of their positions, and their media types and qualities do not depend
on them -/
theorem ranges_of_zipIdx (mediaTypes : List Mime) (n : Nat) :
    let ranges := (mediaTypes.zipIdx n).filterMap fun p => mediaRange p.1 p.2
    (∀ range ∈ ranges, n ≤ range.order) ∧ ranges.Pairwise (·.order < ·.order) ∧
      ranges.map (fun range => (range.mediaType, range.quality)) =
        mediaTypes.filterMap fun mediaType =>
          (usableQuality mediaType).map fun quality => (mediaType, quality) := by
  induction mediaTypes generalizing n with
  | nil => exact ⟨nofun, .nil, rfl⟩
  | cons mediaType rest ih =>
    intro ranges
    obtain ⟨hlater, hordered, hmap⟩ := ih (n + 1)
    have hranges : ranges = ((usableQuality mediaType).map fun quality =>
        (⟨mediaType, quality, n⟩ : MediaRange)).toList ++
        (rest.zipIdx (n + 1)).filterMap fun p => mediaRange p.1 p.2 := by
      show ((mediaType :: rest).zipIdx n).filterMap _ = _
      rw [List.zipIdx_cons, List.filterMap_cons, mediaRange_eq]
      cases usableQuality mediaType <;> rfl
    rw [hranges]
    cases hquality : usableQuality mediaType with
    | none =>
      rw [List.filterMap_cons, hquality]
      exact ⟨fun range hrange => Nat.le_of_succ_le (hlater range hrange), hordered, hmap⟩
    | some quality =>
      rw [List.filterMap_cons, hquality]
      refine ⟨fun range hrange => ?_, ?_, ?_⟩
      · rcases List.mem_cons.mp hrange with rfl | hrange
        · exact Nat.le_refl _
        · exact Nat.le_of_succ_le (hlater range hrange)
      · exact List.pairwise_cons.mpr ⟨fun range hrange => hlater range hrange, hordered⟩
      · exact congrArg ((mediaType, quality) :: ·) hmap

/-- the readable values of the `Accept` headers -/
def acceptValues (headers : HeaderMap) : List String := (headers.getAll "accept").filterMap toStr

def acceptPieces (values : List String) : List (List Char) :=
  values.flatMap fun value => split ',' value.toList

theorem acceptPieces_split (v w : String) (before after : List String) :
    acceptPieces (before ++ (v ++ "," ++ w) :: after) = acceptPieces (before ++ v :: w :: after) := by
  have hjoined : (v ++ "," ++ w).toList = v.toList ++ ',' :: w.toList := by
    rw [String.toList_append, String.toList_append, List.append_assoc]
    rfl
  unfold acceptPieces
  simp only [List.flatMap_append, List.flatMap_cons]
  rw [hjoined, split_append, List.append_assoc]

section
variable [Crates]

/-- a piece as a media range with its quality; none where it is no media range or is discarded -/
def weighted (piece : List Char) : Option (Mime × Nat) :=
  (HttpSyntax.parseMime (String.ofList (trimChars piece))).bind fun mediaType =>
    (usableQuality mediaType).map fun quality => (mediaType, quality)

/-- the ranges of the wanted types, by descending quality and then in their order -/
def sortedRanges (pieces : List (List Char)) : List (Mime × Nat) :=
  byQuality Prod.snd ((pieces.filterMap weighted).filter fun range => wanted range.1)

/-- no media range, a discarded one, or one of another type -/
def Ignored (piece : List Char) : Prop := ∀ range, weighted piece = some range → wanted range.1 = false

theorem acceptedRanges_spec (headers : HeaderMap) :
    (acceptedRanges headers).Pairwise (·.order < ·.order) ∧
    (acceptedRanges headers).map (fun range => (range.mediaType, range.quality)) =
      (acceptPieces (acceptValues headers)).filterMap weighted := by
  obtain ⟨_, hordered, hmap⟩ := ranges_of_zipIdx
    ((acceptPieces (acceptValues headers)).filterMap fun piece =>
      HttpSyntax.parseMime (String.ofList (trimChars piece))) 0
  refine ⟨hordered, hmap.trans ?_⟩
  rw [List.filterMap_filterMap]
  rfl

theorem sortedRanges_eq (headers : HeaderMap) :
    sortedRanges (acceptPieces (acceptValues headers)) =
      (byQuality MediaRange.quality ((acceptedRanges headers).filter fun range =>
        wanted range.mediaType)).map fun range => (range.mediaType, range.quality) := by
  unfold sortedRanges byQuality
  rw [← (acceptedRanges_spec headers).2, List.filter_map,
    List.map_insertionSort _ (fun a b : Mime × Nat => b.2 ≤ a.2)]
  · rfl
  · exact fun _ _ _ _ => Iff.rfl

theorem acceptsActivitypub_iff (headers : HeaderMap) :
    acceptsActivitypub headers = true ↔ ∃ first rest,
      sortedRanges (acceptPieces (acceptValues headers)) = first :: rest ∧
      ACTIVITYPUB_MEDIA_TYPES.contains first.1.essence = true := by
  have hchooses := chooses_iff (acceptedRanges_spec headers).1
  rw [sortedRanges_eq]
  refine Iff.trans hchooses ?_
  constructor
  · rintro ⟨first, hfirst, htype⟩
    obtain ⟨rest, hsorted⟩ := List.head?_eq_some_iff.mp hfirst
    rw [hsorted]
    exact ⟨_, _, List.map_cons .., htype⟩
  · rintro ⟨_, _, hsorted, htype⟩
    obtain ⟨first, rest, hranges, rfl, _⟩ := List.map_eq_cons_iff.mp hsorted
    exact ⟨first, List.head?_eq_some_iff.mpr ⟨rest, hranges⟩, htype⟩

theorem sortedRanges_insert {piece : List Char} (h : Ignored piece)
    (before after : List (List Char)) :
    sortedRanges (before ++ piece :: after) = sortedRanges (before ++ after) := by
  have hpiece : ([piece].filterMap weighted).filter (fun range => wanted range.1) = [] := by
    cases hweighted : weighted piece with
    | none => simp [hweighted]
    | some range => simp [hweighted, h range hweighted]
  unfold sortedRanges
  rw [List.append_cons, List.filterMap_append, List.filterMap_append, List.filter_append,
    List.filter_append, hpiece, List.append_nil, List.filterMap_append, List.filter_append]

/-- **Content negotiation follows quality, then position.**  A client accepts ActivityPub exactly if
the first of its sorted ranges has an ActivityPub type.  The qualities are read by their grammar, in
numbers of the machine.  It makes no difference whether a header is split at a comma, or whether
there are further pieces that are no ranges of the wanted types or are discarded. -/
theorem acceptsActivitypub_sorted :
    (∀ headers, acceptsActivitypub headers = true ↔ ∃ first rest,
      sortedRanges (acceptPieces (acceptValues headers)) = first :: rest ∧
      ACTIVITYPUB_MEDIA_TYPES.contains first.1.essence = true) ∧
    (∀ value quality, parseQuality value = some quality ↔ IsQvalue value.toList quality) ∧
    (∀ value, parseQualityU16 value = some (parseQuality value)) ∧
    (∀ headers headers' before v w after,
      acceptValues headers = before ++ (v ++ "," ++ w) :: after →
      acceptValues headers' = before ++ v :: w :: after →
      acceptsActivitypub headers = acceptsActivitypub headers') ∧
    ∀ headers headers' before piece after, Ignored piece →
      acceptPieces (acceptValues headers) = before ++ after →
      acceptPieces (acceptValues headers') = before ++ piece :: after →
      acceptsActivitypub headers = acceptsActivitypub headers' := by
  refine ⟨acceptsActivitypub_iff, fun _ _ => parseQuality_eq_some, parseQualityU16_eq, ?_, ?_⟩
  · intro headers headers' before v w after h h'
    rw [Bool.eq_iff_iff, acceptsActivitypub_iff, acceptsActivitypub_iff, h, h', acceptPieces_split]
  · intro headers headers' before piece after hignored h h'
    rw [Bool.eq_iff_iff, acceptsActivitypub_iff, acceptsActivitypub_iff, h, h',
      sortedRanges_insert hignored]

end

end Feder
