import Mathlib.Data.List.DropRight
import Mathlib.Tactic.Common

/-!
# Texts: trimming, letter case, splitting and joining

The string operations of the standard library that the code uses, on texts read as lists of
characters, and the facts about joined texts:

* `sep_inj`, `intercalate_inj`   texts without the separator are recovered from their join;
* `words_join`                   words are recovered from the text that they make up;
* `mem_trim`, `trim_eq_self`     what trimming keeps;
* `not_mem_lower`                the ASCII lower case brings in no separator.
-/

namespace Text

/-- the characters with the Unicode property `White_Space` -/
def isWhitespace (c : Char) : Bool :=
  let n := c.toNat
  (0x09 ≤ n && n ≤ 0x0d) || n == 0x20 || n == 0x85 || n == 0xa0 || n == 0x1680 ||
    (0x2000 ≤ n && n ≤ 0x200a) || n == 0x2028 || n == 0x2029 || n == 0x202f || n == 0x205f ||
    n == 0x3000

def trimStart (s : List Char) : List Char := s.dropWhile isWhitespace

def trimChars (s : List Char) : List Char := (trimStart s).rdropWhile isWhitespace

def trim (s : String) : String := String.ofList (trimChars s.toList)

def toAsciiLowercase (s : String) : String := String.ofList (s.toList.map Char.toLower)

def eqIgnoreAsciiCase (a b : String) : Bool := toAsciiLowercase a == toAsciiLowercase b

/-- the parts before and after the first separator -/
def splitOnce (sep : Char) : List Char → Option (List Char × List Char)
  | [] => none
  | c :: rest =>
    if c = sep then some ([], rest) else (splitOnce sep rest).map fun p => (c :: p.1, p.2)

/-- the parts before and after the last separator -/
def rsplitOnce (sep : Char) (s : List Char) : Option (List Char × List Char) :=
  (splitOnce sep s.reverse).map fun p => (p.2.reverse, p.1.reverse)

/-- the parts between the separators -/
def split (sep : Char) : List Char → List (List Char)
  | [] => [[]]
  | c :: rest =>
    if c = sep then [] :: split sep rest
    else
      match split sep rest with
      | [] => [[c]]
      | part :: parts => (c :: part) :: parts

def isAsciiWhitespace (c : Char) : Bool :=
  c == ' ' || c == '\t' || c == '\n' || c == '\x0c' || c == '\r'

/-- the parts between ASCII white space, without the empty ones -/
def words (s : String) : List String :=
  ((s.toList.splitOnP isAsciiWhitespace).filter fun w => !w.isEmpty).map String.ofList

def join (sep : String) (parts : List String) : String := sep.intercalate parts

/-- the bytes of the UTF-8 encoding -/
def utf8 (s : String) : List UInt8 := s.toByteArray.data.toList

def hexDigit (n : Nat) : Char := if n < 10 then Char.ofNat (48 + n) else Char.ofNat (55 + n)

/-- the percent encoding that keeps ASCII letters and digits only -/
def percentEncode (s : String) : String :=
  String.ofList ((utf8 s).flatMap fun b =>
    let c := Char.ofNat b.toNat
    if c.isAlphanum then [c] else ['%', hexDigit (b.toNat / 16), hexDigit (b.toNat % 16)])

theorem utf8_inj {a b : String} (h : utf8 a = utf8 b) : a = b := by
  apply String.toByteArray_inj.mp
  apply ByteArray.ext
  exact Array.toList_inj.mp h

theorem utf8_eq (s : String) : utf8 s = s.toList.flatMap String.utf8EncodeChar := by
  unfold utf8
  rw [← String.utf8Encode_toList, List.utf8Encode, List.data_toByteArray]

theorem utf8EncodeChar_ascii {c : Char} (h : c.toNat < 128) :
    String.utf8EncodeChar c = [UInt8.ofNat c.toNat] := by
  have hsize : c.utf8Size = 1 := by
    rw [Char.utf8Size_eq_one_iff, UInt32.le_iff_toNat_le]
    show c.toNat ≤ 127
    omega
  rw [String.utf8EncodeChar_eq_singleton hsize]
  rfl

theorem toNat_ofNat_byte (b : UInt8) : (Char.ofNat b.toNat).toNat = b.toNat := by
  have hb : b.toNat < 256 := b.toNat_lt
  have hv : b.toNat.isValidChar := Or.inl (by omega)
  rw [Char.ofNat, dif_pos hv]
  rfl

theorem byte_of_not_ascii {c : Char} (h : 128 ≤ c.toNat) :
    ∀ b ∈ String.utf8EncodeChar c, 128 ≤ b := by
  have hor : ∀ a b : UInt8, 128 ≤ b → 128 ≤ a ||| b := by
    intro a b hb
    rw [UInt8.le_iff_toNat_le] at hb ⊢
    rw [UInt8.toNat_or]
    exact Nat.le_trans hb Nat.right_le_or
  rcases c.utf8Size_eq with hsize | hsize | hsize | hsize
  · rw [Char.utf8Size_eq_one_iff, UInt32.le_iff_toNat_le] at hsize
    have hn : c.toNat ≤ 127 := hsize
    omega
  · rw [String.utf8EncodeChar_eq_cons_cons hsize]
    simp only [List.forall_mem_cons, List.not_mem_nil, false_implies, implies_true, and_true]
    exact ⟨hor _ _ (by decide), hor _ _ (by decide)⟩
  · rw [String.utf8EncodeChar_eq_cons_cons_cons hsize]
    simp only [List.forall_mem_cons, List.not_mem_nil, false_implies, implies_true, and_true]
    exact ⟨hor _ _ (by decide), hor _ _ (by decide), hor _ _ (by decide)⟩
  · rw [String.utf8EncodeChar_eq_cons_cons_cons_cons hsize]
    simp only [List.forall_mem_cons, List.not_mem_nil, false_implies, implies_true, and_true]
    exact ⟨hor _ _ (by decide), hor _ _ (by decide), hor _ _ (by decide), hor _ _ (by decide)⟩

theorem utf8_append (a b : String) : utf8 (a ++ b) = utf8 a ++ utf8 b := by
  rw [utf8_eq, utf8_eq, utf8_eq, String.toList_append, List.flatMap_append]

theorem mem_utf8_of_ascii {c : Char} {s : String} (hc : c.toNat < 128) (h : c ∈ s.toList) :
    UInt8.ofNat c.toNat ∈ utf8 s := by
  rw [utf8_eq, List.mem_flatMap]
  refine ⟨c, h, ?_⟩
  rw [utf8EncodeChar_ascii hc]
  exact List.mem_singleton.mpr rfl

theorem utf8_ascii {s : String} (h : ∀ c ∈ s.toList, c.toNat < 128) :
    utf8 s = s.toList.map fun c => UInt8.ofNat c.toNat := by
  rw [utf8_eq, ← List.flatMap_singleton' (s.toList.map _), List.flatMap_map]
  apply List.flatMap_congr
  intro c hc
  exact utf8EncodeChar_ascii (h c hc)

/-! ## trimming -/

theorem mem_trimChars {c : Char} {s : List Char} (h : c ∈ trimChars s) : c ∈ s :=
  (List.dropWhile_suffix _).subset ((List.rdropWhile_prefix _ _).subset h)

theorem mem_trim {c : Char} {s : String} (h : c ∈ (trim s).toList) : c ∈ s.toList := by
  rw [trim, String.toList_ofList] at h
  exact mem_trimChars h

theorem trimChars_eq_self {s : List Char} (h : ∀ c ∈ s, isWhitespace c = false) :
    trimChars s = s := by
  have hstart : trimStart s = s := by
    rw [trimStart, List.dropWhile_eq_self_iff]
    intro hl
    simp [h _ (List.getElem_mem hl)]
  rw [trimChars, hstart, List.rdropWhile_eq_self_iff]
  intro hl
  simp [h _ (List.getLast_mem hl)]

theorem trim_eq_self {s : String} (h : ∀ c ∈ s.toList, isWhitespace c = false) : trim s = s := by
  rw [trim, trimChars_eq_self h, String.ofList_toList]

theorem mem_trimChars_of_mem {c : Char} {s : List Char} (hc : isWhitespace c = false)
    (h : c ∈ s) : c ∈ trimChars s := by
  have hkeep : ∀ l : List Char, c ∈ l → c ∈ l.dropWhile isWhitespace := by
    intro l hl
    rw [← List.takeWhile_append_dropWhile (p := isWhitespace) (l := l), List.mem_append] at hl
    rcases hl with hl | hl
    · rw [List.mem_takeWhile_imp hl] at hc
      cases hc
    · exact hl
  rw [trimChars, List.rdropWhile, List.mem_reverse]
  exact hkeep _ (List.mem_reverse.mpr (hkeep s h))

theorem trimStart_blank {s : List Char} (h : ∀ c ∈ s, isWhitespace c = true) (t : List Char) :
    trimStart (s ++ t) = trimStart t :=
  List.dropWhile_append_of_pos h

theorem trimChars_surround {before core after : List Char}
    (hbefore : ∀ c ∈ before, isWhitespace c = true)
    (hafter : ∀ c ∈ after, isWhitespace c = true) :
    trimChars (before ++ core ++ after) = trimChars core := by
  have hreverse : ∀ c ∈ after.reverse, isWhitespace c = true :=
    fun c hc => hafter c (List.mem_reverse.mp hc)
  rw [trimChars, List.append_assoc, trimStart_blank hbefore, trimChars]
  by_cases hcore : ∀ c ∈ core, isWhitespace c = true
  · have hafter' : trimStart after = [] := List.dropWhile_eq_nil_iff.mpr hafter
    have hcore' : trimStart core = [] := List.dropWhile_eq_nil_iff.mpr hcore
    rw [trimStart_blank hcore, hafter', hcore']
  · have hkeep : trimStart (core ++ after) = trimStart core ++ after := by
      have hne : (trimStart core).isEmpty = false := by
        rw [List.isEmpty_eq_false_iff]
        intro e
        exact hcore (List.dropWhile_eq_nil_iff.mp e)
      unfold trimStart at hne ⊢
      rw [List.dropWhile_append, hne, if_neg Bool.false_ne_true]
    rw [hkeep, List.rdropWhile, List.rdropWhile, List.reverse_append,
      List.dropWhile_append_of_pos hreverse]

theorem length_trimStart (s : List Char) : (trimStart s).length ≤ s.length :=
  (List.dropWhile_suffix _).length_le

theorem isAlphanum_iff {c : Char} :
    c.isAlphanum = true ↔ (48 ≤ c.toNat ∧ c.toNat ≤ 57) ∨ (65 ≤ c.toNat ∧ c.toNat ≤ 90) ∨
      (97 ≤ c.toNat ∧ c.toNat ≤ 122) := by
  have hc : c.val.toNat = c.toNat := rfl
  change (decide (c.val ≥ 'A'.val ∧ c.val ≤ 'Z'.val) ||
    (decide (c.val ≥ 'a'.val) && decide (c.val ≤ 'z'.val)) ||
    (decide (c.val ≥ '0'.val) && decide (c.val ≤ '9'.val))) = true ↔ _
  simp only [Bool.or_eq_true, decide_eq_true_eq, Bool.and_eq_true, ge_iff_le,
    UInt32.le_iff_toNat_le, hc]
  show ((65 ≤ c.toNat ∧ c.toNat ≤ 90) ∨ (97 ≤ c.toNat ∧ c.toNat ≤ 122)) ∨
    (48 ≤ c.toNat ∧ c.toNat ≤ 57) ↔ _
  omega

theorem toNat_of_isAlphanum {c : Char} (h : c.isAlphanum = true) :
    (48 ≤ c.toNat ∧ c.toNat ≤ 57) ∨ (65 ≤ c.toNat ∧ c.toNat ≤ 90) ∨
      (97 ≤ c.toNat ∧ c.toNat ≤ 122) :=
  isAlphanum_iff.mp h

theorem isWhitespace_of_isAlphanum {c : Char} (h : c.isAlphanum = true) :
    isWhitespace c = false := by
  have hn := toNat_of_isAlphanum h
  by_contra hw
  rw [Bool.not_eq_false] at hw
  simp only [isWhitespace, Bool.or_eq_true, Bool.and_eq_true, decide_eq_true_eq, beq_iff_eq] at hw
  omega

/-! ## letter case -/

theorem toList_lower (s : String) : (toAsciiLowercase s).toList = s.toList.map Char.toLower := by
  rw [toAsciiLowercase, String.toList_ofList]

theorem toNat_toLower (c : Char) :
    c.toLower.toNat = if 65 ≤ c.toNat ∧ c.toNat ≤ 90 then c.toNat + 32 else c.toNat := by
  have hc : c.toNat = c.val.toNat := rfl
  by_cases h : 65 ≤ c.toNat ∧ c.toNat ≤ 90
  · have h' : c.val ≥ 'A'.val ∧ c.val ≤ 'Z'.val := h
    have hlower : c.toLower.val = c.val + ('a'.val - 'A'.val) := congrArg Char.val (dif_pos h')
    rw [if_pos h]
    show c.toLower.val.toNat = _
    rw [hlower, UInt32.toNat_add, show ('a'.val - 'A'.val).toNat = 32 from rfl, ← hc]
    omega
  · have h' : ¬ (c.val ≥ 'A'.val ∧ c.val ≤ 'Z'.val) := h
    have hlower : c.toLower = c := dif_neg h'
    rw [if_neg h, hlower]

theorem toLower_idem (c : Char) : c.toLower.toLower = c.toLower := by
  apply Char.toNat_inj.mp
  rw [toNat_toLower, toNat_toLower]
  by_cases h : 65 ≤ c.toNat ∧ c.toNat ≤ 90
  · rw [if_pos h, if_neg (by omega)]
  · rw [if_neg h, if_neg h]

theorem toAsciiLowercase_idem (s : String) :
    toAsciiLowercase (toAsciiLowercase s) = toAsciiLowercase s := by
  apply String.toList_inj.mp
  rw [toList_lower, toList_lower, List.map_map]
  exact List.map_congr_left (fun c _ => toLower_idem c)

/-- only a letter can become another character, and that is a letter -/
theorem not_mem_lower {c : Char} {s : String} (hc : ¬ (97 ≤ c.toNat ∧ c.toNat ≤ 122))
    (h : c ∉ s.toList) : c ∉ (toAsciiLowercase s).toList := by
  rw [toList_lower, List.mem_map]
  rintro ⟨d, hd, e⟩
  have hn := toNat_toLower d
  rw [e] at hn
  split at hn
  · omega
  · have hcd : c = d := Char.toNat_inj.mp hn
    exact h (hcd ▸ hd)

theorem eqIgnoreAsciiCase_iff {a b : String} :
    eqIgnoreAsciiCase a b = true ↔ toAsciiLowercase a = toAsciiLowercase b := by
  rw [eqIgnoreAsciiCase, beq_iff_eq]

/-! ## splitting and joining -/

/-- the part before the first separator and the part behind it are determined -/
theorem sep_inj {α : Type} {c : α} {a a' b b' : List α} (ha : c ∉ a) (ha' : c ∉ a')
    (h : a ++ c :: b = a' ++ c :: b') : a = a' ∧ b = b' := by
  induction a generalizing a' with
  | nil =>
    cases a' with
    | nil => simpa using h
    | cons x xs =>
      obtain ⟨rfl, _⟩ := List.cons.inj h
      exact absurd (List.mem_cons_self ..) ha'
  | cons y ys ih =>
    cases a' with
    | nil =>
      obtain ⟨rfl, _⟩ := List.cons.inj h
      exact absurd (List.mem_cons_self ..) ha
    | cons x xs =>
      obtain ⟨rfl, htl⟩ := List.cons.inj h
      obtain ⟨rfl, rfl⟩ := ih (fun hm => ha (List.mem_cons_of_mem _ hm))
        (fun hm => ha' (List.mem_cons_of_mem _ hm)) htl
      exact ⟨rfl, rfl⟩

theorem intercalate_cons_cons {α : Type} (c : α) (a b : List α) (l : List (List α)) :
    [c].intercalate (a :: b :: l) = a ++ c :: [c].intercalate (b :: l) := by
  simp [List.intercalate]

theorem intercalate_singleton {α : Type} (c : α) (a : List α) : [c].intercalate [a] = a := by
  simp [List.intercalate]

/-- **Parts without the separator are recovered from their join.** -/
theorem intercalate_inj {α : Type} {c : α} {l l' : List (List α)} (hl : ∀ a ∈ l, c ∉ a)
    (hl' : ∀ a ∈ l', c ∉ a) (hne : l ≠ []) (hne' : l' ≠ [])
    (h : [c].intercalate l = [c].intercalate l') : l = l' := by
  -- a single part has no separator, so a longer list is never joined to it
  have single : ∀ (a b : List α) (m : List (List α)) (x : List α), c ∉ x →
      x ≠ a ++ c :: [c].intercalate (b :: m) := by
    intro a b m x hx e
    exact hx (by rw [e]; simp)
  induction l generalizing l' with
  | nil => exact absurd rfl hne
  | cons a rest ih =>
    cases l' with
    | nil => exact absurd rfl hne'
    | cons a' rest' =>
      have ha := hl a (List.mem_cons_self ..)
      have ha' := hl' a' (List.mem_cons_self ..)
      cases rest with
      | nil =>
        cases rest' with
        | nil => rw [intercalate_singleton, intercalate_singleton] at h; rw [h]
        | cons b' m' =>
          rw [intercalate_singleton, intercalate_cons_cons] at h
          exact absurd h (single _ _ _ _ ha)
      | cons b m =>
        cases rest' with
        | nil =>
          rw [intercalate_singleton, intercalate_cons_cons] at h
          exact absurd h.symm (single _ _ _ _ ha')
        | cons b' m' =>
          rw [intercalate_cons_cons, intercalate_cons_cons] at h
          obtain ⟨rfl, htl⟩ := sep_inj ha ha' h
          rw [ih (fun x hx => hl x (List.mem_cons_of_mem _ hx))
            (fun x hx => hl' x (List.mem_cons_of_mem _ hx)) (List.cons_ne_nil _ _)
            (List.cons_ne_nil _ _) htl]

theorem splitOnce_of_not_mem {sep : Char} {a b : List Char} (h : sep ∉ a) :
    splitOnce sep (a ++ sep :: b) = some (a, b) := by
  induction a with
  | nil => simp [splitOnce]
  | cons c rest ih =>
    rw [List.mem_cons, not_or] at h
    simp [splitOnce, Ne.symm h.1, ih h.2]

theorem splitOnce_length {sep : Char} {s a b : List Char} (h : splitOnce sep s = some (a, b)) :
    b.length < s.length := by
  induction s generalizing a with
  | nil => cases h
  | cons c rest ih =>
    rw [List.length_cons]
    unfold splitOnce at h
    split at h
    · cases h
      exact Nat.lt_succ_self _
    · obtain ⟨p, hp, e⟩ := Option.map_eq_some_iff.mp h
      cases e
      exact Nat.lt_succ_of_lt (ih hp)

theorem mem_of_splitOnce {sep : Char} {s a b : List Char} (h : splitOnce sep s = some (a, b)) :
    sep ∈ s := by
  induction s generalizing a with
  | nil => cases h
  | cons c rest ih =>
    unfold splitOnce at h
    split at h
    · rename_i hc
      exact hc ▸ List.mem_cons_self ..
    · obtain ⟨p, hp, e⟩ := Option.map_eq_some_iff.mp h
      cases e
      exact List.mem_cons_of_mem _ (ih hp)

theorem splitOnce_eq {sep : Char} {s a b : List Char} (h : splitOnce sep s = some (a, b)) :
    s = a ++ sep :: b ∧ sep ∉ a := by
  induction s generalizing a with
  | nil => cases h
  | cons c s ih =>
    unfold splitOnce at h
    split at h
    · rename_i hc
      cases h
      exact ⟨by rw [hc, List.nil_append], List.not_mem_nil⟩
    · rename_i hc
      obtain ⟨p, hp, e⟩ := Option.map_eq_some_iff.mp h
      cases e
      obtain ⟨hs, hsep⟩ := ih hp
      refine ⟨by rw [hs, List.cons_append], ?_⟩
      rw [List.mem_cons, not_or]
      exact ⟨Ne.symm hc, hsep⟩

theorem rsplitOnce_eq_some {sep : Char} {s a b : List Char} :
    rsplitOnce sep s = some (a, b) ↔ s = a ++ sep :: b ∧ sep ∉ b := by
  unfold rsplitOnce
  rw [Option.map_eq_some_iff]
  constructor
  · rintro ⟨⟨b', a'⟩, hsplit, e⟩
    cases e
    obtain ⟨hs, hsep⟩ := splitOnce_eq hsplit
    refine ⟨?_, fun h => hsep (List.mem_reverse.mp h)⟩
    rw [← List.reverse_reverse s, hs]
    simp
  · rintro ⟨rfl, hsep⟩
    have hreverse : (a ++ sep :: b).reverse = b.reverse ++ sep :: a.reverse := by simp
    refine ⟨(b.reverse, a.reverse), ?_, by simp⟩
    rw [hreverse, splitOnce_of_not_mem fun h => hsep (List.mem_reverse.mp h)]

theorem split_of_not_mem {sep : Char} {s : List Char} (h : sep ∉ s) : split sep s = [s] := by
  induction s with
  | nil => rfl
  | cons c rest ih =>
    rw [List.mem_cons, not_or] at h
    simp [split, Ne.symm h.1, ih h.2]

theorem split_ne_nil (sep : Char) (s : List Char) : split sep s ≠ [] := by
  cases s with
  | nil => exact List.cons_ne_nil _ _
  | cons c rest =>
    unfold split
    split
    · exact List.cons_ne_nil _ _
    · split
      · exact List.cons_ne_nil _ _
      · exact List.cons_ne_nil _ _

theorem split_append (sep : Char) (a b : List Char) :
    split sep (a ++ sep :: b) = split sep a ++ split sep b := by
  induction a with
  | nil => simp [split]
  | cons c rest ih =>
    rw [List.cons_append, split.eq_2, split.eq_2]
    by_cases hc : c = sep
    · rw [if_pos hc, if_pos hc, ih, List.cons_append]
    · rw [if_neg hc, if_neg hc, ih]
      cases hrest : split sep rest with
      | nil => exact absurd hrest (split_ne_nil sep rest)
      | cons part parts => rfl

/-! ## words -/

/-- a text that is one word -/
def IsWord (w : String) : Prop := w ≠ "" ∧ ∀ c ∈ w.toList, isAsciiWhitespace c = false

instance (w : String) : Decidable (IsWord w) :=
  @instDecidableAnd _ _ inferInstance (List.decidableBAll _ w.toList)

theorem words_empty : words "" = [] := by decide

theorem words_word {w : String} (h : IsWord w) : words w = [w] := by
  have hsplit : w.toList.splitOnP isAsciiWhitespace = [w.toList] := by
    apply List.splitOnP_eq_singleton
    intro c hc
    rw [h.2 c hc]
  have hne : w.toList ≠ [] := fun e => h.1 (String.toList_inj.mp e)
  unfold words
  rw [hsplit, List.filter_cons_of_pos (by simpa using hne), List.filter_nil, List.map_singleton,
    String.ofList_toList]

theorem words_cons {w s : String} (h : IsWord w) : words (w ++ " " ++ s) = w :: words s := by
  have hlist : (w ++ " " ++ s).toList = w.toList ++ ' ' :: s.toList := by
    rw [String.toList_append, String.toList_append, List.append_assoc]
    rfl
  have hsplit : (w.toList ++ ' ' :: s.toList).splitOnP isAsciiWhitespace =
      w.toList :: s.toList.splitOnP isAsciiWhitespace := by
    apply List.splitOnP_append_cons_of_forall_mem
    · intro c hc
      rw [h.2 c hc]
    · decide
  have hne : w.toList ≠ [] := fun e => h.1 (String.toList_inj.mp e)
  unfold words
  rw [hlist, hsplit, List.filter_cons_of_pos (by simpa using hne), List.map_cons,
    String.ofList_toList]

theorem join_cons_cons (sep a b : String) (l : List String) :
    join sep (a :: b :: l) = a ++ sep ++ join sep (b :: l) := by
  unfold join
  apply String.toList_inj.mp
  rw [String.toList_intercalate, String.toList_append, String.toList_append,
    String.toList_intercalate]
  simp only [List.map_cons]
  rw [List.intercalate_cons_cons]

theorem join_singleton (sep a : String) : join sep [a] = a := rfl

/-- **Words that were joined are found again.** -/
theorem words_join {ws : List String} (h : ∀ w ∈ ws, IsWord w) : words (join " " ws) = ws := by
  induction ws with
  | nil => exact words_empty
  | cons w rest ih =>
    have hw := h w (List.mem_cons_self ..)
    cases rest with
    | nil => rw [join_singleton, words_word hw]
    | cons w' rest' =>
      rw [join_cons_cons, words_cons hw, ih fun x hx => h x (List.mem_cons_of_mem _ hx)]

end Text
