import Feder.Lib.Text

/-!
# Slices of a text

A text is cut at an offset in bytes; an offset behind its end or inside of a character is an error.

* `splitAtByte_append`   a text is cut at the end of a prefix;
* `find_eq`              the offset of a separator is the length of what stands before it.
-/

namespace Text

inductive SliceError where
  | OutOfRange
  | NotABoundary
deriving DecidableEq

def byteLength : List Char → Nat
  | [] => 0
  | c :: s => c.utf8Size + byteLength s

/-- the two parts of a text at an offset -/
def splitAtByte : Nat → List Char → Except SliceError (List Char × List Char)
  | 0, s => .ok ([], s)
  | _ + 1, [] => .error .OutOfRange
  | n + 1, c :: s =>
    if c.utf8Size ≤ n + 1 then
      (splitAtByte (n + 1 - c.utf8Size) s).map fun p => (c :: p.1, p.2)
    else .error .NotABoundary

/-- `&s[..n]` -/
def sliceTo (n : Nat) (s : List Char) : Except SliceError (List Char) :=
  (splitAtByte n s).map Prod.fst

/-- `&s[n..]` -/
def sliceFrom (n : Nat) (s : List Char) : Except SliceError (List Char) :=
  (splitAtByte n s).map Prod.snd

/-- the offset of the first separator -/
def find (sep : Char) : List Char → Option Nat
  | [] => none
  | c :: s => if c = sep then some 0 else (find sep s).map (c.utf8Size + ·)

theorem byteLength_append (a b : List Char) :
    byteLength (a ++ b) = byteLength a + byteLength b := by
  induction a with
  | nil => rw [List.nil_append, byteLength, Nat.zero_add]
  | cons c a ih => rw [List.cons_append, byteLength, byteLength, ih, Nat.add_assoc]

theorem splitAtByte_append (a b : List Char) : splitAtByte (byteLength a) (a ++ b) = .ok (a, b) := by
  induction a with
  | nil => rw [List.nil_append, byteLength, splitAtByte]
  | cons c a ih =>
    have hpos := c.utf8Size_pos
    obtain ⟨n, hn⟩ : ∃ n, byteLength (c :: a) = n + 1 := by
      refine ⟨byteLength (c :: a) - 1, ?_⟩
      rw [byteLength]
      omega
    have hrest : n + 1 - c.utf8Size = byteLength a := by
      rw [byteLength] at hn
      omega
    rw [hn, List.cons_append, splitAtByte, if_pos (by rw [← hn, byteLength]; omega), hrest, ih]
    rfl

theorem sliceTo_append (a b : List Char) : sliceTo (byteLength a) (a ++ b) = .ok a := by
  rw [sliceTo, splitAtByte_append]
  rfl

theorem sliceFrom_append (a b : List Char) : sliceFrom (byteLength a) (a ++ b) = .ok b := by
  rw [sliceFrom, splitAtByte_append]
  rfl

/-- **The offset of a separator** is the length of what stands before it. -/
theorem find_eq (sep : Char) (s : List Char) :
    find sep s = (splitOnce sep s).map fun p => byteLength p.1 := by
  induction s with
  | nil => rfl
  | cons c s ih =>
    unfold find splitOnce
    split
    · rfl
    · rw [ih, Option.map_map, Option.map_map]
      rfl

end Text
