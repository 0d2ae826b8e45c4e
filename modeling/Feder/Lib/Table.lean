import Feder.Lib.Text
import Mathlib.Data.Finmap
import Mathlib.Data.Finset.Sort
import Mathlib.Data.List.Lex
import Mathlib.Order.Lex

/-!
# Tables with a primary key

A table is a finite map from keys to rows.  The writes are those of SQL: `upsert` (an insert whose
conflict clause may rewrite the old row or leave it), `updateWhere` and Mathlib's `erase`; the
read `listing` is a query ordered by a text column.

* `lookup_upsert`, `lookup_updateWhere`   what a write does to every key;
* `listing_sorted`, `mem_listing`         an ordered query lists the selected texts once each, in
                                          strictly ascending byte order.
-/

/-- a finite map from keys to rows -/
abbrev Table (κ ρ : Type) := Finmap (fun _ : κ => ρ)

namespace Table
variable {κ ρ : Type} [DecidableEq κ]

/-- insert a row; on a conflict `merge` gives the row to write, or leaves the old one -/
def upsert (t : Table κ ρ) (k : κ) (row : ρ) (merge : ρ → Option ρ) : Table κ ρ :=
  match t.lookup k with
  | none => t.insert k row
  | some old =>
    match merge old with
    | none => t
    | some new => t.insert k new

/-- rewrite the row under a key if it passes a test; the flag tells whether it was written -/
def updateWhere (t : Table κ ρ) (k : κ) (p : ρ → Bool) (f : ρ → ρ) : Table κ ρ × Bool :=
  match t.lookup k with
  | none => (t, false)
  | some old => if p old then (t.insert k (f old), true) else (t, false)

theorem lookup_insert' (t : Table κ ρ) (k k' : κ) (row : ρ) :
    (t.insert k row).lookup k' = if k' = k then some row else t.lookup k' := by
  by_cases h : k' = k
  · subst h
    rw [if_pos rfl, Finmap.lookup_insert]
  · rw [if_neg h, Finmap.lookup_insert_of_ne _ h]

theorem lookup_erase' (t : Table κ ρ) (k k' : κ) :
    (t.erase k).lookup k' = if k' = k then none else t.lookup k' := by
  by_cases h : k' = k
  · subst h
    rw [if_pos rfl, Finmap.lookup_erase]
  · rw [if_neg h, Finmap.lookup_erase_ne h]

/-- the row that an upsert leaves under its key -/
def merged (old : Option ρ) (row : ρ) (merge : ρ → Option ρ) : ρ :=
  match old with
  | none => row
  | some o => (merge o).getD o

theorem lookup_upsert (t : Table κ ρ) (k k' : κ) (row : ρ) (merge : ρ → Option ρ) :
    (t.upsert k row merge).lookup k' =
      if k' = k then some (merged (t.lookup k) row merge) else t.lookup k' := by
  unfold upsert merged
  cases hold : t.lookup k with
  | none => exact lookup_insert' t k k' row
  | some old =>
    cases hm : merge old with
    | some new =>
      simp only [hm, Option.getD_some]
      exact lookup_insert' t k k' new
    | none =>
      simp only [hm, Option.getD_none]
      by_cases h : k' = k
      · subst h
        rw [if_pos rfl, hold]
      · rw [if_neg h]

theorem lookup_updateWhere (t : Table κ ρ) (k k' : κ) (p : ρ → Bool) (f : ρ → ρ) :
    (t.updateWhere k p f).1.lookup k' =
      if k' = k then (t.lookup k).map (fun r => if p r then f r else r) else t.lookup k' := by
  unfold updateWhere
  cases hold : t.lookup k with
  | none =>
    by_cases h : k' = k
    · subst h
      rw [if_pos rfl, hold, Option.map_none]
    · rw [if_neg h]
  | some old =>
    cases hp : p old with
    | true =>
      simp only [hp, if_true, Option.map_some]
      exact lookup_insert' t k k' (f old)
    | false =>
      simp only [hp, Bool.false_eq_true, if_false, Option.map_some]
      by_cases h : k' = k
      · subst h
        rw [if_pos rfl, hold]
      · rw [if_neg h]

/-! ## ordered queries -/

/-- comparison of texts by their bytes, as `ORDER BY` on a text column does it -/
def byteLe (a b : String) : Prop :=
  (Text.utf8 a).map UInt8.toNat ≤ (Text.utf8 b).map UInt8.toNat

instance : DecidableRel byteLe := fun _ _ => inferInstanceAs (Decidable (_ ≤ _))

theorem byteKey_inj {a b : String}
    (h : (Text.utf8 a).map UInt8.toNat = (Text.utf8 b).map UInt8.toNat) : a = b :=
  Text.utf8_inj (List.map_injective_iff.mpr (fun _ _ => UInt8.toNat_inj.mp) h)

instance : IsTrans String byteLe := ⟨fun _ _ _ h h' => @le_trans (List Nat) _ _ _ _ h h'⟩
instance : Std.Antisymm byteLe := ⟨fun _ _ h h' => byteKey_inj (le_antisymm h h')⟩
instance : Std.Total byteLe := ⟨fun _ _ => @le_total (List Nat) _ _ _⟩

/-- strictly before in byte order -/
def byteLt (a b : String) : Prop := byteLe a b ∧ a ≠ b

theorem eq_of_ascending {α : Type} {f : α → String} {l l' : List α}
    (h : l.Pairwise fun x y => byteLt (f x) (f y)) (h' : l'.Pairwise fun x y => byteLt (f x) (f y))
    (hmem : ∀ a, a ∈ l ↔ a ∈ l') : l = l' := by
  have : Std.Irrefl fun x y : α => byteLt (f x) (f y) := ⟨fun _ hlt => hlt.2 rfl⟩
  have : Std.Antisymm fun x y : α => byteLt (f x) (f y) :=
    ⟨fun _ _ hlt hlt' => absurd (Std.Antisymm.antisymm _ _ hlt.1 hlt'.1) hlt.2⟩
  exact h.eq_of_mem_iff h' hmem

/-- the texts `column k` of the selected rows in byte order, each with what `row` finds for it -/
def listing {τ : Type} (t : Table κ ρ) (sel : κ → Bool) (column : κ → String)
    (row : String → Option τ) : List (String × τ) :=
  (((t.keys.filter fun k => sel k).image column).sort byteLe).filterMap fun s =>
    (row s).map fun r => (s, r)

omit [DecidableEq κ] in
theorem listing_keys_sublist {τ : Type} (t : Table κ ρ) (sel : κ → Bool) (column : κ → String)
    (row : String → Option τ) :
    ((t.listing sel column row).map Prod.fst).Sublist
      (((t.keys.filter fun k => sel k).image column).sort byteLe) := by
  unfold listing
  generalize ((t.keys.filter fun k => sel k).image column).sort byteLe = l
  induction l with
  | nil => exact List.Sublist.refl _
  | cons s rest ih =>
    cases h : row s with
    | none => simpa [h] using ih.cons s
    | some r => simpa [h] using ih.cons_cons s

/-- a query that finds something for every selected row lists all their texts -/
theorem listing_keys {τ : Type} {t : Table κ ρ} {sel : κ → Bool} {column : κ → String}
    {row : String → Option τ}
    (h : ∀ k x, t.lookup k = some x → sel k = true → (row (column k)).isSome = true) :
    (t.listing sel column row).map Prod.fst =
      ((t.keys.filter fun k => sel k).image column).sort byteLe := by
  unfold listing
  have hall : ∀ s ∈ ((t.keys.filter fun k => sel k).image column).sort byteLe,
      (row s).isSome = true := by
    intro s hs
    rw [Finset.mem_sort, Finset.mem_image] at hs
    obtain ⟨k, hk, rfl⟩ := hs
    rw [Finset.mem_filter, Finmap.mem_keys, Finmap.mem_iff] at hk
    obtain ⟨⟨x, hx⟩, hsel⟩ := hk
    exact h k x hx hsel
  generalize ((t.keys.filter fun k => sel k).image column).sort byteLe = l at hall ⊢
  induction l with
  | nil => rfl
  | cons s rest ih =>
    obtain ⟨r, hr⟩ := Option.isSome_iff_exists.mp (hall s (List.mem_cons_self ..))
    have hrest := ih fun s' hs' => hall s' (List.mem_cons_of_mem _ hs')
    simp only [List.filterMap_cons, hr, Option.map_some, List.map_cons, hrest]

omit [DecidableEq κ] in
/-- **An ordered query lists every text once, in strictly ascending byte order.** -/
theorem listing_sorted {τ : Type} (t : Table κ ρ) (sel : κ → Bool) (column : κ → String)
    (row : String → Option τ) : ((t.listing sel column row).map Prod.fst).Pairwise byteLt := by
  have hs := (Finset.pairwise_sort ((t.keys.filter fun k => sel k).image column) byteLe)
  have hn := (Finset.sort_nodup ((t.keys.filter fun k => sel k).image column) byteLe)
  exact (hs.and hn).sublist (listing_keys_sublist t sel column row)

theorem mem_listing {τ : Type} {t : Table κ ρ} {sel : κ → Bool} {column : κ → String}
    {row : String → Option τ} {s : String} {r : τ} :
    (s, r) ∈ t.listing sel column row ↔
      (∃ k, (∃ x, t.lookup k = some x) ∧ sel k = true ∧ column k = s) ∧ row s = some r := by
  unfold listing
  rw [List.mem_filterMap]
  constructor
  · rintro ⟨s', hs', h⟩
    obtain ⟨r', hr', e⟩ := Option.map_eq_some_iff.mp h
    cases e
    rw [Finset.mem_sort, Finset.mem_image] at hs'
    obtain ⟨k, hk, rfl⟩ := hs'
    rw [Finset.mem_filter, Finmap.mem_keys, Finmap.mem_iff] at hk
    exact ⟨⟨k, hk.1, hk.2, rfl⟩, hr'⟩
  · rintro ⟨⟨k, hk, hsel, rfl⟩, hr⟩
    refine ⟨column k, ?_, by rw [hr]; rfl⟩
    rw [Finset.mem_sort, Finset.mem_image]
    refine ⟨k, ?_, rfl⟩
    rw [Finset.mem_filter, Finmap.mem_keys, Finmap.mem_iff]
    exact ⟨hk, hsel⟩

end Table
