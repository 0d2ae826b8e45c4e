import Feder.Lib.Machine
import Mathlib.Logic.Function.Basic

/-!
# One-way cells

For every key a cell that is empty, then pending with a value that may be replaced, then accepted
for good.  `confirm` is a compare-and-set: it accepts the pending value that it expects.

* `visible_iff`         the pending value is the last one stored, until a confirmation succeeds;
* `visible_of_stored`  what is left of a store after the operations that follow;
* `accepted_run`        an accepted cell stays as it is, and no confirmation of it succeeds again;
* `step_of_ne`          an operation touches the cell of its own key only.
-/

namespace OneWay
variable {κ α ω : Type} [DecidableEq κ] [DecidableEq α]

inductive Cell (α : Type) where
  | empty
  | pending (value : α)
  | accepted (value : α)
deriving DecidableEq

inductive Op (κ α : Type) where
  | store (value : α)
  | load (key : κ)
  | confirm (expected : α)

inductive Answer (α : Type) where
  | stored
  | loaded (value : Option α)
  | confirmed (changed : Bool)
deriving DecidableEq

/-- the pending value -/
def Cell.visible : Cell α → Option α
  | .pending a => some a
  | _ => none

def Cell.isAccepted : Cell α → Bool
  | .accepted _ => true
  | _ => false

/-- the cell after a value was stored in it -/
def Cell.put (value : α) : Cell α → Cell α
  | .accepted a => .accepted a
  | _ => .pending value

/-- the key that an operation is about -/
def Op.key (key : α → κ) : Op κ α → κ
  | .store a => key a
  | .load k => k
  | .confirm a => key a

def step (key : α → κ) (cells : κ → Cell α) : Op κ α → Answer α × (κ → Cell α)
  | .store a => (.stored, Function.update cells (key a) ((cells (key a)).put a))
  | .load k => (.loaded (cells k).visible, cells)
  | .confirm a =>
    if cells (key a) = .pending a then
      (.confirmed true, Function.update cells (key a) (.accepted a))
    else (.confirmed false, cells)

omit [DecidableEq α] in
theorem visible_eq_some {c : Cell α} {a : α} : c.visible = some a ↔ c = .pending a := by
  cases c <;> simp [Cell.visible]

theorem step_of_ne {key : α → κ} {cells : κ → Cell α} {op : Op κ α} {k : κ}
    (h : k ≠ op.key key) : (step key cells op).2 k = cells k := by
  cases op with
  | store a => exact Function.update_of_ne h _ _
  | load k' => rfl
  | confirm a =>
    show (if _ then _ else _ : Answer α × (κ → Cell α)).2 k = _
    split
    · exact Function.update_of_ne h _ _
    · rfl

/-! ## histories -/

/-- the value of the most recent store under a key -/
def lastStored (key : α → κ) (k : κ) (history : List (Op κ α × ω)) : Option α :=
  (history.filterMap fun e =>
    match e.1 with
    | .store a => if key a = k then some a else none
    | _ => none).getLast?

/-- a confirmation under a key was answered with `yes` -/
def Confirmed (key : α → κ) (yes : ω) (k : κ) (history : List (Op κ α × ω)) : Prop :=
  ∃ a, key a = k ∧ (Op.confirm a, yes) ∈ history

omit [DecidableEq α] in
theorem lastStored_append (key : α → κ) (k : κ) (before later : List (Op κ α × ω)) :
    lastStored key k (before ++ later) =
      (lastStored key k later).or (lastStored key k before) := by
  unfold lastStored
  rw [List.filterMap_append, List.getLast?_append]

omit [DecidableEq α] in
theorem lastStored_store (key : α → κ) (k : κ) (history : List (Op κ α × ω)) (a : α) (out : ω) :
    lastStored key k (history ++ [(.store a, out)]) =
      if key a = k then some a else lastStored key k history := by
  rw [lastStored_append]
  unfold lastStored
  by_cases h : key a = k <;> simp [h]

omit [DecidableEq α] in
theorem lastStored_other (key : α → κ) (k : κ) (history : List (Op κ α × ω)) {op : Op κ α}
    (h : ∀ a, op ≠ .store a) (out : ω) :
    lastStored key k (history ++ [(op, out)]) = lastStored key k history := by
  rw [lastStored_append]
  cases op with
  | store a => exact absurd rfl (h a)
  | load _ => rfl
  | confirm _ => rfl

omit [DecidableEq κ] [DecidableEq α] in
theorem confirmed_append {key : α → κ} {yes : ω} {k : κ} {before later : List (Op κ α × ω)} :
    Confirmed key yes k (before ++ later) ↔
      Confirmed key yes k before ∨ Confirmed key yes k later := by
  unfold Confirmed
  simp only [List.mem_append, and_or_left, exists_or]

omit [DecidableEq κ] [DecidableEq α] in
theorem confirmed_concat {key : α → κ} {yes : ω} {k : κ} {history : List (Op κ α × ω)}
    {op : Op κ α} {out : ω} :
    Confirmed key yes k (history ++ [(op, out)]) ↔
      Confirmed key yes k history ∨ ∃ a, key a = k ∧ op = .confirm a ∧ out = yes := by
  rw [confirmed_append]
  unfold Confirmed
  simp only [List.mem_singleton, Prod.mk.injEq, eq_comm]

omit [DecidableEq κ] [DecidableEq α] in
theorem confirmed_map {υ : Type} {key : α → κ} {f : ω → υ} (hf : Function.Injective f) {yes : ω}
    {k : κ} {history : List (Op κ α × ω)} :
    Confirmed key (f yes) k (history.map fun e => (e.1, f e.2)) ↔ Confirmed key yes k history := by
  unfold Confirmed
  refine exists_congr fun a => and_congr_right fun _ => ?_
  rw [List.mem_map]
  constructor
  · rintro ⟨⟨op, out⟩, he, e⟩
    obtain ⟨rfl, hout⟩ := Prod.mk.inj e
    cases hf hout
    exact he
  · exact fun h => ⟨_, h, rfl⟩

omit [DecidableEq α] in
theorem lastStored_map {υ : Type} (key : α → κ) (f : ω → υ) (k : κ)
    (history : List (Op κ α × ω)) :
    lastStored key k (history.map fun e => (e.1, f e.2)) = lastStored key k history := by
  unfold lastStored
  rw [List.filterMap_map]
  rfl

/-! ## runs -/

/-- what the history of a run says of every cell -/
structure Tracks (key : α → κ) (history : List (Op κ α × Answer α)) (cells : κ → Cell α) :
    Prop where
  accepted : ∀ k, Confirmed key (.confirmed true) k history ↔ (cells k).isAccepted = true
  visible : ∀ k, (cells k).isAccepted = false → (cells k).visible = lastStored key k history

theorem tracks_step {key : α → κ} {history : List (Op κ α × Answer α)} {cells : κ → Cell α}
    (h : Tracks key history cells) (op : Op κ α) :
    Tracks key (history ++ [(op, (step key cells op).1)]) (step key cells op).2 := by
  cases op with
  | load k' =>
    refine ⟨fun k => ?_, fun k hk => ?_⟩
    · show _ ↔ (cells k).isAccepted = true
      rw [confirmed_concat, ← h.accepted k]
      simp
    · rw [lastStored_other _ _ _ nofun]
      exact h.visible k hk
  | store a =>
    have hcell : ∀ k, (step key cells (.store a)).2 k =
        if k = key a then (cells (key a)).put a else cells k := by
      intro k
      show Function.update cells (key a) _ k = _
      rw [Function.update_apply]
    refine ⟨fun k => ?_, fun k hk => ?_⟩
    · rw [confirmed_concat, h.accepted k, hcell]
      by_cases e : k = key a
      · subst e
        cases hc : cells (key a) <;> simp [Cell.put, Cell.isAccepted]
      · simp [e]
    · rw [lastStored_store]
      rw [hcell] at hk ⊢
      by_cases e : k = key a
      · subst e
        cases hc : cells (key a) <;> simp_all [Cell.put, Cell.isAccepted, Cell.visible]
      · rw [if_neg e] at hk ⊢
        rw [if_neg (Ne.symm e)]
        exact h.visible k hk
  | confirm a =>
    by_cases hp : cells (key a) = .pending a
    · have hs : step key cells (.confirm a) =
          (.confirmed true, Function.update cells (key a) (.accepted a)) := if_pos hp
      rw [hs]
      refine ⟨fun k => ?_, fun k hk => ?_⟩
      · show _ ↔ (Function.update cells (key a) (.accepted a) k).isAccepted = true
        rw [confirmed_concat, Function.update_apply]
        by_cases e : k = key a
        · subst e
          simp [Cell.isAccepted]
        · rw [if_neg e, ← h.accepted k]
          simp [Ne.symm e]
      · rw [lastStored_other _ _ _ nofun]
        change (Function.update cells (key a) (.accepted a) k).isAccepted = false at hk
        show (Function.update cells (key a) (.accepted a) k).visible = _
        by_cases e : k = key a
        · subst e
          simp [Cell.isAccepted] at hk
        · rw [Function.update_of_ne e] at hk ⊢
          exact h.visible k hk
    · have hs : step key cells (.confirm a) = (.confirmed false, cells) := if_neg hp
      rw [hs]
      refine ⟨fun k => ?_, fun k hk => ?_⟩
      · rw [confirmed_concat, ← h.accepted k]
        simp
      · rw [lastStored_other _ _ _ nofun]
        exact h.visible k hk

theorem tracks_run (key : α → κ) (ops : List (Op κ α)) :
    Tracks key (Machine.run (step key) (fun _ => .empty) ops).1
      (Machine.run (step key) (fun _ => .empty) ops).2 := by
  apply Machine.run_history
  · refine ⟨fun k => ?_, fun k _ => rfl⟩
    constructor
    · rintro ⟨_, _, h⟩
      cases h
    · intro h
      cases h
  · exact fun _ _ op h => tracks_step h op

omit [DecidableEq α] in
/-- **The pending value is the last one stored, until a confirmation succeeds.** -/
theorem visible_iff {key : α → κ} {history : List (Op κ α × Answer α)} {cells : κ → Cell α}
    (h : Tracks key history cells) {k : κ} {a : α} :
    (cells k).visible = some a ↔
      lastStored key k history = some a ∧ ¬ Confirmed key (.confirmed true) k history := by
  rw [h.accepted k]
  cases hacc : (cells k).isAccepted with
  | false => simp [h.visible k hacc]
  | true =>
    cases hc : cells k <;> simp_all [Cell.isAccepted, Cell.visible]

omit [DecidableEq α] in
/-- **What is left of a store**: its value, or one stored since, unless the cell was accepted before
or has been accepted since. -/
theorem visible_of_stored {key : α → κ} {before later : List (Op κ α × Answer α)}
    {cells₀ cells : κ → Cell α} {a : α} {out : Answer α} (h₀ : Tracks key before cells₀)
    (h : Tracks key (before ++ (.store a, out) :: later) cells) {b : α} :
    (cells (key a)).visible = some b ↔
      ((cells₀ (key a)).isAccepted = false ∧
        ¬ Confirmed key (.confirmed true) (key a) later) ∧
      (lastStored key (key a) later).getD a = b := by
  have hconfirmed : Confirmed key (.confirmed true) (key a) (before ++ (.store a, out) :: later) ↔
      (cells₀ (key a)).isAccepted = true ∨ Confirmed key (.confirmed true) (key a) later := by
    rw [List.append_cons, confirmed_append, confirmed_concat, h₀.accepted]
    simp
  have hlast : lastStored key (key a) (before ++ (.store a, out) :: later) =
      some ((lastStored key (key a) later).getD a) := by
    rw [List.append_cons, lastStored_append, lastStored_store, if_pos rfl]
    cases lastStored key (key a) later <;> rfl
  rw [visible_iff h, hconfirmed, hlast, not_or, Bool.not_eq_true, Option.some.injEq]
  exact and_comm

theorem accepted_step {key : α → κ} {cells : κ → Cell α} {k : κ} {a : α}
    (h : cells k = .accepted a) (op : Op κ α) : (step key cells op).2 k = .accepted a := by
  by_cases hk : k = op.key key
  · cases op with
    | load _ => exact h
    | store b =>
      subst hk
      show Function.update cells _ _ _ = _
      rw [Op.key, Function.update_self]
      rw [Op.key] at h
      rw [h]
      rfl
    | confirm b =>
      subst hk
      show (if _ then _ else _ : Answer α × (κ → Cell α)).2 _ = _
      rw [Op.key] at h ⊢
      rw [if_neg (by rw [h]; nofun)]
      exact h
  · rw [step_of_ne hk, h]

/-- **An accepted cell stays as it is**, and no confirmation of it succeeds again. -/
theorem accepted_run {key : α → κ} {cells : κ → Cell α} {k : κ} {a : α}
    (h : cells k = .accepted a) (ops : List (Op κ α)) :
    (Machine.run (step key) cells ops).2 k = .accepted a ∧
      ¬ Confirmed key (.confirmed true) k (Machine.run (step key) cells ops).1 := by
  refine Machine.run_history (I := fun (history : List (Op κ α × Answer α))
    (cells : κ → Cell α) => cells k = .accepted a ∧
      ¬ Confirmed key (.confirmed true) k history) ?_ ?_ ops
  · exact ⟨h, fun ⟨_, _, hm⟩ => by cases hm⟩
  · rintro history cells op ⟨hc, hno⟩
    refine ⟨accepted_step hc op, ?_⟩
    rw [confirmed_concat]
    rintro (hyes | ⟨b, rfl, rfl, hout⟩)
    · exact hno hyes
    · have hs : step key cells (.confirm b) = (.confirmed false, cells) :=
        if_neg (by rw [hc]; nofun)
      rw [hs] at hout
      cases hout

end OneWay
