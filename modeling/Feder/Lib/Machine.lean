import Mathlib.Data.List.Induction
import Mathlib.Tactic.Common

/-!
# Runs of a machine

A machine answers one input at a time and moves to a new state.  A run collects the inputs with
their answers, in order.

* `run_append`      a run in two parts;
* `run_simulates`   a machine whose steps follow those of another has the same runs;
* `view_run_seen`   what is invisible can be left out of a run.
-/

namespace Machine
variable {σ τ ι ω υ : Type}

/-- the inputs of a run with their answers, and the state at its end -/
def run (step : σ → ι → ω × σ) : σ → List ι → List (ι × ω) × σ
  | s, [] => ([], s)
  | s, i :: rest =>
    ((i, (step s i).1) :: (run step (step s i).2 rest).1, (run step (step s i).2 rest).2)

theorem run_append (step : σ → ι → ω × σ) (s : σ) (xs ys : List ι) :
    run step s (xs ++ ys) =
      ((run step s xs).1 ++ (run step (run step s xs).2 ys).1,
        (run step (run step s xs).2 ys).2) := by
  induction xs generalizing s with
  | nil => rfl
  | cons x rest ih =>
    show ((x, _) :: (run step _ (rest ++ ys)).1, (run step _ (rest ++ ys)).2) = _
    rw [ih]
    rfl

theorem run_concat (step : σ → ι → ω × σ) (s : σ) (xs : List ι) (x : ι) :
    run step s (xs ++ [x]) =
      ((run step s xs).1 ++ [(x, (step (run step s xs).2 x).1)],
        (step (run step s xs).2 x).2) := by
  rw [run_append]
  rfl

/-- an invariant of the history and the state, which every step extends -/
theorem run_history {step : σ → ι → ω × σ} {I : List (ι × ω) → σ → Prop} {s : σ} (h0 : I [] s)
    (hstep : ∀ h s i, I h s → I (h ++ [(i, (step s i).1)]) (step s i).2) (xs : List ι) :
    I (run step s xs).1 (run step s xs).2 := by
  induction xs using List.reverseRecOn with
  | nil => exact h0
  | append_singleton xs x ih =>
    rw [run_concat]
    exact hstep _ _ x ih

/-- **Simulation.**  Where related states answer every input alike, up to `f`, and move to related
states, whole runs do. -/
theorem run_simulates {step : σ → ι → ω × σ} {step' : τ → ι → υ × τ} {R : σ → τ → Prop}
    {f : υ → ω}
    (hstep : ∀ s t i, R s t → (step s i).1 = f (step' t i).1 ∧ R (step s i).2 (step' t i).2)
    {s : σ} {t : τ} (h : R s t) (xs : List ι) :
    (run step s xs).1 = (run step' t xs).1.map (fun e => (e.1, f e.2)) ∧
      R (run step s xs).2 (run step' t xs).2 := by
  induction xs generalizing s t with
  | nil => exact ⟨rfl, h⟩
  | cons x rest ih =>
    obtain ⟨hout, hnext⟩ := hstep s t x h
    obtain ⟨hrest, hend⟩ := ih hnext
    refine ⟨?_, hend⟩
    show (x, (step s x).1) :: (run step (step s x).2 rest).1 = _
    rw [hout, hrest]
    rfl

/-! ## what an observer sees -/

section
variable {step : σ → ι → ω × σ} {view : σ → υ} {sees : σ → ι → Bool}

/-- the inputs of a run that are seen in the states in which they arrive -/
def seen (step : σ → ι → ω × σ) (sees : σ → ι → Bool) : σ → List ι → List ι
  | _, [] => []
  | s, i :: rest =>
    if sees s i then i :: seen step sees (step s i).2 rest else seen step sees (step s i).2 rest

/-- An input that is not seen does not change the view, and what an input does to the view
depends on the view alone. -/
structure Unwinds (step : σ → ι → ω × σ) (view : σ → υ) (sees : σ → ι → Bool) : Prop where
  unseen : ∀ s i, sees s i = false → view (step s i).2 = view s
  consistent : ∀ s t i, view s = view t → view (step s i).2 = view (step t i).2

/-- **Unwinding.**  A run gives the same view as the run of the inputs that are seen. -/
theorem view_run_seen (h : Unwinds step view sees) {s t : σ} (hst : view s = view t)
    (xs : List ι) : view (run step s xs).2 = view (run step t (seen step sees s xs)).2 := by
  induction xs generalizing s t with
  | nil => exact hst
  | cons x rest ih =>
    unfold seen
    by_cases hx : sees s x = true
    · rw [if_pos hx]
      exact ih (h.consistent s t x hst)
    · rw [if_neg hx]
      have hview : view (step s x).2 = view s := h.unseen s x (Bool.eq_false_iff.mpr hx)
      exact ih (hview.trans hst)

end

end Machine
