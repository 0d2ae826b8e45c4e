import Feder.Lib.Prog

/-!
# Systems that refine others

The same calls may run over two kinds of states.  If each operation does over the one what it may do
over the other, every interleaving over the one is an interleaving over the other, with the same
threads and the same trace.

* `Refines.reachable`   the same interleaving over the other states.
-/

namespace System
variable {σ τ C Op : Type} {Ans : Op → Type} {α : Type}

/-- the calls of `S` are those of `T`, and `T` can answer and do what `S` does, where `rel` holds -/
structure Refines (S : System σ C Op Ans α) (T : System τ C Op Ans α) (rel : σ → τ → Prop) :
    Prop where
  program : ∀ c, S.program c = T.program c
  admits : ∀ {s t c}, rel s t → S.admits s c → T.admits t c
  exec : ∀ {c s t s'} {o : Op} {ans : Ans o}, rel s t → S.exec c s o ans s' →
    ∃ t', T.exec c t o ans t' ∧ rel s' t'

variable {S : System σ C Op Ans α} {T : System τ C Op Ans α} {rel : σ → τ → Prop}

theorem Refines.step (h : S.Refines T rel) {s s' : Config σ C Op Ans α} {t : τ}
    (hstep : S.Step s s') (hrel : rel s.state t) :
    ∃ t', T.Step ⟨t, s.threads, s.trace⟩ ⟨t', s'.threads, s'.trace⟩ ∧ rel s'.state t' := by
  cases hstep with
  | start c hc =>
    refine ⟨t, ?_, hrel⟩
    rw [h.program c]
    exact Step.start c (h.admits hrel hc)
  | exec i u o k ans state hu hrest hx =>
    obtain ⟨t', hx', hrel'⟩ := h.exec hrel hx
    exact ⟨t', Step.exec i u o k ans t' hu hrest hx', hrel'⟩

/-- **The same interleaving over the other states.** -/
theorem Refines.reachable (h : S.Refines T rel) {state : σ} {state' : τ} (hrel : rel state state')
    {s : Config σ C Op Ans α} (hs : S.Reachable state s) :
    ∃ t, T.Reachable state' ⟨t, s.threads, s.trace⟩ ∧ rel s.state t := by
  induction hs with
  | refl => exact ⟨state', .refl, hrel⟩
  | tail _ hstep ih =>
    obtain ⟨t, ht, hrel'⟩ := ih
    obtain ⟨t', hstep', hrel''⟩ := h.step hstep hrel'
    exact ⟨t', ht.tail hstep', hrel''⟩

end System
