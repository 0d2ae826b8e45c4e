import Feder.Lib.Prog
import Mathlib.Data.List.Forall2

/-!
# Programs over more operations

A program over some operations is one over more of them: each operation is renamed, and each answer
to it is read back.  Programs of different kinds can so run one behind the other, and interleaved
over one state.

* `Lifted.mem`   what the program has done is done by the renamed one;
* `Sat.lift`     the specification of the program carries over.
-/

namespace Prog
variable {Op Op' : Type} {Ans : Op → Type} {Ans' : Op' → Type} {α β : Type}

/-- the program with its operations renamed and their answers read back, and what comes behind it -/
def lift (f : Op → Op') (back : ∀ o, Ans' (f o) → Ans o) (next : α → Prog Op' Ans' β) :
    Prog Op Ans α → Prog Op' Ans' β
  | .ret a => next a
  | .op o k => .op (f o) fun ans => lift f back next (k (back o ans))

variable {f : Op → Op'} {back : ∀ o, Ans' (f o) → Ans o} {next : α → Prog Op' Ans' β}

/-- the events of a renamed program, and those of the program -/
def Lifted (f : Op → Op') (back : ∀ o, Ans' (f o) → Ans o) :
    List (Event Op' Ans') → List (Event Op Ans) → Prop :=
  List.Forall₂ fun e' e => ∃ ans, e' = ⟨f e.op, ans⟩ ∧ back e.op ans = e.ans

theorem Lifted.concat {past' : List (Event Op' Ans')} {past : List (Event Op Ans)}
    (h : Lifted f back past' past) (o : Op) (ans : Ans' (f o)) :
    Lifted f back (past' ++ [⟨f o, ans⟩]) (past ++ [⟨o, back o ans⟩]) :=
  List.rel_append h (.cons ⟨ans, rfl, rfl⟩ .nil)

theorem Lifted.mem {past' : List (Event Op' Ans')} {past : List (Event Op Ans)}
    (h : Lifted f back past' past) {e : Event Op Ans} (he : e ∈ past) :
    ∃ ans, ⟨f e.op, ans⟩ ∈ past' ∧ back e.op ans = e.ans := by
  unfold Lifted at h
  induction h with
  | nil => cases he
  | cons hfirst _ ih =>
    obtain ⟨ans, rfl, hback⟩ := hfirst
    rcases List.mem_cons.mp he with rfl | he
    · exact ⟨ans, List.mem_cons_self, hback⟩
    · obtain ⟨ans', hmem, hback'⟩ := ih he
      exact ⟨ans', List.mem_cons_of_mem _ hmem, hback'⟩

/-- **A renamed program keeps the specification of the program**, in the operations of the renamed
one, and hands it to what comes behind it. -/
theorem Sat.lift {φ : List (Event Op Ans) → Op → Prop} {ψ : List (Event Op Ans) → α → Prop}
    {φ' : List (Event Op' Ans') → Op' → Prop} {ψ' : List (Event Op' Ans') → β → Prop}
    {past : List (Event Op Ans)} {past' : List (Event Op' Ans')} {p : Prog Op Ans α}
    (h : Sat φ ψ past p) (hpast : Lifted f back past' past)
    (hop : ∀ past' past o, Lifted f back past' past → φ past o → φ' past' (f o))
    (hnext : ∀ past' past a, Lifted f back past' past → ψ past a → Sat φ' ψ' past' (next a)) :
    Sat φ' ψ' past' (p.lift f back next) := by
  induction p generalizing past past' with
  | ret a => exact hnext past' past a hpast h
  | op o k ih =>
    refine ⟨hop past' past o hpast h.1, fun ans => ?_⟩
    exact ih (back o ans) (h.2 _) (hpast.concat o ans)

end Prog
