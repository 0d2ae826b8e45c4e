import Feder.Lib.Prog

/-!
# Computations that agree until one of them fails

Two computations agree if they yield the same, or one of them fails.  Two programs agree if they
make the same operations and agree after the same answers, or one of them fails.

* `Except.Throws`       what a computation can fail with;
* `Except.Agree.bind`   agreement is kept by sequencing;
* `Agree.runs`          programs that agree and both succeed have the same result and the same end.
-/

/-- what a computation can fail with -/
def Except.Throws {ε α : Type} (P : ε → Prop) (x : Except ε α) : Prop := ∀ e, x = .error e → P e

section
variable {ε α β : Type} {P : ε → Prop}

theorem Except.throws_ok (a : α) : (Except.ok a : Except ε α).Throws P := by
  intro e he
  cases he

theorem Except.throws_error {e : ε} (h : P e) : (Except.error e : Except ε α).Throws P := by
  intro e' he
  cases he
  exact h

theorem Except.Throws.bind {x : Except ε α} {f : α → Except ε β} (h : x.Throws P)
    (hf : ∀ a, (f a).Throws P) : (x >>= f).Throws P := by
  cases x with
  | error e => exact throws_error (h e rfl)
  | ok a => exact hf a

theorem Except.throws_ite {p : Prop} [Decidable p] {x y : Except ε α} (hx : x.Throws P)
    (hy : y.Throws P) : (if p then x else y).Throws P := by
  by_cases h : p
  · rw [if_pos h]
    exact hx
  · rw [if_neg h]
    exact hy

/-- a guard that returns early, with what is left of the block behind it -/
theorem Except.throws_guard {p : Prop} [Decidable p] {e : ε} {f : Unit → Except ε α} (he : P e)
    (hf : (f ()).Throws P) :
    (if p then (Except.error e : Except ε Unit) >>= f else f ()).Throws P :=
  throws_ite ((throws_error he).bind fun _ => hf) hf

end

/-- the two yield the same, or one of them fails -/
inductive Except.Agree {ε α : Type} (failed : ε → Prop) : Except ε α → Except ε α → Prop where
  | left {e : ε} {y : Except ε α} (h : failed e) : Agree failed (.error e) y
  | right {e : ε} {x : Except ε α} (h : failed e) : Agree failed x (.error e)
  | refl (x : Except ε α) : Agree failed x x

section
variable {ε α β : Type} {failed : ε → Prop}

/-- **Agreement is kept by sequencing.** -/
theorem Except.Agree.bind {x y : Except ε α} {f g : α → Except ε β} (h : x.Agree failed y)
    (hf : ∀ a, (f a).Agree failed (g a)) : (x >>= f).Agree failed (y >>= g) := by
  cases h with
  | left he => exact .left he
  | right he => exact .right he
  | refl =>
    cases x with
    | error e => exact .refl _
    | ok a => exact hf a

theorem Except.Agree.guard {p : Prop} [Decidable p] {e : ε} {f g : Unit → Except ε α}
    (h : (f ()).Agree failed (g ())) :
    (if p then (Except.error e : Except ε Unit) >>= f else f ()).Agree failed
      (if p then (Except.error e : Except ε Unit) >>= g else g ()) := by
  by_cases hp : p
  · rw [if_pos hp, if_pos hp]
    exact .refl (.error e)
  · rw [if_neg hp, if_neg hp]
    exact h

/-- computations all of whose errors are failures agree if they yield the same -/
theorem Except.agree_of_ok {x y : Except ε α} (hx : x.Throws failed) (hy : y.Throws failed)
    (h : ∀ a b, x = .ok a → y = .ok b → a = b) :
    x.Agree failed y := by
  cases x with
  | error e => exact .left (hx e rfl)
  | ok a =>
    cases y with
    | error e => exact .right (hy e rfl)
    | ok b =>
      rw [h a b rfl rfl]
      exact .refl _

end

namespace Prog
variable {Op : Type} {Ans : Op → Type} {α σ : Type}

/-- the program ends at once, with a failure -/
def Stops (failed : α → Prop) (p : Prog Op Ans α) : Prop := ∃ a, failed a ∧ p = .ret a

/-- the two make the same operations until one of them fails, as it does after a `bad` answer -/
inductive Agree (failed : α → Prop) (bad : (o : Op) → Ans o → Prop) :
    Prog Op Ans α → Prog Op Ans α → Prop where
  | left {p q : Prog Op Ans α} (h : Stops failed p) : Agree failed bad p q
  | right {p q : Prog Op Ans α} (h : Stops failed q) : Agree failed bad p q
  | ret (a : α) : Agree failed bad (.ret a) (.ret a)
  | op (o : Op) {k l : Ans o → Prog Op Ans α}
      (h : ∀ ans, ¬ bad o ans → Agree failed bad (k ans) (l ans))
      (hk : ∀ ans, bad o ans → Stops failed (k ans))
      (hl : ∀ ans, bad o ans → Stops failed (l ans)) : Agree failed bad (.op o k) (.op o l)

section
variable {failed : α → Prop} {bad : (o : Op) → Ans o → Prop}
  {exec : σ → (o : Op) → Ans o → σ → Prop}

theorem Agree.map {β : Type} {failed' : β → Prop} {f : α → β}
    (hf : ∀ a, failed a → failed' (f a)) {p q : Prog Op Ans α} (h : Agree failed bad p q) :
    Agree failed' bad (p.map f) (q.map f) := by
  have hstops : ∀ {p : Prog Op Ans α}, Stops failed p → Stops failed' (p.map f) := by
    rintro _ ⟨a, ha, rfl⟩
    exact ⟨f a, hf a ha, rfl⟩
  induction h with
  | left h => exact .left (hstops h)
  | right h => exact .right (hstops h)
  | ret a => exact .ret (f a)
  | op o _ hk hl ih =>
    exact .op o ih (fun ans hans => hstops (hk ans hans)) (fun ans hans => hstops (hl ans hans))

theorem Stops.runs {p : Prog Op Ans α} {s s' : σ} {a : α} (h : Stops failed p)
    (hrun : Runs exec Eq s p a s') : failed a := by
  obtain ⟨b, hb, rfl⟩ := h
  cases hrun
  exact hb

/-- **Programs that agree and both succeed** have the same result and the same end, if the answers
that are not bad are determined. -/
theorem Agree.runs {p q : Prog Op Ans α} (h : Agree failed bad p q) {s s₁ s₂ : σ} {a b : α}
    (hp : Runs exec Eq s p a s₁) (hq : Runs exec Eq s q b s₂) (ha : ¬ failed a) (hb : ¬ failed b)
    (hexec : ∀ s o ans ans' s₁ s₂, exec s o ans s₁ → exec s o ans' s₂ → ¬ bad o ans →
      ¬ bad o ans' → ans = ans' ∧ s₁ = s₂) : a = b ∧ s₁ = s₂ := by
  induction h generalizing s with
  | left hstop => exact absurd (hstop.runs hp) ha
  | right hstop => exact absurd (hstop.runs hq) hb
  | ret a =>
    cases hp with
    | ret hs₁ =>
      cases hq with
      | ret hs₂ =>
        subst hs₁
        exact ⟨rfl, hs₂⟩
  | op o _ hk hl ih =>
    cases hp with
    | op hrely hx hrest =>
      cases hq with
      | op hrely' hx' hrest' =>
        subst hrely
        subst hrely'
        have hgood := fun hbad => ha ((hk _ hbad).runs hrest)
        have hgood' := fun hbad => hb ((hl _ hbad).runs hrest')
        obtain ⟨rfl, rfl⟩ := hexec _ _ _ _ _ _ hx hx' hgood hgood'
        exact ih _ hgood hrest hrest'

end

end Prog
