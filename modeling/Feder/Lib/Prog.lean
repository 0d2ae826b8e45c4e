import Mathlib.Logic.Relation
import Mathlib.Tactic.Common

/-!
# Programs over a shared state

A program is a tree of operations on a shared state: each operation is answered, and the rest of
the program depends on the answer.  Programs run alone (`run`) or interleaved with others
(`System`): a configuration holds the state, the threads with what each has done so far, and the
trace of all operations.

* `Sat`             what every operation and every result of a program satisfies, given the
                    events before it;
* `Runs.sat`        the rule for a program that runs beside others;
* `Runs.leads`      the events of a run alone;
* `sat_of_reachable`, `exec_sat`   a thread keeps its specification in every interleaving;
* `reachable_induction`            the invariant rule;
* `reachable_run_call`             what a call does alone is one of the interleavings;
* `executed`        the step at which a thread got one of its answers;
* `trace_past`      the trace restricted to one thread is what that thread has done.
-/

/-- a program: a result, or an operation and what follows each of its answers -/
inductive Prog (Op : Type) (Ans : Op → Type) (α : Type) where
  | ret (a : α)
  | op (o : Op) (k : Ans o → Prog Op Ans α)

/-- an operation with its answer -/
structure Event (Op : Type) (Ans : Op → Type) where
  op : Op
  ans : Ans op

namespace Prog
variable {Op : Type} {Ans : Op → Type} {α σ : Type}

/-- every operation that can come next satisfies `φ` and every result `ψ`, given the events so
far -/
def Sat (φ : List (Event Op Ans) → Op → Prop) (ψ : List (Event Op Ans) → α → Prop) :
    List (Event Op Ans) → Prog Op Ans α → Prop
  | past, .ret a => ψ past a
  | past, .op o k => φ past o ∧ ∀ ans, Sat φ ψ (past ++ [⟨o, ans⟩]) (k ans)

theorem Sat.mono {φ φ' : List (Event Op Ans) → Op → Prop} {ψ ψ' : List (Event Op Ans) → α → Prop}
    (hφ : ∀ past o, φ past o → φ' past o) (hψ : ∀ past a, ψ past a → ψ' past a)
    {past : List (Event Op Ans)} {p : Prog Op Ans α} (h : Sat φ ψ past p) : Sat φ' ψ' past p := by
  induction p generalizing past with
  | ret a => exact hψ _ _ h
  | op o k ih => exact ⟨hφ _ _ h.1, fun ans => ih ans (h.2 ans)⟩

/-- the program with its result renamed -/
def map {β : Type} (f : α → β) : Prog Op Ans α → Prog Op Ans β
  | .ret a => .ret (f a)
  | .op o k => .op o fun ans => map f (k ans)

theorem map_id (p : Prog Op Ans α) : p.map id = p := by
  induction p with
  | ret a => rfl
  | op o k ih =>
    show Prog.op o (fun ans => (k ans).map id) = .op o k
    congr 1
    funext ans
    exact ih ans

theorem sat_map {β : Type} {f : α → β} {φ : List (Event Op Ans) → Op → Prop}
    {ψ : List (Event Op Ans) → β → Prop} {past : List (Event Op Ans)} {p : Prog Op Ans α}
    (h : Sat φ (fun past a => ψ past (f a)) past p) : Sat φ ψ past (p.map f) := by
  induction p generalizing past with
  | ret a => exact h
  | op o k ih => exact ⟨h.1, fun ans => ih ans (h.2 ans)⟩

/-- the result of a program that runs alone, with each operation answered by `handle`, and the
state at its end -/
def run (handle : σ → (o : Op) → Ans o × σ) : σ → Prog Op Ans α → α × σ
  | s, .ret a => (a, s)
  | s, .op o k => run handle (handle s o).2 (k (handle s o).1)

@[simp] theorem run_ret (handle : σ → (o : Op) → Ans o × σ) (s : σ) (a : α) :
    run handle s (.ret a) = (a, s) := rfl

theorem run_op (handle : σ → (o : Op) → Ans o × σ) (s : σ) (o : Op) (k : Ans o → Prog Op Ans α) :
    run handle s (.op o k) = run handle (handle s o).2 (k (handle s o).1) := rfl

theorem run_map {β : Type} (handle : σ → (o : Op) → Ans o × σ) (s : σ) (f : α → β)
    (p : Prog Op Ans α) :
    run handle s (p.map f) = (f (run handle s p).1, (run handle s p).2) := by
  induction p generalizing s with
  | ret a => rfl
  | op o k ih => exact ih _ _

/-! ## runs beside others -/

/-- The runs of a program whose operations `exec` answers, beside others that change the state
between its operations as `rely` allows. -/
inductive Runs (exec : σ → (o : Op) → Ans o → σ → Prop) (rely : σ → σ → Prop) :
    σ → Prog Op Ans α → α → σ → Prop where
  | ret {s s' : σ} {a : α} (h : rely s s') : Runs exec rely s (.ret a) a s'
  | op {s s₁ s₂ s' : σ} {o : Op} {k : Ans o → Prog Op Ans α} {ans : Ans o} {a : α}
      (hrely : rely s s₁) (hexec : exec s₁ o ans s₂) (hrest : Runs exec rely s₂ (k ans) a s') :
      Runs exec rely s (.op o k) a s'

section
variable {exec : σ → (o : Op) → Ans o → σ → Prop} {rely : σ → σ → Prop}

theorem Runs.of_map {β : Type} {f : α → β} {s s' : σ} {p : Prog Op Ans α} {b : β}
    (h : Runs exec rely s (p.map f) b s') : ∃ a, b = f a ∧ Runs exec rely s p a s' := by
  induction p generalizing s with
  | ret a =>
    cases h with
    | ret hrely => exact ⟨a, rfl, .ret hrely⟩
  | op o k ih =>
    cases h with
    | op hrely hexec hrest =>
      obtain ⟨a, hb, ha⟩ := ih _ hrest
      exact ⟨a, hb, .op hrely hexec ha⟩

/-- **The rule for runs**: what the operations and the others preserve holds at the end. -/
theorem Runs.sat {φ : List (Event Op Ans) → Op → Prop} {ψ : List (Event Op Ans) → α → Prop}
    {I : List (Event Op Ans) → σ → Prop}
    (hrely : ∀ past s s', I past s → rely s s' → I past s')
    (hstep : ∀ past s o ans s', I past s → φ past o → exec s o ans s' → I (past ++ [⟨o, ans⟩]) s')
    {past : List (Event Op Ans)} {p : Prog Op Ans α} {s s' : σ} {a : α}
    (h : Runs exec rely s p a s') (hsat : Sat φ ψ past p) (hI : I past s) :
    ∃ past', I past' s' ∧ ψ past' a := by
  induction h generalizing past with
  | ret h => exact ⟨past, hrely _ _ _ hI h, hsat⟩
  | op h hexec _ ih => exact ih (hsat.2 _) (hstep _ _ _ _ _ (hrely _ _ _ hI h) hsat.1 hexec)

/-- what a program does alone is one of its runs -/
theorem runs_run {handle : σ → (o : Op) → Ans o × σ}
    (hexec : ∀ s o, exec s o (handle s o).1 (handle s o).2) (hrefl : ∀ s, rely s s) (s : σ)
    (p : Prog Op Ans α) : Runs exec rely s p (run handle s p).1 (run handle s p).2 := by
  induction p generalizing s with
  | ret a => exact .ret (hrefl s)
  | op o k ih => exact .op (hrefl s) (hexec s o) (ih _ _)

end

/-! ## runs alone -/

section
variable {exec : σ → (o : Op) → Ans o → σ → Prop}

/-- the states that a list of events can lead to -/
def Leads (exec : σ → (o : Op) → Ans o → σ → Prop) : σ → List (Event Op Ans) → σ → Prop
  | s, [], s' => s' = s
  | s, e :: past, s' => ∃ s₁, exec s e.op e.ans s₁ ∧ Leads exec s₁ past s'

theorem leads_append {s s' : σ} {past past' : List (Event Op Ans)} :
    Leads exec s (past ++ past') s' ↔ ∃ s₁, Leads exec s past s₁ ∧ Leads exec s₁ past' s' := by
  induction past generalizing s with
  | nil =>
    constructor
    · intro h
      exact ⟨s, rfl, h⟩
    · rintro ⟨s₁, rfl, h⟩
      exact h
  | cons e past ih =>
    constructor
    · rintro ⟨s₁, hexec, h⟩
      obtain ⟨s₂, hpast, hpast'⟩ := ih.mp h
      exact ⟨s₂, ⟨s₁, hexec, hpast⟩, hpast'⟩
    · rintro ⟨s₂, ⟨s₁, hexec, hpast⟩, hpast'⟩
      exact ⟨s₁, hexec, ih.mpr ⟨s₂, hpast, hpast'⟩⟩

theorem leads_singleton {s s' : σ} {e : Event Op Ans} :
    Leads exec s [e] s' ↔ exec s e.op e.ans s' := by
  constructor
  · rintro ⟨s₁, hexec, rfl⟩
    exact hexec
  · intro h
    exact ⟨s', h, rfl⟩

/-- **The events of a run alone** lead to its end, and satisfy the specification. -/
theorem Runs.leads {φ : List (Event Op Ans) → Op → Prop} {ψ : List (Event Op Ans) → α → Prop}
    {p : Prog Op Ans α} {s s' : σ} {a : α} (h : Runs exec Eq s p a s') (hsat : Sat φ ψ [] p) :
    ∃ past, Leads exec s past s' ∧ ψ past a := by
  refine h.sat (I := fun past s' => Leads exec s past s') ?_ ?_ hsat rfl
  · rintro past s₁ _ hlead rfl
    exact hlead
  · intro past s₁ o ans s₂ hlead _ hexec
    exact leads_append.mpr ⟨s₁, hlead, leads_singleton.mpr hexec⟩

end

end Prog

/-! ## interleavings -/

/-- a call in progress: what it has done, and what remains of its program -/
structure Thread (C Op : Type) (Ans : Op → Type) (α : Type) where
  call : C
  past : List (Event Op Ans)
  rest : Prog Op Ans α

structure Config (σ C Op : Type) (Ans : Op → Type) (α : Type) where
  state : σ
  threads : List (Thread C Op Ans α)
  /-- the operations in the order of their execution, each with the number of its thread -/
  trace : List (Nat × Event Op Ans)

/-- calls whose programs run interleaved over one state -/
structure System (σ C Op : Type) (Ans : Op → Type) (α : Type) where
  program : C → Prog Op Ans α
  /-- the calls that can start in a state -/
  admits : σ → C → Prop
  /-- what an operation of a call can answer and do -/
  exec : C → σ → (o : Op) → Ans o → σ → Prop

namespace System
variable {σ C Op : Type} {Ans : Op → Type} {α : Type}

inductive Step (S : System σ C Op Ans α) : Config σ C Op Ans α → Config σ C Op Ans α → Prop where
  | start {s : Config σ C Op Ans α} (c : C) (h : S.admits s.state c) :
      Step S s { s with threads := s.threads ++ [⟨c, [], S.program c⟩] }
  | exec {s : Config σ C Op Ans α} (i : Nat) (t : Thread C Op Ans α) (o : Op)
      (k : Ans o → Prog Op Ans α) (ans : Ans o) (state : σ) (ht : s.threads[i]? = some t)
      (hrest : t.rest = .op o k) (h : S.exec t.call s.state o ans state) :
      Step S s ⟨state, s.threads.set i ⟨t.call, t.past ++ [⟨o, ans⟩], k ans⟩,
        s.trace ++ [(i, ⟨o, ans⟩)]⟩

/-- no thread has started yet -/
def initial (state : σ) : Config σ C Op Ans α := ⟨state, [], []⟩

def Reachable (S : System σ C Op Ans α) (state : σ) (s : Config σ C Op Ans α) : Prop :=
  Relation.ReflTransGen S.Step (initial state) s

variable {S : System σ C Op Ans α} {φ : C → List (Event Op Ans) → Op → Prop}
  {ψ : C → List (Event Op Ans) → α → Prop}

/-- **A thread keeps the specification of its program in every interleaving.** -/
theorem sat_of_reachable (hsat : ∀ c, Prog.Sat (φ c) (ψ c) [] (S.program c)) {state : σ}
    {s : Config σ C Op Ans α} (h : S.Reachable state s) :
    ∀ t ∈ s.threads, Prog.Sat (φ t.call) (ψ t.call) t.past t.rest := by
  induction h with
  | refl =>
    intro t ht
    cases ht
  | tail _ hstep ih =>
    cases hstep with
    | start c _ =>
      intro t ht
      rcases List.mem_append.mp ht with ht | ht
      · exact ih t ht
      · cases List.mem_singleton.mp ht
        exact hsat c
    | exec i u o k ans state' hu hrest _ =>
      have hsu := ih u (List.mem_of_getElem? hu)
      rw [hrest] at hsu
      intro t ht
      rcases List.mem_or_eq_of_mem_set ht with ht | rfl
      · exact ih t ht
      · exact hsu.2 ans

theorem reachable_start {state state' : σ} {threads : List (Thread C Op Ans α)}
    {trace : List (Nat × Event Op Ans)} (h : S.Reachable state ⟨state', threads, trace⟩) (c : C)
    {p : Prog Op Ans α} (hp : S.program c = p) (hc : S.admits state' c) :
    S.Reachable state ⟨state', threads ++ [⟨c, [], p⟩], trace⟩ := by
  subst hp
  exact h.tail (.start c hc)

theorem reachable_run {handle : σ → (o : Op) → Ans o × σ} {state : σ} {s : Config σ C Op Ans α}
    (h : S.Reachable state s) {i : Nat} {t : Thread C Op Ans α} (ht : s.threads[i]? = some t)
    (hexec : ∀ state o, S.exec t.call state o (handle state o).1 (handle state o).2) :
    ∃ s', S.Reachable state s' ∧ s'.state = (Prog.run handle s.state t.rest).2 := by
  obtain ⟨c, past, rest⟩ := t
  induction rest generalizing s past with
  | ret a => exact ⟨s, h, rfl⟩
  | op o k ih =>
    have hlt : i < s.threads.length := (List.getElem?_eq_some_iff.mp ht).1
    have hstep := Step.exec i ⟨c, past, .op o k⟩ o k (handle s.state o).1 (handle s.state o).2 ht
      rfl (hexec s.state o)
    exact ih _ (Relation.ReflTransGen.tail h hstep) _ (List.getElem?_set_self hlt) hexec

/-- **What a call does alone is one of the interleavings.** -/
theorem reachable_run_call {handle : σ → (o : Op) → Ans o × σ} {state : σ}
    {s : Config σ C Op Ans α} (h : S.Reachable state s) (c : C) (hc : S.admits s.state c)
    (hexec : ∀ state o, S.exec c state o (handle state o).1 (handle state o).2) :
    ∃ s', S.Reachable state s' ∧ s'.state = (Prog.run handle s.state (S.program c)).2 := by
  have hstart : S.Reachable state { s with threads := s.threads ++ [⟨c, [], S.program c⟩] } :=
    Relation.ReflTransGen.tail h (.start c hc)
  exact reachable_run hstart List.getElem?_concat_length hexec

theorem call_admitted {state : σ} {s : Config σ C Op Ans α} (h : S.Reachable state s) :
    ∀ t ∈ s.threads, ∃ state', S.admits state' t.call := by
  induction h with
  | refl =>
    intro t ht
    cases ht
  | tail _ hstep ih =>
    cases hstep with
    | start c hc =>
      intro t ht
      rcases List.mem_append.mp ht with ht | ht
      · exact ih t ht
      · cases List.mem_singleton.mp ht
        exact ⟨_, hc⟩
    | exec i u o k ans state' hu _ _ =>
      intro t ht
      rcases List.mem_or_eq_of_mem_set ht with ht | rfl
      · exact ih t ht
      · exact ih u (List.mem_of_getElem? hu)

/-- the call of a thread is still admitted where no operation takes this back -/
theorem call_still_admitted
    (hmono : ∀ {c c' state o} {ans : Ans o} {state'}, S.exec c state o ans state' →
      S.admits state c' → S.admits state' c')
    {state : σ} {s : Config σ C Op Ans α} (h : S.Reachable state s) :
    ∀ t ∈ s.threads, S.admits s.state t.call := by
  induction h with
  | refl =>
    intro t ht
    cases ht
  | tail _ hstep ih =>
    cases hstep with
    | start c hc =>
      intro t ht
      rcases List.mem_append.mp ht with ht | ht
      · exact ih t ht
      · cases List.mem_singleton.mp ht
        exact hc
    | exec i u o k ans state' hu _ hx =>
      intro t ht
      rcases List.mem_or_eq_of_mem_set ht with ht | rfl
      · exact hmono hx (ih t ht)
      · exact hmono hx (ih u (List.mem_of_getElem? hu))

theorem exec_sat (hsat : ∀ c, Prog.Sat (φ c) (ψ c) [] (S.program c)) {state : σ}
    {s : Config σ C Op Ans α} (h : S.Reachable state s) {i : Nat} {t : Thread C Op Ans α} {o : Op}
    {k : Ans o → Prog Op Ans α} (ht : s.threads[i]? = some t) (hrest : t.rest = .op o k) :
    φ t.call t.past o := by
  have hs := sat_of_reachable hsat h t (List.mem_of_getElem? ht)
  rw [hrest] at hs
  exact hs.1

/-- **The invariant rule**: it holds at first, and every step keeps it. -/
theorem reachable_induction {I : Config σ C Op Ans α → Prop} {state : σ}
    (h0 : I (initial state))
    (hstep : ∀ s s', S.Reachable state s → I s → S.Step s s' → I s') {s : Config σ C Op Ans α}
    (h : S.Reachable state s) : I s := by
  induction h with
  | refl => exact h0
  | tail hreach hs ih => exact hstep _ _ hreach ih hs

/-- **The step at which a thread got one of its answers.** -/
theorem executed {state : σ} {s : Config σ C Op Ans α} (h : S.Reachable state s) {i : Nat}
    {t : Thread C Op Ans α} (ht : s.threads[i]? = some t) {before after : List (Event Op Ans)}
    {e : Event Op Ans} (hpast : t.past = before ++ e :: after) :
    ∃ s₁ s₂ rest, S.Reachable state s₁ ∧ S.Step s₁ s₂ ∧ Relation.ReflTransGen S.Step s₂ s ∧
      s₁.threads[i]? = some ⟨t.call, before, rest⟩ ∧ s₂.trace = s₁.trace ++ [(i, e)] ∧
      S.exec t.call s₁.state e.op e.ans s₂.state := by
  induction h generalizing t after with
  | refl => cases ht
  | @tail s s' hreach hstep ih =>
    have hearlier : ∀ {u : Thread C Op Ans α} {after'}, s.threads[i]? = some u →
        u.call = t.call → u.past = before ++ e :: after' → ∃ s₁ s₂ rest, S.Reachable state s₁ ∧
          S.Step s₁ s₂ ∧ Relation.ReflTransGen S.Step s₂ s' ∧
          s₁.threads[i]? = some ⟨t.call, before, rest⟩ ∧ s₂.trace = s₁.trace ++ [(i, e)] ∧
          S.exec t.call s₁.state e.op e.ans s₂.state := by
      intro u after' hu hcall hp
      obtain ⟨s₁, s₂, rest, hreach₁, hstep₁, hlater, hthread, htrace, hx⟩ := ih hu hp
      rw [hcall] at hthread hx
      exact ⟨s₁, s₂, rest, hreach₁, hstep₁, hlater.tail hstep, hthread, htrace, hx⟩
    cases hstep with
    | start c hc =>
      by_cases hi : i < s.threads.length
      · rw [List.getElem?_append_left hi] at ht
        exact hearlier ht rfl hpast
      · -- a new thread has no answer yet
        rw [List.getElem?_append_right (Nat.le_of_not_lt hi)] at ht
        cases List.mem_singleton.mp (List.mem_of_getElem? ht)
        cases before <;> cases hpast
    | exec j u o k ans state' hu hrest hx =>
      by_cases hij : j = i
      · subst hij
        have hlt : j < s.threads.length := (List.getElem?_eq_some_iff.mp hu).1
        change (s.threads.set j _)[j]? = some t at ht
        rw [List.getElem?_set_self hlt] at ht
        cases ht
        rcases List.eq_nil_or_concat after with rfl | ⟨after', e', rfl⟩
        · obtain ⟨rfl, hlast⟩ := List.append_inj' hpast rfl
          cases hlast
          exact ⟨s, _, u.rest, hreach, .exec j u o k ans state' hu hrest hx, .refl, hu, rfl, hx⟩
        · rw [List.concat_eq_append, ← List.cons_append, ← List.append_assoc] at hpast
          exact hearlier hu rfl (List.append_inj' hpast rfl).1
      · change (s.threads.set j _)[i]? = some t at ht
        rw [List.getElem?_set_ne hij] at ht
        exact hearlier ht rfl hpast

/-- the call of a thread -/
def callOf (s : Config σ C Op Ans α) (i : Nat) : Option C := (s.threads[i]?).map Thread.call

theorem callOf_step {s s' : Config σ C Op Ans α} (h : S.Step s s') {i : Nat} {c : C}
    (hc : callOf s i = some c) : callOf s' i = some c := by
  obtain ⟨t, ht, rfl⟩ := Option.map_eq_some_iff.mp hc
  have hlt : i < s.threads.length := (List.getElem?_eq_some_iff.mp ht).1
  cases h with
  | start c' _ =>
    show ((s.threads ++ [_])[i]?).map Thread.call = _
    rw [List.getElem?_append_left hlt, ht]
    rfl
  | exec j u o k ans state' hu _ _ =>
    show ((s.threads.set j _)[i]?).map Thread.call = _
    by_cases hij : j = i
    · subst hij
      rw [List.getElem?_set_self hlt]
      rw [ht] at hu
      cases hu
      rfl
    · rw [List.getElem?_set_ne hij, ht]
      rfl

/-- the events of one thread in a trace -/
def eventsOf (i : Nat) (trace : List (Nat × Event Op Ans)) : List (Event Op Ans) :=
  trace.filterMap fun e => if e.1 = i then some e.2 else none

theorem mem_eventsOf {i : Nat} {trace : List (Nat × Event Op Ans)} {e : Event Op Ans} :
    e ∈ eventsOf i trace ↔ (i, e) ∈ trace := by
  unfold eventsOf
  rw [List.mem_filterMap]
  constructor
  · rintro ⟨⟨j, e'⟩, he, h⟩
    dsimp only at h
    split at h
    · rename_i hj
      cases h
      exact hj ▸ he
    · cases h
  · exact fun he => ⟨(i, e), he, if_pos rfl⟩

theorem eventsOf_append (i : Nat) (trace trace' : List (Nat × Event Op Ans)) :
    eventsOf i (trace ++ trace') = eventsOf i trace ++ eventsOf i trace' :=
  List.filterMap_append

theorem eventsOf_concat (i j : Nat) (trace : List (Nat × Event Op Ans)) (e : Event Op Ans) :
    eventsOf i (trace ++ [(j, e)]) = eventsOf i trace ++ if j = i then [e] else [] := by
  rw [eventsOf_append]
  unfold eventsOf
  by_cases h : j = i <;> simp [h]

theorem eventsOf_eq_nil {i : Nat} {trace : List (Nat × Event Op Ans)}
    (h : eventsOf i trace = []) : ∀ e ∈ trace, e.1 ≠ i := by
  rintro ⟨j, e⟩ he rfl
  have hmem := mem_eventsOf.mpr he
  rw [h] at hmem
  cases hmem

theorem eventsOf_eq_cons {i : Nat} {trace : List (Nat × Event Op Ans)} {a : Event Op Ans}
    {rest : List (Event Op Ans)} (h : eventsOf i trace = a :: rest) :
    ∃ before after, trace = before ++ (i, a) :: after ∧ (∀ e ∈ before, e.1 ≠ i) ∧
      eventsOf i after = rest := by
  induction trace with
  | nil => cases h
  | cons x trace ih =>
    unfold eventsOf at h
    rw [List.filterMap_cons] at h
    by_cases hx : x.1 = i
    · rw [if_pos hx] at h
      obtain ⟨rfl, hrest⟩ := List.cons.inj h
      exact ⟨[], trace, by rw [← hx]; rfl, nofun, hrest⟩
    · rw [if_neg hx] at h
      obtain ⟨before, after, htrace, hno, hrest⟩ := ih h
      exact ⟨x :: before, after, by rw [htrace]; rfl, List.forall_mem_cons.mpr ⟨hx, hno⟩, hrest⟩

/-- the steps of other threads between the first two steps of a thread -/
def between (i : Nat) (trace : List (Nat × Event Op Ans)) : List (Nat × Event Op Ans) :=
  ((trace.dropWhile fun e => e.1 ≠ i).drop 1).takeWhile fun e => e.1 ≠ i

/-- the trace around the only two steps of a thread -/
theorem trace_of_two {i : Nat} {trace : List (Nat × Event Op Ans)} {a b : Event Op Ans}
    (h : eventsOf i trace = [a, b]) : ∃ before after,
      trace = before ++ (i, a) :: (between i trace ++ (i, b) :: after) ∧
      (∀ e ∈ between i trace, e.1 ≠ i) ∧ ∀ e ∈ after, e.1 ≠ i := by
  obtain ⟨before, rest, htrace, hbefore, hrest⟩ := eventsOf_eq_cons h
  obtain ⟨mid, after, rfl, hmid, hafter⟩ := eventsOf_eq_cons hrest
  have hbetween : between i trace = mid := by
    unfold between
    rw [htrace, List.dropWhile_append_of_pos (by simpa using hbefore), List.dropWhile_cons_of_neg
      (by simp), List.drop_one, List.tail_cons, List.takeWhile_append_of_pos (by simpa using hmid),
      List.takeWhile_cons_of_neg (by simp), List.append_nil]
  rw [hbetween]
  exact ⟨before, after, htrace, hmid, eventsOf_eq_nil hafter⟩

/-- **The trace restricted to one thread is what that thread has done**, and names no thread that
has not started. -/
theorem trace_past {state : σ} {s : Config σ C Op Ans α} (h : S.Reachable state s) :
    (∀ i t, s.threads[i]? = some t → eventsOf i s.trace = t.past) ∧
      ∀ e ∈ s.trace, e.1 < s.threads.length := by
  induction h with
  | refl =>
    refine ⟨fun i t ht => ?_, fun e he => ?_⟩
    · cases ht
    · cases he
  | @tail s s' _ hstep ih =>
    obtain ⟨hpast, hbound⟩ := ih
    cases hstep with
    | start c _ =>
      refine ⟨fun i t ht => ?_, fun e he => ?_⟩
      · change (s.threads ++ [_])[i]? = some t at ht
        rcases Nat.lt_trichotomy i s.threads.length with hi | hi | hi
        · rw [List.getElem?_append_left hi] at ht
          exact hpast i t ht
        · subst hi
          rw [List.getElem?_append_right (Nat.le_refl _), Nat.sub_self] at ht
          cases ht
          show eventsOf _ s.trace = []
          unfold eventsOf
          rw [List.filterMap_eq_nil_iff]
          intro e he
          exact if_neg (Nat.ne_of_lt (hbound e he))
        · rw [List.getElem?_eq_none (by simp; omega)] at ht
          cases ht
      · have hlt := hbound e he
        show e.1 < (s.threads ++ [_]).length
        rw [List.length_append]
        exact Nat.lt_add_right _ hlt
    | exec j u o k ans state' hu hrest _ =>
      refine ⟨fun i t ht => ?_, fun e he => ?_⟩
      · show eventsOf i (s.trace ++ [_]) = _
        change (s.threads.set j _)[i]? = some t at ht
        rw [eventsOf_concat]
        by_cases hij : j = i
        · subst hij
          have hlt : j < s.threads.length := (List.getElem?_eq_some_iff.mp hu).1
          rw [List.getElem?_set_self hlt] at ht
          cases ht
          rw [if_pos rfl, hpast j u hu]
        · rw [List.getElem?_set_ne hij] at ht
          rw [if_neg hij, List.append_nil]
          exact hpast i t ht
      · show e.1 < (s.threads.set j _).length
        rw [List.length_set]
        rcases List.mem_append.mp he with he | he
        · exact hbound e he
        · cases List.mem_singleton.mp he
          exact (List.getElem?_eq_some_iff.mp hu).1

end System
