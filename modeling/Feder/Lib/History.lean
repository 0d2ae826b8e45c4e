import Feder.Lib.Prog
import Mathlib.Data.List.Nodup

/-!
# Histories of interleavings

What the calls of a system have written, read off the trace.

* `traced`                the step at which an event came into the trace;
* `sat_of_trace`          every event of the trace is one that its call does;
* `folded_of_reachable`   the state is the fold of the writes in the order of their steps;
* `once_of_reachable`     calls that write at most once have each written once in the trace;
* `ended_of_run`          a call that runs to its end alone is one of the interleavings;
* `replays_of_reachable`  what an ended thread has done leads through its program;
* `atomic_of_reachable`   a call of one operation answers for the state it met.
-/

namespace Prog
variable {Op : Type} {Ans : Op → Type} {α β : Type}

/-- the events lead through the program to the result -/
def Replays : Prog Op Ans α → List (Event Op Ans) → α → Prop
  | .ret a, past, b => past = [] ∧ b = a
  | .op o k, past, b => ∃ ans rest, past = ⟨o, ans⟩ :: rest ∧ Replays (k ans) rest b

/-- one operation at most, and a result that depends on its answer -/
def Atomic : Prog Op Ans α → Prop
  | .ret _ => True
  | .op _ k => ∀ ans, ∃ a, k ans = .ret a

theorem sat_replays (p : Prog Op Ans α) {past : List (Event Op Ans)}
    {ψ : List (Event Op Ans) → α → Prop} (h : ∀ later a, Replays p later a → ψ (past ++ later) a) :
    Sat (fun _ _ => True) ψ past p := by
  induction p generalizing past with
  | ret a =>
    have hend := h [] a ⟨rfl, rfl⟩
    rw [List.append_nil] at hend
    exact hend
  | op o k ih =>
    refine ⟨trivial, fun ans => ih ans fun later a hlater => ?_⟩
    rw [List.append_assoc]
    exact h (⟨o, ans⟩ :: later) a ⟨ans, later, rfl, hlater⟩

theorem Replays.of_map {f : α → β} {p : Prog Op Ans α} {past : List (Event Op Ans)} {b : β}
    (h : (p.map f).Replays past b) : ∃ a, b = f a ∧ p.Replays past a := by
  induction p generalizing past with
  | ret a => exact ⟨a, h.2, h.1, rfl⟩
  | op o k ih =>
    obtain ⟨ans, rest, hpast, hrest⟩ := h
    obtain ⟨a, hb, ha⟩ := ih ans hrest
    exact ⟨a, hb, ans, rest, hpast, ha⟩

theorem Atomic.map {p : Prog Op Ans α} (h : p.Atomic) (f : α → β) : (p.map f).Atomic := by
  cases p with
  | ret a => trivial
  | op o k =>
    intro ans
    obtain ⟨a, ha⟩ := h ans
    refine ⟨f a, ?_⟩
    show (k ans).map f = .ret (f a)
    rw [ha]
    rfl

end Prog

namespace System
variable {σ τ C Op : Type} {Ans : Op → Type} {α β : Type}

section
variable {S : System σ C Op Ans α} {state : σ} {s s' : Config σ C Op Ans α}
  {φ : C → List (Event Op Ans) → Op → Prop} {ψ : C → List (Event Op Ans) → α → Prop}

/-! ## the events of the trace -/

theorem callOf_of_mem_trace (h : S.Reachable state s) {e : Nat × Event Op Ans}
    (he : e ∈ s.trace) : ∃ c, callOf s e.1 = some c := by
  have hlt := (trace_past h).2 e he
  unfold callOf
  rw [List.getElem?_eq_getElem hlt]
  exact ⟨_, rfl⟩

theorem callOf_run (h : Relation.ReflTransGen S.Step s s') {i : Nat} {c : C}
    (hc : callOf s i = some c) : callOf s' i = some c := by
  induction h with
  | refl => exact hc
  | tail _ hstep ih => exact callOf_step hstep ih

theorem kept {P : σ → Prop} (hexec : ∀ c s o ans s', S.exec c s o ans s' → P s → P s')
    (h : Relation.ReflTransGen S.Step s s') (hs : P s.state) : P s'.state := by
  induction h with
  | refl => exact hs
  | tail _ hstep ih =>
    cases hstep with
    | start c hc => exact ih
    | exec i t o k ans state' ht hrest hx => exact hexec _ _ _ _ _ hx ih

/-- **The step at which an event came into the trace.** -/
theorem traced (h : S.Reachable state s) {earlier later : List (Nat × Event Op Ans)} {i : Nat}
    {e : Event Op Ans} (htrace : s.trace = earlier ++ (i, e) :: later) :
    ∃ s₁ t k, S.Reachable state s₁ ∧ s₁.trace = earlier ∧ Relation.ReflTransGen S.Step s₁ s ∧
      s₁.threads[i]? = some t ∧ t.rest = .op e.op k := by
  induction h generalizing later with
  | refl => exact absurd htrace.symm (List.append_ne_nil_of_right_ne_nil _ (List.cons_ne_nil _ _))
  | @tail s s' hreach hstep ih =>
    have hearlier : ∀ {later'}, s.trace = earlier ++ (i, e) :: later' → ∃ s₁ t k,
        S.Reachable state s₁ ∧ s₁.trace = earlier ∧ Relation.ReflTransGen S.Step s₁ s' ∧
          s₁.threads[i]? = some t ∧ t.rest = .op e.op k := by
      intro later' hs
      obtain ⟨s₁, t, k, hreach₁, htrace₁, hrun, ht, hrest⟩ := ih hs
      exact ⟨s₁, t, k, hreach₁, htrace₁, hrun.tail hstep, ht, hrest⟩
    cases hstep with
    | start c hc => exact hearlier htrace
    | exec j t o k ans state' ht hrest hx =>
      change s.trace ++ [(j, ⟨o, ans⟩)] = earlier ++ (i, e) :: later at htrace
      rcases List.eq_nil_or_concat later with rfl | ⟨later', e', rfl⟩
      · obtain ⟨hs, hlast⟩ := List.append_inj' htrace rfl
        cases hlast
        exact ⟨s, t, k, hreach, hs, .single (.exec i t o k ans state' ht hrest hx), ht, hrest⟩
      · rw [List.concat_eq_append, ← List.cons_append, ← List.append_assoc] at htrace
        exact hearlier (List.append_inj' htrace rfl).1

/-- **Every event of the trace is one that its call does**, behind what it has done before. -/
theorem sat_of_trace (hsat : ∀ c, Prog.Sat (φ c) (ψ c) [] (S.program c)) (h : S.Reachable state s)
    {earlier later : List (Nat × Event Op Ans)} {i : Nat} {e : Event Op Ans}
    (htrace : s.trace = earlier ++ (i, e) :: later) :
    ∃ c, callOf s i = some c ∧ φ c (eventsOf i earlier) e.op := by
  obtain ⟨s₁, t, k, hreach, rfl, hrun, ht, hrest⟩ := traced h htrace
  refine ⟨t.call, callOf_run hrun ?_, ?_⟩
  · unfold callOf
    rw [ht]
    rfl
  · rw [(trace_past hreach).1 i t ht]
    exact exec_sat hsat hreach ht hrest

theorem sat_of_mem_trace (hsat : ∀ c, Prog.Sat (φ c) (ψ c) [] (S.program c))
    (h : S.Reachable state s) {i : Nat} {e : Event Op Ans} (he : (i, e) ∈ s.trace) :
    ∃ c before, callOf s i = some c ∧ φ c before e.op := by
  obtain ⟨earlier, later, htrace⟩ := List.append_of_mem he
  obtain ⟨c, hc, hop⟩ := sat_of_trace hsat h htrace
  exact ⟨c, _, hc, hop⟩

theorem trace_prefix (h : Relation.ReflTransGen S.Step s s') : s.trace <+: s'.trace := by
  induction h with
  | refl => exact List.prefix_refl _
  | tail _ hstep ih =>
    cases hstep with
    | start c hc => exact ih
    | exec i t o k ans state' ht hrest hx => exact ih.trans (List.prefix_append _ _)

/-- the step at which a thread got one of its answers, and what has happened since -/
theorem executed_since (h : S.Reachable state s) {i : Nat} {t : Thread C Op Ans α}
    (ht : s.threads[i]? = some t) {before after : List (Event Op Ans)} {e : Event Op Ans}
    (hpast : t.past = before ++ e :: after) :
    ∃ s₁ since, S.Reachable state s₁ ∧ Relation.ReflTransGen S.Step s₁ s ∧
      s.trace = s₁.trace ++ (i, e) :: since ∧ eventsOf i since = after := by
  obtain ⟨s₁, s₂, rest, hreach, hstep, hrun, hthread, htrace, _⟩ := executed h ht hpast
  obtain ⟨since, hsince⟩ := trace_prefix hrun
  rw [htrace] at hsince
  have hsplit : s.trace = s₁.trace ++ (i, e) :: since := by
    rw [← hsince, List.append_assoc]
    rfl
  refine ⟨s₁, since, hreach, hrun.head hstep, hsplit, ?_⟩
  have hevents := (trace_past h).1 i t ht
  rw [hpast, hsplit, List.append_cons, eventsOf_append, eventsOf_concat, if_pos rfl,
    (trace_past hreach).1 i _ hthread, List.append_assoc] at hevents
  exact (List.cons.inj (List.append_cancel_left hevents)).2

/-! ## writes -/

/-- the writes of a trace in the order of their steps, each with the number of its thread -/
def writes (write : Event Op Ans → Option β) (trace : List (Nat × Event Op Ans)) :
    List (Nat × β) :=
  trace.filterMap fun e => (write e.2).map fun w => (e.1, w)

theorem mem_writes {write : Event Op Ans → Option β} {trace : List (Nat × Event Op Ans)} {i : Nat}
    {w : β} : (i, w) ∈ writes write trace ↔ ∃ e, (i, e) ∈ trace ∧ write e = some w := by
  unfold writes
  rw [List.mem_filterMap]
  constructor
  · rintro ⟨⟨j, e⟩, he, h⟩
    obtain ⟨w', hw', heq⟩ := Option.map_eq_some_iff.mp h
    cases heq
    exact ⟨e, he, hw'⟩
  · rintro ⟨e, he, hw⟩
    exact ⟨(i, e), he, by rw [hw]; rfl⟩

theorem writes_append (write : Event Op Ans → Option β) (trace trace' : List (Nat × Event Op Ans)) :
    writes write (trace ++ trace') = writes write trace ++ writes write trace' :=
  List.filterMap_append

theorem writes_concat_none {write : Event Op Ans → Option β} {e : Event Op Ans}
    (h : write e = none) (trace : List (Nat × Event Op Ans)) (i : Nat) :
    writes write (trace ++ [(i, e)]) = writes write trace := by
  have hlast : writes write [(i, e)] = [] := List.filterMap_cons_none (by simp [h])
  rw [writes_append, hlast, List.append_nil]

theorem writes_concat_some {write : Event Op Ans → Option β} {e : Event Op Ans} {w : β}
    (h : write e = some w) (trace : List (Nat × Event Op Ans)) (i : Nat) :
    writes write (trace ++ [(i, e)]) = writes write trace ++ [(i, w)] := by
  have hlast : writes write [(i, e)] = [(i, w)] := List.filterMap_cons_some (by simp [h])
  rw [writes_append, hlast]

theorem writes_subset {write : Event Op Ans → Option β} {trace trace' : List (Nat × Event Op Ans)}
    (h : trace <+: trace') : writes write trace ⊆ writes write trace' := by
  obtain ⟨later, rfl⟩ := h
  rw [writes_append]
  exact List.subset_append_left _ _

/-- **The state is the fold of the writes** in the order of their steps, if each operation makes
its write. -/
theorem folded_of_reachable {write : Event Op Ans → Option β} {R : σ → τ → Prop}
    {apply : τ → β → τ} {init : τ} (h0 : R state init)
    (hexec : ∀ c s o ans s' t, S.exec c s o ans s' → R s t →
      R s' ((write ⟨o, ans⟩).elim t (apply t)))
    (h : S.Reachable state s) :
    R s.state (((writes write s.trace).map Prod.snd).foldl apply init) := by
  induction h with
  | refl => exact h0
  | @tail s _ _ hstep ih =>
    cases hstep with
    | start c hc => exact ih
    | exec i t o k ans state' ht hrest hx =>
      have hnext := hexec _ _ _ _ _ _ hx ih
      show R state' (((writes write (s.trace ++ [(i, ⟨o, ans⟩)])).map Prod.snd).foldl apply init)
      cases hw : write ⟨o, ans⟩ with
      | none =>
        rw [hw] at hnext
        rw [writes_concat_none hw]
        exact hnext
      | some w =>
        rw [hw] at hnext
        rw [writes_concat_some hw, List.map_append, List.foldl_append]
        exact hnext

/-- **Calls that write at most once** have each written once in the trace. -/
theorem once_of_reachable {write : Event Op Ans → Option β}
    (hsat : ∀ c, Prog.Sat (φ c) (ψ c) [] (S.program c))
    (honce : ∀ c past o ans, φ c past o → (write ⟨o, ans⟩).isSome = true →
      ∀ e ∈ past, write e = none)
    (h : S.Reachable state s) : ((writes write s.trace).map Prod.fst).Nodup := by
  induction h with
  | refl => exact List.nodup_nil
  | @tail s s' hreach hstep ih =>
    cases hstep with
    | start c hc => exact ih
    | exec i t o k ans state' ht hrest hx =>
      show ((writes write (s.trace ++ [(i, ⟨o, ans⟩)])).map Prod.fst).Nodup
      cases hw : write ⟨o, ans⟩ with
      | none =>
        rw [writes_concat_none hw]
        exact ih
      | some w =>
        rw [writes_concat_some hw, List.map_append, List.nodup_append_comm]
        refine List.nodup_cons.mpr ⟨fun hmem => ?_, ih⟩
        -- an earlier write of the thread is in its past
        obtain ⟨⟨j, w'⟩, hj, rfl⟩ := List.mem_map.mp hmem
        obtain ⟨e, he, hw'⟩ := mem_writes.mp hj
        have hpast : e ∈ t.past := by
          rw [← (trace_past hreach).1 j t ht]
          exact mem_eventsOf.mpr he
        have hnone := honce _ _ _ _ (exec_sat hsat hreach ht hrest) (by rw [hw]; rfl) e hpast
        rw [hnone] at hw'
        cases hw'

/-! ## ended threads -/

/-- a thread can run to its end alone, on a state that is more than that of the system -/
theorem ended_of_run {ρ : Type} {handle : ρ → (o : Op) → Ans o × ρ} {view : ρ → σ}
    (h : S.Reachable state s) {i : Nat} {t : Thread C Op Ans α} (ht : s.threads[i]? = some t) {r : ρ}
    (hr : s.state = view r)
    (hexec : ∀ r o, S.exec t.call (view r) o (handle r o).1 (view (handle r o).2)) :
    ∃ s' past, S.Reachable state s' ∧
      s'.threads[i]? = some ⟨t.call, past, .ret (Prog.run handle r t.rest).1⟩ := by
  obtain ⟨c, past, rest⟩ := t
  induction rest generalizing s past r with
  | ret a => exact ⟨s, past, h, ht⟩
  | op o k ih =>
    have hlt : i < s.threads.length := (List.getElem?_eq_some_iff.mp ht).1
    have hx := hexec r o
    rw [← hr] at hx
    have hstep := Step.exec i ⟨c, past, .op o k⟩ o k (handle r o).1 (view (handle r o).2) ht rfl hx
    exact ih _ (h.tail hstep) rfl _ (List.getElem?_set_self hlt) hexec

/-- **What an ended thread has done leads through its program** to its result. -/
theorem replays_of_reachable (h : S.Reachable state s) {t : Thread C Op Ans α} (ht : t ∈ s.threads)
    {a : α} (hrest : t.rest = .ret a) : (S.program t.call).Replays t.past a := by
  have hsat : ∀ c, Prog.Sat (fun _ _ => True) (fun past a => (S.program c).Replays past a) []
      (S.program c) := fun c => Prog.sat_replays _ fun _ _ hlater => hlater
  have hend := sat_of_reachable hsat h t ht
  rw [hrest] at hend
  exact hend

/-- **A call of one operation answers for the state it met**: it has ended at once, or with the
answer that its operation got at one of the steps. -/
theorem atomic_of_reachable (h : S.Reachable state s) {i : Nat} {t : Thread C Op Ans α}
    (ht : s.threads[i]? = some t) (hatomic : (S.program t.call).Atomic) {a : α}
    (hrest : t.rest = .ret a) :
    S.program t.call = .ret a ∨
      ∃ o k ans s₁ state₂, S.program t.call = .op o k ∧ k ans = .ret a ∧ t.past = [⟨o, ans⟩] ∧
        S.Reachable state s₁ ∧ Relation.ReflTransGen S.Step s₁ s ∧
        s₁.trace ++ [(i, ⟨o, ans⟩)] <+: s.trace ∧ S.exec t.call s₁.state o ans state₂ := by
  have hreplays := replays_of_reachable h (List.mem_of_getElem? ht) hrest
  cases hprogram : S.program t.call with
  | ret b =>
    rw [hprogram] at hreplays
    obtain ⟨_, rfl⟩ := hreplays
    exact Or.inl rfl
  | op o k =>
    rw [hprogram] at hreplays hatomic
    obtain ⟨ans, rest, hpast, hlater⟩ := hreplays
    obtain ⟨b, hb⟩ := hatomic ans
    rw [hb] at hlater
    obtain ⟨rfl, rfl⟩ := hlater
    have hfirst : t.past = [] ++ ⟨o, ans⟩ :: [] := hpast
    obtain ⟨s₁, s₂, _, hreach, hstep, hrun, _, htrace, hexec⟩ := executed h ht hfirst
    refine Or.inr ⟨o, k, ans, s₁, s₂.state, rfl, hb, hpast, hreach, hrun.head hstep, ?_, hexec⟩
    rw [← htrace]
    exact trace_prefix hrun

end

end System
