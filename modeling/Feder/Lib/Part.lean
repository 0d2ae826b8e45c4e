import Feder.Lib.History
import Mathlib.Data.List.Basic

/-!
# Parts of a system

Some calls of a system may be the calls of a smaller one: they do the same there, on the part of the
state that it has, and the other calls leave that part alone.  Every interleaving of the whole
restricts to an interleaving of the part, so that what holds in all of those holds in the whole.

* `Part.restricts_of_reachable`   the restriction of an interleaving.
-/

namespace Prog
variable {Op : Type} {Ans : Op → Type} {α β : Type}

theorem op_of_map {p : Prog Op Ans α} {f : α → β} {o : Op} {k : Ans o → Prog Op Ans β}
    (h : p.map f = .op o k) : ∃ k', p = .op o k' ∧ ∀ ans, k ans = (k' ans).map f := by
  cases p with
  | ret a => cases h
  | op o' k' =>
    cases h
    exact ⟨k', rfl, fun _ => rfl⟩

end Prog

namespace System
variable {σ τ C D Op : Type} {Ans : Op → Type} {α β : Type}

/-! ## parts -/

/-- Some calls of `S` as the calls of `T`, on the part of the state that `rel` looks at; the others
leave it alone. -/
structure Part (S : System σ C Op Ans α) (T : System τ D Op Ans β) where
  call : C → Option D
  result : β → α
  rel : σ → τ → Prop
  /-- the operations that a call may do -/
  does : C → Op → Prop
  sat : ∀ c, Prog.Sat (fun _ o => does c o) (fun _ _ => True) [] (S.program c)
  program : ∀ {c d}, call c = some d → S.program c = (T.program d).map result
  admits : ∀ {c d s t}, call c = some d → rel s t → S.admits s c → T.admits t d
  exec : ∀ {c d s t s'} {o : Op} {ans : Ans o}, call c = some d → does c o → rel s t →
    S.exec c s o ans s' → ∃ t', T.exec d t o ans t' ∧ rel s' t'
  others : ∀ {c s t s'} {o : Op} {ans : Ans o}, call c = none → does c o → rel s t →
    S.exec c s o ans s' → rel s' t

namespace Part
variable {S : System σ C Op Ans α} {T : System τ D Op Ans β} (P : Part S T)

/-- a thread of the whole that is one of the part -/
structure Same (u : Thread C Op Ans α) (v : Thread D Op Ans β) : Prop where
  call : P.call u.call = some v.call
  past : u.past = v.past
  rest : u.rest = v.rest.map P.result

/-- the threads of the part among those of the whole, in their order -/
inductive Threads : List (Thread C Op Ans α) → List (Thread D Op Ans β) → Prop where
  | nil : Threads [] []
  | keep {u : Thread C Op Ans α} {v : Thread D Op Ans β} {us : List (Thread C Op Ans α)}
      {vs : List (Thread D Op Ans β)} (h : P.Same u v) (hrest : Threads us vs) :
      Threads (u :: us) (v :: vs)
  | skip {u : Thread C Op Ans α} {us : List (Thread C Op Ans α)} {vs : List (Thread D Op Ans β)}
      (h : P.call u.call = none) (hrest : Threads us vs) : Threads (u :: us) vs

/-- the events of the part in a trace of the whole -/
def events (s : Config σ C Op Ans α) : List (Event Op Ans) :=
  s.trace.filterMap fun e => if ((callOf s e.1).bind P.call).isSome then some e.2 else none

/-- a configuration of the part that is what remains of one of the whole -/
structure Restricts (s : Config σ C Op Ans α) (t : Config τ D Op Ans β) : Prop where
  state : P.rel s.state t.state
  threads : P.Threads s.threads t.threads
  trace : t.trace.map Prod.snd = P.events s

variable {P}

section
variable {us : List (Thread C Op Ans α)} {vs : List (Thread D Op Ans β)}

theorem Threads.append {us' : List (Thread C Op Ans α)} {vs' : List (Thread D Op Ans β)}
    (h : P.Threads us vs) (h' : P.Threads us' vs') : P.Threads (us ++ us') (vs ++ vs') := by
  induction h with
  | nil => exact h'
  | keep hsame _ ih => exact .keep hsame ih
  | skip hnone _ ih => exact .skip hnone ih

theorem Threads.set_skip (h : P.Threads us vs) {i : Nat} {u u' : Thread C Op Ans α}
    (hu : us[i]? = some u) (hnone : P.call u.call = none) (hcall : u'.call = u.call) :
    P.Threads (us.set i u') vs := by
  induction h generalizing i with
  | nil => cases hu
  | keep hsame hrest ih =>
    cases i with
    | zero =>
      cases hu
      rw [hsame.call] at hnone
      cases hnone
    | succ i => exact .keep hsame (ih hu)
  | skip hnone' hrest ih =>
    cases i with
    | zero =>
      cases hu
      exact .skip (by rw [hcall]; exact hnone) hrest
    | succ i => exact .skip hnone' (ih hu)

theorem Threads.set_keep (h : P.Threads us vs) {i : Nat} {u : Thread C Op Ans α} {d : D}
    (hu : us[i]? = some u) (hcall : P.call u.call = some d) :
    ∃ j v, vs[j]? = some v ∧ P.Same u v ∧
      ∀ u' v', P.Same u' v' → P.Threads (us.set i u') (vs.set j v') := by
  induction h generalizing i with
  | nil => cases hu
  | @keep w x us vs hsame hrest ih =>
    cases i with
    | zero =>
      cases hu
      exact ⟨0, x, rfl, hsame, fun u' v' h' => .keep h' hrest⟩
    | succ i =>
      obtain ⟨j, v, hv, hsame', hset⟩ := ih hu
      exact ⟨j + 1, v, hv, hsame', fun u' v' h' => .keep hsame (hset u' v' h')⟩
  | skip hnone hrest ih =>
    cases i with
    | zero =>
      cases hu
      rw [hnone] at hcall
      cases hcall
    | succ i =>
      obtain ⟨j, v, hv, hsame', hset⟩ := ih hu
      exact ⟨j, v, hv, hsame', fun u' v' h' => .skip hnone (hset u' v' h')⟩

theorem Threads.get (h : P.Threads us vs) {v : Thread D Op Ans β} (hv : v ∈ vs) :
    ∃ u ∈ us, P.Same u v := by
  induction h with
  | nil => cases hv
  | @keep w x us vs hsame _ ih =>
    rcases List.mem_cons.mp hv with rfl | hv
    · exact ⟨w, List.mem_cons_self, hsame⟩
    · obtain ⟨u, hu, hsame'⟩ := ih hv
      exact ⟨u, List.mem_cons_of_mem _ hu, hsame'⟩
  | skip _ _ ih =>
    obtain ⟨u, hu, hsame⟩ := ih hv
    exact ⟨u, List.mem_cons_of_mem _ hu, hsame⟩

end

theorem events_step {state : σ} {s s' : Config σ C Op Ans α} (h : S.Reachable state s)
    (hstep : S.Step s s') {new : List (Nat × Event Op Ans)} (hnew : s'.trace = s.trace ++ new) :
    P.events s' = P.events s ++
      new.filterMap fun e => if ((callOf s' e.1).bind P.call).isSome then some e.2 else none := by
  unfold events
  rw [hnew, List.filterMap_append]
  congr 1
  refine List.filterMap_congr fun e he => ?_
  obtain ⟨c, hc⟩ := callOf_of_mem_trace h he
  rw [hc, callOf_step hstep hc]

/-- a step of the whole is a step of the part, or none -/
theorem restricts_step {state : σ} {state' : τ} {s s' : Config σ C Op Ans α}
    {t : Config τ D Op Ans β} (hs : S.Reachable state s) (hstep : S.Step s s')
    (ht : T.Reachable state' t) (h : P.Restricts s t) :
    ∃ t', T.Reachable state' t' ∧ P.Restricts s' t' := by
  cases hstep with
  | start c hc =>
    have hevents := events_step (P := P) hs (.start c hc) (List.append_nil _).symm
    rw [List.filterMap_nil, List.append_nil] at hevents
    cases hcall : P.call c with
    | none =>
      refine ⟨t, ht, h.state, ?_, h.trace.trans hevents.symm⟩
      have hthreads := h.threads.append (.skip (u := ⟨c, [], S.program c⟩) hcall .nil)
      rw [List.append_nil] at hthreads
      exact hthreads
    | some d =>
      have hd : T.admits t.state d := P.admits hcall h.state hc
      refine ⟨_, ht.tail (.start d hd), h.state, ?_, h.trace.trans hevents.symm⟩
      exact h.threads.append (.keep ⟨hcall, rfl, P.program hcall⟩ .nil)
  | exec i u o k ans state₁ hu hrest hexec =>
    have hdoes : P.does u.call o := exec_sat P.sat hs hu hrest
    have hlt : i < s.threads.length := (List.getElem?_eq_some_iff.mp hu).1
    have hevents := events_step (P := P) hs (.exec i u o k ans state₁ hu hrest hexec) rfl
    have hcallOf : callOf (⟨state₁, s.threads.set i ⟨u.call, u.past ++ [⟨o, ans⟩], k ans⟩,
        s.trace ++ [(i, ⟨o, ans⟩)]⟩ : Config σ C Op Ans α) i = some u.call := by
      show ((s.threads.set i _)[i]?).map Thread.call = _
      rw [List.getElem?_set_self hlt]
      rfl
    cases hcall : P.call u.call with
    | none =>
      refine ⟨t, ht, P.others hcall hdoes h.state hexec, h.threads.set_skip hu hcall rfl, ?_⟩
      rw [hevents, List.filterMap_cons_none (by simp [hcallOf, hcall]), List.filterMap_nil,
        List.append_nil]
      exact h.trace
    | some d =>
      obtain ⟨j, v, hv, hsame, hset⟩ := h.threads.set_keep hu hcall
      obtain ⟨k', hk', hnext⟩ := Prog.op_of_map (hsame.rest.symm.trans hrest)
      have hd : d = v.call := Option.some.inj (hcall.symm.trans hsame.call)
      obtain ⟨state₂, hexec', hrel⟩ := P.exec hcall hdoes h.state hexec
      rw [hd] at hexec'
      refine ⟨_, ht.tail (.exec j v o k' ans state₂ hv hk' hexec'), hrel,
        hset _ _ ⟨hsame.call, by rw [hsame.past], hnext ans⟩, ?_⟩
      rw [hevents, List.filterMap_cons_some (b := ⟨o, ans⟩) (by simp [hcallOf, hcall]),
        List.filterMap_nil, List.map_append, h.trace]
      rfl

/-- **The restriction of an interleaving** of the whole is an interleaving of the part. -/
theorem restricts_of_reachable {state : σ} {state' : τ} (hrel : P.rel state state')
    {s : Config σ C Op Ans α} (h : S.Reachable state s) :
    ∃ t, T.Reachable state' t ∧ P.Restricts s t := by
  induction h with
  | refl => exact ⟨initial state', .refl, hrel, .nil, rfl⟩
  | tail hs hstep ih =>
    obtain ⟨t, ht, hrestricts⟩ := ih
    exact restricts_step hs hstep ht hrestricts

end Part

end System
