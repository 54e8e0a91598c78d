/-
StayKey.Program.Commute — statements whose order makes no difference.

Two statements commute if, from every state, either order gives both of
them the same results and leads to the same state. A statement that
commutes with all statements of a program can be run before or after the
program (`run_commute`), so of two independent programs the turns of one
can all be put off to the end of the other (`SerialFrom.turn`). A program
that has ended is independent of every other.

`Prog.Rest` is what can be left of a program once it has run a statement.
-/
import StayKey.Program.Schedule

namespace StayKey.Program

variable {Op : Type} {Res : Op → Type} {ε σ α β : Type}

namespace Prog

/-- What can be left of the program after one or more statements. -/
inductive Rest : Prog Op Res ε α → Prog Op Res ε α → Prop
  | next (op : Op) (k : Res op → Prog Op Res ε α) (r : Res op) : Rest (call op k) (k r)
  | raise (op : Op) (k : Res op → Prog Op Res ε α) (e : ε) : Rest (call op k) (throw e)
  | trans {p q r : Prog Op Res ε α} (hpq : Rest p q) (hqr : Rest q r) : Rest p r

/-- Running the next statement leaves a rest. -/
theorem rest_next (exec : (op : Op) → σ → Except ε (Res op) × σ) {p : Prog Op Res ε α}
    (h : p.outcome? = none) (s : σ) : p.Rest (p.next exec s).1 := by
  cases p with
  | ret | throw => cases h
  | call op k =>
    rw [Prog.next]
    rcases exec op s with ⟨e | r, t⟩
    · exact .raise op k e
    · exact .next op k r

/-- A rest runs no other statement than the program may run. -/
theorem Only.rest {P : Op → Prop} {p q : Prog Op Res ε α} (hp : p.Only P) (h : p.Rest q) :
    q.Only P := by
  induction h with
  | next op k r => exact hp.2 r
  | raise => trivial
  | trans _ _ ih ih' => exact ih' (ih hp)

/-- What comes after the first statement. -/
theorem Rest.only_of_call {P : Op → Prop} {op : Op} {k : Res op → Prog Op Res ε α}
    (hk : ∀ r, (k r).Only P) {p q : Prog Op Res ε α} (h : p.Rest q) (hp : p = call op k) :
    q.Only P := by
  induction h with
  | next op' k' r => cases hp; exact hk r
  | raise => trivial
  | trans _ hqr ih _ => exact (ih hp).rest hqr

end Prog

variable (exec : (op : Op) → σ → Except ε (Res op) × σ)

/-- In either order the statements return the same and lead to the same state. -/
structure Commutes (a b : Op) : Prop where
  left : ∀ s, (exec a (exec b s).2).1 = (exec a s).1
  right : ∀ s, (exec b (exec a s).2).1 = (exec b s).1
  state : ∀ s, (exec b (exec a s).2).2 = (exec a (exec b s).2).2

variable {exec}

/-- **A statement that commutes with a program** can run before or after it. -/
theorem run_commute {a : Op} {p : Prog Op Res ε α} (hp : p.Only (Commutes exec a)) (s : σ) :
    (exec a (p.run exec s).2).1 = (exec a s).1 ∧
      p.run exec (exec a s).2 = ((p.run exec s).1, (exec a (p.run exec s).2).2) := by
  induction p generalizing s with
  | ret | throw => exact ⟨rfl, rfl⟩
  | call op k ih =>
    have hop := hp.1
    rw [Prog.run_call, Prog.run_call]
    rcases hx : exec op s with ⟨e | r, t⟩
    · -- the statement raises in either order
      have hr := hop.right s
      have ht := hop.state s
      have hl := hop.left s
      rw [hx] at hr ht hl
      refine ⟨hl, ?_⟩
      rcases hy : exec op (exec a s).2 with ⟨e' | r', t'⟩
      · rw [hy] at hr ht
        cases hr
        exact congrArg _ ht
      · rw [hy] at hr
        cases hr
    · have hr := hop.right s
      have ht := hop.state s
      have hl := hop.left s
      rw [hx] at hr ht hl
      obtain ⟨hres, hrun⟩ := ih r (hp.2 r) t
      refine ⟨hres.trans hl, ?_⟩
      rcases hy : exec op (exec a s).2 with ⟨e' | r', t'⟩
      · rw [hy] at hr
        cases hr
      · rw [hy] at hr ht
        cases hr
        simp only at ht ⊢
        rw [ht]
        exact hrun

/-! ## Independent programs -/

variable (exec) in
/-- Every statement of `q` commutes with every statement of `p`. -/
def Independent (p : Prog Op Res ε α) (q : Prog Op Res ε β) : Prop :=
  q.Only fun b => p.Only (Commutes exec b)

variable {p : Prog Op Res ε α} {q : Prog Op Res ε β}

theorem independent_of_only {P Q : Op → Prop} (h : ∀ a b, P a → Q b → Commutes exec b a)
    (hp : p.Only P) (hq : q.Only Q) : Independent exec p q :=
  hq.mono fun b hb => hp.mono fun a ha => h a b ha hb

theorem independent_of_ended {o : Except ε α} (hp : p.outcome? = some o) (q : Prog Op Res ε β) :
    Independent exec p q := by
  have hall (P : Op → Prop) : p.Only P := by
    cases p with
    | ret | throw => trivial
    | call => cases hp
  induction q with
  | ret | throw => trivial
  | call op k ih => exact ⟨hall _, ih⟩

theorem Independent.next_left (h : Independent exec p q) (s : σ) :
    Independent exec (p.next exec s).1 q :=
  h.mono fun _ hb => hb.next exec s

theorem Independent.next_right (h : Independent exec p q) (s : σ) :
    Independent exec p (q.next exec s).1 :=
  Prog.Only.next exec h s

/-- **The next statement of `q` can be put off** to the end of `p`. -/
theorem Independent.run_next (h : Independent exec p q) (s : σ) :
    (q.next exec (p.run exec s).2).1 = (q.next exec s).1 ∧
      p.run exec (q.next exec s).2 = ((p.run exec s).1, (q.next exec (p.run exec s).2).2) := by
  cases q with
  | ret | throw => exact ⟨rfl, rfl⟩
  | call op k =>
    obtain ⟨hres, hrun⟩ := run_commute h.1 s
    rw [Prog.next, Prog.next]
    rcases hx : exec op s with ⟨e | r, t⟩ <;> rcases hy : exec op (p.run exec s).2 with ⟨e' | r', t'⟩ <;>
      rw [hx, hy] at hres hrun
    · cases hres; exact ⟨rfl, hrun⟩
    · cases hres
    · cases hres
    · cases hres; exact ⟨rfl, hrun⟩

/-! ## Two callers -/

variable {s : Threads Bool Op Res ε α σ} {x : Bool} {o₁ : Except ε α} {r₂ : Except ε α × σ}

variable (exec) in
/-- If `x` ran to its end now, and then the other caller, `x` would end with
`o₁`, and the other one with `r₂`; and from now on the two do not depend on
each other. -/
structure Threads.SerialFrom (s : Threads Bool Op Res ε α σ) (x : Bool) (o₁ : Except ε α)
    (r₂ : Except ε α × σ) : Prop where
  independent : Independent exec (s.prog x) (s.prog !x)
  first : ((s.prog x).run exec s.shared).1 = o₁
  second : (s.prog !x).run exec ((s.prog x).run exec s.shared).2 = r₂

/-- Nothing changes in that, whoever has the next turn. -/
theorem Threads.SerialFrom.turn (h : s.SerialFrom exec x o₁ r₂) (i : Bool) :
    (s.turn exec i).SerialFrom exec x o₁ r₂ := by
  have hne : (!x) ≠ x := by cases x <;> decide
  by_cases hi : i = x
  · subst hi
    have hprog : (s.turn exec i).prog (!i) = s.prog !i := prog_turn_of_ne hne s
    have hrun : ((s.turn exec i).prog i).run exec (s.turn exec i).shared
        = (s.prog i).run exec s.shared := by
      rw [prog_turn_self]
      exact Prog.run_next exec _ _
    refine ⟨?_, by rw [hrun]; exact h.first, by rw [hrun, hprog]; exact h.second⟩
    rw [hprog, prog_turn_self]
    exact h.independent.next_left s.shared
  · obtain rfl : i = !x := by
      cases i <;> cases x <;> first | rfl | exact absurd rfl hi
    have hprog : (s.turn exec !x).prog x = s.prog x := prog_turn_of_ne hne.symm s
    obtain ⟨hres, hrun⟩ := h.independent.run_next s.shared
    have hx : (s.prog x).run exec (s.turn exec !x).shared = ((s.prog x).run exec s.shared).map id
        fun t => ((s.prog !x).next exec t).2 := hrun
    refine ⟨?_, ?_, ?_⟩
    · rw [hprog, prog_turn_self]
      exact h.independent.next_right s.shared
    · rw [hprog, hx]
      exact h.first
    · rw [hprog, prog_turn_self, hx, ← hres]
      exact (Prog.run_next exec _ _).trans h.second

/-- Once both have ended, they have ended so. -/
theorem Threads.SerialFrom.ended (h : s.SerialFrom exec x o₁ r₂) (hx : (s.prog x).outcome? ≠ none)
    (hy : (s.prog !x).outcome? ≠ none) :
    (s.prog x).outcome? = some o₁ ∧ (s.prog !x).outcome? = some r₂.1 ∧ s.shared = r₂.2 := by
  obtain ⟨o, ho⟩ := Option.ne_none_iff_exists'.mp hx
  obtain ⟨o', ho'⟩ := Option.ne_none_iff_exists'.mp hy
  have hfirst := h.first
  have hsecond := h.second
  rw [Prog.run_of_ended exec ho] at hfirst hsecond
  rw [Prog.run_of_ended exec ho'] at hsecond
  exact ⟨ho.trans (congrArg some hfirst), ho'.trans (congrArg some (congrArg Prod.fst hsecond)),
    congrArg Prod.snd hsecond⟩

end StayKey.Program
