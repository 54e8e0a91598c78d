/-
StayKey.Program.TwoRuns — two systems that cannot be told apart.

Two systems run the same statements with two meanings. Two programs are
alike (`Prog.Alike`) when they run the same statements, whatever the
results are, and end alike: with the same exception, or with values that
are related. Two states are alike by a relation of the user's choice.

What has to be shown of the meanings is about one statement (`Agree`): on
states that are alike it has the same result and leaves states that are
alike. Then callers that take their turns in one order in both systems
stay alike for ever (`Schedule.alike`): who looks at the statements, at the
results or at the related part of the state cannot tell the systems apart.
-/
import StayKey.Program.Schedule

namespace StayKey.Program

variable {ι Op : Type} {Res : Op → Type} {ε α β α' β' σ τ : Type}

namespace Prog

/-- The same statements, and related ends. -/
inductive Alike (R : α → β → Prop) : Prog Op Res ε α → Prog Op Res ε β → Prop
  | ret {a : α} {b : β} (h : R a b) : Alike R (ret a) (ret b)
  | throw (e : ε) : Alike R (throw e) (throw e)
  | call (op : Op) {k : Res op → Prog Op Res ε α} {k' : Res op → Prog Op Res ε β}
      (h : ∀ r, Alike R (k r) (k' r)) : Alike R (call op k) (call op k')

namespace Alike

variable {R : α → β → Prop} {R' : α' → β' → Prop} {p : Prog Op Res ε α} {q : Prog Op Res ε β}

theorem refl {R : α → α → Prop} (hR : ∀ a, R a a) (p : Prog Op Res ε α) : Alike R p p := by
  induction p with
  | ret a => exact .ret (hR a)
  | throw e => exact .throw e
  | call op k ih => exact .call op ih

/-- Programs that are alike, followed by programs that are alike after
related values. -/
theorem bind {f : α → Prog Op Res ε α'} {g : β → Prog Op Res ε β'} (h : Alike R p q)
    (hfg : ∀ a b, R a b → Alike R' (f a) (g b)) : Alike R' (p >>= f) (q >>= g) := by
  induction h with
  | ret h => exact hfg _ _ h
  | throw e => exact .throw e
  | call op _ ih => exact .call op ih

/-- The same program, followed by programs that are alike after each of its
values. -/
theorem bind_same {f : α → Prog Op Res ε α'} {g : α → Prog Op Res ε β'} (p : Prog Op Res ε α)
    (hfg : ∀ a, Alike R' (f a) (g a)) : Alike R' (p >>= f) (p >>= g) := by
  refine (refl (fun a => Eq.refl a) p).bind ?_
  intro a b hab
  subst hab
  exact hfg a

end Alike

/-- Two results that are alike: the same exception, or related values. -/
def ResultsAlike (R : α → β → Prop) : Except ε α → Except ε β → Prop
  | .ok a, .ok b => R a b
  | .error e, .error e' => e = e'
  | _, _ => False

/-- Programs that are alike have ended alike, if one of them has. -/
theorem Alike.outcome? {R : α → β → Prop} {p : Prog Op Res ε α} {q : Prog Op Res ε β}
    (h : Alike R p q) : Option.Rel (ResultsAlike R) p.outcome? q.outcome? := by
  cases h with
  | ret h => exact .some h
  | throw e => exact .some rfl
  | call op h => exact .none

end Prog

/-- **What has to be shown of a statement**: on states that are alike it has
the same result, and leaves states that are alike. -/
def Agree (exec : (op : Op) → σ → Except ε (Res op) × σ) (exec' : (op : Op) → τ → Except ε (Res op) × τ)
    (S : σ → τ → Prop) : Prop :=
  ∀ op s t, S s t → (exec op s).1 = (exec' op t).1 ∧ S (exec op s).2 (exec' op t).2

variable {exec : (op : Op) → σ → Except ε (Res op) × σ} {exec' : (op : Op) → τ → Except ε (Res op) × τ}
  {S : σ → τ → Prop} {R : α → β → Prop}

/-- The next statement of programs that are alike. -/
theorem Prog.Alike.next {p : Prog Op Res ε α} {q : Prog Op Res ε β} (hagree : Agree exec exec' S)
    (h : p.Alike R q) {s : σ} {t : τ} (hst : S s t) :
    (p.next exec s).1.Alike R (q.next exec' t).1 ∧ S (p.next exec s).2 (q.next exec' t).2 := by
  cases h with
  | ret h => exact ⟨.ret h, hst⟩
  | throw e => exact ⟨.throw e, hst⟩
  | @call op k k' h =>
    obtain ⟨hres, hafter⟩ := hagree op s t hst
    rw [Prog.next, Prog.next]
    rcases hs : exec op s with ⟨e | r, s'⟩ <;> rcases ht : exec' op t with ⟨e' | r', t'⟩ <;>
      rw [hs, ht] at hres hafter
    · cases hres
      exact ⟨.throw e, hafter⟩
    · cases hres
    · cases hres
    · cases hres
      exact ⟨h r, hafter⟩

/-! ## Turns -/

/-- Callers that are alike, on states that are alike. -/
structure Threads.Alike (R : α → β → Prop) (S : σ → τ → Prop) (s : Threads ι Op Res ε α σ)
    (t : Threads ι Op Res ε β τ) : Prop where
  prog : ∀ i, (s.prog i).Alike R (t.prog i)
  shared : S s.shared t.shared

variable [DecidableEq ι]

/-- **A turn of the same caller** in both systems. -/
theorem Threads.Alike.turn {s : Threads ι Op Res ε α σ} {t : Threads ι Op Res ε β τ}
    (hagree : Agree exec exec' S) (h : s.Alike R S t) (i : ι) :
    (s.turn exec i).Alike R S (t.turn exec' i) := by
  obtain ⟨hprog, hshared⟩ := (h.prog i).next hagree h.shared
  refine ⟨fun j => ?_, hshared⟩
  by_cases hij : j = i
  · subst hij
    rw [Threads.prog_turn_self, Threads.prog_turn_self]
    exact hprog
  · rw [Threads.prog_turn_of_ne hij, Threads.prog_turn_of_ne hij]
    exact h.prog j

/-- **Two runs in one order**: what is alike at first is alike at the end. -/
theorem Schedule.alike {s₀ s : Threads ι Op Res ε α σ} {t₀ t : Threads ι Op Res ε β τ}
    {h : List (Turn ι Op Res ε α σ)} {h' : List (Turn ι Op Res ε β τ)} (hagree : Agree exec exec' S)
    (hstart : s₀.Alike R S t₀) (hs : Schedule exec s₀ h s) (ht : Schedule exec' t₀ h' t)
    (hturns : h.map Entry.request = h'.map Entry.request) : s.Alike R S t := by
  induction hs generalizing h' t with
  | nil =>
    cases ht with
    | nil => exact hstart
    | cons => cases hturns
  | cons i hs ih =>
    cases ht with
    | nil => cases hturns
    | cons j ht =>
      obtain ⟨hij, hrest⟩ := List.cons_eq_cons.mp hturns
      cases (show i = j from hij)
      exact (ih ht hrest).turn hagree i

end StayKey.Program
