/-
StayKey.Program.Sees — what a program saw, and when.

A program that takes turns with others runs each of its statements in
another state, and what it ends with is due to what it saw in all of them.
`Sees Q p seen` says: in whatever states the statements of `p` are run, if
those before were run in the states `seen`, newest first, then `p` ends with
an `a` with `Q a` of all the states it saw.

Nothing is asked of the others, and nothing is known of how the states hang
together but their order. `Schedule.sees` finds them in a run: they are
states in which the caller had a turn, in the order of these turns.
-/
import StayKey.Program.Schedule

namespace StayKey.Program

variable {ι Op : Type} {Res : Op → Type} {ε σ α β : Type} {exec : (op : Op) → σ → Except ε (Res op) × σ}
  {Q : α → List σ → Prop} {Q' : β → List σ → Prop} {seen : List σ}

namespace Prog

/-- The program ends with `Q` of what it saw. -/
def Sees (exec : (op : Op) → σ → Except ε (Res op) × σ) (Q : α → List σ → Prop) :
    Prog Op Res ε α → List σ → Prop
  | ret a, seen => Q a seen
  | throw _, _ => True
  | call op k, seen => ∀ s r t, exec op s = (.ok r, t) → Sees exec Q (k r) (s :: seen)

/-- **Sequencing.** -/
theorem Sees.bind {p : Prog Op Res ε α} {f : α → Prog Op Res ε β} (h : p.Sees exec Q seen)
    (hf : ∀ a seen, Q a seen → (f a).Sees exec Q' seen) : (p >>= f).Sees exec Q' seen := by
  induction p generalizing seen with
  | ret a => exact hf a seen h
  | throw e => trivial
  | call op k ih => exact fun s r t he => ih r (h s r t he)

theorem Sees.imp {Q' : α → List σ → Prop} {p : Prog Op Res ε α} (h : p.Sees exec Q seen)
    (hQ : ∀ a seen, Q a seen → Q' a seen) : p.Sees exec Q' seen := by
  induction p generalizing seen with
  | ret a => exact hQ a seen h
  | throw e => trivial
  | call op k ih => exact fun s r t he => ih r (h s r t he)

/-- What was seen has been seen. -/
theorem sees_still {P : List σ → Prop} (hP : ∀ s seen, P seen → P (s :: seen)) (p : Prog Op Res ε α)
    (h : P seen) : p.Sees exec (fun _ => P) seen := by
  induction p generalizing seen with
  | ret a => exact h
  | throw e => trivial
  | call op k ih => exact fun s r _ _ => ih r (hP s seen h)

/-- One statement more. -/
theorem Sees.next {p : Prog Op Res ε α} (h : p.Sees exec Q seen) (s : σ) :
    (p.next exec s).1.Sees exec Q seen ∨ (p.next exec s).1.Sees exec Q (s :: seen) := by
  cases p with
  | ret a => exact .inl h
  | throw e => exact .inl h
  | call op k =>
    right
    rw [Prog.next]
    rcases he : exec op s with ⟨e | r, t⟩
    · trivial
    · exact h s r t he

end Prog

/-! ## Turns -/

variable [DecidableEq ι]

/-- The states in which the caller had a turn, newest first. -/
def momentsOf (j : ι) (h : List (Turn ι Op Res ε α σ)) : List σ :=
  (h.filter fun e => e.request = j).map fun e => e.before.shared

theorem mem_momentsOf {j : ι} {h : List (Turn ι Op Res ε α σ)} {s : σ} :
    s ∈ momentsOf j h ↔ ∃ e ∈ h, e.request = j ∧ e.before.shared = s := by
  simp [momentsOf, and_assoc]

/-- Each of them is the state of a beginning of the run. -/
theorem Schedule.of_moment {s₀ s : Threads ι Op Res ε α σ} {h : List (Turn ι Op Res ε α σ)} {j : ι} {m : σ}
    (hs : Schedule exec s₀ h s) (hm : m ∈ momentsOf j h) :
    ∃ h' t, Schedule exec s₀ h' t ∧ t.shared = m ∧ History.Visits h s t := by
  obtain ⟨e, he, -, hshared⟩ := mem_momentsOf.mp hm
  obtain ⟨h', hbefore, -⟩ := hs.of_mem he
  exact ⟨h', e.before, hbefore, hshared, .inr ⟨e, he, rfl⟩⟩

theorem momentsOf_turn (j i : ι) (s : Threads ι Op Res ε α σ) (h : List (Turn ι Op Res ε α σ)) :
    momentsOf j (Entry.of (fun i s => ((), s.turn exec i)) i s :: h) =
      if i = j then s.shared :: momentsOf j h else momentsOf j h := by
  by_cases hi : i = j <;> simp [momentsOf, Entry.of, hi]

/-- **What a caller saw**, it saw at its turns. -/
theorem Schedule.sees {s₀ s : Threads ι Op Res ε α σ} {h : List (Turn ι Op Res ε α σ)} {j : ι}
    (hs : Schedule exec s₀ h s) (hj : (s₀.prog j).Sees exec Q []) :
    ∃ seen, seen.Sublist (momentsOf j h) ∧ (s.prog j).Sees exec Q seen := by
  induction hs with
  | nil => exact ⟨[], List.Sublist.refl [], hj⟩
  | @cons h s i _ ih =>
    obtain ⟨seen, hsub, hsees⟩ := ih
    rw [momentsOf_turn]
    by_cases hi : i = j
    · subst hi
      rw [if_pos rfl, Threads.prog_turn_self]
      obtain hsees | hsees := hsees.next s.shared
      · exact ⟨seen, hsub.cons s.shared, hsees⟩
      · exact ⟨s.shared :: seen, hsub.cons_cons s.shared, hsees⟩
    · rw [if_neg hi, Threads.prog_turn_of_ne (Ne.symm hi)]
      exact ⟨seen, hsub, hsees⟩

end StayKey.Program
