/-
StayKey.Program.Ends — a program that comes to its end among others.

`Ends F a n p` says that the program `p`, if `F` holds of the states its
statements are run in, is stopped by no exception, and ends with `a` after
at most `n` statements. It says nothing of what the others do; they have to
leave `F` as it is. `Schedule.ends` follows a caller whose program is of
this kind: each turn of its own takes one from `n`, and the turns of the
others take nothing.
-/
import StayKey.Program.Schedule

namespace StayKey.Program

variable {ι Op : Type} {Res : Op → Type} {ε σ α β : Type} {exec : (op : Op) → σ → Except ε (Res op) × σ}
  {F : σ → Prop} {a : α} {b : β} {n m : Nat}

namespace Prog

/-- Within `n` statements the program ends with `a`. -/
def Ends (exec : (op : Op) → σ → Except ε (Res op) × σ) (F : σ → Prop) (a : α) :
    Nat → Prog Op Res ε α → Prop
  | _, ret b => b = a
  | _, throw _ => False
  | 0, call _ _ => False
  | n + 1, call op k => ∀ s, F s → ∃ r t, exec op s = (.ok r, t) ∧ Ends exec F a n (k r)

theorem ends_ret_iff {c : α} : (ret c : Prog Op Res ε α).Ends exec F a n ↔ c = a := by
  cases n <;> rfl

theorem not_ends_throw {e : ε} : ¬ (throw e : Prog Op Res ε α).Ends exec F a n := by
  intro h
  cases n <;> exact h

theorem Ends.mono {p : Prog Op Res ε α} (h : p.Ends exec F a n) (hle : n ≤ m) : p.Ends exec F a m := by
  induction p generalizing n m with
  | ret c => exact ends_ret_iff.mpr (ends_ret_iff.mp h)
  | throw e => exact (not_ends_throw h).elim
  | call op k ih =>
    cases n with
    | zero => exact h.elim
    | succ n =>
      obtain ⟨m, rfl⟩ := Nat.exists_eq_add_of_le' (Nat.one_le_of_lt hle)
      intro s hs
      obtain ⟨r, t, he, hr⟩ := h s hs
      exact ⟨r, t, he, ih r hr (Nat.le_of_succ_le_succ hle)⟩

/-- **Sequencing.** -/
theorem Ends.bind {p : Prog Op Res ε α} {f : α → Prog Op Res ε β} (hp : p.Ends exec F a n)
    (hf : (f a).Ends exec F b m) : (p >>= f).Ends exec F b (n + m) := by
  induction p generalizing n with
  | ret c =>
    obtain rfl := ends_ret_iff.mp hp
    exact hf.mono (Nat.le_add_left m n)
  | throw e => exact (not_ends_throw hp).elim
  | call op k ih =>
    cases n with
    | zero => exact hp.elim
    | succ n =>
      rw [Nat.add_right_comm]
      intro s hs
      obtain ⟨r, t, he, hr⟩ := hp s hs
      exact ⟨r, t, he, ih r hr⟩

/-- No other outcome is possible. -/
theorem Ends.outcome {p : Prog Op Res ε α} (h : p.Ends exec F a n) {o : Except ε α}
    (ho : p.outcome? = some o) : o = .ok a := by
  cases p with
  | ret c =>
    cases ho
    rw [ends_ret_iff.mp h]
  | throw e => exact (not_ends_throw h).elim
  | call op k => cases ho

theorem Ends.ended {p : Prog Op Res ε α} (h : p.Ends exec F a 0) : p.outcome? = some (.ok a) := by
  cases p with
  | ret c =>
    rw [ends_ret_iff.mp h]
    rfl
  | throw e => exact h.elim
  | call op k => exact h.elim

/-- One statement less. -/
theorem Ends.next {p : Prog Op Res ε α} {s : σ} (h : p.Ends exec F a n)
    (hF : p.outcome? = none → F s) : (p.next exec s).1.Ends exec F a (n - 1) := by
  cases p with
  | ret c => exact ends_ret_iff.mpr (ends_ret_iff.mp h)
  | throw e => exact (not_ends_throw h).elim
  | call op k =>
    cases n with
    | zero => exact h.elim
    | succ n =>
      obtain ⟨r, t, he, hr⟩ := h s (hF rfl)
      rw [Prog.next_call_ok exec he]
      exact hr

/-! ## What follows a statement -/

/-- `P` holds of each statement of the program, with what follows it. -/
def Nodes (P : (op : Op) → (Res op → Prog Op Res ε α) → Prop) : Prog Op Res ε α → Prop
  | ret _ => True
  | throw _ => True
  | call op k => P op k ∧ ∀ r, Nodes P (k r)

section Nodes

variable {P : (op : Op) → (Res op → Prog Op Res ε β) → Prop} {P' : Op → Prop}

/-- After a part whose statements are allowed, whatever follows them. -/
theorem Only.nodes_bind (hP : ∀ op k, P' op → P op k) {p : Prog Op Res ε α} (hp : p.Only P')
    {f : α → Prog Op Res ε β} (hf : ∀ a, (f a).Nodes P) : (p >>= f).Nodes P := by
  induction p with
  | ret a => exact hf a
  | throw e => trivial
  | call op k ih => exact ⟨hP op _ hp.1, fun r => ih r (hp.2 r)⟩

theorem Nodes.next {p : Prog Op Res ε β} (h : p.Nodes P) (s : σ) : (p.next exec s).1.Nodes P := by
  cases p with
  | ret | throw => trivial
  | call op k =>
    rw [Prog.next]
    rcases exec op s with ⟨e | r, t⟩
    · trivial
    · exact h.2 r

end Nodes

/-- The program runs no statement outside `P`, as long as the results are as
`R` says. -/
def OnlyIf (R : (op : Op) → Res op → Prop) (P : Op → Prop) : Prog Op Res ε α → Prop
  | ret _ => True
  | throw _ => True
  | call op k => P op ∧ ∀ r, R op r → OnlyIf R P (k r)

section OnlyIf

variable {R : (op : Op) → Res op → Prop} {P : Op → Prop}

theorem OnlyIf.bind {p : Prog Op Res ε α} {f : α → Prog Op Res ε β} (hp : p.OnlyIf R P)
    (hf : ∀ a, (f a).OnlyIf R P) : (p >>= f).OnlyIf R P := by
  induction p with
  | ret a => exact hf a
  | throw e => trivial
  | call op k ih => exact ⟨hp.1, fun r hr => ih r (hp.2 r hr)⟩

theorem OnlyIf.next {p : Prog Op Res ε α} {s : σ} (h : p.OnlyIf R P)
    (hR : ∀ op r t, exec op s = (.ok r, t) → R op r) : (p.next exec s).1.OnlyIf R P := by
  cases p with
  | ret | throw => trivial
  | call op k =>
    rw [Prog.next]
    rcases he : exec op s with ⟨e | r, t⟩
    · trivial
    · exact h.2 r (hR op r t he)

theorem onlyIf_of_ended {p : Prog Op Res ε α} {o : Except ε α} (h : p.outcome? = some o) : p.OnlyIf R P := by
  cases p with
  | ret | throw => trivial
  | call op k => cases h

end OnlyIf

end Prog

/-! ## Turns -/

variable [DecidableEq ι] {s₀ s : Threads ι Op Res ε α σ} {h : List (Turn ι Op Res ε α σ)} {u : ι}

/-- **A caller that comes to its end**, if `F` holds wherever it has a turn
and has not ended. -/
theorem Schedule.ends (hs : Schedule exec s₀ h s) (hp : (s₀.prog u).Ends exec F a n)
    (hF : ∀ e ∈ h, e.request = u → (e.before.prog u).outcome? = none → F e.before.shared) :
    (s.prog u).Ends exec F a (n - (h.map Entry.request).count u) := by
  induction hs with
  | nil => exact hp
  | @cons h s i _ ih =>
    have hbefore := ih fun e he => hF e (List.mem_cons_of_mem _ he)
    by_cases hi : i = u
    · subst hi
      rw [List.map_cons, Threads.prog_turn_self]
      show (((s.prog i).next exec s.shared).1).Ends exec F a (n - (i :: h.map Entry.request).count i)
      rw [List.count_cons_self, ← Nat.sub_sub]
      exact hbefore.next (hF _ List.mem_cons_self rfl)
    · rw [List.map_cons, Threads.prog_turn_of_ne (Ne.symm hi)]
      show (s.prog u).Ends exec F a (n - (i :: h.map Entry.request).count u)
      rwa [List.count_cons_of_ne hi]

/-- It ends, when it has had its turns. -/
theorem Schedule.ended (hs : Schedule exec s₀ h s) (hp : (s₀.prog u).Ends exec F a n)
    (hF : ∀ e ∈ h, e.request = u → (e.before.prog u).outcome? = none → F e.before.shared) :
    (∀ o, (s.prog u).outcome? = some o → o = .ok a) ∧
      (n ≤ (h.map Entry.request).count u → (s.prog u).outcome? = some (.ok a)) := by
  have hends := Schedule.ends hs hp hF
  refine ⟨fun o ho => hends.outcome ho, fun hturns => ?_⟩
  rw [Nat.sub_eq_zero_of_le hturns] at hends
  exact hends.ended

end StayKey.Program
