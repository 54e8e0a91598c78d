/-
StayKey.Program.Schedule — callers that take turns on one shared state.

Every caller `i : ι` has one program to run. A turn is the next statement
of one caller, so a run is given by the order of the turns: it is a history
(`Program.History`) whose requests are callers (`Schedule`). Nothing is
asked of the order; a caller that has ended may be given further turns and
does nothing.

Two facts carry over from a program that runs alone: what is left of a
program would end as before the turn, if no other caller ran
(`run_next`), and what a caller ended with stays (`Threads.ended_turn`).
-/
import StayKey.Program.History
import StayKey.Program.Prog

namespace StayKey.Program

variable {ι Op : Type} {Res : Op → Type} {ε α σ : Type}

namespace Prog

variable (exec : (op : Op) → σ → Except ε (Res op) × σ)

/-- What the program has ended with. -/
def outcome? : Prog Op Res ε α → Option (Except ε α)
  | ret a => some (.ok a)
  | throw e => some (.error e)
  | call _ _ => none

/-- Run the next statement: what is left of the program, and the state. -/
def next : Prog Op Res ε α → σ → Prog Op Res ε α × σ
  | ret a, s => (ret a, s)
  | throw e, s => (throw e, s)
  | call op k, s =>
    match exec op s with
    | (.ok r, t) => (k r, t)
    | (.error e, t) => (throw e, t)

theorem outcome?_ok {p : Prog Op Res ε α} {a : α} (h : p.outcome? = some (.ok a)) : p = ret a := by
  cases p with
  | ret b => cases h; rfl
  | throw | call => cases h

/-- A program that has ended is left alone. -/
theorem next_of_ended {p : Prog Op Res ε α} {o : Except ε α} (h : p.outcome? = some o) (s : σ) :
    p.next exec s = (p, s) := by
  cases p with
  | ret | throw => rfl
  | call => cases h

theorem run_of_ended {p : Prog Op Res ε α} {o : Except ε α} (h : p.outcome? = some o) (s : σ) :
    p.run exec s = (o, s) := by
  cases p with
  | ret | throw => cases h; rfl
  | call => cases h

theorem next_call_ok {op : Op} {k : Res op → Prog Op Res ε α} {s t : σ} {r : Res op}
    (h : exec op s = (.ok r, t)) : (call op k).next exec s = (k r, t) := by
  rw [next, h]

theorem next_call_error {op : Op} {k : Res op → Prog Op Res ε α} {s t : σ} {e : ε}
    (h : exec op s = (.error e, t)) : (call op k).next exec s = (throw e, t) := by
  rw [next, h]

theorem next_call_state (op : Op) (k : Res op → Prog Op Res ε α) (s : σ) :
    ((call op k).next exec s).2 = (exec op s).2 := by
  rw [next]
  rcases exec op s with ⟨e | r, t⟩ <;> rfl

/-- The rest of a program ends like the program. -/
theorem run_next (p : Prog Op Res ε α) (s : σ) :
    (p.next exec s).1.run exec (p.next exec s).2 = p.run exec s := by
  cases p with
  | ret | throw => rfl
  | call op k =>
    rw [next, run_call]
    rcases exec op s with ⟨e | r, t⟩ <;> rfl

/-- A turn runs no other statement than the program may run. -/
theorem Only.next {P : Op → Prop} {p : Prog Op Res ε α} (hp : p.Only P) (s : σ) :
    (p.next exec s).1.Only P := by
  cases p with
  | ret | throw => trivial
  | call op k =>
    rw [Prog.next]
    rcases exec op s with ⟨e | r, t⟩
    · trivial
    · exact hp.2 r

/-- **What a turn preserves.** -/
theorem next_preserves {P : Op → Prop} {I : σ → Prop} (hstep : ∀ op s, P op → I s → I (exec op s).2)
    {p : Prog Op Res ε α} (hp : p.Only P) {s : σ} (hs : I s) : I (p.next exec s).2 := by
  cases p with
  | ret | throw => exact hs
  | call op k =>
    rw [next_call_state]
    exact hstep op s hp.1 hs

end Prog

/-! ## Turns -/

/-- The callers, each with what is left of its program, and the shared state. -/
structure Threads (ι Op : Type) (Res : Op → Type) (ε α σ : Type) where
  prog : ι → Prog Op Res ε α
  shared : σ

variable [DecidableEq ι] (exec : (op : Op) → σ → Except ε (Res op) × σ)

/-- One statement of one caller. -/
def Threads.turn (i : ι) (s : Threads ι Op Res ε α σ) : Threads ι Op Res ε α σ :=
  ⟨Function.update s.prog i ((s.prog i).next exec s.shared).1, ((s.prog i).next exec s.shared).2⟩

abbrev Turn (ι Op : Type) (Res : Op → Type) (ε α σ : Type) :=
  Entry ι Unit (Threads ι Op Res ε α σ)

/-- The runs from `s₀`: any caller may have the next turn. -/
abbrev Schedule (s₀ : Threads ι Op Res ε α σ) :
    List (Turn ι Op Res ε α σ) → Threads ι Op Res ε α σ → Prop :=
  History (fun i s => ((), s.turn exec i)) s₀

/-- The state after a turn. -/
abbrev Entry.afterTurn (e : Turn ι Op Res ε α σ) : Threads ι Op Res ε α σ :=
  e.before.turn exec e.request

variable {exec}

namespace Threads

variable {s : Threads ι Op Res ε α σ} {i j : ι} {o : Except ε α}

theorem prog_turn_self (i : ι) (s : Threads ι Op Res ε α σ) :
    (s.turn exec i).prog i = ((s.prog i).next exec s.shared).1 :=
  Function.update_self ..

theorem prog_turn_of_ne (h : j ≠ i) (s : Threads ι Op Res ε α σ) :
    (s.turn exec i).prog j = s.prog j :=
  Function.update_of_ne h ..

theorem shared_turn {op : Op} {k : Res op → Prog Op Res ε α} (h : s.prog i = .call op k) :
    (s.turn exec i).shared = (exec op s.shared).2 := by
  rw [turn, h, Prog.next_call_state]

variable (exec) in
/-- A program is at its old or at its next statement after a turn. -/
theorem prog_turn (i j : ι) (s : Threads ι Op Res ε α σ) :
    (s.turn exec i).prog j = s.prog j ∨
      j = i ∧ (s.turn exec i).prog j = ((s.prog j).next exec s.shared).1 := by
  by_cases h : j = i
  · subst h; exact .inr ⟨rfl, prog_turn_self j s⟩
  · exact .inl (prog_turn_of_ne h s)

/-- Who has ended with `o` after the turn of a caller that had not ended. -/
theorem outcome?_turn_iff (hi : (s.prog i).outcome? = none) :
    ((s.turn exec i).prog j).outcome? = some o ↔
      (s.prog j).outcome? = some o ∨ j = i ∧ ((s.prog i).next exec s.shared).1.outcome? = some o := by
  by_cases hij : j = i
  · subst hij
    rw [prog_turn_self, hi]
    simp
  · rw [prog_turn_of_ne hij]
    simp [hij]

/-- The turn of a caller that has ended changes nothing. -/
theorem turn_of_ended (h : (s.prog i).outcome? = some o) : s.turn exec i = s := by
  simp only [turn, Prog.next_of_ended exec h, Function.update_eq_self]

variable (exec) in
/-- What a caller ended with stays. -/
theorem ended_turn (h : (s.prog j).outcome? = some o) (i : ι) :
    (s.turn exec i).prog j = s.prog j := by
  by_cases hij : j = i
  · subst hij; rw [turn_of_ended h]
  · exact prog_turn_of_ne hij s

theorem open_of_turn (h : ((s.turn exec i).prog j).outcome? = none) :
    (s.prog j).outcome? = none := by
  cases ho : (s.prog j).outcome? with
  | none => rfl
  | some o => rwa [ended_turn exec ho, ho] at h

end Threads

end StayKey.Program
