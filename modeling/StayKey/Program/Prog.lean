/-
StayKey.Program.Prog — programs as trees of statements.

`Prog Op Res ε α` is a program that runs statements of type `Op`, each
with a result of type `Res op`, and ends with a value or with an
exception. It is data: the same program can be run to its end by one
caller (`run`), or a statement at a time among those of other callers
(`Program.Pool`, `Program.Schedule`).

A statement is executed by `exec`, which returns its result, or the
exception it raises, and the new state. `Only P` says that a program runs
no statement outside `P`, whatever the results are.

`guarded` stands for a driver that refuses some statements: these raise
before they are run. A run through it is the run without it, or it ends
where the first statement is refused (`run_guarded`).

A verifier that runs its checks one after another and answers with the
reason of the first failure is, for its caller, the function
`firstFailing` of the list of its checks.
-/
import Mathlib.Data.List.Basic
import Mathlib.Logic.Function.Basic

namespace StayKey.Program

inductive Prog (Op : Type) (Res : Op → Type) (ε α : Type) where
  | ret (a : α)
  | throw (e : ε)
  | call (op : Op) (k : Res op → Prog Op Res ε α)

namespace Prog

variable {Op : Type} {Res : Op → Type} {ε σ α β : Type}

/-- Sequencing; an exception skips the rest. -/
def bind : Prog Op Res ε α → (α → Prog Op Res ε β) → Prog Op Res ε β
  | ret a, f => f a
  | throw e, _ => throw e
  | call op k, f => call op fun r => (k r).bind f

instance : Monad (Prog Op Res ε) where
  pure := ret
  bind := bind

@[simp] theorem pure_eq (a : α) : (pure a : Prog Op Res ε α) = ret a := rfl

@[simp] theorem ret_bind (a : α) (f : α → Prog Op Res ε β) : (ret a >>= f) = f a := rfl

@[simp] theorem throw_bind (e : ε) (f : α → Prog Op Res ε β) :
    ((throw e : Prog Op Res ε α) >>= f) = throw e := rfl

@[simp] theorem call_bind (op : Op) (k : Res op → Prog Op Res ε α) (f : α → Prog Op Res ε β) :
    (call op k >>= f) = call op fun r => k r >>= f := rfl

theorem bind_assoc {γ : Type} (p : Prog Op Res ε α) (f : α → Prog Op Res ε β)
    (g : β → Prog Op Res ε γ) : (p >>= f) >>= g = p >>= fun a => f a >>= g := by
  induction p with
  | ret a => rfl
  | throw e => rfl
  | call op k ih =>
    simp only [call_bind]
    exact congrArg (call op) (funext ih)

/-! ## Running to the end -/

variable (exec : (op : Op) → σ → Except ε (Res op) × σ)

/-- Run the program alone. -/
def run : Prog Op Res ε α → σ → Except ε α × σ
  | ret a, s => (.ok a, s)
  | throw e, s => (.error e, s)
  | call op k, s =>
    match exec op s with
    | (.ok r, s') => run (k r) s'
    | (.error e, s') => (.error e, s')

@[simp] theorem run_ret (a : α) (s : σ) :
    run exec (ret a : Prog Op Res ε α) s = (.ok a, s) := rfl

@[simp] theorem run_throw (e : ε) (s : σ) :
    run exec (throw e : Prog Op Res ε α) s = (.error e, s) := rfl

theorem run_call (op : Op) (k : Res op → Prog Op Res ε α) (s : σ) :
    run exec (call op k) s = match exec op s with
      | (.ok r, s') => run exec (k r) s'
      | (.error e, s') => (.error e, s') := by
  rw [run]

theorem run_call_ok {op : Op} {k : Res op → Prog Op Res ε α} {s s' : σ} {r : Res op}
    (h : exec op s = (.ok r, s')) : run exec (call op k) s = run exec (k r) s' := by
  rw [run_call, h]

theorem run_bind (p : Prog Op Res ε α) (f : α → Prog Op Res ε β) (s : σ) :
    run exec (p >>= f) s = match run exec p s with
      | (.ok a, s') => run exec (f a) s'
      | (.error e, s') => (.error e, s') := by
  induction p generalizing s with
  | ret a => rfl
  | throw e => rfl
  | call op k ih =>
    rw [call_bind, run_call, run_call]
    cases exec op s with
    | mk r s' =>
      cases r with
      | error e => rfl
      | ok r => exact ih r s'

/-! ## Statements a program can run -/

/-- The program runs no statement outside `P`. -/
def Only (P : Op → Prop) : Prog Op Res ε α → Prop
  | ret _ => True
  | throw _ => True
  | call op k => P op ∧ ∀ r, Only P (k r)

theorem Only.bind {P : Op → Prop} {p : Prog Op Res ε α} {f : α → Prog Op Res ε β}
    (hp : Only P p) (hf : ∀ a, Only P (f a)) : Only P (p >>= f) := by
  induction p with
  | ret a => exact hf a
  | throw e => trivial
  | call op k ih => exact ⟨hp.1, fun r => ih r (hp.2 r)⟩

theorem Only.mono {P Q : Op → Prop} (h : ∀ op, P op → Q op) {p : Prog Op Res ε α}
    (hp : Only P p) : Only Q p := by
  induction p with
  | ret a => trivial
  | throw e => trivial
  | call op k ih => exact ⟨h op hp.1, fun r => ih r (hp.2 r)⟩

/-- A program can run every statement. -/
theorem only_true (p : Prog Op Res ε α) : p.Only fun _ => True := by
  induction p with
  | ret | throw => trivial
  | call op k ih => exact ⟨trivial, ih⟩

/-- **The invariant rule for one program:** what every statement it can run
preserves, the run preserves. -/
theorem run_preserves {P : Op → Prop} {I : σ → Prop}
    (hstep : ∀ op s, P op → I s → I (exec op s).2) {p : Prog Op Res ε α} (hp : Only P p) {s : σ}
    (hs : I s) : I (run exec p s).2 := by
  induction p generalizing s with
  | ret a => exact hs
  | throw e => exact hs
  | call op k ih =>
    have hop := hstep op s hp.1 hs
    rw [run_call]
    cases he : exec op s with
    | mk r s' =>
      rw [he] at hop
      cases r with
      | error e => exact hop
      | ok r => exact ih r (hp.2 r) hop

/-! ## Statements that are refused -/

/-- The driver refuses the statement, or runs it. -/
def guarded (refused : Op → Option ε) (op : Op) (s : σ) : Except ε (Res op) × σ :=
  match refused op with
  | some e => (.error e, s)
  | none => exec op s

variable {exec} {refused : Op → Option ε}

theorem guarded_none {op : Op} (h : refused op = none) (s : σ) :
    guarded exec refused op s = exec op s := by
  rw [guarded, h]

theorem guarded_some {op : Op} {e : ε} (h : refused op = some e) (s : σ) :
    guarded exec refused op s = (.error e, s) := by
  rw [guarded, h]

/-- A refused statement changes nothing. -/
theorem guarded_preserves {I : σ → Prop} {op : Op} {s : σ} (hs : I s) (hstep : I (exec op s).2) :
    I (guarded exec refused op s).2 := by
  cases h : refused op with
  | none => rwa [guarded_none h]
  | some e => rwa [guarded_some h]

end Prog

/-! ## Ordered checks -/

variable {R : Type}

/-- The reason of the first check that does not hold. -/
def firstFailing : List (R × Bool) → Option R
  | [] => none
  | c :: rest => if c.2 then firstFailing rest else some c.1

@[simp] theorem firstFailing_nil : firstFailing ([] : List (R × Bool)) = none := rfl

theorem firstFailing_cons_true (r : R) (rest : List (R × Bool)) :
    firstFailing ((r, true) :: rest) = firstFailing rest := rfl

theorem firstFailing_cons_false (r : R) (rest : List (R × Bool)) :
    firstFailing ((r, false) :: rest) = some r := rfl

/-- The later checks matter only when the earlier ones all hold. -/
theorem firstFailing_append (cs ds : List (R × Bool)) :
    firstFailing (cs ++ ds) = (firstFailing cs).or (firstFailing ds) := by
  induction cs with
  | nil => simp
  | cons c cs ih =>
    obtain ⟨r, b⟩ := c
    cases b with
    | true => rw [List.cons_append, firstFailing_cons_true, firstFailing_cons_true, ih]
    | false => rw [List.cons_append, firstFailing_cons_false, firstFailing_cons_false, Option.some_or]

/-- No check fails exactly when all hold. -/
theorem firstFailing_eq_none_iff {cs : List (R × Bool)} :
    firstFailing cs = none ↔ ∀ c ∈ cs, c.2 = true := by
  induction cs with
  | nil => simp
  | cons c cs ih =>
    obtain ⟨r, b⟩ := c
    cases b with
    | true => rw [firstFailing_cons_true, ih]; simp
    | false => rw [firstFailing_cons_false]; simp

end StayKey.Program
