/-
StayKey.Program.Rely — a program among others that change the state.

Between two statements of a program the state may change: `rely s s'` says
that others can lead from `s` to `s'`. `Under rely Ok Q p s` says of the
program `p`, started in `s`, that it runs a statement only where `Ok`
allows it, and that it ends in states with `Q`, whatever others do in
between.

What the program has read is known at a later statement as far as `rely`
keeps it, so the rule for sequencing (`Under.bind`) is the one of a program
that runs alone. `Pool.invariant_under` is the rule for a pool of such
programs, `Schedule.invariant_under` the one for callers that take turns:
an invariant that every allowed statement keeps holds in every reachable
state. `Schedule.under` follows one program, from any moment of a run on.
-/
import StayKey.Program.Pool
import StayKey.Program.Schedule

namespace StayKey.Program

variable {Op : Type} {Res : Op → Type} {ε σ α β : Type} {exec : (op : Op) → σ → Except ε (Res op) × σ}
  {rely : σ → σ → Prop} {Ok : Op → σ → Prop} {Q : α → σ → Prop} {s t : σ}

namespace Prog

/-- Every statement is run where `Ok` allows it, and the program ends with `Q`. -/
def Under (exec : (op : Op) → σ → Except ε (Res op) × σ) (rely : σ → σ → Prop) (Ok : Op → σ → Prop)
    (Q : α → σ → Prop) : Prog Op Res ε α → σ → Prop
  | ret a, s => ∀ t, rely s t → Q a t
  | throw _, _ => True
  | call op k, s => ∀ t, rely s t →
    Ok op t ∧ ∀ r u, exec op t = (.ok r, u) → Under exec rely Ok Q (k r) u

/-- A statement of its own and what follows. -/
theorem under_call {op : Op} {k : Res op → Prog Op Res ε α} (hok : ∀ t, rely s t → Ok op t)
    (hk : ∀ t r u, rely s t → exec op t = (.ok r, u) → (k r).Under exec rely Ok Q u) :
    (call op k).Under exec rely Ok Q s :=
  fun t ht => ⟨hok t ht, fun r u he => hk t r u ht he⟩

/-- Others may go first. -/
theorem Under.mono (htrans : ∀ s t u, rely s t → rely t u → rely s u) {p : Prog Op Res ε α}
    (h : p.Under exec rely Ok Q s) (hst : rely s t) : p.Under exec rely Ok Q t := by
  cases p with
  | ret a => exact fun u hu => h u (htrans s t u hst hu)
  | throw e => trivial
  | call op k => exact fun u hu => h u (htrans s t u hst hu)

theorem Under.imp {Q' : α → σ → Prop} (hQ : ∀ a s, Q a s → Q' a s) {p : Prog Op Res ε α}
    (h : p.Under exec rely Ok Q s) : p.Under exec rely Ok Q' s := by
  induction p generalizing s with
  | ret a => exact fun t ht => hQ a t (h t ht)
  | throw e => trivial
  | call op k ih => exact fun t ht => ⟨(h t ht).1, fun r u he => ih r ((h t ht).2 r u he)⟩

/-- What others and every statement keep, the program keeps. -/
theorem Under.keep {I : σ → Prop} (hrely : ∀ s t, rely s t → I s → I t)
    (hstep : ∀ op s, I s → I (exec op s).2) {p : Prog Op Res ε α} (h : p.Under exec rely Ok Q s)
    (hs : I s) : p.Under exec rely Ok (fun a t => Q a t ∧ I t) s := by
  induction p generalizing s with
  | ret a => exact fun t ht => ⟨h t ht, hrely s t ht hs⟩
  | throw e => trivial
  | call op k ih =>
    intro t ht
    obtain ⟨hok, hk⟩ := h t ht
    refine ⟨hok, fun r u he => ih r (hk r u he) ?_⟩
    have hu := hstep op t (hrely s t ht hs)
    rwa [he] at hu

/-- **Sequencing.** -/
theorem Under.bind (hrefl : ∀ s, rely s s) {Q' : β → σ → Prop} {p : Prog Op Res ε α}
    {f : α → Prog Op Res ε β} (h : p.Under exec rely Ok Q s)
    (hf : ∀ a t, Q a t → (f a).Under exec rely Ok Q' t) : (p >>= f).Under exec rely Ok Q' s := by
  induction p generalizing s with
  | ret a => exact hf a s (h s (hrefl s))
  | throw e => trivial
  | call op k ih => exact fun t ht => ⟨(h t ht).1, fun r u he => ih r ((h t ht).2 r u he)⟩

/-- A program whose statements are allowed everywhere. -/
theorem under_of_only {P : Op → Prop} (hP : ∀ op s, P op → Ok op s) {p : Prog Op Res ε α}
    (h : p.Only P) (s : σ) : p.Under exec rely Ok (fun _ _ => True) s := by
  induction p generalizing s with
  | ret a => exact fun _ _ => trivial
  | throw e => trivial
  | call op k ih => exact fun t _ => ⟨hP op t h.1, fun r u _ => ih r (h.2 r) u⟩

end Prog

/-! ## Pools -/

variable {ι : Type} [DecidableEq ι] {Allowed : Prog Op Res ε Unit → Prop}

/-- **The invariant rule for programs that rely on each other.** Whatever a
statement does, others can rely on; and a statement that is allowed keeps
the invariant. -/
theorem Pool.invariant_under {I : σ → Prop} {s₀ : σ} (hrefl : ∀ s, rely s s)
    (htrans : ∀ s t u, rely s t → rely t u → rely s u) (hrely : ∀ op s, rely s (exec op s).2)
    (hinit : I s₀) (hallowed : ∀ p s, Allowed p → p.Under exec rely Ok (fun _ _ => True) s)
    (hstep : ∀ op s, Ok op s → I s → I (exec op s).2) {s : Pool ι Op Res ε σ}
    (hs : Reachable exec Allowed s₀ s) : I s.shared := by
  suffices h : I s.shared ∧ ∀ i, (s.client i).Under exec rely Ok (fun _ _ => True) s.shared from h.1
  have hupd {c : ι → Prog Op Res ε Unit} {i : ι} {p : Prog Op Res ε Unit} {s t : σ}
      (hc : ∀ j, (c j).Under exec rely Ok (fun _ _ => True) s) (hst : rely s t)
      (hp : p.Under exec rely Ok (fun _ _ => True) t) :
      ∀ j, (Function.update c i p j).Under exec rely Ok (fun _ _ => True) t := by
    intro j
    by_cases hj : j = i
    · subst hj; rw [Function.update_self]; exact hp
    · rw [Function.update_of_ne hj]; exact (hc j).mono htrans hst
  induction hs with
  | init => exact ⟨hinit, fun _ _ _ => trivial⟩
  | @step s t _ h ih =>
    obtain ⟨hshared, hclients⟩ := ih
    cases h with
    | start i p _ hp => exact ⟨hshared, hupd hclients (hrefl s.shared) (hallowed p s.shared hp)⟩
    | @ok i op k r t hi he =>
      have hi : (Prog.call op k).Under exec rely Ok (fun _ _ => True) s.shared := hi ▸ hclients i
      obtain ⟨hok, hk⟩ := hi s.shared (hrefl s.shared)
      have hI := hstep op s.shared hok hshared
      have hst := hrely op s.shared
      rw [he] at hI hst
      exact ⟨hI, hupd hclients hst (hk r t he)⟩
    | @raise i op k e t hi he =>
      have hi : (Prog.call op k).Under exec rely Ok (fun _ _ => True) s.shared := hi ▸ hclients i
      obtain ⟨hok, -⟩ := hi s.shared (hrefl s.shared)
      have hI := hstep op s.shared hok hshared
      have hst := hrely op s.shared
      rw [he] at hI hst
      exact ⟨hI, hupd hclients hst trivial⟩

/-! ## Turns -/

/-- What is left of a program after a turn. -/
theorem Prog.Under.next (hrefl : ∀ s, rely s s) {p : Prog Op Res ε α} (h : p.Under exec rely Ok Q s) :
    (p.next exec s).1.Under exec rely Ok Q (p.next exec s).2 := by
  cases p with
  | ret a => exact h
  | throw e => trivial
  | call op k =>
    obtain ⟨-, hk⟩ := h s (hrefl s)
    rw [Prog.next]
    rcases he : exec op s with ⟨e | r, u⟩
    · trivial
    · exact hk r u he

namespace Schedule

variable {Q : ι → α → σ → Prop} {s₀ s t : Threads ι Op Res ε α σ}
  {h : List (Turn ι Op Res ε α σ)} {j : ι}

/-- A turn of a program, or one it can rely on. -/
theorem under_turn (hrefl : ∀ s, rely s s) (htrans : ∀ s t u, rely s t → rely t u → rely s u) {i : ι}
    (hrely : rely s.shared (s.turn exec i).shared) (hj : (s.prog j).Under exec rely Ok (Q j) s.shared) :
    ((s.turn exec i).prog j).Under exec rely Ok (Q j) (s.turn exec i).shared := by
  by_cases hij : j = i
  · subst hij
    rw [Threads.prog_turn_self]
    exact hj.next hrefl
  · rw [Threads.prog_turn_of_ne hij]
    exact hj.mono htrans hrely

/-- **One program**, from a visited state on, when it can rely on all turns
of the run. -/
theorem under (hrefl : ∀ s, rely s s) (htrans : ∀ s t u, rely s t → rely t u → rely s u)
    (hs : Schedule exec s₀ h s) (hv : History.Visits h s t)
    (hj : (t.prog j).Under exec rely Ok (Q j) t.shared)
    (hrely : ∀ e ∈ h, rely e.before.shared (e.afterTurn exec).shared) :
    (s.prog j).Under exec rely Ok (Q j) s.shared :=
  hs.since_visits_entries (P := fun s => (s.prog j).Under exec rely Ok (Q j) s.shared) hv hj
    fun e he hj => under_turn hrefl htrans (hrely e he) hj

/-- **The invariant rule for callers that rely on each other.** -/
theorem invariant_under {I : σ → Prop} (hrefl : ∀ s, rely s s)
    (htrans : ∀ s t u, rely s t → rely t u → rely s u) (hrely : ∀ op s, rely s (exec op s).2)
    (hinit : I s₀.shared) (hunder : ∀ i, (s₀.prog i).Under exec rely Ok (Q i) s₀.shared)
    (hstep : ∀ op s, Ok op s → I s → I (exec op s).2) (hs : Schedule exec s₀ h s) :
    I s.shared ∧ ∀ i, (s.prog i).Under exec rely Ok (Q i) s.shared := by
  refine hs.invariant
    (I := fun s => I s.shared ∧ ∀ i, (s.prog i).Under exec rely Ok (Q i) s.shared) ⟨hinit, hunder⟩
    (fun s i ⟨hI, hu⟩ (_ : True) => ?_) fun _ _ => trivial
  have hturn : rely s.shared (s.turn exec i).shared :=
    Prog.next_preserves exec (P := fun _ => True) (I := fun t => rely s.shared t)
      (fun op t _ ht => htrans _ _ _ ht (hrely op t)) (Prog.only_true _) (hrefl _)
  refine ⟨?_, fun j => under_turn hrefl htrans hturn (hu j)⟩
  have hi := hu i
  cases hp : s.prog i with
  | ret a => rwa [Threads.turn_of_ended (o := .ok a) (by rw [hp]; rfl)]
  | throw e => rwa [Threads.turn_of_ended (o := .error e) (by rw [hp]; rfl)]
  | call op k =>
    rw [hp] at hi
    rw [Threads.shared_turn hp]
    exact hstep op s.shared (hi s.shared (hrefl _)).1 hI

end Schedule

end StayKey.Program
