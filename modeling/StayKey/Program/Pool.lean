/-
StayKey.Program.Pool — any number of clients over one shared state.

Each client runs one program at a time; a step of the pool is one
statement of one client, so the statements of different clients
interleave in any order and what a client has read may be out of date
when its next statement runs. A client whose program has ended may start
another one out of a given set.

`Pool.invariant` is the rule for such systems: an invariant of the shared
state that every permitted statement preserves holds in every reachable
state, whatever the clients have in hand.
-/
import StayKey.Program.Prog

namespace StayKey.Program

variable {ι Op : Type} {Res : Op → Type} {ε σ : Type}

/-- The clients, each with what is left of its program, and the shared state. -/
structure Pool (ι Op : Type) (Res : Op → Type) (ε σ : Type) where
  client : ι → Prog Op Res ε Unit
  shared : σ

namespace Pool

variable [DecidableEq ι] (exec : (op : Op) → σ → Except ε (Res op) × σ)
  (Allowed : Prog Op Res ε Unit → Prop)

/-- The program has ended. -/
def Ended (p : Prog Op Res ε Unit) : Prop := ∀ op k, p ≠ .call op k

/-- One step: a client that is done starts a new program, or a client runs
its next statement. -/
inductive Step : Pool ι Op Res ε σ → Pool ι Op Res ε σ → Prop
  | start {s : Pool ι Op Res ε σ} (i : ι) (p : Prog Op Res ε Unit) (hidle : Ended (s.client i))
      (hp : Allowed p) : Step s ⟨Function.update s.client i p, s.shared⟩
  | ok {s : Pool ι Op Res ε σ} (i : ι) {op : Op} {k : Res op → Prog Op Res ε Unit} {r : Res op}
      {t : σ} (hi : s.client i = .call op k) (he : exec op s.shared = (.ok r, t)) :
      Step s ⟨Function.update s.client i (k r), t⟩
  | raise {s : Pool ι Op Res ε σ} (i : ι) {op : Op} {k : Res op → Prog Op Res ε Unit} {e : ε}
      {t : σ} (hi : s.client i = .call op k) (he : exec op s.shared = (.error e, t)) :
      Step s ⟨Function.update s.client i (.throw e), t⟩

/-- What can be reached from an idle pool over the state `s₀`. -/
inductive Reachable (s₀ : σ) : Pool ι Op Res ε σ → Prop
  | init : Reachable s₀ ⟨fun _ => .ret (), s₀⟩
  | step {s t : Pool ι Op Res ε σ} (hs : Reachable s₀ s) (h : Step exec Allowed s t) :
      Reachable s₀ t

variable {exec Allowed}

/-- **The invariant rule for a pool of clients.** -/
theorem invariant {P : Op → Prop} {I : σ → Prop} {s₀ : σ} (hinit : I s₀)
    (hallowed : ∀ p, Allowed p → p.Only P)
    (hstep : ∀ op s, P op → I s → I (exec op s).2) {s : Pool ι Op Res ε σ}
    (hs : Reachable exec Allowed s₀ s) : I s.shared := by
  suffices h : I s.shared ∧ ∀ i, (s.client i).Only P from h.1
  have hupd {c : ι → Prog Op Res ε Unit} {i : ι} {p : Prog Op Res ε Unit}
      (hc : ∀ j, (c j).Only P) (hp : p.Only P) : ∀ j, (Function.update c i p j).Only P := by
    intro j
    by_cases hj : j = i
    · subst hj; rw [Function.update_self]; exact hp
    · rw [Function.update_of_ne hj]; exact hc j
  induction hs with
  | init => exact ⟨hinit, fun _ => trivial⟩
  | @step s t _ h ih =>
    obtain ⟨hshared, hclients⟩ := ih
    cases h with
    | start i p _ hp => exact ⟨hshared, hupd hclients (hallowed p hp)⟩
    | @ok i op k r t hi he =>
      have hop : Prog.Only P (.call op k) := hi ▸ hclients i
      have := hstep op s.shared hop.1 hshared
      rw [he] at this
      exact ⟨this, hupd hclients (hop.2 r)⟩
    | @raise i op k e t hi he =>
      have hop : Prog.Only P (.call op k) := hi ▸ hclients i
      have := hstep op s.shared hop.1 hshared
      rw [he] at this
      exact ⟨this, hupd hclients trivial⟩

/-- One client running its program without interference. -/
theorem reachable_run_aux {s₀ : σ} {i : ι} : ∀ {p : Prog Op Res ε Unit} {s : Pool ι Op Res ε σ},
    Reachable exec Allowed s₀ s → s.client i = p →
    ∃ t, Reachable exec Allowed s₀ t ∧ t.shared = (p.run exec s.shared).2 ∧ Ended (t.client i) := by
  intro p
  induction p with
  | ret a => exact fun {s} hs hi => ⟨s, hs, rfl, by rw [hi]; exact nofun⟩
  | throw e => exact fun {s} hs hi => ⟨s, hs, rfl, by rw [hi]; exact nofun⟩
  | call op k ih =>
    intro s hs hi
    rw [Prog.run_call]
    cases he : exec op s.shared with
    | mk r u =>
      cases r with
      | error e =>
        refine ⟨_, hs.step (.raise i hi he), rfl, ?_⟩
        simp only [Function.update_self]
        exact nofun
      | ok r =>
        obtain ⟨t, ht, hshared, hend⟩ := ih r (hs.step (.ok i hi he)) (Function.update_self ..)
        exact ⟨t, ht, hshared, hend⟩

/-- A sequential call is a run of the pool. -/
theorem reachable_run {s₀ : σ} {s : Pool ι Op Res ε σ} (hs : Reachable exec Allowed s₀ s) {i : ι}
    (hidle : Ended (s.client i)) {p : Prog Op Res ε Unit} (hp : Allowed p) :
    ∃ t, Reachable exec Allowed s₀ t ∧ t.shared = (p.run exec s.shared).2 ∧ Ended (t.client i) := by
  have hstart := hs.step (.start i p hidle hp)
  obtain ⟨t, ht, hshared, hend⟩ := reachable_run_aux hstart (Function.update_self i p s.client)
  exact ⟨t, ht, hshared, hend⟩

end Pool

end StayKey.Program
