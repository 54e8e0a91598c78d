/-
StayKey.Program.Keeps — programs that keep an invariant between any two
statements.

A special case of `Program.Rely` that is met again and again: what others
do between two statements keeps an invariant `I`, and leads from `s` to a
state `t` with `K s t`, which every statement guarantees and which carries
over what a program has read (`Others`). A program `Keeps` the invariant if
it runs no statement but allowed ones in states with `I`, whatever others
do, and ends with `Q`.

There is a rule for each way a program can be built, and `Schedule.keeps`
is the invariant rule: callers that take turns, each of which keeps the
invariant, have it in every state.
-/
import StayKey.Program.Rely

namespace StayKey.Program

variable {ι Op : Type} {Res : Op → Type} {ε σ α β : Type} {exec : (op : Op) → σ → Except ε (Res op) × σ}
  {K : σ → σ → Prop} {I : σ → Prop} {Ok : Op → σ → Prop} {Q : α → σ → Prop} {Q' : β → σ → Prop}
  {s t : σ}

/-- What can happen between two statements. -/
def Others (K : σ → σ → Prop) (I : σ → Prop) (s t : σ) : Prop := K s t ∧ (I s → I t)

theorem Others.refl (hrefl : ∀ s, K s s) (s : σ) : Others K I s s := ⟨hrefl s, id⟩

theorem Others.trans (htrans : ∀ s t u, K s t → K t u → K s u) (s t u : σ) (h : Others K I s t)
    (h' : Others K I t u) : Others K I s u :=
  ⟨htrans s t u h.1 h'.1, fun hs => h'.2 (h.2 hs)⟩

namespace Prog

/-- From `s` on, the program keeps the invariant and ends with `Q`. -/
def KeepsFrom (exec : (op : Op) → σ → Except ε (Res op) × σ) (K : σ → σ → Prop) (I : σ → Prop)
    (Ok : Op → σ → Prop) (Q : α → σ → Prop) (p : Prog Op Res ε α) (s : σ) : Prop :=
  p.Under exec (Others K I) Ok (fun a t => Q a t ∧ I t) s

/-- From every state with the invariant on. -/
def Keeps (exec : (op : Op) → σ → Except ε (Res op) × σ) (K : σ → σ → Prop) (I : σ → Prop)
    (Ok : Op → σ → Prop) (Q : α → σ → Prop) (p : Prog Op Res ε α) : Prop :=
  ∀ s, I s → p.KeepsFrom exec K I Ok Q s

theorem keepsFrom_ret {a : α} (hs : I s) (ha : ∀ t, K s t → I t → Q a t) :
    (ret a : Prog Op Res ε α).KeepsFrom exec K I Ok Q s :=
  fun t ht => ⟨ha t ht.1 (ht.2 hs), ht.2 hs⟩

theorem keepsFrom_throw (e : ε) (s : σ) : (throw e : Prog Op Res ε α).KeepsFrom exec K I Ok Q s :=
  trivial

/-- A statement, with what is known when it is run and after it. -/
theorem keepsFrom_call (hstep : ∀ op s, Ok op s → I s → I (exec op s).2) {op : Op}
    {k : Res op → Prog Op Res ε α} (hs : I s) (hop : ∀ t, K s t → I t → Ok op t)
    (hk : ∀ t r u, K s t → I t → exec op t = (.ok r, u) → I u → (k r).KeepsFrom exec K I Ok Q u) :
    (call op k).KeepsFrom exec K I Ok Q s := by
  intro t ht
  have hI := ht.2 hs
  refine ⟨hop t ht.1 hI, fun r u he => hk t r u ht.1 hI he ?_⟩
  have hu := hstep op t (hop t ht.1 hI) hI
  rwa [he] at hu

/-- **Sequencing.** -/
theorem KeepsFrom.bind (hrefl : ∀ s, K s s) {p : Prog Op Res ε α} {f : α → Prog Op Res ε β}
    (h : p.KeepsFrom exec K I Ok Q s)
    (hf : ∀ a t, Q a t → I t → (f a).KeepsFrom exec K I Ok Q' t) :
    (p >>= f).KeepsFrom exec K I Ok Q' s :=
  Under.bind (Others.refl hrefl) h fun a t ha => hf a t ha.1 ha.2

theorem KeepsFrom.imp {Q' : α → σ → Prop} {p : Prog Op Res ε α} (h : p.KeepsFrom exec K I Ok Q s)
    (hQ : ∀ a t, Q a t → I t → Q' a t) : p.KeepsFrom exec K I Ok Q' s :=
  Under.imp (fun a t ha => ⟨hQ a t ha.1 ha.2, ha.2⟩) h

theorem Keeps.bind (hrefl : ∀ s, K s s) {p : Prog Op Res ε α} {f : α → Prog Op Res ε β}
    (h : p.Keeps exec K I Ok Q)
    (hf : ∀ a t, Q a t → I t → (f a).KeepsFrom exec K I Ok Q' t) : (p >>= f).Keeps exec K I Ok Q' :=
  fun s hs => (h s hs).bind hrefl hf

/-- A program all of whose statements are allowed where the invariant holds. -/
theorem keeps_of_only (hstep : ∀ op s, Ok op s → I s → I (exec op s).2) {P : Op → Prop}
    (hP : ∀ op s, P op → I s → Ok op s) {p : Prog Op Res ε α} (hp : p.Only P) :
    p.Keeps exec K I Ok fun _ _ => True := by
  induction p with
  | ret a => exact fun s hs => keepsFrom_ret hs fun _ _ _ => trivial
  | throw e => exact fun s _ => keepsFrom_throw e s
  | call op k ih =>
    intro s hs
    refine keepsFrom_call hstep hs (fun t _ ht => hP op t hp.1 ht) fun _ r u _ _ _ hu => ?_
    exact ih r (hp.2 r) u hu

end Prog

/-! ## Turns -/

variable [DecidableEq ι] {Q : ι → α → σ → Prop} {s₀ s : Threads ι Op Res ε α σ}
  {h : List (Turn ι Op Res ε α σ)}

/-- One turn: the invariant is kept, and the others see no more of it than
they can rely on. -/
theorem Schedule.keeps_turn (hrefl : ∀ s, K s s) (hK : ∀ op s, K s (exec op s).2)
    (hstep : ∀ op s, Ok op s → I s → I (exec op s).2) {i : ι} (hI : I s.shared)
    (hi : (s.prog i).KeepsFrom exec K I Ok (Q i) s.shared) :
    I (s.turn exec i).shared ∧ Others K I s.shared (s.turn exec i).shared := by
  cases hp : s.prog i with
  | ret a =>
    rw [Threads.turn_of_ended (o := .ok a) (by rw [hp]; rfl)]
    exact ⟨hI, .refl hrefl _⟩
  | throw e =>
    rw [Threads.turn_of_ended (o := .error e) (by rw [hp]; rfl)]
    exact ⟨hI, .refl hrefl _⟩
  | call op k =>
    rw [hp] at hi
    rw [Threads.shared_turn hp]
    have hafter := hstep op s.shared (hi s.shared (.refl hrefl _)).1 hI
    exact ⟨hafter, hK op s.shared, fun _ => hafter⟩

/-- **The invariant rule.** -/
theorem Schedule.keeps (hrefl : ∀ s, K s s) (htrans : ∀ s t u, K s t → K t u → K s u)
    (hK : ∀ op s, K s (exec op s).2) (hstep : ∀ op s, Ok op s → I s → I (exec op s).2)
    (hinit : I s₀.shared) (hkeeps : ∀ i, (s₀.prog i).Keeps exec K I Ok (Q i))
    (hs : Schedule exec s₀ h s) :
    I s.shared ∧ ∀ i, (s.prog i).KeepsFrom exec K I Ok (Q i) s.shared := by
  induction hs with
  | nil => exact ⟨hinit, fun i => hkeeps i _ hinit⟩
  | cons i _ ih =>
    obtain ⟨hI, hprog⟩ := ih
    obtain ⟨hafter, hothers⟩ := keeps_turn hrefl hK hstep hI (hprog i)
    refine ⟨hafter, fun j => ?_⟩
    exact under_turn (Q := fun j a t => Q j a t ∧ I t) (Others.refl hrefl) (Others.trans htrans) hothers
      (hprog j)

end StayKey.Program
