/-
StayKey.Program.Restart — a process that can die and be started again.

What lasts is the disk; what a process holds in memory is made by `boot`
from what the disk has, and is lost when the process dies. While it runs,
its callers take turns (`Program.Schedule`), and what a turn changes of the
lasting part is on the disk when the turn is over (`save`). A process can
die between any two turns, its callers in the middle of their programs
(`Prog.steps` is how far a program came).

`Sound` lists what has to be shown of a platform so that an invariant of
the disk, an invariant of the memory and what its programs rely on hold in
every run (`Lives.sound`), and from any start on (`Lives.sound_since`): the
memory need not have been sound before it.
-/
import StayKey.Program.Rely

namespace StayKey.Program

variable {ι Op Boot δ : Type} {Res : Op → Type} {ε α β σ : Type}

/-! ## Programs that are cut off -/

namespace Prog

variable (exec : (op : Op) → σ → Except ε (Res op) × σ)

/-- The state after the first `n` statements. -/
def steps : Nat → Prog Op Res ε α → σ → σ
  | 0, _, s => s
  | n + 1, p, s => (p.next exec s).1.steps n (p.next exec s).2

/-- A program that has ended does nothing more. -/
theorem steps_of_ended {p : Prog Op Res ε α} {o : Except ε α} (h : p.outcome? = some o) (n : Nat)
    (s : σ) : p.steps exec n s = s := by
  induction n with
  | zero => rfl
  | succ n ih => rw [steps, next_of_ended exec h, ih]

/-- One statement, and the rest of them. -/
theorem steps_call_ok {op : Op} {k : Res op → Prog Op Res ε α} {s t : σ} {r : Res op}
    (h : exec op s = (.ok r, t)) (n : Nat) :
    (Prog.call op k).steps exec (n + 1) s = (k r).steps exec n t := by
  rw [steps, next_call_ok exec h]

/-- What is made of the result takes no statement. -/
theorem steps_map (f : α → β) (p : Prog Op Res ε α) (n : Nat) (s : σ) :
    (p >>= fun a => ret (f a)).steps exec n s = p.steps exec n s := by
  induction p generalizing n s with
  | ret a =>
    show steps exec n (ret (f a)) s = _
    rw [steps_of_ended exec (p := ret (f a)) (o := .ok (f a)) rfl,
      steps_of_ended exec (p := ret a) (o := .ok a) rfl]
  | throw e =>
    show steps exec n (throw e) s = _
    rw [steps_of_ended exec (p := throw e) (o := .error e) rfl,
      steps_of_ended exec (p := throw e) (o := .error e) rfl]
  | call op k ih =>
    cases n with
    | zero => rfl
    | succ n =>
      show steps exec (n + 1) (call op fun r => k r >>= fun a => ret (f a)) s = _
      rw [steps, steps]
      rcases hop : exec op s with ⟨e | r, t⟩
      · rw [next_call_error exec hop, next_call_error exec hop,
          steps_of_ended exec (p := throw e) (o := .error e) rfl,
          steps_of_ended exec (p := throw e) (o := .error e) rfl]
      · rw [next_call_ok exec hop, next_call_ok exec hop]
        exact ih r n t

/-- What every statement keeps, a program that is cut off keeps. -/
theorem steps_preserves {P : Op → Prop} {I : σ → Prop}
    (hstep : ∀ op s, P op → I s → I (exec op s).2) {p : Prog Op Res ε α} (hp : p.Only P) {s : σ}
    (hs : I s) (n : Nat) : I (p.steps exec n s) := by
  induction n generalizing p s with
  | zero => exact hs
  | succ n ih => exact ih (hp.next exec s) (next_preserves exec hstep hp hs)

end Prog

/-! ## Programs that keep something of their own -/

namespace Prog

variable {exec : (op : Op) → σ → Except ε (Res op) × σ} {rely rely' : σ → σ → Prop}
  {Ok Ok' : Op → σ → Prop} {Q : α → σ → Prop} {J : σ → Prop} {s : σ}

/-- What a program may rely on and what allows its statements can both be
said with what every state it meets has. -/
theorem Under.given (hrely : ∀ s t, rely' s t → rely s t) (hkeep : ∀ s t, rely' s t → J s → J t)
    (hstep : ∀ op s, J s → J (exec op s).2) (hOk : ∀ op s, J s → Ok op s → Ok' op s)
    {p : Prog Op Res ε α} (h : p.Under exec rely Ok Q s) (hs : J s) :
    p.Under exec rely' Ok' (fun a t => Q a t ∧ J t) s := by
  induction p generalizing s with
  | ret a => exact fun t ht => ⟨h t (hrely s t ht), hkeep s t ht hs⟩
  | throw e => trivial
  | call op k ih =>
    intro t ht
    have hJ := hkeep s t ht hs
    obtain ⟨hok, hk⟩ := h t (hrely s t ht)
    refine ⟨hOk op t hJ hok, fun r u he => ih r (hk r u he) ?_⟩
    have hu := hstep op t hJ
    rwa [he] at hu

/-- Run alone, a program keeps what its allowed statements keep. -/
theorem Under.run_keeps (hrefl : ∀ s, rely s s) (hstep : ∀ op s, Ok op s → J s → J (exec op s).2)
    {p : Prog Op Res ε α} (h : p.Under exec rely Ok Q s) (hs : J s) : J (p.run exec s).2 := by
  induction p generalizing s with
  | ret a => exact hs
  | throw e => exact hs
  | call op k ih =>
    obtain ⟨hok, hk⟩ := h s (hrefl s)
    have hu := hstep op s hok hs
    rw [run_call]
    rcases he : exec op s with ⟨e | r, u⟩
    · rwa [he] at hu
    · rw [he] at hu
      exact ih r (hk r u he) hu

end Prog

/-! ## Machines -/

/-- What can happen: a process is started, a caller has its turn, the
process dies. -/
inductive Event (ι Boot : Type) where
  | start (b : Boot)
  | turn (i : ι)
  | crash

/-- A running process, and what it was started with. -/
structure Process (ι Op : Type) (Res : Op → Type) (ε α σ Boot : Type) where
  boot : Boot
  threads : Threads ι Op Res ε α σ

/-- The disk, and the process if there is one. -/
structure Machine (ι Op : Type) (Res : Op → Type) (ε α σ δ Boot : Type) where
  disk : δ
  process : Option (Process ι Op Res ε α σ Boot)

/-- How statements are executed, how a process starts from a disk (it may
change it, and it may fail) and what of a memory lasts. -/
structure Platform (ι Op : Type) (Res : Op → Type) (ε α σ δ Boot : Type) where
  exec : (op : Op) → σ → Except ε (Res op) × σ
  boot : Boot → δ → δ × Option (Threads ι Op Res ε α σ)
  save : δ → σ → δ

variable [DecidableEq ι] (P : Platform ι Op Res ε α σ δ Boot)

/-- What an event does. A process that is started replaces the one that
runs. -/
def Machine.perform : Event ι Boot → Machine ι Op Res ε α σ δ Boot →
    Unit × Machine ι Op Res ε α σ δ Boot
  | .start b, m => ((), ⟨(P.boot b m.disk).1, (P.boot b m.disk).2.map fun s => ⟨b, s⟩⟩)
  | .turn i, m =>
    match m.process with
    | none => ((), m)
    | some p => ((), ⟨P.save m.disk (p.threads.turn P.exec i).shared,
        some ⟨p.boot, p.threads.turn P.exec i⟩⟩)
  | .crash, m => ((), ⟨m.disk, none⟩)

abbrev LifeEntry (ι Op : Type) (Res : Op → Type) (ε α σ δ Boot : Type) :=
  Entry (Event ι Boot) Unit (Machine ι Op Res ε α σ δ Boot)

/-- The runs that begin with a disk and no process. -/
abbrev Lives (disk : δ) : List (LifeEntry ι Op Res ε α σ δ Boot) →
    Machine ι Op Res ε α σ δ Boot → Prop :=
  History (Machine.perform P) ⟨disk, none⟩

/-- **A running process** was started, on a disk that was there, and its
callers have taken turns since. -/
theorem Lives.process {P : Platform ι Op Res ε α σ δ Boot} {disk : δ}
    {h : List (LifeEntry ι Op Res ε α σ δ Boot)} {m : Machine ι Op Res ε α σ δ Boot}
    (hm : Lives P disk h m) {p : Process ι Op Res ε α σ Boot} (hp : m.process = some p) :
    ∃ e ∈ h, e.request = .start p.boot ∧ ∃ s l, (P.boot p.boot e.before.disk).2 = some s ∧
      Schedule P.exec s l p.threads := by
  induction hm generalizing p with
  | nil => cases hp
  | @cons h m event hm ih =>
    cases event with
    | start b =>
      obtain ⟨s, hs, rfl⟩ := Option.map_eq_some_iff.mp hp
      exact ⟨_, List.mem_cons_self, rfl, s, [], hs, .nil⟩
    | crash => cases hp
    | turn i =>
      obtain ⟨disk, process⟩ := m
      cases process with
      | none => cases hp
      | some p' =>
        cases hp
        obtain ⟨e, he, hreq, s, l, hs, hrun⟩ := ih (p := p') rfl
        exact ⟨e, List.mem_cons_of_mem _ he, hreq, s, _, hs, hrun.cons i⟩

/-- What has to be shown: starts keep `D`; a process that has started has
`I`, and its programs rely on no more than `rely`, which is what allowed
statements do where `I` holds; these, with what they save, keep `I`, and `D`
is what `I` leaves behind. -/
structure Sound (Starts : Boot → Prop) (D : δ → Prop) (I : Boot → δ → σ → Prop)
    (rely : Boot → σ → σ → Prop) (Ok : Boot → Op → σ → Prop) (Q : Boot → ι → α → σ → Prop) : Prop where
  refl : ∀ b s, rely b s s
  trans : ∀ b s t u, rely b s t → rely b t u → rely b s u
  effect : ∀ b op d s, Ok b op s → I b d s → rely b s (P.exec op s).2
  disk : ∀ b d, Starts b → D d → D (P.boot b d).1
  start : ∀ b d s, Starts b → D d → (P.boot b d).2 = some s →
    I b (P.boot b d).1 s.shared ∧ ∀ i, (s.prog i).Under P.exec (rely b) (Ok b) (Q b i) s.shared
  step : ∀ b op d s, Ok b op s → I b d s → I b (P.save d (P.exec op s).2) (P.exec op s).2
  idle : ∀ b d s, I b d s → I b (P.save d s) s
  rest : ∀ b d s, I b d s → D d

variable {P} {Starts : Boot → Prop} {D : δ → Prop} {I : Boot → δ → σ → Prop}
  {rely : Boot → σ → σ → Prop} {Ok : Boot → Op → σ → Prop} {Q : Boot → ι → α → σ → Prop} {disk : δ}
  {h l : List (LifeEntry ι Op Res ε α σ δ Boot)} {m : Machine ι Op Res ε α σ δ Boot}

/-- What `Sound` makes hold of a machine. -/
structure Machine.Good (P : Platform ι Op Res ε α σ δ Boot) (D : δ → Prop) (I : Boot → δ → σ → Prop)
    (rely : Boot → σ → σ → Prop) (Ok : Boot → Op → σ → Prop) (Q : Boot → ι → α → σ → Prop)
    (m : Machine ι Op Res ε α σ δ Boot) : Prop where
  disk : D m.disk
  memory : ∀ p, m.process = some p → I p.boot m.disk p.threads.shared
  progs : ∀ p, m.process = some p →
    ∀ i, (p.threads.prog i).Under P.exec (rely p.boot) (Ok p.boot) (Q p.boot i) p.threads.shared

/-- A turn of a good process, with what it saves, and what the other
programs see of it. -/
theorem Sound.turn (hP : Sound P Starts D I rely Ok Q) {b : Boot} {d : δ}
    {s : Threads ι Op Res ε α σ} {i : ι} (hI : I b d s.shared)
    (hu : (s.prog i).Under P.exec (rely b) (Ok b) (Q b i) s.shared) :
    I b (P.save d (s.turn P.exec i).shared) (s.turn P.exec i).shared ∧
      rely b s.shared (s.turn P.exec i).shared := by
  cases hp : s.prog i with
  | ret a =>
    rw [Threads.turn_of_ended (o := .ok a) (by rw [hp]; rfl)]
    exact ⟨hP.idle b d s.shared hI, hP.refl b _⟩
  | throw e =>
    rw [Threads.turn_of_ended (o := .error e) (by rw [hp]; rfl)]
    exact ⟨hP.idle b d s.shared hI, hP.refl b _⟩
  | call op k =>
    rw [hp] at hu
    rw [Threads.shared_turn hp]
    have hok := (hu s.shared (hP.refl b _)).1
    exact ⟨hP.step b op d s.shared hok hI, hP.effect b op d s.shared hok hI⟩

/-- **A start makes a machine good**, whatever the process before was. -/
theorem Sound.good_start (hP : Sound P Starts D I rely Ok Q) {b : Boot} (hb : Starts b)
    (hD : D m.disk) : (Machine.perform P (.start b) m).2.Good P D I rely Ok Q := by
  have hstart : ∀ p, (Machine.perform P (.start b) m).2.process = some p →
      p.boot = b ∧ (P.boot b m.disk).2 = some p.threads := by
    intro p hp
    obtain ⟨s, hs, rfl⟩ := Option.map_eq_some_iff.mp hp
    exact ⟨rfl, hs⟩
  refine ⟨hP.disk b m.disk hb hD, fun p hp => ?_, fun p hp => ?_⟩
  · obtain ⟨rfl, hs⟩ := hstart p hp
    exact (hP.start p.boot m.disk p.threads hb hD hs).1
  · obtain ⟨rfl, hs⟩ := hstart p hp
    exact (hP.start p.boot m.disk p.threads hb hD hs).2

/-- **What one event keeps.** -/
theorem Sound.good_perform (hP : Sound P Starts D I rely Ok Q) (e : Event ι Boot)
    (he : ∀ b, e = .start b → Starts b) (hm : m.Good P D I rely Ok Q) :
    (Machine.perform P e m).2.Good P D I rely Ok Q := by
  cases e with
  | start b => exact hP.good_start (he b rfl) hm.disk
  | crash => exact ⟨hm.disk, nofun, nofun⟩
  | turn i =>
    obtain ⟨disk, process⟩ := m
    cases process with
    | none => exact hm
    | some p =>
      obtain ⟨hI, hrely⟩ := hP.turn (hm.memory p rfl) (hm.progs p rfl i)
      refine ⟨hP.rest _ _ _ hI, fun q hq => ?_, fun q hq j => ?_⟩
      · cases hq
        exact hI
      · cases hq
        exact Schedule.under_turn (hP.refl p.boot) (hP.trans p.boot) hrely (hm.progs p rfl j)

/-- **What holds in every run**, however often the process dies. -/
theorem Lives.sound (hP : Sound P Starts D I rely Ok Q) (hD : D disk) (hm : Lives P disk h m)
    (hstarts : ∀ e ∈ h, ∀ b, e.request = .start b → Starts b) : m.Good P D I rely Ok Q := by
  have hinit : Machine.Good P D I rely Ok Q ⟨disk, none⟩ := ⟨hD, nofun, nofun⟩
  exact History.invariant hinit (fun _ e hgood he => hP.good_perform e he hgood) hm hstarts

/-- **What holds from a start on.** -/
theorem Lives.sound_since (hP : Sound P Starts D I rely Ok Q)
    {e : LifeEntry ι Op Res ε α σ δ Boot} {b : Boot} (hm : Lives P disk (l ++ e :: h) m)
    (he : e.request = .start b) (hD : D e.before.disk)
    (hstarts : ∀ e' ∈ l ++ [e], ∀ b, e'.request = .start b → Starts b) : m.Good P D I rely Ok Q := by
  refine hm.since (P := fun m => m.Good P D I rely Ok Q) ?_ fun e' he' hgood => ?_
  · rw [Entry.after, he]
    exact hP.good_start (hstarts e (by simp) b he) hD
  · exact hP.good_perform e'.request (hstarts e' (List.mem_append_left _ he')) hgood

end StayKey.Program
