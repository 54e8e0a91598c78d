/-
StayKey.Program.Refinement — runs seen from a more abstract level.

An abstract system (`Spec`) has a first state and labelled steps. A system
that answers requests (`Program.History`) refines it when every answer it
gives, seen through `abs`, is a step of the abstract system (`Refines`).
What has to be shown is about one request, under an invariant; then every
run is seen as a run (`Refines.run`), and what is invariant in the abstract
system holds of what is seen of every state (`Refines.transfer`).
-/
import StayKey.Program.History

namespace StayKey.Program

/-- A labelled transition system. -/
structure Spec (Label τ : Type) where
  init : τ
  Step : Label → τ → τ → Prop

namespace Spec

variable {Label τ : Type} {spec : Spec Label τ} {ls : List Label} {a b : τ}

/-- The runs with their last states, newest label first. -/
inductive Run (spec : Spec Label τ) : List Label → τ → Prop
  | nil : Run spec [] spec.init
  | cons {ls : List Label} {a b : τ} (l : Label) (hs : Run spec ls a) (hstep : spec.Step l a b) :
      Run spec (l :: ls) b

/-- **Invariant rule.** -/
theorem Run.invariant {I : τ → Prop} (hs : spec.Run ls a) (hinit : I spec.init)
    (hstep : ∀ l a b, I a → spec.Step l a b → I b) : I a := by
  induction hs with
  | nil => exact hinit
  | cons l _ hl ih => exact hstep l _ _ ih hl

end Spec

variable {Request Answer σ τ : Type}

/-- What an observer sees of an entry. -/
def Entry.label (e : Entry Request Answer σ) : Request × Answer := (e.request, e.answer)

/-- The requirement of one step: seen through `abs`, an answer is a step. -/
structure Refines (perform : Request → σ → Answer × σ) (s₀ : σ) (spec : Spec (Request × Answer) τ)
    (Inv : σ → Prop) (abs : σ → τ) : Prop where
  invInit : Inv s₀
  invStep : ∀ s r, Inv s → Inv (perform r s).2
  init : abs s₀ = spec.init
  step : ∀ s r, Inv s → spec.Step (r, (perform r s).1) (abs s) (abs (perform r s).2)

namespace Refines

variable {perform : Request → σ → Answer × σ} {s₀ s : σ} {spec : Spec (Request × Answer) τ}
  {Inv : σ → Prop} {abs : σ → τ} {h : List (Entry Request Answer σ)}

/-- **Every run is seen as a run of the abstract system.** -/
theorem run (href : Refines perform s₀ spec Inv abs) (hs : History perform s₀ h s) :
    Inv s ∧ spec.Run (h.map Entry.label) (abs s) := by
  induction hs with
  | nil =>
    rw [href.init]
    exact ⟨href.invInit, .nil⟩
  | @cons h s r _ ih =>
    obtain ⟨hinv, hrun⟩ := ih
    exact ⟨href.invStep s r hinv, hrun.cons (r, (perform r s).1) (href.step s r hinv)⟩

/-- What is invariant in the abstract system holds of what is seen. -/
theorem transfer (href : Refines perform s₀ spec Inv abs) (hs : History perform s₀ h s)
    {I : τ → Prop} (hinit : I spec.init) (hstep : ∀ l a b, I a → spec.Step l a b → I b) : I (abs s) :=
  (href.run hs).2.invariant hinit hstep

end Refines

end StayKey.Program
