/-
StayKey.Program.History — runs of a system that answers one request at a
time.

`perform` handles a request in a state: it gives an answer and the next
state. A history is the list of what was handled so far, newest entry
first, each entry with the state it was handled in. Three rules are used
on histories: an invariant of all steps holds at the end
(`History.invariant`); what an entry establishes and all later entries
keep, holds at the end (`History.since`); and every entry was handled in a
state that has a history of its own (`History.of_append`). `Visits` are
the states in between.
-/
import Mathlib.Data.List.Induction

namespace StayKey.Program

/-- A request that was handled: the state before it, and the answer. -/
structure Entry (Request Answer σ : Type) where
  before : σ
  request : Request
  answer : Answer

variable {Request Answer σ : Type} (perform : Request → σ → Answer × σ) (s₀ : σ)

/-- Handle one request. -/
def Entry.of (r : Request) (s : σ) : Entry Request Answer σ := ⟨s, r, (perform r s).1⟩

/-- The state after the entry. -/
def Entry.after (e : Entry Request Answer σ) : σ := (perform e.request e.before).2

/-- The runs from `s₀`, each with its last state. -/
inductive History : List (Entry Request Answer σ) → σ → Prop
  | nil : History [] s₀
  | cons {h : List (Entry Request Answer σ)} {s : σ} (r : Request) (hs : History h s) :
      History (Entry.of perform r s :: h) (perform r s).2

/-- Handle a list of requests, the first one first. -/
def runAll (rs : List Request) : List (Entry Request Answer σ) × σ :=
  rs.foldl (fun hs r => (Entry.of perform r hs.2 :: hs.1, (perform r hs.2).2)) ([], s₀)

/-- The last request of a list is handled after the others. -/
theorem runAll_append_singleton (rs : List Request) (r : Request) :
    runAll perform s₀ (rs ++ [r]) =
      (Entry.of perform r (runAll perform s₀ rs).2 :: (runAll perform s₀ rs).1,
        (perform r (runAll perform s₀ rs).2).2) := by
  rw [runAll, List.foldl_append, List.foldl_cons, List.foldl_nil, runAll]

/-- The history of a list of requests, newest first. -/
theorem map_request_runAll (rs : List Request) :
    (runAll perform s₀ rs).1.map Entry.request = rs.reverse := by
  induction rs using List.reverseRecOn with
  | nil => rfl
  | append_singleton rs r ih =>
    rw [runAll_append_singleton, List.map_cons, ih, List.reverse_append]
    rfl

namespace History

/-- Handling a list of requests is a history. -/
theorem of_runAll (rs : List Request) :
    History perform s₀ (runAll perform s₀ rs).1 (runAll perform s₀ rs).2 := by
  induction rs using List.reverseRecOn with
  | nil => exact .nil
  | append_singleton rs r ih =>
    rw [runAll_append_singleton]
    exact ih.cons r

variable {perform s₀} {h l : List (Entry Request Answer σ)} {e : Entry Request Answer σ} {s : σ}

/-- The entries of a list of requests are entries of these requests. -/
theorem request_mem {rs : List Request} (he : e ∈ (runAll perform s₀ rs).1) : e.request ∈ rs := by
  induction rs using List.reverseRecOn with
  | nil => cases he
  | append_singleton rs r ih =>
    rw [runAll_append_singleton] at he
    rcases List.mem_cons.mp he with rfl | he
    · exact List.mem_append_right rs List.mem_cons_self
    · exact List.mem_append_left [r] (ih he)

/-- **Invariant rule**, for runs all of whose entries satisfy `Ok`. -/
theorem invariant {I : σ → Prop} {Ok : σ → Request → Prop} (hinit : I s₀)
    (hstep : ∀ s r, I s → Ok s r → I (perform r s).2) (hs : History perform s₀ h s)
    (hok : ∀ e ∈ h, Ok e.before e.request) : I s := by
  induction hs with
  | nil => exact hinit
  | cons r _ ih =>
    exact hstep _ r (ih fun e he => hok e (List.mem_cons_of_mem _ he)) (hok _ List.mem_cons_self)

/-- A run that goes on. -/
theorem append {h' : List (Entry Request Answer σ)} {t : σ} (hs : History perform s₀ h s)
    (ht : History perform s h' t) : History perform s₀ (h' ++ h) t := by
  induction ht with
  | nil => exact hs
  | cons r _ ih => exact ih.cons r

/-- An entry of a history was handled in a state with a history, and its
answer is the one given there. -/
theorem of_append (hs : History perform s₀ (l ++ e :: h) s) :
    History perform s₀ h e.before ∧ e.answer = (perform e.request e.before).1 := by
  induction l generalizing s with
  | nil =>
    cases hs with
    | cons r hs => exact ⟨hs, rfl⟩
  | cons _ l ih =>
    cases hs with
    | cons r hs => exact ih hs

theorem of_mem (hs : History perform s₀ h s) (he : e ∈ h) :
    ∃ h', History perform s₀ h' e.before ∧ e.answer = (perform e.request e.before).1 := by
  obtain ⟨l, h', rfl⟩ := List.append_of_mem he
  exact ⟨h', hs.of_append⟩

/-- **What an entry establishes and the later ones keep**, holds at the end. -/
theorem since {P : σ → Prop} (hs : History perform s₀ (l ++ e :: h) s)
    (hest : P (e.after perform)) (hkeep : ∀ e' ∈ l, P e'.before → P (e'.after perform)) : P s := by
  induction l generalizing s with
  | nil =>
    cases hs with
    | cons r hs => exact hest
  | cons e' l ih =>
    cases hs with
    | cons r hs =>
      exact hkeep _ List.mem_cons_self (ih hs fun e'' he => hkeep e'' (List.mem_cons_of_mem _ he))

/-- What holds before an entry and what it and the later ones keep, holds
before each of them and at the end. -/
theorem since_before_each {P : σ → Prop} (hs : History perform s₀ (l ++ e :: h) s) (hest : P e.before)
    (hkeep : ∀ f ∈ l ++ [e], P f.before → P (f.after perform)) :
    P s ∧ ∀ f ∈ l ++ [e], P f.before := by
  induction l generalizing s with
  | nil =>
    cases hs with
    | cons r hs =>
      refine ⟨hkeep _ List.mem_cons_self hest, fun f hf => ?_⟩
      obtain rfl := List.mem_singleton.mp hf
      exact hest
  | cons e' l ih =>
    cases hs with
    | cons r hs =>
      obtain ⟨hlast, hall⟩ := ih hs fun f hf => hkeep f (List.mem_cons_of_mem _ hf)
      refine ⟨hkeep _ List.mem_cons_self hlast, fun f hf => ?_⟩
      rcases List.mem_cons.mp hf with rfl | hf
      · exact hlast
      · exact hall f hf

/-- What holds of every entry and the entries before it, entry by entry. -/
theorem splits_cons {P : Entry Request Answer σ → List (Entry Request Answer σ) → Prop} :
    (∀ l' e' h', e :: h = l' ++ e' :: h' → P e' h') ↔
      P e h ∧ ∀ l' e' h', h = l' ++ e' :: h' → P e' h' := by
  constructor
  · intro hall
    refine ⟨hall [] e h rfl, fun l' e' h' he => hall (e :: l') e' h' (by rw [he]; rfl)⟩
  · intro ⟨hhead, htail⟩ l' e' h' he
    cases l' with
    | nil =>
      obtain ⟨rfl, rfl⟩ := List.cons.inj he
      exact hhead
    | cons x l' => exact htail l' e' h' (List.cons.inj he).2

/-- The states a run passes through, its last one included. -/
def Visits (h : List (Entry Request Answer σ)) (s t : σ) : Prop := t = s ∨ ∃ e ∈ h, t = e.before

/-- The entries stay when more requests are handled. -/
theorem mem_runAll_append {rs : List Request} (rs' : List Request) (he : e ∈ (runAll perform s₀ rs).1) :
    e ∈ (runAll perform s₀ (rs ++ rs')).1 := by
  induction rs' using List.reverseRecOn with
  | nil => rwa [List.append_nil]
  | append_singleton rs' r ih =>
    rw [← List.append_assoc, runAll_append_singleton]
    exact List.mem_cons_of_mem _ ih

/-- A run passes through the last state of its beginning. -/
theorem visits_runAll (rs rs' : List Request) :
    Visits (runAll perform s₀ (rs ++ rs')).1 (runAll perform s₀ (rs ++ rs')).2 (runAll perform s₀ rs).2 := by
  cases rs' with
  | nil =>
    rw [List.append_nil]
    exact .inl rfl
  | cons r rs' =>
    have hfirst : Entry.of perform r (runAll perform s₀ rs).2 ∈ (runAll perform s₀ (rs ++ [r])).1 := by
      rw [runAll_append_singleton]
      exact List.mem_cons_self
    rw [List.append_cons]
    exact .inr ⟨_, mem_runAll_append rs' hfirst, rfl⟩

/-- A run passes through the state it begins with. -/
theorem visits_start (hs : History perform s₀ h s) : Visits h s s₀ := by
  induction hs with
  | nil => exact .inl rfl
  | @cons h s r _ ih =>
    rcases ih with rfl | ⟨e, he, rfl⟩
    · exact .inr ⟨_, List.mem_cons_self, rfl⟩
    · exact .inr ⟨e, List.mem_cons_of_mem _ he, rfl⟩

/-- A visited state has a history of its own. -/
theorem of_visits {t : σ} (hs : History perform s₀ h s) (hv : Visits h s t) :
    ∃ h', History perform s₀ h' t := by
  rcases hv with rfl | ⟨e, he, rfl⟩
  · exact ⟨h, hs⟩
  · obtain ⟨h', hs', -⟩ := hs.of_mem he
    exact ⟨h', hs'⟩

/-- What a visited state has and every entry of the run keeps, the last one
has. -/
theorem since_visits_entries {P : σ → Prop} {t : σ} (hs : History perform s₀ h s) (hv : Visits h s t)
    (ht : P t) (hkeep : ∀ e ∈ h, P e.before → P (e.after perform)) : P s := by
  rcases hv with rfl | ⟨e, he, rfl⟩
  · exact ht
  · obtain ⟨l, h', rfl⟩ := List.append_of_mem he
    exact hs.since (hkeep e he ht) fun e' he' => hkeep e' (List.mem_append_left _ he')

/-- What a visited state has and every request keeps, the last one has. -/
theorem since_visits {P : σ → Prop} {t : σ} (hs : History perform s₀ h s) (hv : Visits h s t)
    (ht : P t) (hkeep : ∀ s r, P s → P (perform r s).2) : P s :=
  hs.since_visits_entries hv ht fun e _ => hkeep e.before e.request

/-- The same for what holds after an entry. -/
theorem since_after {P : σ → Prop} (hs : History perform s₀ h s) (he : e ∈ h)
    (hest : P (e.after perform)) (hkeep : ∀ s r, P s → P (perform r s).2) : P s := by
  obtain ⟨l, h', rfl⟩ := List.append_of_mem he
  exact hs.since hest fun e' _ => hkeep e'.before e'.request

end History

end StayKey.Program
