/-
StayKey.Program.SingleUse — tokens that are good for one use.

Parties `ι` hand out tokens and later accept them back. Each party has the
set of tokens that are pending with it. All that is asked of a step is
`TokenStep.Allowed`: nothing becomes pending but the token a party hands
out, and a party accepts only a token that is pending with it and is not
afterwards. A party may forget pending tokens at any time.

If no token is handed out twice, by one party or by two, then no token is
accepted twice in a run, and each one is accepted by the party that handed
it out.
-/
import Mathlib.Data.Set.Basic
import Mathlib.Data.List.Nodup

namespace StayKey.Program

variable {ι τ : Type}

/-- What a step does with tokens. -/
inductive TokenStep (ι τ : Type) where
  | issue (i : ι) (t : τ)
  | accept (i : ι) (t : τ)
  | other

namespace TokenStep

def issued? : TokenStep ι τ → Option τ
  | issue _ t => some t
  | accept _ _ | other => none

def accepted? : TokenStep ι τ → Option τ
  | accept _ t => some t
  | issue _ _ | other => none

/-- What the step may make of the pending tokens. -/
structure Allowed (a : TokenStep ι τ) (p p' : ι → Set τ) : Prop where
  pending : ∀ i t, t ∈ p' i → t ∈ p i ∨ a = issue i t
  accepted : ∀ i t, a = accept i t → t ∈ p i ∧ t ∉ p' i

/-- Forgetting pending tokens is always allowed. -/
theorem allowed_forget {p p' : ι → Set τ} (h : ∀ i, p' i ⊆ p i) :
    Allowed (other : TokenStep ι τ) p p' :=
  ⟨fun i _ ht => .inl (h i ht), nofun⟩

end TokenStep

open TokenStep

/-- The runs in which every step is allowed, newest step first, each with
the tokens pending at its end. -/
inductive SingleUse : List (TokenStep ι τ) → (ι → Set τ) → Prop
  | nil : SingleUse [] fun _ => ∅
  | cons {h : List (TokenStep ι τ)} {p p' : ι → Set τ} (a : TokenStep ι τ) (hs : SingleUse h p)
      (ha : a.Allowed p p') : SingleUse (a :: h) p'

namespace SingleUse

variable {h l : List (TokenStep ι τ)} {p : ι → Set τ} {i j : ι} {t : τ}

/-- What is pending with a party was handed out by it. -/
theorem issued_of_pending (hs : SingleUse h p) (ht : t ∈ p i) : .issue i t ∈ h := by
  induction hs with
  | nil => exact ht.elim
  | cons a _ ha ih =>
    rcases ha.pending i t ht with ht | rfl
    · exact List.mem_cons_of_mem _ (ih ht)
    · exact List.mem_cons_self

/-- What a party accepts was handed out by it before. -/
theorem issued_before (hs : SingleUse (l ++ .accept i t :: h) p) : .issue i t ∈ h := by
  induction l generalizing p with
  | nil =>
    cases hs with
    | cons _ hs ha => exact hs.issued_of_pending (ha.accepted i t rfl).1
  | cons _ l ih =>
    cases hs with
    | cons _ hs ha => exact ih hs

theorem issued_of_accepted (hs : SingleUse h p) (ht : t ∈ h.filterMap accepted?) :
    t ∈ h.filterMap issued? := by
  obtain ⟨a, ha, hat⟩ := List.mem_filterMap.mp ht
  cases a with
  | accept i t' =>
    obtain rfl : t' = t := Option.some.inj hat
    obtain ⟨l, h', rfl⟩ := List.append_of_mem ha
    exact List.mem_filterMap.mpr ⟨_, List.mem_append_right _ (.tail _ hs.issued_before), rfl⟩
  | issue | other => cases hat

/-- No token is handed out by two parties. -/
theorem issuer_unique (hnodup : (h.filterMap issued?).Nodup) (hi : .issue i t ∈ h)
    (hj : .issue j t ∈ h) : i = j := by
  induction h with
  | nil => cases hi
  | cons a h ih =>
    have hfresh {k : ι} (hk : .issue k t ∈ h) (ha : a.issued? = some t) : False := by
      rw [List.filterMap_cons_some ha] at hnodup
      exact (List.nodup_cons.mp hnodup).1 (List.mem_filterMap.mpr ⟨_, hk, rfl⟩)
    rcases List.mem_cons.mp hi with rfl | hih
    · rcases List.mem_cons.mp hj with hj | hjh
      · cases hj; rfl
      · exact (hfresh hjh rfl).elim
    · rcases List.mem_cons.mp hj with rfl | hjh
      · exact (hfresh hih rfl).elim
      · exact ih (hnodup.sublist ((List.sublist_cons_self a h).filterMap _)) hih hjh

/-- What is pending has not been accepted by any party. -/
theorem notAccepted_of_pending (hs : SingleUse h p) (hnodup : (h.filterMap issued?).Nodup)
    (ht : t ∈ p i) : t ∉ h.filterMap accepted? := by
  induction hs with
  | nil => exact ht.elim
  | @cons h p p' a hs ha ih =>
    have ih := ih (hnodup.sublist ((List.sublist_cons_self a h).filterMap _))
    rcases ha.pending i t ht with hp | rfl
    · cases a with
      | issue | other => exact ih hp
      | accept j t' =>
        obtain ⟨hj, hj'⟩ := ha.accepted j t' rfl
        intro hmem
        rcases List.mem_cons.mp hmem with rfl | hmem
        -- the same token was handed out by both parties, so they are one
        · obtain rfl := issuer_unique (h := h) hnodup
            (hs.issued_of_pending hp) (hs.issued_of_pending hj)
          exact hj' ht
        · exact ih hp hmem
    · intro hmem
      exact (List.nodup_cons.mp hnodup).1 (hs.issued_of_accepted hmem)

/-- **No token is accepted twice.** -/
theorem accepted_nodup (hs : SingleUse h p) (hnodup : (h.filterMap issued?).Nodup) :
    (h.filterMap accepted?).Nodup := by
  induction hs with
  | nil => exact List.nodup_nil
  | @cons h p p' a hs ha ih =>
    have ih := ih (hnodup.sublist ((List.sublist_cons_self a h).filterMap _))
    cases a with
    | issue | other => exact ih
    | accept i t =>
      exact List.nodup_cons.mpr ⟨hs.notAccepted_of_pending hnodup (ha.accepted i t rfl).1, ih⟩

end SingleUse

end StayKey.Program
