/-
StayKey.Codec.Dict — Python dictionaries as association lists.

An entry list with distinct keys is what a `dict` holds, in insertion
order. The list operations (`dictSet`, `dictGet?`, `dictPop`) are stated
on plain lists, because a JSON value nests them; `Dict` is the list
together with the fact that its keys are distinct, so that a lookup never
depends on where an entry stands. Each operation has one lemma that says
what a later lookup returns.
-/
import Mathlib.Data.List.Basic
import Mathlib.Data.List.Nodup
import Mathlib.Data.List.Perm.Basic

namespace StayKey.Codec

variable {K V : Type} [DecidableEq K]

/-! ## Entry lists -/

/-- `d[k] = v`: a present key keeps its place. -/
def dictSet : List (K × V) → K → V → List (K × V)
  | [], k, v => [(k, v)]
  | p :: r, k, v => if p.1 = k then (k, v) :: r else p :: dictSet r k v

/-- `d.get(k)`. -/
def dictGet? (d : List (K × V)) (k : K) : Option V := d.lookup k

/-- Fill a dictionary in order. -/
def dictOf (l : List (K × V)) : List (K × V) := l.foldl (fun d p => dictSet d p.1 p.2) []

theorem dictGet_cons (p : K × V) (r : List (K × V)) (k : K) :
    dictGet? (p :: r) k = if k = p.1 then some p.2 else dictGet? r k := by
  obtain ⟨a, b⟩ := p
  by_cases h : k = a
  · rw [if_pos h, h]
    exact List.lookup_cons_self
  · have hb : (k == a) = false := beq_eq_false_iff_ne.mpr h
    rw [if_neg h]
    simp only [dictGet?, List.lookup_cons, hb]

theorem dictSet_of_notMem {d : List (K × V)} {k : K} (h : k ∉ d.map Prod.fst) (v : V) :
    dictSet d k v = d ++ [(k, v)] := by
  induction d with
  | nil => rfl
  | cons p r ih =>
    simp only [List.map_cons, List.mem_cons, not_or] at h
    rw [dictSet, if_neg (Ne.symm h.1), ih h.2, List.cons_append]

theorem foldl_dictSet {l : List (K × V)} : ∀ {d : List (K × V)},
    ((d ++ l).map Prod.fst).Nodup → l.foldl (fun d p => dictSet d p.1 p.2) d = d ++ l := by
  induction l with
  | nil => intro d _; simp
  | cons p l ih =>
    intro d h
    have hp : p.1 ∉ d.map Prod.fst := by
      rw [List.map_append, List.map_cons] at h
      exact fun hd => List.disjoint_of_nodup_append h hd List.mem_cons_self
    rw [List.foldl_cons, dictSet_of_notMem hp, ih (by simpa using h)]
    simp

/-- Distinct keys: the dictionary is the list itself. -/
theorem dictOf_of_nodup {l : List (K × V)} (h : (l.map Prod.fst).Nodup) : dictOf l = l := by
  simpa [dictOf] using foldl_dictSet (d := []) (by simpa using h)

theorem dictGet_eq_some_iff {d : List (K × V)} (h : (d.map Prod.fst).Nodup) {k : K} {v : V} :
    dictGet? d k = some v ↔ (k, v) ∈ d := by
  induction d with
  | nil => simp [dictGet?]
  | cons p r ih =>
    obtain ⟨k', v'⟩ := p
    simp only [List.map_cons, List.nodup_cons] at h
    rw [dictGet_cons, List.mem_cons, Prod.mk.injEq, ← ih h.2]
    by_cases hk : k = k'
    · subst hk
      have hr : dictGet? r k ≠ some v := fun hm =>
        h.1 (List.mem_map.mpr ⟨_, (ih h.2).mp hm, rfl⟩)
      simp [hr, eq_comm]
    · simp [hk]

/-- Looking up does not depend on the order of the entries. -/
theorem dictGet_perm {d d' : List (K × V)} (hp : d.Perm d') (h : (d.map Prod.fst).Nodup) (k : K) :
    dictGet? d k = dictGet? d' k := by
  have h' : (d'.map Prod.fst).Nodup := (hp.map Prod.fst).nodup_iff.mp h
  ext v
  rw [dictGet_eq_some_iff h, dictGet_eq_some_iff h', hp.mem_iff]

theorem dictGet_dictSet (d : List (K × V)) (k k' : K) (v : V) :
    dictGet? (dictSet d k v) k' = if k' = k then some v else dictGet? d k' := by
  induction d with
  | nil => rw [dictSet, dictGet_cons]
  | cons p r ih =>
    rw [dictSet]
    split
    · rename_i hp
      rw [dictGet_cons, dictGet_cons, hp]
      split <;> rfl
    · rename_i hp
      rw [dictGet_cons, ih, dictGet_cons]
      split
      · rename_i hk; rw [if_neg (by rw [hk]; exact hp)]
      · rfl

theorem mem_keys_dictSet (d : List (K × V)) (k : K) (v : V) {x : K}
    (h : x ∈ (dictSet d k v).map Prod.fst) : x = k ∨ x ∈ d.map Prod.fst := by
  induction d with
  | nil => simpa [dictSet] using h
  | cons p r ih =>
    rw [dictSet] at h
    split at h
    · rw [List.map_cons, List.mem_cons] at h
      exact h.imp_right fun hx => List.mem_cons_of_mem _ hx
    · rw [List.map_cons, List.mem_cons] at h
      rcases h with h | h
      · exact Or.inr (h ▸ List.mem_cons_self)
      · exact (ih h).imp_right fun hx => List.mem_cons_of_mem _ hx

theorem nodup_dictSet {d : List (K × V)} (h : (d.map Prod.fst).Nodup) (k : K) (v : V) :
    ((dictSet d k v).map Prod.fst).Nodup := by
  induction d with
  | nil => simp [dictSet]
  | cons p r ih =>
    simp only [List.map_cons, List.nodup_cons] at h
    rw [dictSet]
    split
    · rename_i hp
      simpa [← hp] using h
    · rename_i hp
      rw [List.map_cons, List.nodup_cons]
      refine ⟨fun hm => ?_, ih h.2⟩
      rcases mem_keys_dictSet r k v hm with hk | hr
      · exact hp hk
      · exact h.1 hr

/-- Storing what is there already changes nothing. -/
theorem dictSet_same {d : List (K × V)} {k : K} {v : V} (h : dictGet? d k = some v) :
    dictSet d k v = d := by
  induction d with
  | nil => cases h
  | cons p r ih =>
    obtain ⟨k', v'⟩ := p
    rw [dictGet_cons] at h
    rw [dictSet]
    by_cases hk : k = k'
    · rw [if_pos hk] at h
      cases h
      rw [if_pos hk.symm, hk]
    · rw [if_neg hk] at h
      rw [if_neg (Ne.symm hk), ih h]

/-! ## Dictionaries -/

/-- A `dict`: entries in insertion order, with distinct keys. -/
structure Dict (K V : Type) where
  entries : List (K × V)
  nodup : (entries.map Prod.fst).Nodup

namespace Dict

def empty : Dict K V := ⟨[], List.nodup_nil⟩

/-- `d.get(k)`. -/
def get? (d : Dict K V) (k : K) : Option V := dictGet? d.entries k

/-- `d[k] = v`. -/
def set (d : Dict K V) (k : K) (v : V) : Dict K V :=
  ⟨dictSet d.entries k v, nodup_dictSet d.nodup k v⟩

/-- Keep the entries a predicate holds of. -/
def filter (d : Dict K V) (p : K → V → Bool) : Dict K V :=
  ⟨d.entries.filter fun e => p e.1 e.2,
    d.nodup.sublist ((List.filter_sublist).map Prod.fst)⟩

/-- `d.pop(k, None)`. -/
def pop (d : Dict K V) (k : K) : Dict K V := d.filter fun k' _ => k' ≠ k

@[simp] theorem get?_empty (k : K) : (empty : Dict K V).get? k = none := rfl

theorem get?_set (d : Dict K V) (k k' : K) (v : V) :
    (d.set k v).get? k' = if k' = k then some v else d.get? k' :=
  dictGet_dictSet d.entries k k' v

@[simp] theorem get?_set_self (d : Dict K V) (k : K) (v : V) : (d.set k v).get? k = some v := by
  rw [get?_set, if_pos rfl]

theorem set_same {d : Dict K V} {k : K} {v : V} (h : d.get? k = some v) : d.set k v = d := by
  obtain ⟨entries, nodup⟩ := d
  simp only [set, dictSet_same h]

theorem get?_eq_some_iff (d : Dict K V) {k : K} {v : V} : d.get? k = some v ↔ (k, v) ∈ d.entries :=
  dictGet_eq_some_iff d.nodup

theorem get?_filter (d : Dict K V) (p : K → V → Bool) (k : K) :
    (d.filter p).get? k = (d.get? k).filter (p k) := by
  ext v
  rw [get?_eq_some_iff, Option.filter_eq_some_iff, get?_eq_some_iff, filter, List.mem_filter]

theorem get?_pop (d : Dict K V) (k k' : K) :
    (d.pop k).get? k' = if k' = k then none else d.get? k' := by
  rw [pop, get?_filter]
  split
  · rename_i h; cases d.get? k' <;> simp [h]
  · rename_i h; cases d.get? k' <;> simp [h]

end Dict

end StayKey.Codec
