/-
StayKey.Program.Table — tables with a primary key.

A table is a list of rows whose keys are distinct, so that a row is
determined by its key (`Table.eq_of_key`). `insert?` refuses a key that is
taken, `updateWhere` changes rows in place and cannot touch the key.
Every operation has a membership lemma and a lookup lemma; nothing else
about the row list is used later.
-/
import Mathlib.Data.List.Nodup

namespace StayKey.Program

/-- Rows with distinct keys, in insertion order. -/
structure Table (Row Key : Type) (key : Row → Key) where
  rows : List Row
  nodup : (rows.map key).Nodup

namespace Table

variable {Row Key : Type} {key : Row → Key}

@[ext] theorem ext {t u : Table Row Key key} (h : t.rows = u.rows) : t = u := by
  cases t; cases u; cases h; rfl

instance : Membership Row (Table Row Key key) := ⟨fun t r => r ∈ t.rows⟩

theorem mem_rows {t : Table Row Key key} {r : Row} : r ∈ t.rows ↔ r ∈ t := Iff.rfl

/-- A row is determined by its key. -/
theorem eq_of_key {t : Table Row Key key} {r s : Row} (hr : r ∈ t) (hs : s ∈ t)
    (h : key r = key s) : r = s :=
  List.inj_on_of_nodup_map t.nodup hr hs h

def empty : Table Row Key key := ⟨[], List.nodup_nil⟩

@[simp] theorem notMem_empty (r : Row) : r ∉ (empty : Table Row Key key) := List.not_mem_nil

variable [DecidableEq Key]

/-! ## Lookup -/

/-- The row with this key. -/
def find? (t : Table Row Key key) (k : Key) : Option Row := t.rows.find? fun r => key r = k

@[simp] theorem find?_empty (k : Key) : (empty : Table Row Key key).find? k = none := rfl

/-- A row is found by its own key only. -/
theorem find?_eq_some_iff {t : Table Row Key key} {k : Key} {r : Row} :
    t.find? k = some r ↔ r ∈ t ∧ key r = k := by
  constructor
  · intro h
    exact ⟨List.mem_of_find?_eq_some h, by simpa using List.find?_some h⟩
  · rintro ⟨hr, rfl⟩
    cases hf : t.find? (key r) with
    | none =>
      have := List.find?_eq_none.mp hf r hr
      simp at this
    | some s =>
      have hs : s ∈ t := List.mem_of_find?_eq_some hf
      have hk : key s = key r := by simpa using List.find?_some hf
      rw [eq_of_key hs hr hk]

theorem find?_eq_none_iff {t : Table Row Key key} {k : Key} :
    t.find? k = none ↔ ∀ r ∈ t, key r ≠ k := by
  rw [find?, List.find?_eq_none]
  simp only [decide_eq_true_eq]
  exact Iff.rfl

theorem find?_of_mem {t : Table Row Key key} {r : Row} (h : r ∈ t) : t.find? (key r) = some r :=
  find?_eq_some_iff.mpr ⟨h, rfl⟩

/-! ## Insertion -/

/-- Add a row whose key is new; none if it is taken. -/
def insert? (t : Table Row Key key) (r : Row) : Option (Table Row Key key) :=
  if h : key r ∈ t.rows.map key then none
  else some ⟨t.rows ++ [r], by
    rw [List.map_append, List.nodup_append']
    exact ⟨t.nodup, by simp, by simpa using h⟩⟩

/-- An insertion fails exactly on a key that is taken. -/
theorem insert?_eq_none_iff {t : Table Row Key key} {r : Row} :
    t.insert? r = none ↔ ∃ s ∈ t, key s = key r := by
  unfold insert?
  split
  · rename_i h; simpa [mem_rows] using h
  · rename_i h; simpa [mem_rows] using h

theorem rows_of_insert? {t u : Table Row Key key} {r : Row} (h : t.insert? r = some u) :
    u.rows = t.rows ++ [r] := by
  unfold insert? at h
  split at h
  · cases h
  · cases h; rfl

theorem mem_of_insert? {t u : Table Row Key key} {r s : Row} (h : t.insert? r = some u) :
    s ∈ u ↔ s ∈ t ∨ s = r := by
  rw [← mem_rows, rows_of_insert? h]
  simp [mem_rows]

theorem key_notMem_of_insert? {t u : Table Row Key key} {r : Row} (h : t.insert? r = some u) :
    ∀ s ∈ t, key s ≠ key r := fun s hs hk => by
  rw [insert?_eq_none_iff.mpr ⟨s, hs, hk⟩] at h
  cases h

/-- Lookup after an insertion: the new row is found under its key, and every
other row as before. -/
theorem find?_insert? {t u : Table Row Key key} {r : Row} (h : t.insert? r = some u) (k : Key) :
    u.find? k = if k = key r then some r else t.find? k := by
  rw [find?, rows_of_insert? h, List.find?_append, ← find?]
  by_cases hk : k = key r
  · subst hk
    rw [if_pos rfl, find?_eq_none_iff.mpr (key_notMem_of_insert? h)]
    simp
  · have hne : key r ≠ k := fun he => hk he.symm
    simp [if_neg hk, hne]

/-! ## Update -/

omit [DecidableEq Key] in
theorem map_key_ite {f : Row → Row} (hf : ∀ r, key (f r) = key r) (p : Row → Bool) (l : List Row) :
    (l.map fun r => if p r then f r else r).map key = l.map key := by
  rw [List.map_map]
  refine List.map_congr_left fun r _ => ?_
  simp only [Function.comp_apply]
  split
  · exact hf r
  · rfl

omit [DecidableEq Key] in
/-- `UPDATE … SET … WHERE p`: the key column is not among those set. -/
def updateWhere (t : Table Row Key key) (p : Row → Bool) (f : Row → Row)
    (hf : ∀ r, key (f r) = key r) : Table Row Key key :=
  ⟨t.rows.map fun r => if p r then f r else r, by rw [map_key_ite hf]; exact t.nodup⟩

omit [DecidableEq Key] in
/-- The rows after an update are the rows before it, updated. -/
theorem mem_updateWhere {t : Table Row Key key} {p : Row → Bool} {f : Row → Row}
    {hf : ∀ r, key (f r) = key r} {s : Row} :
    s ∈ t.updateWhere p f hf ↔ ∃ r ∈ t, (if p r then f r else r) = s :=
  List.mem_map

theorem find?_updateWhere {t : Table Row Key key} {p : Row → Bool} {f : Row → Row}
    {hf : ∀ r, key (f r) = key r} (k : Key) :
    (t.updateWhere p f hf).find? k = (t.find? k).map fun r => if p r then f r else r := by
  cases h : t.find? k with
  | none =>
    rw [Option.map_none, find?_eq_none_iff]
    intro s hs
    obtain ⟨r, hr, rfl⟩ := mem_updateWhere.mp hs
    have := find?_eq_none_iff.mp h r hr
    split
    · rwa [hf]
    · exact this
  | some r =>
    obtain ⟨hr, rfl⟩ := find?_eq_some_iff.mp h
    rw [Option.map_some, find?_eq_some_iff]
    refine ⟨mem_updateWhere.mpr ⟨r, hr, rfl⟩, ?_⟩
    split
    · exact hf r
    · rfl

omit [DecidableEq Key] in
/-- An update that matches no row changes nothing. -/
theorem updateWhere_eq_self {t : Table Row Key key} {p : Row → Bool} {f : Row → Row}
    {hf : ∀ r, key (f r) = key r} (h : ∀ r ∈ t, p r = false) : t.updateWhere p f hf = t := by
  refine Table.ext ?_
  rw [updateWhere]
  conv_rhs => rw [← List.map_id t.rows]
  refine List.map_congr_left fun r hr => ?_
  rw [h r hr]
  rfl

omit [DecidableEq Key] in
/-- Updates that never match one row can be made in either order. -/
theorem updateWhere_comm {t : Table Row Key key} {p q : Row → Bool} {f g : Row → Row}
    (hf : ∀ r, key (f r) = key r) (hg : ∀ r, key (g r) = key r) (hpq : ∀ r, p r = true → q r = false)
    (hpf : ∀ r, p r = true → q (f r) = false) (hqg : ∀ r, q r = true → p (g r) = false) :
    (t.updateWhere p f hf).updateWhere q g hg = (t.updateWhere q g hg).updateWhere p f hf := by
  refine Table.ext ?_
  simp only [updateWhere, List.map_map]
  refine List.map_congr_left fun r _ => ?_
  simp only [Function.comp_apply]
  by_cases hp : p r = true
  · simp [hp, hpq r hp, hpf r hp]
  · by_cases hq : q r = true
    · simp [hp, hq, hqg r hq]
    · simp [hp, hq]

end Table

end StayKey.Program
