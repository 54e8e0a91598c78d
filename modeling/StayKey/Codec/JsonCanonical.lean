/-
StayKey.Codec.JsonCanonical — `dumps` with sorted keys is a canonical form.

`SameJson` is equality of values up to the order in which dictionaries were
filled, at every depth. What `dumps` writes depends on nothing more
(`SameJson.dumps_ok`): a field list is written field by field, and sorting
by distinct keys forgets the order. On plain values it depends on nothing
less either (`sameJson_of_dumps`), because the reader gives the value with
its keys sorted back, and that determines the value up to the order
(`sameJson_of_sortKeys`).
-/
import StayKey.Codec.JsonTheorems
import Mathlib.Data.List.Perm.Basic

namespace StayKey.Codec

/-! ## Sorting by distinct keys -/

theorem keyLe_total (s t : PyStr) : keyLe s t = true ∨ keyLe t s = true := by
  induction s generalizing t with
  | nil => exact .inl rfl
  | cons a r ih =>
    cases t with
    | nil => exact .inr rfl
    | cons b u =>
      by_cases hab : a = b
      · subst hab
        simpa [keyLe] using ih u
      · simp only [keyLe, if_neg hab, if_neg (Ne.symm hab), decide_eq_true_eq]
        omega

theorem keyLe_trans {s t u : PyStr} (hst : keyLe s t = true) (htu : keyLe t u = true) :
    keyLe s u = true := by
  induction s generalizing t u with
  | nil => rfl
  | cons a r ih =>
    cases t with
    | nil => cases hst
    | cons b t =>
      cases u with
      | nil => cases htu
      | cons c u =>
        simp only [keyLe] at hst htu ⊢
        by_cases hac : a = c
        · subst hac
          by_cases hab : a = b
          · subst hab
            rw [if_pos rfl] at hst htu ⊢
            exact ih hst htu
          · rw [if_neg hab, decide_eq_true_eq] at hst
            rw [if_neg (Ne.symm hab), decide_eq_true_eq] at htu
            omega
        · rw [if_neg hac, decide_eq_true_eq]
          by_cases hab : a = b
          · subst hab
            rwa [if_neg hac, decide_eq_true_eq] at htu
          · rw [if_neg hab, decide_eq_true_eq] at hst
            by_cases hbc : b = c
            · exact hbc ▸ hst
            · rw [if_neg hbc, decide_eq_true_eq] at htu
              omega

theorem keyLe_antisymm {s t : PyStr} (hst : keyLe s t = true) (hts : keyLe t s = true) : s = t := by
  induction s generalizing t with
  | nil =>
    cases t with
    | nil => rfl
    | cons b u => cases hts
  | cons a r ih =>
    cases t with
    | nil => cases hst
    | cons b u =>
      simp only [keyLe] at hst hts
      by_cases hab : a = b
      · subst hab
        rw [if_pos rfl] at hst hts
        rw [ih hst hts]
      · rw [if_neg hab, decide_eq_true_eq] at hst
        rw [if_neg (Ne.symm hab), decide_eq_true_eq] at hts
        omega

theorem sortByKey_pairwise {α : Type} (l : List (PyStr × α)) :
    (sortByKey l).Pairwise fun p q => keyLe p.1 q.1 = true := by
  have htotal : Std.Total fun p q : PyStr × α => keyLe p.1 q.1 = true :=
    ⟨fun p q => keyLe_total p.1 q.1⟩
  have htrans : IsTrans (PyStr × α) fun p q => keyLe p.1 q.1 = true :=
    ⟨fun _ _ _ => keyLe_trans⟩
  exact List.pairwise_insertionSort _ l

/-- The order of entries with distinct keys does not survive sorting. -/
theorem sortByKey_eq_of_perm {α : Type} {l m : List (PyStr × α)} (hp : l.Perm m)
    (hnd : (m.map Prod.fst).Nodup) : sortByKey l = sortByKey m := by
  have hperm : (sortByKey l).Perm (sortByKey m) :=
    ((sortByKey_perm l).trans hp).trans (sortByKey_perm m).symm
  refine hperm.eq_of_pairwise ?_ (sortByKey_pairwise l) (sortByKey_pairwise m)
  intro p q hpl hqm hpq hqp
  have hpm : p ∈ m := hp.mem_iff.mp ((sortByKey_perm l).mem_iff.mp hpl)
  exact List.inj_on_of_nodup_map hnd hpm ((sortByKey_perm m).mem_iff.mp hqm) (keyLe_antisymm hpq hqp)

/-! ## Values up to the order of their dictionaries -/

mutual

/-- Equal but for the order in which the dictionaries were filled. -/
inductive SameJson : Json → Json → Prop
  | null : SameJson .null .null
  | bool (b : Bool) : SameJson (.bool b) (.bool b)
  | int (n : Int) : SameJson (.int n) (.int n)
  | float (x : PyFloat) : SameJson (.float x) (.float x)
  | str (s : PyStr) : SameJson (.str s) (.str s)
  | arr {l m : List Json} (h : SameItems l m) : SameJson (.arr l) (.arr m)
  | obj {l m' m : JsonDict} (h : SameFields l m') (hp : m'.Perm m) : SameJson (.obj l) (.obj m)

inductive SameItems : List Json → List Json → Prop
  | nil : SameItems [] []
  | cons {j j' : Json} {l m : List Json} (h : SameJson j j') (ht : SameItems l m) :
    SameItems (j :: l) (j' :: m)

inductive SameFields : JsonDict → JsonDict → Prop
  | nil : SameFields [] []
  | cons (k : PyStr) {j j' : Json} {l m : JsonDict} (h : SameJson j j') (ht : SameFields l m) :
    SameFields ((k, j) :: l) ((k, j') :: m)

end

mutual

/-- Every dictionary in the value has distinct keys, as a `dict` does. -/
def DistinctKeys : Json → Prop
  | .arr l => DistinctKeysItems l
  | .obj l => DistinctKeysFields l ∧ (l.map Prod.fst).Nodup
  | _ => True

def DistinctKeysItems : List Json → Prop
  | [] => True
  | j :: r => DistinctKeys j ∧ DistinctKeysItems r

def DistinctKeysFields : JsonDict → Prop
  | [] => True
  | p :: r => DistinctKeys p.2 ∧ DistinctKeysFields r

end

mutual

theorem distinctKeys_of_plain : ∀ {j : Json}, Plain j → DistinctKeys j
  | .null, _ => trivial
  | .bool _, _ => trivial
  | .int _, _ => trivial
  | .float _, _ => trivial
  | .str _, _ => trivial
  | .arr _, h => by
    rw [Plain] at h
    rw [DistinctKeys]
    exact distinctKeysItems_of_plain h
  | .obj _, h => by
    rw [Plain] at h
    rw [DistinctKeys]
    exact ⟨distinctKeysFields_of_plain h.1, h.2⟩

theorem distinctKeysItems_of_plain : ∀ {l : List Json}, PlainItems l → DistinctKeysItems l
  | [], _ => trivial
  | _ :: _, h => by
    rw [PlainItems] at h
    exact ⟨distinctKeys_of_plain h.1, distinctKeysItems_of_plain h.2⟩

theorem distinctKeysFields_of_plain : ∀ {l : JsonDict}, PlainFields l → DistinctKeysFields l
  | [], _ => trivial
  | _ :: _, h => by
    rw [PlainFields] at h
    exact ⟨distinctKeys_of_plain h.2.1, distinctKeysFields_of_plain h.2.2⟩

end

theorem distinctKeysFields_iff {l : JsonDict} :
    DistinctKeysFields l ↔ ∀ p ∈ l, DistinctKeys p.2 := by
  induction l with
  | nil => exact iff_of_true trivial nofun
  | cons p l ih => rw [DistinctKeysFields, ih, List.forall_mem_cons]

theorem distinctKeysFields_perm {l m : JsonDict} (hp : l.Perm m) (h : DistinctKeysFields m) :
    DistinctKeysFields l :=
  distinctKeysFields_iff.mpr fun p hpl => distinctKeysFields_iff.mp h p (hp.mem_iff.mp hpl)

mutual

theorem SameJson.refl : ∀ j : Json, SameJson j j
  | .null => .null
  | .bool b => .bool b
  | .int n => .int n
  | .float x => .float x
  | .str s => .str s
  | .arr l => .arr (SameItems.refl l)
  | .obj l => .obj (SameFields.refl l) (.refl l)

theorem SameItems.refl : ∀ l : List Json, SameItems l l
  | [] => .nil
  | j :: l => .cons (SameJson.refl j) (SameItems.refl l)

theorem SameFields.refl : ∀ l : JsonDict, SameFields l l
  | [] => .nil
  | (k, j) :: l => .cons k (SameJson.refl j) (SameFields.refl l)

end

theorem plainFields_iff {l : JsonDict} :
    PlainFields l ↔ ∀ p ∈ l, (∀ c ∈ p.1, IsScalar c) ∧ Plain p.2 := by
  induction l with
  | nil => exact iff_of_true trivial nofun
  | cons p l ih => rw [PlainFields, ih, List.forall_mem_cons, and_assoc]

theorem plain_of_perm {l m : JsonDict} (hp : l.Perm m) (h : Plain (.obj m)) : Plain (.obj l) := by
  rw [Plain, plainFields_iff] at h ⊢
  exact ⟨fun p hpl => h.1 p (hp.mem_iff.mp hpl), (hp.map Prod.fst).nodup_iff.mpr h.2⟩

/-- Two orders of one dictionary. -/
theorem sameJson_of_perm {l m : JsonDict} (h : l.Perm m) : SameJson (.obj l) (.obj m) :=
  .obj (SameFields.refl l) h

/-! ## The text depends on nothing more -/

variable (rt : PyRuntime)

theorem map_fst_dumpsFields {d : Nat} {l : JsonDict} {ts : List (PyStr × PyStr)}
    (h : dumpsFields rt d l = .ok ts) : ts.map Prod.fst = l.map Prod.fst := by
  induction l generalizing ts with
  | nil =>
    rw [dumpsFields] at h
    cases h
    rfl
  | cons p l ih =>
    obtain ⟨t, ts', -, hts, rfl⟩ := (dumpsFields_cons_ok rt).mp h
    rw [List.map_cons, List.map_cons, ih hts]

/-- Fields in another order are written in that order. -/
theorem dumpsFields_perm {d : Nat} {l m : JsonDict} (hp : l.Perm m) {ts : List (PyStr × PyStr)}
    (h : dumpsFields rt d l = .ok ts) : ∃ ts', dumpsFields rt d m = .ok ts' ∧ ts.Perm ts' := by
  induction hp generalizing ts with
  | nil => exact ⟨ts, h, .refl ts⟩
  | cons p _ ih =>
    obtain ⟨t, ts₁, ht, hts, rfl⟩ := (dumpsFields_cons_ok rt).mp h
    obtain ⟨ts₂, hts₂, hperm⟩ := ih hts
    exact ⟨_, (dumpsFields_cons_ok rt).mpr ⟨t, ts₂, ht, hts₂, rfl⟩, hperm.cons _⟩
  | swap p q l =>
    obtain ⟨t, _, ht, hrest, rfl⟩ := (dumpsFields_cons_ok rt).mp h
    obtain ⟨u, ts₁, hu, hts, rfl⟩ := (dumpsFields_cons_ok rt).mp hrest
    have hq := (dumpsFields_cons_ok rt).mpr ⟨t, ts₁, ht, hts, rfl⟩
    exact ⟨_, (dumpsFields_cons_ok rt).mpr ⟨u, _, hu, hq, rfl⟩, .swap _ _ _⟩
  | trans _ _ ih₁ ih₂ =>
    obtain ⟨ts₁, h₁, hp₁⟩ := ih₁ h
    obtain ⟨ts₂, h₂, hp₂⟩ := ih₂ h₁
    exact ⟨ts₂, h₂, hp₁.trans hp₂⟩

theorem dumps_obj_ok {d : Nat} {l : JsonDict} {t : PyStr}
    (h : dumps rt (d + 1) (.obj l) = .ok t) : ∃ ts, dumpsFields rt d l = .ok ts := by
  rw [dumps] at h
  obtain ⟨ts, hts, -⟩ := exceptMap_ok_iff.mp h
  exact ⟨ts, hts⟩

/-- An object's text is determined by the fields' texts, in any order. -/
theorem dumps_obj_of_perm {d : Nat} {l m : JsonDict} {ts ts' : List (PyStr × PyStr)}
    (hl : dumpsFields rt d l = .ok ts) (hm : dumpsFields rt d m = .ok ts') (hp : ts.Perm ts')
    (hnd : (m.map Prod.fst).Nodup) :
    dumps rt (d + 1) (.obj l) = dumps rt (d + 1) (.obj m) := by
  rw [← map_fst_dumpsFields rt hm] at hnd
  rw [dumps, dumps, hl, hm]
  simp only [Except.map, sortByKey_eq_of_perm hp hnd]

mutual

/-- What is written does not depend on the order of the dictionaries. -/
theorem SameJson.dumps_ok : ∀ {j j' : Json} {d : Nat} {t : PyStr}, SameJson j j' →
    DistinctKeys j' → (dumps rt d j = .ok t ↔ dumps rt d j' = .ok t)
  | _, _, _, _, .null, _ => Iff.rfl
  | _, _, _, _, .bool _, _ => Iff.rfl
  | _, _, _, _, .int _, _ => Iff.rfl
  | _, _, _, _, .float _, _ => Iff.rfl
  | _, _, _, _, .str _, _ => Iff.rfl
  | _, _, 0, _, .arr _, _ => by rw [dumps, dumps]
  | _, _, d + 1, _, .arr hs, hk => by
    rw [DistinctKeys] at hk
    rw [dumps, dumps, exceptMap_ok_iff, exceptMap_ok_iff]
    exact exists_congr fun ts => and_congr_left fun _ => hs.dumps_ok hk
  | _, _, 0, _, .obj _ _, _ => by rw [dumps, dumps]
  | _, _, d + 1, t, .obj hs hperm, hk => by
    rw [DistinctKeys] at hk
    have hfields {ts} : dumpsFields rt d _ = .ok ts ↔ dumpsFields rt d _ = .ok ts :=
      hs.dumps_ok (distinctKeysFields_perm hperm hk.1)
    constructor
    · intro h
      obtain ⟨ts, hts⟩ := dumps_obj_ok rt h
      obtain ⟨ts', hts', hp⟩ := dumpsFields_perm rt hperm (hfields.mp hts)
      exact (dumps_obj_of_perm rt hts hts' hp hk.2).symm.trans h
    · intro h
      obtain ⟨ts', hts'⟩ := dumps_obj_ok rt h
      obtain ⟨ts, hts, hp⟩ := dumpsFields_perm rt hperm.symm hts'
      exact (dumps_obj_of_perm rt (hfields.mpr hts) hts' hp.symm hk.2).trans h

theorem SameItems.dumps_ok : ∀ {l m : List Json} {d : Nat} {ts : List PyStr}, SameItems l m →
    DistinctKeysItems m → (dumpsItems rt d l = .ok ts ↔ dumpsItems rt d m = .ok ts)
  | _, _, _, _, .nil, _ => Iff.rfl
  | _, _, _, _, .cons hj hs, hk => by
    rw [DistinctKeysItems] at hk
    rw [dumpsItems_cons_ok, dumpsItems_cons_ok]
    exact exists_congr fun t => exists_congr fun ts =>
      and_congr (hj.dumps_ok hk.1) (and_congr_left fun _ => hs.dumps_ok hk.2)

theorem SameFields.dumps_ok : ∀ {l m : JsonDict} {d : Nat} {ts : List (PyStr × PyStr)},
    SameFields l m → DistinctKeysFields m →
      (dumpsFields rt d l = .ok ts ↔ dumpsFields rt d m = .ok ts)
  | _, _, _, _, .nil, _ => Iff.rfl
  | _, _, _, _, .cons k hj hs, hk => by
    rw [DistinctKeysFields] at hk
    rw [dumpsFields_cons_ok, dumpsFields_cons_ok]
    exact exists_congr fun t => exists_congr fun ts =>
      and_congr (hj.dumps_ok hk.1) (and_congr_left fun _ => hs.dumps_ok hk.2)

end

/-! ## And on nothing less -/

theorem sortKeysFields_eq_map (l : JsonDict) :
    sortKeysFields l = l.map fun p => (p.1, sortKeys p.2) := by
  induction l with
  | nil => rfl
  | cons p l ih => rw [sortKeysFields, ih, List.map_cons]

/-- Fields that agree after sorting agree before, in some order. -/
theorem exists_perm_of_sorted {l m : JsonDict}
    (h : sortByKey (sortKeysFields l) = sortByKey (sortKeysFields m)) :
    ∃ m' : JsonDict, sortKeysFields l = sortKeysFields m' ∧ m'.Perm m := by
  have hperm : (sortKeysFields l).Perm (sortKeysFields m) :=
    (sortByKey_perm _).symm.trans (h ▸ sortByKey_perm _)
  rw [sortKeysFields_eq_map m] at hperm
  have hcomp := List.eq_map_comp_perm fun p : PyStr × Json => (p.1, sortKeys p.2)
  obtain ⟨m', hm', hp⟩ := (congrFun (congrFun hcomp (sortKeysFields l)) m).mpr hperm
  exact ⟨m', hm'.trans (sortKeysFields_eq_map m').symm, hp⟩

mutual

theorem sameJson_of_sortKeys : ∀ {j j' : Json}, sortKeys j = sortKeys j' → SameJson j j'
  | .null, j', h => by cases j' <;> simp only [sortKeys, reduceCtorEq] at h; exact .null
  | .bool b, j', h => by
    cases j' <;> simp only [sortKeys, Json.bool.injEq, reduceCtorEq] at h
    exact h ▸ .bool b
  | .int n, j', h => by
    cases j' <;> simp only [sortKeys, Json.int.injEq, reduceCtorEq] at h
    exact h ▸ .int n
  | .float x, j', h => by
    cases j' <;> simp only [sortKeys, Json.float.injEq, reduceCtorEq] at h
    exact h ▸ .float x
  | .str s, j', h => by
    cases j' <;> simp only [sortKeys, Json.str.injEq, reduceCtorEq] at h
    exact h ▸ .str s
  | .arr l, j', h => by
    cases j' <;> simp only [sortKeys, Json.arr.injEq, reduceCtorEq] at h
    exact .arr (sameItems_of_sortKeys h)
  | .obj l, j', h => by
    cases j' <;> simp only [sortKeys, Json.obj.injEq, reduceCtorEq] at h
    obtain ⟨m', hm', hp⟩ := exists_perm_of_sorted h
    exact .obj (sameFields_of_sortKeys hm') hp

theorem sameItems_of_sortKeys : ∀ {l m : List Json}, sortKeysItems l = sortKeysItems m →
    SameItems l m
  | [], [], _ => .nil
  | [], _ :: _, h => by simp only [sortKeysItems, reduceCtorEq] at h
  | _ :: _, [], h => by simp only [sortKeysItems, reduceCtorEq] at h
  | j :: l, j' :: m, h => by
    simp only [sortKeysItems, List.cons.injEq] at h
    exact .cons (sameJson_of_sortKeys h.1) (sameItems_of_sortKeys h.2)

theorem sameFields_of_sortKeys : ∀ {l m : JsonDict}, sortKeysFields l = sortKeysFields m →
    SameFields l m
  | [], [], _ => .nil
  | [], _ :: _, h => by simp only [sortKeysFields, reduceCtorEq] at h
  | _ :: _, [], h => by simp only [sortKeysFields, reduceCtorEq] at h
  | (k, j) :: l, (k', j') :: m, h => by
    simp only [sortKeysFields, List.cons.injEq, Prod.mk.injEq] at h
    obtain ⟨⟨rfl, hj⟩, hl⟩ := h
    exact .cons k (sameJson_of_sortKeys hj) (sameFields_of_sortKeys hl)

end

/-- Plain values with the same text are the same value. -/
theorem sameJson_of_dumps {j j' : Json} {d : Nat} {t : PyStr} (hp : Plain j) (hp' : Plain j')
    (h : dumps rt d j = .ok t) (h' : dumps rt d j' = .ok t) : SameJson j j' := by
  have hscan := (scans_dumps rt j d t hp h).scan [] trivial
  have hscan' := (scans_dumps rt j' d t hp' h').scan [] trivial
  rw [hscan] at hscan'
  exact sameJson_of_sortKeys (Prod.mk.inj (Except.ok.inj hscan')).1

end StayKey.Codec
