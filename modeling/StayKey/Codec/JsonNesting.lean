/-
StayKey.Codec.JsonNesting — which texts exceed the recursion limit.

`NestsBeyond d s` says of a text, without running the scanner to its end,
that it opens `d + 1` containers inside one another before anything is
wrong with it: the innermost one is reached through members that scan.
`scanOnce_recursionError_iff` identifies these texts with the ones on
which the scanner raises `RecursionError`.

That the loops over members never run out of their length bound first
needs the fact that a scanner leaves a suffix of its text
(`scanOnce_suffix`).
-/
import StayKey.Codec.JsonTheorems

namespace StayKey.Codec

/-! ## A scanner leaves a suffix -/

theorem scanUnits_suffix {s : PyStr} : ∀ {us : List StrUnit} {r : PyStr},
    scanUnits s = .ok (us, r) → r <:+ s := by
  have hmap {x : Except PyError (List StrUnit × PyStr)} {u : StrUnit} {us : List StrUnit} {r : PyStr}
      (h : x.map (fun p => (u :: p.1, p.2)) = .ok (us, r)) : ∃ us', x = .ok (us', r) := by
    cases x with
    | error e => cases h
    | ok p => obtain ⟨us', r'⟩ := p; cases h; exact ⟨us', rfl⟩
  fun_induction scanUnits s <;> intro us r h
  all_goals first
    | (cases h; done)
    | (cases h; exact List.suffix_cons _ _)
    | (rename_i ih
       obtain ⟨us', h'⟩ := hmap h
       refine (ih h').trans ?_
       simp only [List.suffix_cons_iff, List.suffix_refl, or_true])

theorem scanString_suffix {s k r : PyStr} (h : scanString s = .ok (k, r)) : r <:+ s := by
  unfold scanString at h
  cases hu : scanUnits s with
  | error e => rw [hu] at h; cases h
  | ok p =>
    obtain ⟨us, r'⟩ := p
    rw [hu] at h; cases h
    exact scanUnits_suffix hu

theorem scanIntPart_suffix {s ip r : PyStr} (h : scanIntPart s = some (ip, r)) : r <:+ s := by
  unfold scanIntPart at h
  split at h
  · cases h
  · split at h
    · cases h; exact List.suffix_cons _ _
    · split at h
      · cases h; exact (List.dropWhile_suffix _).trans (List.suffix_cons _ _)
      · cases h

theorem scanFrac_suffix (s : PyStr) : (scanFrac s).2 <:+ s := by
  unfold scanFrac
  split
  · split
    · exact (List.dropWhile_suffix _).trans ((List.suffix_cons _ _).trans (List.suffix_cons _ _))
    · exact List.suffix_refl _
  · exact List.suffix_refl _

theorem scanExp_suffix (s : PyStr) : (scanExp s).2 <:+ s := by
  unfold scanExp
  split
  · rename_i e r
    have hdrop {t : PyStr} (ht : t <:+ r) : t.dropWhile isDigit <:+ e :: r :=
      (List.dropWhile_suffix _).trans (ht.trans (List.suffix_cons _ _))
    split
    · split
      rename_i x neg r' hx
      have hr' : r' <:+ r := by
        split at hx
        · cases hx; exact List.suffix_cons _ _
        · cases hx; exact List.suffix_cons _ _
        · cases hx; exact List.suffix_refl _
      split
      · exact List.suffix_refl _
      · exact hdrop hr'
    · exact List.suffix_refl _
  · exact List.suffix_refl _

theorem scanNumber_suffix {s r : PyStr} {v : Json} (h : scanNumber s = .ok (v, r)) : r <:+ s := by
  have hsign : (scanSign s).2 <:+ s := by
    unfold scanSign
    split
    · exact List.suffix_cons _ _
    · exact List.suffix_refl _
  refine List.IsSuffix.trans ?_ hsign
  unfold scanNumber scanUnsigned at h
  cases hi : scanIntPart (scanSign s).2 with
  | none => rw [hi] at h; cases h
  | some p =>
    obtain ⟨ip, s2⟩ := p
    have h2 := scanIntPart_suffix hi
    have h3 := scanFrac_suffix s2
    have h4 := scanExp_suffix (scanFrac s2).2
    rw [hi] at h
    simp only at h
    split at h
    · split at h
      · cases h
      · cases h; exact h2
    · rename_i heq _
      cases h
      rw [heq] at h4
      exact h4.trans (h3.trans h2)

theorem dropPrefix_suffix {s w r : PyStr} (h : s.dropPrefix? w = some r) : r <:+ s := by
  rw [List.dropPrefix?_eq_some_iff] at h
  obtain ⟨w', rfl, _⟩ := h
  exact List.suffix_append _ _

theorem scanScalar_suffix {s r : PyStr} {v : Json} (h : scanScalar s = .ok (v, r)) : r <:+ s := by
  unfold scanScalar at h
  split at h
  · cases h; exact dropPrefix_suffix ‹s.dropPrefix? (py "null") = some r›
  · cases h; exact dropPrefix_suffix ‹s.dropPrefix? (py "true") = some r›
  · cases h; exact dropPrefix_suffix ‹s.dropPrefix? (py "false") = some r›
  · split at h
    · cases h; exact dropPrefix_suffix ‹s.dropPrefix? (py "NaN") = some r›
    · cases h; exact dropPrefix_suffix ‹s.dropPrefix? (py "Infinity") = some r›
    · cases h; exact dropPrefix_suffix ‹s.dropPrefix? (py "-Infinity") = some r›
    · exact scanNumber_suffix h

/-- A scanner of members leaves suffixes. -/
def LeavesSuffix (scan : Scanner) : Prop := ∀ {s v r}, scan s = .ok (v, r) → r <:+ s

theorem skipWs_suffix (s : PyStr) : skipWs s <:+ s := List.dropWhile_suffix _

/-- What is left behind white space and a separator. -/
theorem suffix_of_skipWs {s s' r : PyStr} {c : Nat} (hs : s' <:+ s) (h : skipWs s' = c :: r) :
    r <:+ s :=
  (List.suffix_cons c r).trans (h ▸ (skipWs_suffix s').trans hs)

/-! ## One round of the loops -/

/-- What one round of the loop over array members can do. -/
theorem scanItems_succ (scan : Scanner) (n : Nat) (s : PyStr) :
    (∃ e, scan s = .error e ∧ scanItems scan (n + 1) s = .error e) ∨
    ∃ v s1, scan s = .ok (v, s1) ∧
      ((∃ s2, skipWs s1 = 93 :: s2 ∧ scanItems scan (n + 1) s = .ok ([v], s2)) ∨
       (∃ s2, skipWs s1 = 44 :: s2 ∧ scanItems scan (n + 1) s
          = (scanItems scan n (skipWs s2)).map fun p => (v :: p.1, p.2)) ∨
       ((skipWs s1).head? ≠ some 44 ∧ scanItems scan (n + 1) s = .error .valueError)) := by
  rw [scanItems]
  cases hv : scan s with
  | error e => exact .inl ⟨e, rfl, rfl⟩
  | ok p =>
    obtain ⟨v, s1⟩ := p
    refine .inr ⟨v, s1, rfl, ?_⟩
    cases hw : skipWs s1 with
    | nil => exact .inr (.inr ⟨by simp, by simp only [hw]⟩)
    | cons c s2 =>
      by_cases h93 : c = 93
      · exact .inl ⟨s2, by rw [h93], by simp only [hw, if_pos h93]⟩
      by_cases h44 : c = 44
      · exact .inr (.inl ⟨s2, by rw [h44], by simp only [hw, if_neg h93, if_pos h44]⟩)
      · exact .inr (.inr ⟨by simpa using h44, by simp only [hw, if_neg h93, if_neg h44]⟩)

/-- A member of an object stands at `s`, with the key `k` and its value at `t`. -/
def MemberAt (s k t : PyStr) : Prop :=
  ∃ s0 s1 s2, s = 34 :: s0 ∧ scanString s0 = .ok (k, s1) ∧ skipWs s1 = 58 :: s2 ∧ t = skipWs s2

theorem MemberAt.suffix {s k t : PyStr} (h : MemberAt s k t) : t <:+ s := by
  obtain ⟨s0, s1, s2, rfl, hk, hw, rfl⟩ := h
  exact (skipWs_suffix s2).trans
    (suffix_of_skipWs ((scanString_suffix hk).trans (List.suffix_cons 34 s0)) hw)

theorem MemberAt.unique {s k t k' t' : PyStr} (h : MemberAt s k t) (h' : MemberAt s k' t') :
    k = k' ∧ t = t' := by
  obtain ⟨s0, s1, s2, rfl, hk, hw, rfl⟩ := h
  obtain ⟨u0, u1, u2, hs, hk', hw', rfl⟩ := h'
  cases hs
  rw [hk] at hk'; cases hk'
  rw [hw] at hw'; cases hw'
  exact ⟨rfl, rfl⟩

theorem scanUnits_error {s : PyStr} : ∀ {e : PyError}, scanUnits s = .error e → e = .valueError := by
  have hmap {x : Except PyError (List StrUnit × PyStr)} {u : StrUnit} {e : PyError}
      (h : x.map (fun p => (u :: p.1, p.2)) = .error e) : x = .error e := by
    cases x with
    | error e' => exact h
    | ok p => cases h
  fun_induction scanUnits s <;> intro e h
  all_goals first
    | (cases h; done)
    | (cases h; rfl)
    | (rename_i ih; exact ih (hmap h))

theorem scanString_error {s : PyStr} {e : PyError} (h : scanString s = .error e) :
    e = .valueError := by
  unfold scanString at h
  cases hu : scanUnits s with
  | error e' => rw [hu] at h; cases h; exact scanUnits_error hu
  | ok p => rw [hu] at h; cases h

/-- What one round of the loop over object members can do. -/
theorem scanFields_succ (scan : Scanner) (n : Nat) (s : PyStr) :
    ((∀ k t, ¬ MemberAt s k t) ∧ scanFields scan (n + 1) s = .error .valueError) ∨
    ∃ k t, MemberAt s k t ∧
      ((∃ e, scan t = .error e ∧ scanFields scan (n + 1) s = .error e) ∨
       ∃ v s1, scan t = .ok (v, s1) ∧
        ((∃ s2, skipWs s1 = 125 :: s2 ∧ scanFields scan (n + 1) s = .ok ([(k, v)], s2)) ∨
         (∃ s2, skipWs s1 = 44 :: s2 ∧ scanFields scan (n + 1) s
            = (scanFields scan n (skipWs s2)).map fun p => ((k, v) :: p.1, p.2)) ∨
         ((skipWs s1).head? ≠ some 44 ∧ scanFields scan (n + 1) s = .error .valueError))) := by
  cases s with
  | nil =>
    refine .inl ⟨?_, rfl⟩
    rintro k t ⟨_, _, _, h, _⟩
    cases h
  | cons q s0 =>
    rw [scanFields]
    by_cases hq : q = 34
    case neg =>
      refine .inl ⟨?_, by simp only [if_pos hq]⟩
      rintro k t ⟨_, _, _, h, -⟩
      exact hq (List.cons.inj h).1
    subst hq
    cases hk : scanString s0 with
    | error e =>
      refine .inl ⟨?_, by simp [scanString_error hk]⟩
      rintro k t ⟨_, _, _, h, hk', _⟩
      cases h; rw [hk] at hk'; cases hk'
    | ok p =>
      obtain ⟨k, s1⟩ := p
      by_cases hw : ∃ s2, skipWs s1 = 58 :: s2
      case neg =>
        refine .inl ⟨?_, ?_⟩
        · rintro k' t ⟨_, _, s2, h, hk', hw', _⟩
          cases h; rw [hk] at hk'; cases hk'
          exact hw ⟨s2, hw'⟩
        · cases hc : skipWs s1 with
          | nil => simp [hc]
          | cons c s2 =>
            have hne : c ≠ 58 := fun h => hw ⟨s2, by rw [hc, h]⟩
            simp [hc, hne]
      obtain ⟨s2, hw⟩ := hw
      refine .inr ⟨k, skipWs s2, ⟨s0, s1, s2, rfl, hk, hw, rfl⟩, ?_⟩
      simp only [hw, ne_eq, not_true_eq_false, if_false]
      cases hv : scan (skipWs s2) with
      | error e => exact .inl ⟨e, rfl, rfl⟩
      | ok p =>
        obtain ⟨v, s3⟩ := p
        refine .inr ⟨v, s3, rfl, ?_⟩
        cases hw' : skipWs s3 with
        | nil => exact .inr (.inr ⟨by simp, by simp only [hw']⟩)
        | cons c s4 =>
          by_cases h125 : c = 125
          · exact .inl ⟨s4, by rw [h125], by simp only [hw', if_pos h125]⟩
          by_cases h44 : c = 44
          · exact .inr (.inl ⟨s4, by rw [h44], by simp only [hw', if_neg h125, if_pos h44]⟩)
          · exact .inr (.inr ⟨by simpa using h44, by simp only [hw', if_neg h125, if_neg h44]⟩)

theorem scanItems_suffix {scan : Scanner} (hscan : LeavesSuffix scan) : ∀ {n : Nat} {s r : PyStr}
    {vs : List Json}, scanItems scan n s = .ok (vs, r) → r <:+ s := by
  intro n
  induction n with
  | zero => intro s r vs h; cases h
  | succ n ih =>
    intro s r vs h
    obtain ⟨e, -, he⟩ | ⟨v, s1, hv, ⟨s2, hw, h1⟩ | ⟨s2, hw, h1⟩ | ⟨-, h1⟩⟩ := scanItems_succ scan n s
    · rw [he] at h; cases h
    · rw [h1] at h; cases h
      exact suffix_of_skipWs (hscan hv) hw
    · rw [h1] at h
      cases hr : scanItems scan n (skipWs s2) with
      | error e => rw [hr] at h; cases h
      | ok q =>
        rw [hr] at h; cases h
        exact (ih hr).trans ((skipWs_suffix s2).trans (suffix_of_skipWs (hscan hv) hw))
    · rw [h1] at h; cases h

theorem scanFields_suffix {scan : Scanner} (hscan : LeavesSuffix scan) : ∀ {n : Nat} {s r : PyStr}
    {vs : List (PyStr × Json)}, scanFields scan n s = .ok (vs, r) → r <:+ s := by
  intro n
  induction n with
  | zero => intro s r vs h; cases h
  | succ n ih =>
    intro s r vs h
    obtain ⟨-, h1⟩ | ⟨k, t, hm, ⟨e, -, h1⟩ | ⟨v, s1, hv, ⟨s2, hw, h1⟩ | ⟨s2, hw, h1⟩ | ⟨-, h1⟩⟩⟩ :=
      scanFields_succ scan n s
    · rw [h1] at h; cases h
    · rw [h1] at h; cases h
    · rw [h1] at h; cases h
      exact suffix_of_skipWs ((hscan hv).trans hm.suffix) hw
    · rw [h1] at h
      cases hr : scanFields scan n (skipWs s2) with
      | error e => rw [hr] at h; cases h
      | ok q =>
        rw [hr] at h; cases h
        exact (ih hr).trans
          ((skipWs_suffix s2).trans (suffix_of_skipWs ((hscan hv).trans hm.suffix) hw))
    · rw [h1] at h; cases h

theorem scanArray_suffix {scan : Scanner} (hscan : LeavesSuffix scan) {s r : PyStr} {v : Json}
    (h : scanArray scan s = .ok (v, r)) : r <:+ s := by
  unfold scanArray at h
  split at h
  · rename_i hw; cases h; exact suffix_of_skipWs (List.suffix_refl s) hw
  · cases hr : scanItems scan ((skipWs s).length + 1) (skipWs s) with
    | error e => rw [hr] at h; cases h
    | ok p => rw [hr] at h; cases h; exact (scanItems_suffix hscan hr).trans (skipWs_suffix s)

theorem scanObject_suffix {scan : Scanner} (hscan : LeavesSuffix scan) {s r : PyStr} {v : Json}
    (h : scanObject scan s = .ok (v, r)) : r <:+ s := by
  unfold scanObject at h
  split at h
  · rename_i hw; cases h; exact suffix_of_skipWs (List.suffix_refl s) hw
  · cases hr : scanFields scan ((skipWs s).length + 1) (skipWs s) with
    | error e => rw [hr] at h; cases h
    | ok p => rw [hr] at h; cases h; exact (scanFields_suffix hscan hr).trans (skipWs_suffix s)

theorem scanValue_suffix {inner : Option Scanner} (hinner : ∀ scan ∈ inner, LeavesSuffix scan) :
    LeavesSuffix (scanValue inner) := by
  intro s v r h
  unfold scanValue at h
  split at h
  · cases h
  · rename_i c t
    split at h
    · cases hr : scanString t with
      | error e => rw [hr] at h; cases h
      | ok p => rw [hr] at h; cases h; exact (scanString_suffix hr).trans (List.suffix_cons _ _)
    · split at h
      · cases inner with
        | none => cases h
        | some scan => exact (scanObject_suffix (hinner scan rfl) h).trans (List.suffix_cons _ _)
      · split at h
        · cases inner with
          | none => cases h
          | some scan => exact (scanArray_suffix (hinner scan rfl) h).trans (List.suffix_cons _ _)
        · exact scanScalar_suffix h

theorem scanOnce_suffix (d : Nat) : LeavesSuffix (scanOnce d) := by
  induction d with
  | zero => exact scanValue_suffix (fun scan h => by cases h)
  | succ d ih => exact scanValue_suffix (fun scan h => by cases h; exact ih)

/-! ## Texts nested too deeply -/

/-- `t` is the member at `s` or one after it, and the members before it scan. -/
inductive ReachesItem (scan : Scanner) : PyStr → PyStr → Prop
  | here (s : PyStr) : ReachesItem scan s s
  | next {s s1 s2 t : PyStr} {v : Json} (hv : scan s = .ok (v, s1)) (hw : skipWs s1 = 44 :: s2)
      (rest : ReachesItem scan (skipWs s2) t) : ReachesItem scan s t

/-- `t` is the value of the member at `s` or of one after it, and the
members before it scan. -/
inductive ReachesField (scan : Scanner) : PyStr → PyStr → Prop
  | here {s k t : PyStr} (hm : MemberAt s k t) : ReachesField scan s t
  | next {s k u s1 s2 t : PyStr} {v : Json} (hm : MemberAt s k u) (hv : scan u = .ok (v, s1))
      (hw : skipWs s1 = 44 :: s2) (rest : ReachesField scan (skipWs s2) t) : ReachesField scan s t

/-- The text opens `d + 1` containers inside one another, and nothing is
wrong with it before the innermost. -/
inductive NestsBeyond : Nat → PyStr → Prop
  | opens {c : Nat} {r : PyStr} (hc : c = 91 ∨ c = 123) : NestsBeyond 0 (c :: r)
  | array {d : Nat} {r t : PyStr} (hr : ReachesItem (scanOnce d) (skipWs r) t)
      (ht : NestsBeyond d t) : NestsBeyond (d + 1) (91 :: r)
  | object {d : Nat} {r t : PyStr} (hr : ReachesField (scanOnce d) (skipWs r) t)
      (ht : NestsBeyond d t) : NestsBeyond (d + 1) (123 :: r)

theorem scanNumber_error {s : PyStr} {e : PyError} (h : scanNumber s = .error e) :
    e = .valueError := by
  unfold scanNumber scanUnsigned at h
  split at h
  · cases h; rfl
  · simp only at h
    split at h
    · split at h
      · cases h; rfl
      · cases h
    · cases h

theorem scanScalar_error {s : PyStr} {e : PyError} (h : scanScalar s = .error e) :
    e = .valueError := by
  unfold scanScalar at h
  split at h
  · cases h
  · cases h
  · cases h
  · split at h
    · cases h
    · cases h
    · cases h
    · exact scanNumber_error h

/-- The loop over array members raises exactly what one of them raises. -/
theorem scanItems_recursionError_iff {scan : Scanner} (hscan : LeavesSuffix scan) :
    ∀ {n : Nat} {s : PyStr}, s.length < n → (scanItems scan n s = .error .recursionError ↔
      ∃ t, ReachesItem scan s t ∧ scan t = .error .recursionError) := by
  intro n
  induction n with
  | zero => intro s h; omega
  | succ n ih =>
    intro s hn
    obtain ⟨e, hv, h1⟩ | ⟨v, s1, hv, ⟨s2, hw, h1⟩ | ⟨s2, hw, h1⟩ | ⟨hw, h1⟩⟩ := scanItems_succ scan n s
    · rw [h1]
      constructor
      · intro h; cases h; exact ⟨s, .here s, hv⟩
      · rintro ⟨t, ht, he⟩
        cases ht with
        | here => rw [hv] at he; cases he; rfl
        | next hv' => rw [hv] at hv'; cases hv'
    · rw [h1]
      refine ⟨nofun, ?_⟩
      rintro ⟨t, ht, he⟩
      cases ht with
      | here => rw [hv] at he; cases he
      | next hv' hw' => rw [hv] at hv'; cases hv'; rw [hw] at hw'; cases hw'
    · have h2 : (skipWs s2).length < n := by
        have hlen := (suffix_of_skipWs (hscan hv) hw).length_le
        have hcons : (44 :: s2).length ≤ s.length := by
          rw [← hw]; exact ((skipWs_suffix s1).trans (hscan hv)).length_le
        have := (skipWs_suffix s2).length_le
        rw [List.length_cons] at hcons
        omega
      have hmap : (scanItems scan (n + 1) s = .error .recursionError)
          ↔ scanItems scan n (skipWs s2) = .error .recursionError := by
        rw [h1]
        cases scanItems scan n (skipWs s2) with
        | error e => exact Iff.rfl
        | ok p => exact ⟨nofun, nofun⟩
      rw [hmap, ih h2]
      constructor
      · rintro ⟨t, ht, he⟩; exact ⟨t, .next hv hw ht, he⟩
      · rintro ⟨t, ht, he⟩
        cases ht with
        | here => rw [hv] at he; cases he
        | next hv' hw' ht' =>
          rw [hv] at hv'; cases hv'
          rw [hw] at hw'; cases hw'
          exact ⟨t, ht', he⟩
    · rw [h1]
      refine ⟨nofun, ?_⟩
      rintro ⟨t, ht, he⟩
      cases ht with
      | here => rw [hv] at he; cases he
      | next hv' hw' =>
        rw [hv] at hv'; cases hv'
        exact absurd (by rw [hw']; rfl) hw

/-- The loop over object members raises exactly what one of their values raises. -/
theorem scanFields_recursionError_iff {scan : Scanner} (hscan : LeavesSuffix scan) :
    ∀ {n : Nat} {s : PyStr}, s.length < n → (scanFields scan n s = .error .recursionError ↔
      ∃ t, ReachesField scan s t ∧ scan t = .error .recursionError) := by
  intro n
  induction n with
  | zero => intro s h; omega
  | succ n ih =>
    intro s hn
    obtain ⟨hno, h1⟩ | ⟨k, u, hm, ⟨e, hv, h1⟩ | ⟨v, s1, hv, hcases⟩⟩ := scanFields_succ scan n s
    · rw [h1]
      refine ⟨nofun, ?_⟩
      rintro ⟨t, ht, -⟩
      cases ht with
      | here hm => exact absurd hm (hno _ _)
      | next hm => exact absurd hm (hno _ _)
    · rw [h1]
      constructor
      · intro h; cases h; exact ⟨u, .here hm, hv⟩
      · rintro ⟨t, ht, he⟩
        cases ht with
        | here hm' => obtain ⟨rfl, rfl⟩ := hm.unique hm'; rw [hv] at he; cases he; rfl
        | next hm' hv' => obtain ⟨rfl, rfl⟩ := hm.unique hm'; rw [hv] at hv'; cases hv'
    obtain ⟨s2, hw, h1⟩ | ⟨s2, hw, h1⟩ | ⟨hw, h1⟩ := hcases
    · rw [h1]
      refine ⟨nofun, ?_⟩
      rintro ⟨t, ht, he⟩
      cases ht with
      | here hm' => obtain ⟨rfl, rfl⟩ := hm.unique hm'; rw [hv] at he; cases he
      | next hm' hv' hw' =>
        obtain ⟨rfl, rfl⟩ := hm.unique hm'
        rw [hv] at hv'; cases hv'; rw [hw] at hw'; cases hw'
    · have h2 : (skipWs s2).length < n := by
        have hcons : (44 :: s2).length ≤ s.length := by
          rw [← hw]; exact ((skipWs_suffix s1).trans ((hscan hv).trans hm.suffix)).length_le
        have := (skipWs_suffix s2).length_le
        rw [List.length_cons] at hcons
        omega
      have hmap : (scanFields scan (n + 1) s = .error .recursionError)
          ↔ scanFields scan n (skipWs s2) = .error .recursionError := by
        rw [h1]
        cases scanFields scan n (skipWs s2) with
        | error e => exact Iff.rfl
        | ok p => exact ⟨nofun, nofun⟩
      rw [hmap, ih h2]
      constructor
      · rintro ⟨t, ht, he⟩; exact ⟨t, .next hm hv hw ht, he⟩
      · rintro ⟨t, ht, he⟩
        cases ht with
        | here hm' => obtain ⟨rfl, rfl⟩ := hm.unique hm'; rw [hv] at he; cases he
        | next hm' hv' hw' ht' =>
          obtain ⟨rfl, rfl⟩ := hm.unique hm'
          rw [hv] at hv'; cases hv'
          rw [hw] at hw'; cases hw'
          exact ⟨t, ht', he⟩
    · rw [h1]
      refine ⟨nofun, ?_⟩
      rintro ⟨t, ht, he⟩
      cases ht with
      | here hm' => obtain ⟨rfl, rfl⟩ := hm.unique hm'; rw [hv] at he; cases he
      | next hm' hv' hw' =>
        obtain ⟨rfl, rfl⟩ := hm.unique hm'
        rw [hv] at hv'; cases hv'
        exact absurd (by rw [hw']; rfl) hw

theorem NestsBeyond.head {d : Nat} {s : PyStr} (h : NestsBeyond d s) :
    ∃ c r, s = c :: r ∧ (c = 91 ∨ c = 123) := by
  cases h with
  | opens hc => exact ⟨_, _, rfl, hc⟩
  | array => exact ⟨_, _, rfl, .inl rfl⟩
  | object => exact ⟨_, _, rfl, .inr rfl⟩

/-- A closing bracket opens no value. -/
theorem scanOnce_close (d : Nat) (r : PyStr) : scanOnce d (93 :: r) = .error .valueError := by
  rw [scanOnce_scalar d r (by decide) (by decide) (by decide)]
  rfl

theorem exceptMap_error_iff {α β : Type} {x : Except PyError α} {f : α → β} {e : PyError} :
    x.map f = .error e ↔ x = .error e := by
  cases x with
  | error e' => exact ⟨fun h => by cases h; rfl, fun h => by cases h; rfl⟩
  | ok a => exact ⟨nofun, nofun⟩

theorem scanArray_recursionError_iff (d : Nat) (r : PyStr) :
    scanArray (scanOnce d) r = .error .recursionError ↔
      ∃ t, ReachesItem (scanOnce d) (skipWs r) t ∧ scanOnce d t = .error .recursionError := by
  unfold scanArray
  split
  · rename_i r' hw
    refine ⟨nofun, ?_⟩
    rintro ⟨t, ht, he⟩
    cases ht with
    | here => rw [hw, scanOnce_close] at he; cases he
    | next hv => rw [hw, scanOnce_close] at hv; cases hv
  · rw [exceptMap_error_iff]
    exact scanItems_recursionError_iff (scanOnce_suffix d) (Nat.lt_succ_self _)

theorem scanObject_recursionError_iff (d : Nat) (r : PyStr) :
    scanObject (scanOnce d) r = .error .recursionError ↔
      ∃ t, ReachesField (scanOnce d) (skipWs r) t ∧ scanOnce d t = .error .recursionError := by
  have hno {t : PyStr} {k u : PyStr} : ¬ MemberAt (125 :: t) k u := by
    rintro ⟨_, _, _, h, _⟩
    cases h
  unfold scanObject
  split
  · rename_i r' hw
    refine ⟨nofun, ?_⟩
    rintro ⟨t, ht, -⟩
    rw [hw] at ht
    cases ht with
    | here hm => exact absurd hm hno
    | next hm => exact absurd hm hno
  · rw [exceptMap_error_iff]
    exact scanFields_recursionError_iff (scanOnce_suffix d) (Nat.lt_succ_self _)

theorem scanValue_error_iff {inner : Option Scanner} {c : Nat} {r : PyStr} :
    scanValue inner (c :: r) = .error .recursionError ↔
      (c = 91 ∧ ∀ scan ∈ inner, scanArray scan r = .error .recursionError) ∨
      (c = 123 ∧ ∀ scan ∈ inner, scanObject scan r = .error .recursionError) := by
  rw [scanValue_cons]
  by_cases h34 : c = 34
  · subst h34
    simp only [if_true, exceptMap_error_iff]
    refine ⟨fun h => absurd (scanString_error h) (by decide), ?_⟩
    rintro (⟨h, -⟩ | ⟨h, -⟩) <;> cases h
  by_cases h123 : c = 123
  · subst h123
    cases inner <;> simp
  by_cases h91 : c = 91
  · subst h91
    cases inner <;> simp
  · simp only [h34, h123, h91, if_false, false_and, or_self, iff_false]
    exact fun h => by cases scanScalar_error h

/-- **The scanner raises `RecursionError`** on the texts nested beyond its
limit and on no others. -/
theorem scanOnce_recursionError_iff : ∀ {d : Nat} {s : PyStr},
    scanOnce d s = .error .recursionError ↔ NestsBeyond d s := by
  intro d
  induction d with
  | zero =>
    intro s
    cases s with
    | nil => exact iff_of_false (by simp [scanOnce, scanValue]) fun h => by cases h
    | cons c r =>
      rw [scanOnce, scanValue_error_iff]
      constructor
      · rintro (⟨h, -⟩ | ⟨h, -⟩)
        · exact .opens (.inl h)
        · exact .opens (.inr h)
      · intro h
        obtain ⟨hc⟩ := h
        exact hc.imp (fun h => ⟨h, by simp⟩) (fun h => ⟨h, by simp⟩)
  | succ d ih =>
    intro s
    cases s with
    | nil =>
      refine iff_of_false (by simp [scanOnce, scanValue]) fun h => ?_
      obtain ⟨_, _, h, -⟩ := h.head
      cases h
    | cons c r =>
      rw [scanOnce, scanValue_error_iff]
      simp only [Option.mem_some_iff, forall_eq', scanArray_recursionError_iff,
        scanObject_recursionError_iff, ih]
      constructor
      · rintro (⟨rfl, t, hr, ht⟩ | ⟨rfl, t, hr, ht⟩)
        · exact .array hr ht
        · exact .object hr ht
      · intro h
        cases h with
        | array hr ht => exact .inl ⟨rfl, _, hr, ht⟩
        | object hr ht => exact .inr ⟨rfl, _, hr, ht⟩

/-- A run of opening brackets longer than the limit is nested beyond it. -/
theorem nestsBeyond_replicate (d : Nat) (r : PyStr) :
    NestsBeyond d (List.replicate (d + 1) 91 ++ r) := by
  induction d with
  | zero => exact .opens (.inl rfl)
  | succ d ih =>
    rw [List.replicate_succ, List.cons_append]
    refine .array ?_ ih
    rw [List.replicate_succ, List.cons_append, skipWs_cons (by decide)]
    exact .here _

/-! ## There is no other exception -/

/-- The errors a JSON text can raise. -/
def ReadError (e : PyError) : Prop := e = .valueError ∨ e = .recursionError

theorem scanItems_error {scan : Scanner} (hscan : ∀ {s e}, scan s = .error e → ReadError e) :
    ∀ {n : Nat} {s : PyStr} {e : PyError}, scanItems scan n s = .error e → ReadError e := by
  intro n
  induction n with
  | zero => intro s e h; cases h; exact .inl rfl
  | succ n ih =>
    intro s e h
    obtain ⟨e', hv, h1⟩ | ⟨v, s1, -, ⟨s2, -, h1⟩ | ⟨s2, -, h1⟩ | ⟨-, h1⟩⟩ := scanItems_succ scan n s
    · rw [h1] at h; cases h; exact hscan hv
    · rw [h1] at h; cases h
    · rw [h1, exceptMap_error_iff] at h; exact ih h
    · rw [h1] at h; cases h; exact .inl rfl

theorem scanFields_error {scan : Scanner} (hscan : ∀ {s e}, scan s = .error e → ReadError e) :
    ∀ {n : Nat} {s : PyStr} {e : PyError}, scanFields scan n s = .error e → ReadError e := by
  intro n
  induction n with
  | zero => intro s e h; cases h; exact .inl rfl
  | succ n ih =>
    intro s e h
    obtain ⟨-, h1⟩ | ⟨k, t, -, ⟨e', hv, h1⟩ | ⟨v, s1, -, ⟨s2, -, h1⟩ | ⟨s2, -, h1⟩ | ⟨-, h1⟩⟩⟩ :=
      scanFields_succ scan n s
    · rw [h1] at h; cases h; exact .inl rfl
    · rw [h1] at h; cases h; exact hscan hv
    · rw [h1] at h; cases h
    · rw [h1, exceptMap_error_iff] at h; exact ih h
    · rw [h1] at h; cases h; exact .inl rfl

theorem scanValue_error {inner : Option Scanner}
    (hinner : ∀ scan ∈ inner, ∀ {s e}, scan s = .error e → ReadError e) {s : PyStr} {e : PyError}
    (h : scanValue inner s = .error e) : ReadError e := by
  cases s with
  | nil => cases h; exact .inl rfl
  | cons c r =>
    rw [scanValue_cons] at h
    split at h
    · rw [exceptMap_error_iff] at h; exact .inl (scanString_error h)
    split at h
    · cases inner with
      | none => cases h; exact .inr rfl
      | some scan =>
        simp only [Option.elim_some, scanObject] at h
        split at h
        · cases h
        · rw [exceptMap_error_iff] at h; exact scanFields_error (hinner scan rfl) h
    split at h
    · cases inner with
      | none => cases h; exact .inr rfl
      | some scan =>
        simp only [Option.elim_some, scanArray] at h
        split at h
        · cases h
        · rw [exceptMap_error_iff] at h; exact scanItems_error (hinner scan rfl) h
    · exact .inl (scanScalar_error h)

theorem scanOnce_error (d : Nat) : ∀ {s : PyStr} {e : PyError}, scanOnce d s = .error e →
    ReadError e := by
  induction d with
  | zero => exact scanValue_error (fun scan h => by cases h)
  | succ d ih => exact scanValue_error (fun scan h => by cases h; exact ih)

variable {rt : PyRuntime}

theorem loads_error {b : Bytes} {e : PyError} (h : loads rt b = .error e) : ReadError e := by
  unfold loads at h
  split at h
  · cases h; exact .inl rfl
  · split at h
    · rename_i hs; cases h; exact scanOnce_error _ hs
    · split at h
      · cases h
      · cases h; exact .inl rfl

/-- `json.loads` raises `RecursionError` exactly on the texts nested beyond
the recursion limit. -/
theorem loads_recursionError_iff {b : Bytes} :
    loads rt b = .error .recursionError ↔
      ∃ text, decodeText b = some text ∧ NestsBeyond rt.recursionLimit (skipWs text) := by
  unfold loads
  cases ht : decodeText b with
  | none => simp
  | some text =>
    simp only [Option.some.injEq, exists_eq_left', ← scanOnce_recursionError_iff]
    cases scanOnce rt.recursionLimit (skipWs text) with
    | error e => simp
    | ok p => simp only [reduceCtorEq, iff_false]; split <;> exact nofun

end StayKey.Codec
