/-
StayKey.Door.GarbageCollection — what `_gc` forgets is never missed.

Two stores run side by side on the same calls: the real one, and one whose
`issue` skips the garbage collection and so never forgets (`SideBySide`).
`Agrees` is what holds between them along the run. The real store knows a
part of what the other knows, and what it does not know was older than the
limit of its table at some earlier call, so it is older still now. In the
store that never forgets, no challenge is both pending and consumed, so it
is enough that consumed ones stay out of the real store's pending table,
however soon the consumption itself is forgotten.
-/
import StayKey.Door.AntiReplay

namespace StayKey.Door

open StayKey.Codec

/-! ## The store that never forgets -/

/-- `issue` without `_gc`. -/
def ChallengeStore.issueKept (s : ChallengeStore) (now : Int) (nonce : Bytes) : Bytes × ChallengeStore :=
  (nonce, { s with pending := s.pending.set nonce now })

/-- A call of a store; a check comes with its answer. -/
inductive StoreCall where
  | issue (nonce : Bytes)
  | check (c : Bytes) (status : ChallengeStatus)
  | consume (c : Bytes)

/-- No call was made later than `now`. -/
def NotLater (l : List (Int × StoreCall)) (now : Int) : Prop := ∀ e ∈ l, e.1 ≤ now

/-- Calls on the real store and on the one that never forgets, the last one
first: at times that do not decrease, with distinct nonces, and consuming
only after an OK check at the same time. -/
inductive SideBySide (ttl : Int) : List (Int × StoreCall) → ChallengeStore → ChallengeStore → Prop
  | new : SideBySide ttl [] (.new ttl) (.new ttl)
  | issue {l : List (Int × StoreCall)} {s r : ChallengeStore} {now : Int} {nonce : Bytes}
    (hrun : SideBySide ttl l s r) (htime : NotLater l now) (hfresh : ∀ t, (t, .issue nonce) ∉ l) :
    SideBySide ttl ((now, .issue nonce) :: l) (s.issue now nonce).2 (r.issueKept now nonce).2
  | check {l : List (Int × StoreCall)} {s r : ChallengeStore} {now : Int} (c : Bytes)
    (hrun : SideBySide ttl l s r) (htime : NotLater l now) :
    SideBySide ttl ((now, .check c (s.check c now)) :: l) s r
  | consume {l : List (Int × StoreCall)} {s r : ChallengeStore} {now : Int} {c : Bytes}
    (hrun : SideBySide ttl l s r) (htime : NotLater l now) (hok : (now, .check c .ok) ∈ l) :
    SideBySide ttl ((now, .consume c) :: l) (s.consume c now) (r.consume c now)

/-! ## The tables after a call -/

namespace ChallengeStore

variable {s : ChallengeStore} {c nonce : Bytes} {now t : Int}

theorem pending_issue_iff :
    (s.issue now nonce).2.pending.get? c = some t ↔
      if c = nonce then t = now else s.pending.get? c = some t ∧ now - t ≤ s.ttl := by
  rw [issue, Dict.get?_set]
  by_cases hc : c = nonce
  · rw [if_pos hc, if_pos hc, Option.some.injEq, eq_comm]
  · rw [if_neg hc, if_neg hc, gc, Dict.get?_filter, Option.filter_eq_some_iff]
    simp

theorem consumed_issue_iff :
    (s.issue now nonce).2.consumed.get? c = some t ↔
      s.consumed.get? c = some t ∧ now - t ≤ s.ttl * 4 := by
  rw [issue, gc, Dict.get?_filter, Option.filter_eq_some_iff]
  simp

theorem pending_issueKept : (s.issueKept now nonce).2.pending.get? c
    = if c = nonce then some now else s.pending.get? c := Dict.get?_set s.pending nonce c now

theorem pending_consume_get (c' : Bytes) : (s.consume c now).pending.get? c'
    = if c' = c then none else s.pending.get? c' := Dict.get?_pop s.pending c c'

theorem pending_consume_iff {c' : Bytes} :
    (s.consume c now).pending.get? c' = some t ↔ c' ≠ c ∧ s.pending.get? c' = some t := by
  rw [pending_consume_get]
  by_cases hc : c' = c
  · simp [hc]
  · simp [hc]

theorem consumed_consume_get (c' : Bytes) : (s.consume c now).consumed.get? c'
    = if c' = c then some now else s.consumed.get? c' := Dict.get?_set s.consumed c c' now

theorem check_eq_replayed_iff : s.check c now = .replayed ↔ ∃ t, s.consumed.get? c = some t := by
  rw [check, ← Option.isSome_iff_exists]
  split
  · rename_i h
    exact iff_of_true rfl h
  · rename_i h
    refine iff_of_false ?_ h
    split
    · simp
    · split <;> simp

/-- **Right after an issue** nothing is older than the limit of its table. -/
theorem ages_issue (httl : 0 ≤ s.ttl) (now : Int) (nonce : Bytes) :
    (∀ c t, (s.issue now nonce).2.pending.get? c = some t → now - t ≤ s.ttl) ∧
      ∀ c t, (s.issue now nonce).2.consumed.get? c = some t → now - t ≤ 4 * s.ttl := by
  constructor
  · intro c t h
    have h := pending_issue_iff.mp h
    split at h
    · omega
    · exact h.2
  · intro c t h
    have := (consumed_issue_iff.mp h).2
    omega

end ChallengeStore

/-! ## What holds between the two stores -/

/-- The real store `s` against the one that never forgets, `r`. -/
structure Agrees (ttl : Int) (l : List (Int × StoreCall)) (s r : ChallengeStore) : Prop where
  ttl_s : s.ttl = ttl
  ttl_r : r.ttl = ttl
  /-- What `s` knows, `r` knows. -/
  pending : ∀ c t, s.pending.get? c = some t → r.pending.get? c = some t
  consumed : ∀ c t, s.consumed.get? c = some t → r.consumed.get? c = some t
  /-- What `s` forgot was too old at some call. -/
  dropped : ∀ c t, r.pending.get? c = some t → s.pending.get? c = some t ∨ ∃ e ∈ l, ttl < e.1 - t
  forgotten : ∀ c t, r.consumed.get? c = some t →
    s.consumed.get? c = some t ∨ ∃ e ∈ l, ttl * 4 < e.1 - t
  apart : ∀ c t, r.pending.get? c = some t → r.consumed.get? c = none
  issued : ∀ c, (r.pending.get? c).isSome ∨ (r.consumed.get? c).isSome → ∃ t, (t, .issue c) ∈ l
  /-- A challenge that passed a check is pending, or was consumed since. -/
  checked : ∀ c u, (u, .check c .ok) ∈ l → (r.pending.get? c).isSome ∧ r.consumed.get? c = none ∨
    ∃ v, r.consumed.get? c = some v ∧ u ≤ v
  /-- The time of a consumption is on record. -/
  spent : ∀ c t, (t, .consume c) ∈ l → r.consumed.get? c = some t

variable {ttl now : Int} {l : List (Int × StoreCall)} {s r : ChallengeStore} {c nonce : Bytes}

theorem Agrees.ok_iff (h : Agrees ttl l s r) (htime : NotLater l now) :
    s.check c now = .ok ↔ r.check c now = .ok := by
  rw [ChallengeStore.check_eq_ok_iff, ChallengeStore.check_eq_ok_iff]
  constructor
  · rintro ⟨-, t, ht, hage⟩
    exact ⟨h.apart c t (h.pending c t ht), t, h.pending c t ht, by rw [h.ttl_r, ← h.ttl_s]; exact hage⟩
  · rintro ⟨hnone, t, ht, hage⟩
    rw [h.ttl_r] at hage
    refine ⟨?_, t, ?_, by rw [h.ttl_s]; exact hage⟩
    · cases hc : s.consumed.get? c with
      | none => rfl
      | some v => rw [h.consumed c v hc] at hnone; cases hnone
    · rcases h.dropped c t ht with hs | ⟨e, he, hold⟩
      · exact hs
      · have := htime e he
        omega

theorem Agrees.replayed (h : Agrees ttl l s r) (hs : s.check c now = .replayed) :
    r.check c now = .replayed := by
  obtain ⟨t, ht⟩ := ChallengeStore.check_eq_replayed_iff.mp hs
  exact ChallengeStore.check_eq_replayed_iff.mpr ⟨t, h.consumed c t ht⟩

/-- A consumption within the limit is not forgotten. -/
theorem Agrees.replayed_of_recent (h : Agrees ttl l s r) (htime : NotLater l now) {t : Int}
    (hspent : (t, .consume c) ∈ l) (hrecent : now - t ≤ 4 * ttl) : s.check c now = .replayed := by
  refine ChallengeStore.check_eq_replayed_iff.mpr ⟨t, ?_⟩
  rcases h.forgotten c t (h.spent c t hspent) with hs | ⟨e, he, hold⟩
  · exact hs
  · have := htime e he
    omega

theorem agrees_new (ttl : Int) : Agrees ttl [] (.new ttl) (.new ttl) where
  ttl_s := rfl
  ttl_r := rfl
  pending _ _ h := h
  consumed _ _ h := h
  dropped _ _ h := .inl h
  forgotten _ _ h := .inl h
  apart _ _ _ := rfl
  issued _ h := by rcases h with h | h <;> cases h
  checked _ _ h := by cases h
  spent _ _ h := by cases h

theorem agrees_issue (h : Agrees ttl l s r) (hfresh : ∀ t, (t, .issue nonce) ∉ l) :
    Agrees ttl ((now, .issue nonce) :: l) (s.issue now nonce).2 (r.issueKept now nonce).2 := by
  -- the nonce is in no table yet
  have hunknown : r.pending.get? nonce = none ∧ r.consumed.get? nonce = none := by
    refine ⟨Option.not_isSome_iff_eq_none.mp fun hp => ?_, Option.not_isSome_iff_eq_none.mp fun hc => ?_⟩
    · obtain ⟨t, ht⟩ := h.issued nonce (.inl hp)
      exact hfresh t ht
    · obtain ⟨t, ht⟩ := h.issued nonce (.inr hc)
      exact hfresh t ht
  constructor
  case ttl_s => exact h.ttl_s
  case ttl_r => exact h.ttl_r
  case pending =>
    intro c t ht
    rw [ChallengeStore.pending_issueKept]
    have ht := ChallengeStore.pending_issue_iff.mp ht
    split at ht
    · rename_i hc; rw [if_pos hc, ht]
    · rename_i hc; rw [if_neg hc]; exact h.pending c t ht.1
  case consumed => exact fun c t ht => h.consumed c t (ChallengeStore.consumed_issue_iff.mp ht).1
  case dropped =>
    intro c t ht
    rw [ChallengeStore.pending_issueKept] at ht
    rw [ChallengeStore.pending_issue_iff, h.ttl_s]
    by_cases hc : c = nonce
    · rw [if_pos hc, Option.some.injEq] at ht
      exact .inl (by rw [if_pos hc]; exact ht.symm)
    rw [if_neg hc] at ht ⊢
    rcases h.dropped c t ht with hs | hold
    · by_cases hage : now - t ≤ ttl
      · exact .inl ⟨hs, hage⟩
      · exact .inr ⟨_, List.mem_cons_self, Int.not_le.mp hage⟩
    · exact .inr (List.exists_mem_cons_of_exists hold)
  case forgotten =>
    intro c t ht
    rw [ChallengeStore.consumed_issue_iff, h.ttl_s]
    rcases h.forgotten c t ht with hs | hold
    · by_cases hage : now - t ≤ ttl * 4
      · exact .inl ⟨hs, hage⟩
      · exact .inr ⟨_, List.mem_cons_self, Int.not_le.mp hage⟩
    · exact .inr (List.exists_mem_cons_of_exists hold)
  case apart =>
    intro c t ht
    rw [ChallengeStore.pending_issueKept] at ht
    by_cases hc : c = nonce
    · exact hc ▸ hunknown.2
    · rw [if_neg hc] at ht
      exact h.apart c t ht
  case issued =>
    intro c hc
    rw [ChallengeStore.pending_issueKept] at hc
    by_cases hn : c = nonce
    · exact ⟨now, hn ▸ List.mem_cons_self⟩
    · rw [if_neg hn] at hc
      obtain ⟨t, ht⟩ := h.issued c hc
      exact ⟨t, List.mem_cons_of_mem _ ht⟩
  case checked =>
    intro c u hu
    rw [ChallengeStore.pending_issueKept]
    rcases h.checked c u (by simpa using hu) with ⟨hp, hnone⟩ | hspent
    · refine .inl ⟨?_, hnone⟩
      split
      · rfl
      · exact hp
    · exact .inr hspent
  case spent => exact fun c t ht => h.spent c t (by simpa using ht)

theorem agrees_check (h : Agrees ttl l s r) (htime : NotLater l now) :
    Agrees ttl ((now, .check c (s.check c now)) :: l) s r where
  ttl_s := h.ttl_s
  ttl_r := h.ttl_r
  pending := h.pending
  consumed := h.consumed
  dropped c t ht := (h.dropped c t ht).imp_right List.exists_mem_cons_of_exists
  forgotten c t ht := (h.forgotten c t ht).imp_right List.exists_mem_cons_of_exists
  apart := h.apart
  issued c hc := (h.issued c hc).imp fun t ht => List.mem_cons_of_mem _ ht
  checked c' u hu := by
    rcases List.mem_cons.mp hu with heq | hu
    · rw [Prod.mk.injEq, StoreCall.check.injEq] at heq
      obtain ⟨-, rfl, hok⟩ := heq
      obtain ⟨hnone, t, ht, -⟩ := ChallengeStore.check_eq_ok_iff.mp ((h.ok_iff htime).mp hok.symm)
      exact .inl ⟨by rw [ht]; rfl, hnone⟩
    · exact h.checked c' u hu
  spent c t ht := h.spent c t (by simpa using ht)

theorem agrees_consume (h : Agrees ttl l s r) (htime : NotLater l now) (hok : (now, .check c .ok) ∈ l) :
    Agrees ttl ((now, .consume c) :: l) (s.consume c now) (r.consume c now) := by
  constructor
  case ttl_s => exact h.ttl_s
  case ttl_r => exact h.ttl_r
  case pending =>
    intro c' t ht
    obtain ⟨hc, ht⟩ := ChallengeStore.pending_consume_iff.mp ht
    exact ChallengeStore.pending_consume_iff.mpr ⟨hc, h.pending c' t ht⟩
  case consumed =>
    intro c' t ht
    rw [ChallengeStore.consumed_consume_get] at ht ⊢
    split at ht
    · rename_i hc; rw [if_pos hc]; exact ht
    · rename_i hc; rw [if_neg hc]; exact h.consumed c' t ht
  case dropped =>
    intro c' t ht
    obtain ⟨hc, ht⟩ := ChallengeStore.pending_consume_iff.mp ht
    rcases h.dropped c' t ht with hs | hold
    · exact .inl (ChallengeStore.pending_consume_iff.mpr ⟨hc, hs⟩)
    · exact .inr (List.exists_mem_cons_of_exists hold)
  case forgotten =>
    intro c' t ht
    rw [ChallengeStore.consumed_consume_get] at ht ⊢
    split at ht
    · rename_i hc; rw [if_pos hc]; exact .inl ht
    · rename_i hc; rw [if_neg hc]; exact (h.forgotten c' t ht).imp_right List.exists_mem_cons_of_exists
  case apart =>
    intro c' t ht
    obtain ⟨hc, ht⟩ := ChallengeStore.pending_consume_iff.mp ht
    rw [ChallengeStore.consumed_consume_get, if_neg hc]
    exact h.apart c' t ht
  case issued =>
    intro c' hc
    rw [ChallengeStore.pending_consume_get, ChallengeStore.consumed_consume_get] at hc
    by_cases hcc : c' = c
    · have hknown : (r.pending.get? c).isSome ∨ (r.consumed.get? c).isSome := by
        rcases h.checked c now hok with ⟨hp, -⟩ | ⟨v, hv, -⟩
        · exact .inl hp
        · exact .inr (by rw [hv]; rfl)
      obtain ⟨t, ht⟩ := h.issued c hknown
      exact ⟨t, List.mem_cons_of_mem _ (hcc ▸ ht)⟩
    · rw [if_neg hcc, if_neg hcc] at hc
      obtain ⟨t, ht⟩ := h.issued c' hc
      exact ⟨t, List.mem_cons_of_mem _ ht⟩
  case checked =>
    intro c' u hu
    have hu : (u, .check c' .ok) ∈ l := by simpa using hu
    rw [ChallengeStore.pending_consume_get, ChallengeStore.consumed_consume_get]
    by_cases hcc : c' = c
    · exact .inr ⟨now, if_pos hcc, htime _ hu⟩
    · rw [if_neg hcc, if_neg hcc]
      exact h.checked c' u hu
  case spent =>
    intro c' t ht
    rw [ChallengeStore.consumed_consume_get]
    rcases List.mem_cons.mp ht with heq | hin
    · rw [Prod.mk.injEq, StoreCall.consume.injEq] at heq
      obtain ⟨rfl, rfl⟩ := heq
      exact if_pos rfl
    · by_cases hcc : c' = c
      · -- consumed before: then that was at this same time
        subst hcc
        have hold := h.spent c' t hin
        rcases h.checked c' now hok with ⟨-, hnone⟩ | ⟨v, hv, hle⟩
        · rw [hold] at hnone; cases hnone
        · rw [hold, Option.some.injEq] at hv
          have := htime _ hin
          rw [if_pos rfl]
          congr 1
          omega
      · rw [if_neg hcc]
        exact h.spent c' t hin

/-- The two stores agree along the run. -/
theorem SideBySide.agrees (h : SideBySide ttl l s r) : Agrees ttl l s r := by
  induction h with
  | new => exact agrees_new ttl
  | issue _ _ hfresh ih => exact agrees_issue ih hfresh
  | check c _ htime ih => exact agrees_check ih htime
  | consume _ htime hok ih => exact agrees_consume ih htime hok

/-- **Garbage collection is invisible to acceptance**: at every point of a
run, whatever is checked next, and right after the next issue. -/
theorem gc_invisible (httl : 0 ≤ ttl) (h : SideBySide ttl l s r) :
    (∀ c now, NotLater l now → (s.check c now = .ok ↔ r.check c now = .ok)) ∧
    (∀ c now, NotLater l now → s.check c now = .replayed → r.check c now = .replayed) ∧
    (∀ c now t, NotLater l now → (t, .consume c) ∈ l → now - t ≤ 4 * ttl →
      r.check c now = .replayed → s.check c now = .replayed) ∧
    (∀ c, ¬ ((s.pending.get? c).isSome ∧ (s.consumed.get? c).isSome)) ∧
    ∀ now nonce, (∀ c t, (s.issue now nonce).2.pending.get? c = some t → now - t ≤ ttl) ∧
      ∀ c t, (s.issue now nonce).2.consumed.get? c = some t → now - t ≤ 4 * ttl := by
  have ha := h.agrees
  refine ⟨fun _ _ htime => ha.ok_iff htime, fun _ _ _ => ha.replayed,
    fun _ _ _ htime hspent hrecent _ => ha.replayed_of_recent htime hspent hrecent, ?_,
    fun now nonce => ?_⟩
  · rintro c ⟨hp, hc⟩
    obtain ⟨t, ht⟩ := Option.isSome_iff_exists.mp hp
    obtain ⟨v, hv⟩ := Option.isSome_iff_exists.mp hc
    have hnone := ha.apart c t (ha.pending c t ht)
    rw [ha.consumed c v hv] at hnone
    cases hnone
  · have hages := ChallengeStore.ages_issue (s := s) (by rw [ha.ttl_s]; exact httl) now nonce
    rwa [ha.ttl_s] at hages

/-- The calls of one unlock: a challenge is issued, checked and consumed. -/
theorem sideBySide_unlock : SideBySide 30
    [(1010, .consume [7]), (1010, .check [7] .ok), (1000, .issue [7])]
    (((ChallengeStore.new 30).issue 1000 [7]).2.consume [7] 1010)
    (((ChallengeStore.new 30).issueKept 1000 [7]).2.consume [7] 1010) := by
  have hissue : SideBySide 30 [(1000, .issue [7])] ((ChallengeStore.new 30).issue 1000 [7]).2
      ((ChallengeStore.new 30).issueKept 1000 [7]).2 := .issue .new nofun nofun
  have hcheck : SideBySide 30 [(1010, .check [7] .ok), (1000, .issue [7])]
      ((ChallengeStore.new 30).issue 1000 [7]).2 ((ChallengeStore.new 30).issueKept 1000 [7]).2 :=
    .check [7] hissue (by simp [NotLater])
  exact .consume hcheck (by simp [NotLater]) List.mem_cons_self

/-- Ten seconds later the challenge counts as replayed, and no later check
accepts it. -/
theorem gc_invisible_unlock :
    (((ChallengeStore.new 30).issue 1000 [7]).2.consume [7] 1010).check [7] 1020 = .replayed ∧
      ¬ (((ChallengeStore.new 30).issue 1000 [7]).2.consume [7] 1010).check [7] 9999 = .ok := by
  obtain ⟨hok, -, hrecent, -⟩ := gc_invisible (by decide) sideBySide_unlock
  refine ⟨hrecent [7] 1020 1010 ?_ List.mem_cons_self (by decide) rfl, fun h => ?_⟩
  · simp [NotLater]
  · have hkept := (hok [7] 9999 (by simp [NotLater])).mp h
    cases hkept

end StayKey.Door
