/-
StayKey.Door.AntiReplay — `antireplay.py`: the single-use challenge store
shared by the locks and the connected-room authorizer.

A challenge is pending from `issue` to `consume` or to garbage collection,
which `issue` runs first. The nonce `os.urandom` returns is an argument of
`issue`; that no nonce is drawn twice is an assumption of the runs, not of
the store.
-/
import StayKey.Codec.Dict
import StayKey.Codec.PyStr

namespace StayKey.Door

open StayKey.Codec

inductive ChallengeStatus where
  | ok
  | unknown
  | replayed
  deriving DecidableEq, Repr

structure ChallengeStore where
  ttl : Int
  /-- challenge → issued_at -/
  pending : Dict Bytes Int
  /-- challenge → consumed_at -/
  consumed : Dict Bytes Int

namespace ChallengeStore

/-- `ChallengeStore(ttl_seconds, …)`. -/
def new (ttlSeconds : Int) : ChallengeStore := ⟨ttlSeconds, .empty, .empty⟩

/-- `_gc`. -/
def gc (s : ChallengeStore) (now : Int) : ChallengeStore :=
  { s with
    pending := s.pending.filter fun _ t => !decide (s.ttl < now - t)
    consumed := s.consumed.filter fun _ t => !decide (s.ttl * 4 < now - t) }

/-- `issue`; `nonce` is what `os.urandom` returned. -/
def issue (s : ChallengeStore) (now : Int) (nonce : Bytes) : Bytes × ChallengeStore :=
  let s' := s.gc now
  (nonce, { s' with pending := s'.pending.set nonce now })

/-- `check`. -/
def check (s : ChallengeStore) (challenge : Bytes) (now : Int) : ChallengeStatus :=
  if (s.consumed.get? challenge).isSome then .replayed
  else
    match s.pending.get? challenge with
    | none => .unknown
    | some issuedAt => if s.ttl < now - issuedAt then .unknown else .ok

/-- `consume`. -/
def consume (s : ChallengeStore) (challenge : Bytes) (now : Int) : ChallengeStore :=
  { s with
    pending := s.pending.pop challenge
    consumed := s.consumed.set challenge now }

/-- The challenge is pending. -/
def Pending (s : ChallengeStore) (c : Bytes) : Prop := (s.pending.get? c).isSome

/-- The challenge is pending, unconsumed and no older than the lifetime. -/
def Acceptable (s : ChallengeStore) (c : Bytes) (now : Int) : Prop :=
  s.consumed.get? c = none ∧ ∃ t, s.pending.get? c = some t ∧ now - t ≤ s.ttl

@[simp] theorem ttl_issue (s : ChallengeStore) (now : Int) (n : Bytes) :
    (s.issue now n).2.ttl = s.ttl := rfl

@[simp] theorem ttl_consume (s : ChallengeStore) (c : Bytes) (now : Int) :
    (s.consume c now).ttl = s.ttl := rfl

theorem check_eq_ok_iff {s : ChallengeStore} {c : Bytes} {now : Int} :
    s.check c now = .ok ↔ s.Acceptable c now := by
  rw [check, Acceptable]
  cases hc : s.consumed.get? c with
  | some t => simp
  | none =>
    cases hp : s.pending.get? c with
    | none => simp
    | some t => simp

theorem pending_of_acceptable {s : ChallengeStore} {c : Bytes} {now : Int}
    (h : s.Acceptable c now) : s.Pending c := by
  obtain ⟨_, t, ht, _⟩ := h
  simp [Pending, ht]

/-- Issuing makes nothing pending but the nonce. -/
theorem pending_issue {s : ChallengeStore} {now : Int} {n c : Bytes}
    (h : (s.issue now n).2.Pending c) : c = n ∨ s.Pending c := by
  by_cases hc : c = n
  · exact Or.inl hc
  · right
    rw [Pending, issue, Dict.get?_set, if_neg hc, gc, Dict.get?_filter] at h
    cases hp : s.pending.get? c with
    | none => simp [hp] at h
    | some t => simp [Pending, hp]

/-- Consuming takes the challenge out and makes nothing pending. -/
theorem pending_consume {s : ChallengeStore} {c c' : Bytes} {now : Int} :
    (s.consume c now).Pending c' ↔ c' ≠ c ∧ s.Pending c' := by
  rw [Pending, consume, Dict.get?_pop]
  by_cases h : c' = c <;> simp [h, Pending]

end ChallengeStore

end StayKey.Door
