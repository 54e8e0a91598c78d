/-
StayKey.Service.ChallengeLife — a challenge from its issue to its answer,
among other requests.

A challenge is issued at the lock object that its request was given. There
it is unseen before, and from then on it waits to be answered, until a
request is answered positively with it. Presentations in vain do not touch
it, and neither does the garbage collection that comes with other challenges
of the door, as long as these are asked for within its lifetime
(`challengeLife_run`). That the answer is looked for at this object and at
no other is due to the registry (`LockStays`).
-/
import StayKey.Door.Availability
import StayKey.Service.ServedLocks

namespace StayKey.Service

open StayKey.Codec StayKey.Door StayKey.Store StayKey.Program

variable {ι : Type} {E : Env} {sk : PrivateKey} {propertyId : String}

/-! ## In the challenge store -/

/-- The challenge, issued at `t`, waits to be answered. -/
def Waits (store : ChallengeStore) (c : Bytes) (t : Int) : Prop :=
  store.pending.get? c = some t ∧ store.consumed.get? c = none

def Unseen (store : ChallengeStore) (c : Bytes) : Prop :=
  store.pending.get? c = none ∧ store.consumed.get? c = none

section Store

variable {store : ChallengeStore} {c c' : Bytes} {t now : Int}

theorem waits_issue (h : store.consumed.get? c = none) (now : Int) : Waits (store.issue now c).2 c now :=
  ⟨ChallengeStore.pending_issue_iff.mpr (by rw [if_pos rfl]), ChallengeStore.consumed_issue_none h now c⟩

/-- Garbage collection keeps a challenge in its lifetime. -/
theorem Waits.issue (h : Waits store c t) (hne : c ≠ c') (hage : now - t ≤ store.ttl) :
    Waits (store.issue now c').2 c t := by
  refine ⟨ChallengeStore.pending_issue_iff.mpr ?_, ChallengeStore.consumed_issue_none h.2 now c'⟩
  rw [if_neg hne]
  exact ⟨h.1, hage⟩

theorem Waits.consume (h : Waits store c t) (hne : c ≠ c') : Waits (store.consume c' now) c t := by
  refine ⟨ChallengeStore.pending_consume_iff.mpr ⟨hne, h.1⟩, ?_⟩
  rw [ChallengeStore.consumed_consume_get, if_neg hne]
  exact h.2

theorem Waits.acceptable (h : Waits store c t) (hage : now - t ≤ store.ttl) : store.Acceptable c now :=
  ⟨h.2, t, h.1, hage⟩

theorem Unseen.issue (h : Unseen store c) (hne : c ≠ c') (now : Int) : Unseen (store.issue now c').2 c := by
  refine ⟨Option.eq_none_iff_forall_ne_some.mpr fun t ht => ?_,
    ChallengeStore.consumed_issue_none h.2 now c'⟩
  rw [ChallengeStore.pending_issue_iff, if_neg hne, h.1] at ht
  cases ht.1

theorem Unseen.consume (h : Unseen store c) (hne : c ≠ c') (now : Int) : Unseen (store.consume c' now) c := by
  refine ⟨?_, ?_⟩
  · rw [ChallengeStore.pending_consume_get, if_neg hne]
    exact h.1
  · rw [ChallengeStore.consumed_consume_get, if_neg hne]
    exact h.2

end Store

/-! ## Turns -/

section Turns

variable [DecidableEq ι] {req : ι → Request × Draw} {s t : MemServing ι} {i q u : ι} {roomId ref : Int}
  {h : List (MemTurn ι)}

/-- The request has been answered positively. -/
def Admitted (s : MemServing ι) (i : ι) : Prop := ∃ o, (s.prog i).outcome? = some o ∧ positive o = true

theorem Admitted.turn {j : ι} (h : Admitted s j) (i : ι) : Admitted (s.turn (execMem E) i) j := by
  obtain ⟨o, ho, hpositive⟩ := h
  exact ⟨o, by rw [Threads.ended_turn (execMem E) ho]; exact ho, hpositive⟩

/-- A new lock changes no challenge store. -/
theorem challenges_register (roomId : Int) (room : Option RoomRow) (revoked : List String) (m : Memory)
    (v : Verifier Int) : (execMem E (.register roomId room revoked) m).2.app.challenges E v
      = m.app.challenges E v := by
  refine challenges_setLock ?_ v
  rw [challenges_lock, get?_freshRef]
  rfl

/-- What a turn does to the challenges of a lock. -/
theorem challenges_turn (hs : Served E sk propertyId req s) (ref : Int) (i : ι) :
    (s.turn (execMem E) i).shared.app.challenges E (.lock ref) = s.shared.app.challenges E (.lock ref) ∨
    (∃ roomId now c, LockAt s.shared.app ref roomId ∧ drawnAt? (req i) = some (.lock roomId, now, c) ∧
      ((s.turn (execMem E) i).prog i).outcome? ≠ none ∧
      (s.turn (execMem E) i).shared.app.challenges E (.lock ref)
        = ((s.shared.app.challenges E (.lock ref)).issue now c).2) ∨
    ∃ roomId now c, LockAt s.shared.app ref roomId ∧ presentedAt? (req i).1 = some (.lock roomId, c) ∧
      Admitted (s.turn (execMem E) i) i ∧
      (s.turn (execMem E) i).shared.app.challenges E (.lock ref)
        = (s.shared.app.challenges E (.lock ref)).consume c now := by
  have howns := hs.owns i
  have hends := hs.ends i
  cases hp : s.prog i with
  | ret a => exact .inl (by rw [Threads.turn_of_ended (o := .ok a) (by rw [hp]; rfl)])
  | throw e => exact .inl (by rw [Threads.turn_of_ended (o := .error e) (by rw [hp]; rfl)])
  | call op k =>
    rw [hp] at howns hends
    have hown := (howns s.shared (.refl _)).1
    rw [Threads.shared_turn hp, Threads.prog_turn_self, hp]
    cases op with
    | registered => exact .inl rfl
    | register roomId room revoked => exact .inl (challenges_register ..)
    | api op =>
      have hsame (hop : op.KeepsChallenges) := challenges_execApi (E := E) hop s.shared.app (.lock ref)
      cases op with
      | issue v now c =>
        by_cases hv : Verifier.lock ref = v
        · subst hv
          obtain ⟨roomId, hlock, hdrawn⟩ := hown
          obtain ⟨a, ha⟩ := hends.1 c
          refine .inr (.inl ⟨roomId, now, c, hlock, hdrawn, ?_, challenges_set_self s.shared.app (.lock ref) _⟩)
          show (k c).outcome? ≠ none
          rw [ha]
          exact Option.some_ne_none _
        · exact .inl (challenges_set_of_ne hv _)
      | consume v c now =>
        by_cases hv : Verifier.lock ref = v
        · subst hv
          obtain ⟨roomId, hlock, hpresented⟩ := hown
          obtain ⟨a, ha, hpositive⟩ := hends.1
          refine .inr (.inr ⟨roomId, now, c, hlock, hpresented, ?_, challenges_set_self s.shared.app (.lock ref) _⟩)
          refine ⟨.ok a, ?_, hpositive⟩
          rw [Threads.prog_turn_self, hp]
          show (k ()).outcome? = _
          rw [ha]
          rfl
        · exact .inl (challenges_set_of_ne hv _)
      | store | lockFor | syncRevocations | lockStatic | connectedStatic | activeAssignment | stayByText
      | check => exact .inl (hsame trivial)

/-- The challenge that `q` draws, at the lock object: before it is issued. -/
inductive NotIssued (E : Env) (req : ι → Request × Draw) (s : MemServing ι) (q : ι) (ref : Int) : Prop
  | ended (h : (s.prog q).outcome? ≠ none)
  | unseen (h : Unseen (s.shared.app.challenges E (.lock ref)) (req q).2.nonce)
  | answered (j : ι) (roomId : Int) (hlock : LockAt s.shared.app ref roomId)
      (hpresented : presentedAt? (req j).1 = some (.lock roomId, (req q).2.nonce)) (hadmitted : Admitted s j)

theorem NotIssued.turn (hnonces : NoncesDistinct req) (hq : drawnNonce? (req q) = some (req q).2.nonce)
    (hs : Served E sk propertyId req s) (h : NotIssued E req s q ref) (i : ι) :
    NotIssued E req (s.turn (execMem E) i) q ref := by
  cases h with
  | ended h =>
    obtain ⟨o, ho⟩ := Option.ne_none_iff_exists'.mp h
    exact .ended (by rw [Threads.ended_turn (execMem E) ho]; exact h)
  | answered j roomId hlock hpresented hadmitted =>
    exact .answered j roomId ((since_turn s i).locks _ _ hlock) hpresented (hadmitted.turn i)
  | unseen h =>
    obtain hsame | ⟨roomId, now, c, hlock, hdrawn, hended, hissue⟩ |
      ⟨roomId, now, c, hlock, hpresented, hadmitted, hconsume⟩ := challenges_turn hs ref i
    · exact .unseen (by rw [hsame]; exact h)
    · by_cases hiq : i = q
      · subst hiq
        exact .ended hended
      · refine .unseen ?_
        rw [hissue]
        refine h.issue (fun hc => hiq ?_) now
        exact hnonces i q c (drawnNonce?_of_drawnAt? hdrawn) (hq.trans (congrArg some hc))
    · by_cases hc : (req q).2.nonce = c
      · subst hc
        exact .answered i roomId ((since_turn s i).locks _ _ hlock) hpresented hadmitted
      · exact .unseen (by rw [hconsume]; exact h.consume hc now)

theorem notIssued_run (hnonces : NoncesDistinct req) (hq : drawnNonce? (req q) = some (req q).2.nonce)
    (ht : Served E sk propertyId req t) (hstart : NotIssued E req t q ref) (hs : Schedule (execMem E) t h s) :
    NotIssued E req s q ref := by
  induction hs with
  | nil => exact hstart
  | cons i hs ih => exact ih.turn hnonces hq (ht.run hs) i

/-- Where the challenge that `q` asks for is in its life, at the lock of the
registry. -/
inductive ChallengeLife (E : Env) (req : ι → Request × Draw) (s : MemServing ι) (q : ι)
    (roomId ref : Int) : Prop
  | unseen (hprog : (s.prog q = lockForCall roomId >>= fun ref => challengeAt ref (req q).2) ∨
      s.prog q = challengeAt ref (req q).2)
    (hstore : Unseen (s.shared.app.challenges E (.lock ref)) (req q).2.nonce)
  | waiting (hstore : Waits (s.shared.app.challenges E (.lock ref)) (req q).2.nonce (req q).2.clock)
  | answered (j : ι) (hpresented : presentedAt? (req j).1 = some (.lock roomId, (req q).2.nonce))
      (hadmitted : Admitted s j)

theorem LockAt.unique {s : AppState} {roomId' : Int} (h : LockAt s ref roomId) (h' : LockAt s ref roomId') :
    roomId = roomId' := by
  obtain ⟨lock, hget, hroom⟩ := h
  obtain ⟨lock', hget', hroom'⟩ := h'
  obtain rfl : lock = lock' := Option.some.inj (hget.symm.trans hget')
  exact hroom.symm.trans hroom'

/-- A look-up that finds a lock is all of `lock_for`. -/
theorem lockFor_registered {k : Int → MemCall Answer} (hprog : s.prog i = lockForCall roomId >>= k)
    (hget : s.shared.registry.get? roomId = some ref) :
    (s.turn (execMem E) i).prog i = k ref ∧ (s.turn (execMem E) i).shared = s.shared := by
  obtain ⟨k', hcall, hk⟩ : ∃ k', lockForCall roomId >>= k = .call (.registered roomId) k' ∧
      k' (some ref) = k ref := ⟨_, rfl, rfl⟩
  rw [hcall] at hprog
  refine ⟨?_, Threads.shared_turn hprog⟩
  rw [Threads.prog_turn_self, hprog, Prog.next, execMem, hget]
  exact hk

/-- The request that has its lock issues its challenge. -/
theorem challenges_challengeAt {draw : Draw} (hprog : s.prog i = challengeAt ref draw) :
    (s.turn (execMem E) i).shared.app.challenges E (.lock ref)
      = ((s.shared.app.challenges E (.lock ref)).issue draw.clock draw.nonce).2 := by
  have hcall : s.prog i = .call (.api (.issue (.lock ref) (nowOr none draw.clock) draw.nonce))
      fun challenge => .ret (.challenge (b64uEncode challenge)) := hprog
  rw [Threads.shared_turn hcall]
  exact challenges_set_self s.shared.app (.lock ref) _

theorem drawnAt?_lock {r : Request × Draw} {now : Int} {c : Bytes}
    (h : drawnAt? r = some (.lock roomId, now, c)) :
    r.1 = .lockChallenge roomId ∧ now = r.2.clock ∧ c = r.2.nonce := by
  obtain ⟨req, draw⟩ := r
  cases req with
  | lockChallenge => cases h; exact ⟨rfl, rfl, rfl⟩
  | _ => cases h

/-- **What a turn does to the challenges of the door**: a request of the door
issues its own, or one that is let in consumes what it presents. -/
theorem door_turn (hs : Served E sk propertyId req s) (hlockAt : LockAt s.shared.app ref roomId) (i : ι) :
    (s.turn (execMem E) i).shared.app.challenges E (.lock ref) = s.shared.app.challenges E (.lock ref) ∨
    ((req i).1 = .lockChallenge roomId ∧ (s.turn (execMem E) i).shared.app.challenges E (.lock ref)
      = ((s.shared.app.challenges E (.lock ref)).issue (req i).2.clock (req i).2.nonce).2) ∨
    ∃ now c, presentedAt? (req i).1 = some (.lock roomId, c) ∧ Admitted (s.turn (execMem E) i) i ∧
      (s.turn (execMem E) i).shared.app.challenges E (.lock ref)
        = (s.shared.app.challenges E (.lock ref)).consume c now := by
  obtain hsame | ⟨room, now, c, hlock, hdrawn, -, hissue⟩ |
    ⟨room, now, c, hlock, hpresented, hadmitted, hconsume⟩ := challenges_turn hs ref i
  · exact .inl hsame
  · obtain rfl := hlockAt.unique hlock
    obtain ⟨hasks, rfl, rfl⟩ := drawnAt?_lock hdrawn
    exact .inr (.inl ⟨hasks, hissue⟩)
  · obtain rfl := hlockAt.unique hlock
    exact .inr (.inr ⟨now, c, hpresented, hadmitted, hconsume⟩)

omit [DecidableEq ι] in
/-- Another challenge of the door is another nonce. -/
theorem nonce_ne (hnonces : NoncesDistinct req) (hq : (req q).1 = .lockChallenge roomId)
    (hi : (req i).1 = .lockChallenge roomId) (hiq : i ≠ q) : (req q).2.nonce ≠ (req i).2.nonce := by
  intro hc
  have hdrawn {j : ι} (hj : (req j).1 = .lockChallenge roomId) : drawnNonce? (req j) = some (req j).2.nonce := by
    rw [drawnNonce?, hj]
  exact hiq (hnonces i q _ (hdrawn hi) (hc ▸ hdrawn hq))

/-- **A turn** in the life of a challenge. -/
theorem ChallengeLife.turn (hnonces : NoncesDistinct req) (hq : (req q).1 = .lockChallenge roomId)
    (hlifetime : ∀ j, (req j).1 = .lockChallenge roomId →
      (req j).2.clock ≤ (req q).2.clock + challengeTtlSeconds)
    (hs : Served E sk propertyId req s) (hstays : LockStays s roomId ref)
    (h : ChallengeLife E req s q roomId ref) (i : ι) :
    ChallengeLife E req (s.turn (execMem E) i) q roomId ref := by
  have hturn := door_turn hs (hs.filed roomId ref hstays.registered) i
  cases h with
  | answered j hpresented hadmitted => exact .answered j hpresented (hadmitted.turn i)
  | waiting hstore =>
    obtain hsame | ⟨hi, hissue⟩ | ⟨now, c, hpresented, hadmitted, hconsume⟩ := hturn
    · exact .waiting (by rw [hsame]; exact hstore)
    · refine .waiting ?_
      rw [hissue]
      by_cases hiq : i = q
      · subst hiq
        exact waits_issue hstore.2 _
      · refine hstore.issue (nonce_ne hnonces hq hi hiq) ?_
        have httl : (s.shared.app.challenges E (.lock ref)).ttl = challengeTtlSeconds :=
          (lockOf_lockFor hs.objects ref).ttl
        have hclock := hlifetime i hi
        omega
    · by_cases hc : (req q).2.nonce = c
      · exact .answered i (hc ▸ hpresented) hadmitted
      · exact .waiting (by rw [hconsume]; exact hstore.consume hc)
  | unseen hprog hstore =>
    by_cases hiq : i = q
    · -- the guest's own turn: `lock_for`, or the challenge is issued
      subst hiq
      rcases hprog with hprog | hprog
      · obtain ⟨hnext, hshared⟩ := lockFor_registered hprog hstays.registered
        refine .unseen (.inr hnext) ?_
        rw [hshared]
        exact hstore
      · refine .waiting ?_
        rw [challenges_challengeAt hprog]
        exact waits_issue hstore.2 _
    · have hprog' : (s.turn (execMem E) i).prog q = s.prog q := Threads.prog_turn_of_ne (Ne.symm hiq) s
      rw [← hprog'] at hprog
      obtain hsame | ⟨hi, hissue⟩ | ⟨now, c, hpresented, hadmitted, hconsume⟩ := hturn
      · exact .unseen hprog (by rw [hsame]; exact hstore)
      · exact .unseen hprog (by rw [hissue]; exact hstore.issue (nonce_ne hnonces hq hi hiq) _)
      · by_cases hc : (req q).2.nonce = c
        · exact .answered i (hc ▸ hpresented) hadmitted
        · exact .unseen hprog (by rw [hconsume]; exact hstore.consume hc now)

/-- **The life of a challenge**, in every run in which no nonce is drawn
twice and the other challenges of the door are asked for in its lifetime,
from a moment on from which the registry keeps the lock. -/
theorem challengeLife_run (hnonces : NoncesDistinct req) (hq : (req q).1 = .lockChallenge roomId)
    (hlifetime : ∀ j, (req j).1 = .lockChallenge roomId →
      (req j).2.clock ≤ (req q).2.clock + challengeTtlSeconds)
    (ht : Served E sk propertyId req t) (hstays : LockStays t roomId ref)
    (hlife : ChallengeLife E req t q roomId ref) (hs : Schedule (execMem E) t h s) :
    ChallengeLife E req s q roomId ref := by
  induction hs with
  | nil => exact hlife
  | cons i hs ih => exact ih.turn hnonces hq hlifetime (ht.run hs) (hstays.run hs) i

end Turns

end StayKey.Service
