/-
StayKey.Door.Availability — denied presentations cannot keep a guest out.

A call of `finish_unlock` that does not unlock leaves the lock as it was
(`finishUnlock_of_denied`). So of all that others do at a door while a
guest's challenge waits to be answered (`Meanwhile`), only `begin_unlock`
touches the challenges, and its garbage collection keeps one that is still
acceptable: `meanwhile_open` is the invariant, and with it the guest's own
answer comes down to `finishUnlock_issue`.
-/
import StayKey.Door.GarbageCollection
import StayKey.Door.LockTheorems

namespace StayKey.Door

open StayKey.Codec

variable {E : Env}

/-- **A call that does not unlock leaves the lock as it was**: pending and
consumed challenges, and the snapshot. -/
theorem finishUnlock_of_denied {l : LockVerifier} {token : PyStr} {challenge response : Bytes} {now : Int}
    (h : unlocks (l.finishUnlock E token challenge response now).1 = false) :
    (l.finishUnlock E token challenge response now).2 = l := by
  have huses := finishUnlock_uses (E := E) l token challenge response now
  rw [UsesChallenge, h, if_neg Bool.false_ne_true] at huses
  rw [finishUnlock_snd, huses]

/-- From the lock `l`, once `c` is issued at `t0`, to a lock at which it may
be answered at `t1`: meanwhile others begin unlocks, with nonces of their
own, present whatever they like in vain, at whatever time, and the snapshot
is synced. -/
inductive Meanwhile (E : Env) (c : Bytes) (t0 t1 : Int) (l : LockVerifier) : LockVerifier → Prop
  | issued : Meanwhile E c t0 t1 l (l.beginUnlock t0 c).2
  | beginUnlock {m : LockVerifier} (hm : Meanwhile E c t0 t1 l m) {now : Int} {nonce : Bytes}
    (hfrom : t0 ≤ now) (hto : now ≤ t1) (hfresh : nonce ≠ c) :
    Meanwhile E c t0 t1 l (m.beginUnlock now nonce).2
  | finishUnlock {m : LockVerifier} (hm : Meanwhile E c t0 t1 l m) {token : PyStr}
    {challenge response : Bytes} {now : Int}
    (hdenied : unlocks (m.finishUnlock E token challenge response now).1 = false) :
    Meanwhile E c t0 t1 l (m.finishUnlock E token challenge response now).2
  | syncRevocations {m : LockVerifier} (hm : Meanwhile E c t0 t1 l m) (revoked : List PyStr) :
    Meanwhile E c t0 t1 l (m.syncRevocations revoked)

/-- What is kept of the lock `l` meanwhile: its identity, and the challenge. -/
structure Open (l : LockVerifier) (c : Bytes) (t0 : Int) (m : LockVerifier) : Prop where
  propertyId : m.propertyId = l.propertyId
  roomId : m.roomId = l.roomId
  propertyPub : m.propertyPub = l.propertyPub
  ttl : m.challenges.ttl = l.challenges.ttl
  pending : m.challenges.pending.get? c = some t0
  unconsumed : m.challenges.consumed.get? c = none

variable {l m : LockVerifier} {c : Bytes} {t0 t1 : Int}

theorem ChallengeStore.consumed_issue_none {s : ChallengeStore} (h : s.consumed.get? c = none) (now : Int)
    (nonce : Bytes) : (s.issue now nonce).2.consumed.get? c = none := by
  refine Option.eq_none_iff_forall_ne_some.mpr fun t ht => ?_
  have hold := (ChallengeStore.consumed_issue_iff.mp ht).1
  rw [h] at hold
  cases hold

theorem open_issued (hnew : l.challenges.consumed.get? c = none) :
    Open l c t0 (l.beginUnlock t0 c).2 where
  propertyId := rfl
  roomId := rfl
  propertyPub := rfl
  ttl := rfl
  pending := ChallengeStore.pending_issue_iff.mpr (by rw [if_pos rfl])
  unconsumed := ChallengeStore.consumed_issue_none hnew t0 c

/-- Garbage collection keeps a challenge that is still acceptable. -/
theorem open_beginUnlock (h : Open l c t0 m) {now : Int} {nonce : Bytes}
    (hage : now - t0 ≤ l.challenges.ttl) (hfresh : nonce ≠ c) : Open l c t0 (m.beginUnlock now nonce).2 where
  propertyId := h.propertyId
  roomId := h.roomId
  propertyPub := h.propertyPub
  ttl := h.ttl
  pending := by
    refine ChallengeStore.pending_issue_iff.mpr ?_
    rw [if_neg hfresh.symm, h.ttl]
    exact ⟨h.pending, hage⟩
  unconsumed := ChallengeStore.consumed_issue_none h.unconsumed now nonce

theorem meanwhile_open (h : Meanwhile E c t0 t1 l m) (hnew : l.challenges.consumed.get? c = none)
    (httl : t1 ≤ t0 + l.challenges.ttl) : Open l c t0 m := by
  induction h with
  | issued => exact open_issued hnew
  | beginUnlock _ hfrom hto hfresh ih => exact open_beginUnlock ih (by omega) hfresh
  | finishUnlock _ hdenied ih => rw [finishUnlock_of_denied hdenied]; exact ih
  | syncRevocations _ revoked ih => exact ⟨ih.1, ih.2, ih.3, ih.4, ih.5, ih.6⟩

/-- **Denied presentations cannot hurt a guest**: they leave the lock as it
was, and whatever was presented in vain meanwhile, the guest's own answer
to a challenge in its lifetime unlocks. -/
theorem denied_presentations_harmless :
    (∀ (l : LockVerifier) (token : PyStr) (challenge response : Bytes) (now : Int) (d : Decision),
      (l.finishUnlock E token challenge response now).1 = .ok d → d.unlocked = false →
        (l.finishUnlock E token challenge response now).2 = l) ∧
    (E.ed.Correct → ∀ (sk : PrivateKey) (a : CredentialIn) (fresh : Fresh) (ik : IssuedKey),
      issueCredential E sk a fresh = .ok ik →
      ∀ (l m : LockVerifier) (c response : Bytes) (t0 t1 : Int),
        l.propertyPub = E.ed.publicKey sk → l.propertyId = a.propertyId → l.roomId ∈ a.roomIds →
        a.validFrom ≤ t1 → t1 ≤ a.validUntil →
        l.challenges.consumed.get? c = none → t1 ≤ t0 + l.challenges.ttl →
        Meanwhile E c t0 t1 l m → py ik.keyId ∉ m.revoked →
        deviceSign E ik.deviceSkB64 c = .ok response →
          (m.finishUnlock E ik.token c response t1).1 = .ok (.unlock (py ik.keyId))) := by
  constructor
  · intro l token challenge response now d hd hdenied
    refine finishUnlock_of_denied ?_
    rw [hd]
    exact hdenied
  · intro hE sk a fresh ik hik l m c response t0 t1 hpub hproperty hroom hfrom huntil hnew httl hm hkey
      hresponse
    have ho := meanwhile_open hm hnew httl
    have hpub : m.propertyPub = E.ed.publicKey sk := by rw [ho.propertyPub, hpub]
    have haccept : m.challenges.Acceptable c t1 :=
      ⟨ho.unconsumed, t0, ho.pending, by rw [ho.ttl]; omega⟩
    refine (finishUnlock_issue hE hik hpub hresponse t1).mpr ⟨?_, ?_, hfrom, huntil, hkey, haccept⟩
    · rw [ho.propertyId, hproperty]
    · rw [ho.roomId]; exact hroom

/-- At the sample lock, the last second of the challenge: an empty token was
presented with it, another unlock was begun, and a snapshot with another
key was synced. -/
theorem denied_presentations_harmless_sample :
    ∃ ik response, issueCredential Env.sample sampleKey sampleCredential sampleFresh = .ok ik ∧
      ((((((sampleLock.beginUnlock 1000 [7]).2.finishUnlock Env.sample [] [7] [] 1001).2.beginUnlock 1030
        [8]).2.syncRevocations [py "k2"]).finishUnlock Env.sample ik.token [7] response 1030).1
          = .ok (.unlock (py ik.keyId))) := by
  obtain ⟨ik, hik⟩ := issueCredential_isOk (E := Env.sample) sampleCredential_writable (by decide)
    sampleKey sampleFresh
  refine ⟨ik, Env.sample.ed.sign (sampleCredential.device sampleFresh) [7], hik, ?_⟩
  have hkey : ik.keyId = "k1" := by obtain ⟨_, _, _, rfl⟩ := issueCredential_ok hik; rfl
  have hmeanwhile : Meanwhile Env.sample [7] 1000 1030 sampleLock
      ((((sampleLock.beginUnlock 1000 [7]).2.finishUnlock Env.sample [] [7] [] 1001).2.beginUnlock 1030
        [8]).2.syncRevocations [py "k2"]) := by
    refine .syncRevocations (.beginUnlock (.finishUnlock .issued rfl) ?_ ?_ ?_) _
    · decide
    · decide
    · decide
  refine (denied_presentations_harmless (E := Env.sample)).2 Env.sample_correct _ _ _ _ hik _ _ _ _ _ _
    rfl rfl (by decide) (by decide) (by decide) rfl (by decide) hmeanwhile ?_ (deviceSign_issue hik _)
  rw [hkey]
  decide

end StayKey.Door
