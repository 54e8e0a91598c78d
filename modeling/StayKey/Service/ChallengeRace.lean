/-
StayKey.Service.ChallengeRace — one challenge, presented by several requests.

A verifier checks the challenge, verifies two signatures, and only then
consumes the challenge. Two requests that present the same challenge can
both have it checked before either of them consumes it, and then both are
answered positively, although the challenge store promises that a challenge
is usable exactly once.

`ChecksTaken` says that a turn accepts a challenge that another request is
about to consume. In the runs without such a turn at most one of the
requests that present a challenge is answered positively
(`challenge_answered_once`).
-/
import StayKey.Service.ConcurrentTheorems
import StayKey.Service.Permanence

namespace StayKey.Service

open StayKey.Codec StayKey.Door StayKey.Store StayKey.Program

variable {ι : Type} {E : Env} {sk : PrivateKey} {propertyId : String}

/-! ## What requests present and draw -/

/-- The challenge a request presents, and the verifier it goes to. -/
def presentedAt? : Request → Option (Verifier Int × Bytes)
  | .lockUnlock roomId body =>
    match presented body.challengeB64 body.responseB64 with
    | .ok (challenge, _) => some (.lock roomId, challenge)
    | .error _ => none
  | .roomControl _ body =>
    match presented body.challengeB64 body.responseB64 with
    | .ok (challenge, _) => some (.connected, challenge)
    | .error _ => none
  | _ => none

/-- The nonce a request draws for a challenge. -/
def drawnNonce? (r : Request × Draw) : Option Bytes :=
  match r.1 with
  | .lockChallenge _ | .roomChallenge _ => some r.2.nonce
  | _ => none

/-- The random source gives no nonce twice. -/
def NoncesDistinct (req : ι → Request × Draw) : Prop :=
  ∀ i j c, drawnNonce? (req i) = some c → drawnNonce? (req j) = some c → i = j

/-- The next statement consumes the challenge. -/
def AboutToConsume (v : Verifier Int) (c : Bytes) (p : ApiCall Answer) : Prop :=
  ∃ now k, p = .call (.consume v c now) k

/-- The next statement consumes a challenge, as a test. -/
def consuming? : ApiCall Answer → Bool
  | .call (.consume ..) _ => true
  | _ => false

theorem consuming?_eq_true {v : Verifier Int} {c : Bytes} {p : ApiCall Answer}
    (h : AboutToConsume v c p) : consuming? p = true := by
  obtain ⟨now, k, rfl⟩ := h
  rfl

variable (E) in
/-- The next statement of `i` accepts a challenge, with a response that
verifies, while another request is about to consume the challenge. -/
def ChecksTaken (s : Serving ι) (i : ι) : Prop :=
  ∃ v c now k, s.prog i = .call (.check v c now) k ∧ (s.shared.challenges E v).Acceptable c now ∧
    AboutToConsume v c (k .ok) ∧ ∃ j, j ≠ i ∧ AboutToConsume v c (s.prog j)

/-- The request has been answered positively. -/
def Granted (s : Serving ι) (i : ι) : Prop := ∃ o, (s.prog i).outcome? = some o ∧ positive o = true

/-- At most one of the requests that present a challenge at a verifier has
been answered positively. -/
def AnsweredOnce (req : ι → Request × Draw) (s : Serving ι) : Prop :=
  ∀ i j v c, presentedAt? (req i).1 = some (v, c) → presentedAt? (req j).1 = some (v, c) →
    Granted s i → Granted s j → i = j

/-! ## The challenge stores -/

variable {s : AppState}

theorem challenges_lock (s : AppState) (roomId : Int) : s.challenges E (.lock roomId)
    = ((s.locks.get? roomId).map LockVerifier.challenges).getD (.new challengeTtlSeconds) := by
  rw [AppState.challenges, AppState.lockFor]
  cases s.locks.get? roomId <;> rfl

theorem challenges_setLock {roomId : Int} {lock : LockVerifier}
    (h : lock.challenges = s.challenges E (.lock roomId)) (v : Verifier Int) :
    (s.setLock roomId lock).challenges E v = s.challenges E v := by
  cases v with
  | connected => rfl
  | lock roomId' =>
    rw [challenges_lock, AppState.setLock, Dict.get?_set]
    by_cases hroom : roomId' = roomId
    · subst hroom
      rw [if_pos rfl, Option.map_some, Option.getD_some, h]
    · rw [if_neg hroom, challenges_lock]

theorem challenges_lockFor (s : AppState) (roomId : Int) (v : Verifier Int) :
    (s.lockFor E roomId).2.challenges E v = s.challenges E v := by
  unfold AppState.lockFor
  cases hget : s.locks.get? roomId with
  | some lock => rfl
  | none => exact challenges_setLock (by rw [challenges_lock, hget]; rfl) v

theorem challenges_set_self (s : AppState) (v : Verifier Int) (store : ChallengeStore) :
    (s.setChallenges E v store).challenges E v = store := by
  cases v with
  | connected => rfl
  | lock roomId =>
    rw [challenges_lock, AppState.setChallenges, AppState.setLock]
    simp only [Dict.get?_set_self, Option.map_some, Option.getD_some]

theorem challenges_set_of_ne {v v' : Verifier Int} (h : v' ≠ v) (store : ChallengeStore) :
    (s.setChallenges E v store).challenges E v' = s.challenges E v' := by
  cases v with
  | connected =>
    cases v' with
    | connected => exact absurd rfl h
    | lock roomId => rw [challenges_lock, challenges_lock, AppState.setChallenges]
  | lock roomId =>
    rw [← challenges_lockFor s roomId v']
    cases v' with
    | connected => rfl
    | lock roomId' =>
      have hroom : roomId' ≠ roomId := fun he => h (he ▸ rfl)
      rw [challenges_lock, challenges_lock, AppState.setChallenges, AppState.setLock]
      simp only [Dict.get?_set, if_neg hroom]

/-- The statement neither issues nor consumes a challenge. -/
def ApiStmt.KeepsChallenges : ApiStmt → Prop
  | .issue .. | .consume .. => False
  | _ => True

theorem challenges_execApi {op : ApiStmt} (hop : op.KeepsChallenges) (s : AppState) (v : Verifier Int) :
    (execApi E op s).2.challenges E v = s.challenges E v := by
  cases op with
  | store op =>
    cases v with
    | connected => rfl
    | lock roomId => rw [challenges_lock, challenges_lock]; rfl
  | lockFor roomId => exact challenges_lockFor s roomId v
  | syncRevocations roomId revoked =>
    refine (challenges_setLock ?_ v).trans (challenges_lockFor s roomId v)
    rw [challenges_lockFor]
    rfl
  | issue | consume => exact hop.elim
  | lockStatic | connectedStatic | activeAssignment | stayByText | check => rfl

/-! ## The course of a request -/

/-- The check of the challenge at the verifier, passed. -/
def ApiStmt.Passes (v : Verifier Int) (c : Bytes) : (op : ApiStmt) → op.Res → Prop
  | .check v' c' _, status => v' = v ∧ c' = c ∧ status = .ok
  | _, _ => False

/-- What is left is to consume the challenge and to answer positively. -/
def Accepting (v : Verifier Int) (c : Bytes) (p : ApiCall Answer) : Prop :=
  ∃ now a, p = .call (.consume v c now) (fun _ => .ret a) ∧ positive (.ok a) = true

variable (E) in
/-- A request that has not accepted its challenge. It goes to the challenge
stores to accept the challenge it presents, once its check has passed, or
to issue the challenge it draws, and then it is done; and it ends with no
positive answer. -/
def Course (r : Request × Draw) : ApiCall Answer → Prop
  | .ret a => positive (.ok a) = false
  | .throw _ => True
  | .call op k => ∀ s res t, execApi E op s = (.ok res, t) →
      (op.KeepsChallenges ∧ Course r (k res)) ∨
      (∃ v c, presentedAt? r.1 = some (v, c) ∧ op.Passes v c res ∧ Accepting v c (k res)) ∨
      ∃ v now c a, drawnNonce? r = some c ∧ op = .issue v now c ∧ k res = .ret a ∧
        positive (.ok a) = false

variable {r : Request × Draw}

theorem Course.bind {α : Type} {p : ApiCall α} (hp : p.Only ApiStmt.KeepsChallenges)
    {f : α → ApiCall Answer} (hf : ∀ a, Course E r (f a)) : Course E r (p >>= f) := by
  induction p with
  | ret a => exact hf a
  | throw e => trivial
  | call op k ih => exact fun _ res _ _ => .inl ⟨hp.1, ih res (hp.2 res)⟩

theorem course_onStore {α : Type} (p : Call α) {f : α → ApiCall Answer}
    (hf : ∀ a, Course E r (f a)) : Course E r (onStore p >>= f) :=
  .bind (onStore_only (fun _ => trivial) p) hf

theorem syncLockCall_keeps (roomId : Int) : (syncLockCall roomId).Only ApiStmt.KeepsChallenges :=
  ⟨trivial, fun _ => ⟨trivial, fun _ => ⟨trivial, fun _ => trivial⟩⟩⟩

theorem syncRoomCall_keeps (roomId : Option Int) :
    (syncRoomCall roomId).Only ApiStmt.KeepsChallenges := by
  cases roomId with
  | none => trivial
  | some roomId => exact syncLockCall_keeps roomId

theorem escape_ok {α : Type} {r : Except PyError α} {a : α} (h : escape r = .ok a) : r = .ok a := by
  cases r with
  | error e => cases h
  | ok b => cases h; rfl

/-- The static checks never open. -/
theorem static_denies {token : PyStr} {pub : PublicKey} {expectedProperty : String}
    {expectedRoom now : Int} {revoked : Finset PyStr} {d : Decision}
    (h : escape (evaluateStatic E token pub expectedProperty expectedRoom now revoked) = .ok (.deny d)) :
    d.unlocked = false := by
  obtain ⟨reason, k, hd⟩ | ⟨p, -, -, -, hd⟩ := evaluateStatic_ok (escape_ok h)
  · cases hd; rfl
  · cases hd

/-- The challenge and possession steps, and the answer made of them. -/
theorem course_presentCall {v : Verifier Int} {c : Bytes} (hr : presentedAt? r.1 = some (v, c))
    {f : Decision → Answer} (hf : ∀ d, positive (.ok (f d)) = d.unlocked) (keyId : PyStr)
    (devicePub : Json) (response : Bytes) (now : Int) :
    Course E r (presentCall E v keyId devicePub c response now >>= fun d => .ret (f d)) := by
  intro s status t he
  cases status with
  | replayed => exact .inl ⟨trivial, hf _⟩
  | unknown => exact .inl ⟨trivial, hf _⟩
  | ok =>
    simp only [Prog.bind]
    rcases verifyDeviceResponse E devicePub c response with e | _ | _
    · exact .inl ⟨trivial, trivial⟩
    · exact .inl ⟨trivial, hf _⟩
    · exact .inr (.inl ⟨v, c, hr, ⟨rfl, rfl, rfl⟩, now, _, rfl, hf _⟩)

/-- **The course of every request.** -/
theorem requestProgram_course (r : Request × Draw) : Course E r (requestProgram E propertyId sk r) := by
  obtain ⟨req, draw⟩ := r
  cases req with
  | createGuest | createRoom | reserve | checkin | refresh => exact course_onStore _ fun _ => rfl
  | checkout stayId =>
    exact course_onStore _ fun r => .bind (syncRoomCall_keeps r.2) fun _ => rfl
  | roomChange stayId body =>
    exact course_onStore _ fun r => .bind (syncRoomCall_keeps r.1) fun _ =>
      .bind (syncLockCall_keeps r.2.1) fun _ => rfl
  | revocations => exact fun _ _ _ _ => .inl ⟨trivial, rfl⟩
  | lockChallenge roomId =>
    exact fun _ _ _ _ => .inl ⟨trivial, fun _ _ _ _ => .inr (.inr ⟨_, _, _, _, rfl, rfl, rfl, rfl⟩)⟩
  | roomChallenge => exact fun _ _ _ _ => .inr (.inr ⟨_, _, _, _, rfl, rfl, rfl, rfl⟩)
  | lockUnlock roomId body =>
    refine .bind (syncLockCall_keeps roomId) fun _ _ _ _ _ => .inl ⟨trivial, ?_⟩
    cases hp : presented body.challengeB64 body.responseB64 with
    | error e => trivial
    | ok p =>
      intro s result t he
      cases result with
      | deny d => exact .inl ⟨trivial, static_denies (congrArg Prod.fst he)⟩
      | pass payload =>
        have hr : presentedAt? (.lockUnlock roomId body) = some (.lock roomId, p.1) := by
          rw [presentedAt?, hp]
        exact .inl ⟨trivial, course_presentCall (r := (.lockUnlock roomId body, draw)) hr
          (fun _ => rfl) _ _ p.2 _⟩
  | roomControl roomId body =>
    simp only [requestProgram, roomControlCall]
    cases hp : presented body.challengeB64 body.responseB64 with
    | error e => trivial
    | ok p =>
      have hr : presentedAt? (.roomControl roomId body) = some (.connected, p.1) := by
        rw [presentedAt?, hp]
      simp only [authorizeCall]
      split
      · rfl
      · intro s revoked t _
        refine .inl ⟨trivial, fun s result t he => ?_⟩
        cases result with
        | deny d => exact .inl ⟨trivial, static_denies (congrArg Prod.fst he)⟩
        | pass payload =>
          refine .inl ⟨trivial, ?_⟩
          have hactive (active : Bool) : Course E (.roomControl roomId body, draw)
              ((if active then
                  presentCall E .connected (payloadKeyId E payload) (payloadDevicePub payload) p.1 p.2
                    (nowOr body.now draw.clock)
                else return .deny .notActiveStay (payloadKeyId E payload)) >>= fun d =>
                .ret (.control d body.command)) := by
            cases active with
            | false => rfl
            | true => exact course_presentCall hr (fun _ => rfl) _ _ p.2 _
          have hrest := Course.bind
            (isActiveStayCall_only (E := E) (fun _ => trivial) (fun _ => trivial) payload roomId) hactive
          rw [← Prog.bind_assoc] at hrest
          exact hrest

/-! ## Who takes a challenge -/

variable {req : ι → Request × Draw} {s : Serving ι} {i j : ι} {v : Verifier Int} {c : Bytes}

theorem Accepting.aboutToConsume {p : ApiCall Answer} (h : Accepting v c p) : AboutToConsume v c p := by
  obtain ⟨now, a, hp, -⟩ := h
  exact ⟨now, _, hp⟩

theorem Course.not_accepting {p : ApiCall Answer} (h : Course E r p) (s : AppState) :
    ¬ Accepting v c p := by
  rintro ⟨now, a, rfl, -⟩
  rcases h s () _ rfl with ⟨hkeeps, -⟩ | ⟨_, _, -, hpasses, -⟩ | ⟨_, _, _, _, -, hop, -⟩
  · exact hkeeps
  · exact hpasses
  · cases hop

theorem granted_ret_iff {a : Answer} (h : s.prog i = .ret a) :
    Granted s i ↔ positive (.ok a) = true := by
  rw [Granted, h]
  constructor
  · rintro ⟨o, ho, hpositive⟩
    cases ho
    exact hpositive
  · intro hpositive
    exact ⟨.ok a, rfl, hpositive⟩

theorem Course.not_granted (h : Course E r (s.prog i)) : ¬ Granted s i := by
  intro hgranted
  obtain ⟨o, ho, hpositive⟩ := hgranted
  cases o with
  | error e => cases hpositive
  | ok a =>
    rw [Prog.outcome?_ok ho] at h
    rw [show positive (.ok a) = false from h] at hpositive
    cases hpositive

/-- The request presents the challenge, and accepts it or has been answered
positively. -/
def Takes (req : ι → Request × Draw) (s : Serving ι) (i : ι) (v : Verifier Int) (c : Bytes) : Prop :=
  presentedAt? (req i).1 = some (v, c) ∧ (Accepting v c (s.prog i) ∨ Granted s i)

/-! ## Turns -/

variable [DecidableEq ι]

variable (E req s i) in
/-- Where a request is: on its course, accepting its challenge, or answered
positively. -/
def Staged : Prop :=
  Course E (req i) (s.prog i) ∨
    (∃ v c, presentedAt? (req i).1 = some (v, c) ∧ Accepting v c (s.prog i)) ∨ Granted s i

variable (E req s i) in
/-- What a turn of `i` does with the challenges. -/
inductive Move : Prop
  | idle (hturn : s.turn (execApi E) i = s)
  | course (hopen : (s.prog i).outcome? = none)
      (hafter : Course E (req i) ((s.turn (execApi E) i).prog i))
      (hstores : ∀ v, (s.turn (execApi E) i).shared.challenges E v = s.shared.challenges E v)
  | accept (v : Verifier Int) (c : Bytes) (hreq : presentedAt? (req i).1 = some (v, c))
      (hpending : (s.shared.challenges E v).Pending c)
      (htaken : ∀ j, j ≠ i → AboutToConsume v c (s.prog j) → ChecksTaken E s i)
      (hafter : Accepting v c ((s.turn (execApi E) i).prog i))
      (hstores : ∀ v, (s.turn (execApi E) i).shared.challenges E v = s.shared.challenges E v)
  | issue (v : Verifier Int) (c : Bytes) (now : Int) (a : Answer)
      (hdrawn : drawnNonce? (req i) = some c) (hopen : (s.prog i).outcome? = none)
      (hafter : (s.turn (execApi E) i).prog i = .ret a) (hnot : positive (.ok a) = false)
      (hstores : (s.turn (execApi E) i).shared
        = s.shared.setChallenges E v ((s.shared.challenges E v).issue now c).2)
  | consume (v : Verifier Int) (c : Bytes) (now : Int) (a : Answer)
      (hreq : presentedAt? (req i).1 = some (v, c)) (hbefore : Accepting v c (s.prog i))
      (hafter : (s.turn (execApi E) i).prog i = .ret a) (hpositive : positive (.ok a) = true)
      (hstores : (s.turn (execApi E) i).shared
        = s.shared.setChallenges E v ((s.shared.challenges E v).consume c now))

/-- Only the database and the static checks raise. -/
theorem keepsChallenges_of_error {op : ApiStmt} {s t : AppState} {e : Exc}
    (h : execApi E op s = (.error e, t)) : op.KeepsChallenges := by
  cases op with
  | issue | consume => cases h
  | _ => trivial

/-- **The moves of a request.** -/
theorem Staged.move (h : Staged E req s i) : Move E req s i := by
  have hended {o : Except Exc Answer} (ho : (s.prog i).outcome? = some o) : Move E req s i :=
    .idle (Threads.turn_of_ended ho)
  have hprog : (s.turn (execApi E) i).prog i = ((s.prog i).next (execApi E) s.shared).1 :=
    Threads.prog_turn_self i s
  have hshared : (s.turn (execApi E) i).shared = ((s.prog i).next (execApi E) s.shared).2 := rfl
  rcases h with hcourse | ⟨v, c, hreq, now, a, hp, hpositive⟩ | ⟨o, ho, -⟩
  case inr.inr => exact hended ho
  case inr.inl =>
    have hbefore : Accepting v c (s.prog i) := ⟨now, a, hp, hpositive⟩
    rw [hp, Prog.next, execApi] at hprog hshared
    exact .consume v c now a hreq hbefore hprog hpositive hshared
  cases hp : s.prog i with
  | ret a => exact hended (o := .ok a) (by rw [hp]; rfl)
  | throw e => exact hended (o := .error e) (by rw [hp]; rfl)
  | call op k =>
    have hopen : (s.prog i).outcome? = none := by rw [hp]; rfl
    rw [hp] at hcourse
    rw [hp, Prog.next] at hprog hshared
    have hkept (hkeeps : op.KeepsChallenges) (v : Verifier Int) :
        (execApi E op s.shared).2.challenges E v = s.shared.challenges E v :=
      challenges_execApi hkeeps s.shared v
    rcases he : execApi E op s.shared with ⟨e | res, t⟩ <;> rw [he] at hprog hshared hkept
    · refine .course hopen (by rw [hprog]; trivial) fun v => ?_
      rw [hshared]
      exact hkept (keepsChallenges_of_error he) v
    · rcases hcourse s.shared res t he with ⟨hkeeps, hafter⟩ | ⟨v, c, hreq, hpasses, hafter⟩ |
        ⟨v, now, c, a, hdrawn, rfl, hk, hnot⟩
      · refine .course hopen (hprog ▸ hafter) fun v => ?_
        rw [hshared]
        exact hkept hkeeps v
      · cases op with
        | check v' c' now =>
          obtain ⟨rfl, rfl, rfl⟩ := hpasses
          obtain ⟨hcheck, rfl⟩ := Prod.mk.inj he
          have hacceptable := ChallengeStore.check_eq_ok_iff.mp (Except.ok.inj hcheck)
          refine .accept v' c' hreq (ChallengeStore.pending_of_acceptable hacceptable) ?_
            (hprog ▸ hafter) fun _ => by rw [hshared]
          exact fun j hj hother => ⟨v', c', now, k, hp, hacceptable, hafter.aboutToConsume, j, hj, hother⟩
        | _ => exact hpasses.elim
      · obtain ⟨-, rfl⟩ := Prod.mk.inj he
        exact .issue v c now a hdrawn hopen (hprog.trans hk) hnot hshared

theorem granted_turn_of_ne (h : j ≠ i) : Granted (s.turn (execApi E) i) j ↔ Granted s j := by
  rw [Granted, Granted, Threads.prog_turn_of_ne h]

theorem Move.staged (h : Move E req s i) (hs : ∀ j, Staged E req s j) (j : ι) :
    Staged E req (s.turn (execApi E) i) j := by
  by_cases hij : j = i
  · subst hij
    cases h with
    | idle hturn => rw [hturn]; exact hs j
    | course _ hafter => exact .inl hafter
    | accept v c hreq _ _ hafter => exact .inr (.inl ⟨v, c, hreq, hafter⟩)
    | issue _ _ _ a _ _ hafter hnot => exact .inl (by rw [hafter]; exact hnot)
    | consume _ _ _ a _ _ hafter hpositive => exact .inr (.inr ((granted_ret_iff hafter).mpr hpositive))
  · rw [Staged, granted_turn_of_ne hij, Threads.prog_turn_of_ne hij]
    exact hs j

/-- A challenge that is accepted is pending. -/
theorem Move.takes (h : Move E req s i) (hj : Takes req (s.turn (execApi E) i) j v c) :
    Takes req s j v c ∨ (j = i ∧ (s.shared.challenges E v).Pending c ∧
      ∀ k, k ≠ i → AboutToConsume v c (s.prog k) → ChecksTaken E s i) := by
  obtain ⟨hpresented, htakes⟩ := hj
  by_cases hij : j = i
  · subst hij
    cases h with
    | idle hturn =>
      rw [hturn] at htakes
      exact .inl ⟨hpresented, htakes⟩
    | course _ hafter =>
      rcases htakes with htakes | htakes
      · exact absurd htakes (hafter.not_accepting s.shared)
      · exact absurd htakes hafter.not_granted
    | accept v' c' hreq hpending htaken hafter =>
      obtain ⟨rfl, rfl⟩ := Prod.mk.inj (Option.some.inj (hreq.symm.trans hpresented))
      exact .inr ⟨rfl, hpending, htaken⟩
    | issue _ _ _ a _ _ hafter hnot =>
      rcases htakes with ⟨_, _, hp, -⟩ | htakes
      · rw [hafter] at hp; cases hp
      · rw [granted_ret_iff hafter, hnot] at htakes; cases htakes
    | consume v' c' _ _ hreq hbefore =>
      obtain ⟨rfl, rfl⟩ := Prod.mk.inj (Option.some.inj (hreq.symm.trans hpresented))
      exact .inl ⟨hpresented, .inl hbefore⟩
  · rw [granted_turn_of_ne hij, Threads.prog_turn_of_ne hij] at htakes
    exact .inl ⟨hpresented, htakes⟩

/-- Nothing becomes pending but the challenge a request draws. -/
theorem Move.pending (h : Move E req s i)
    (hpending : ((s.turn (execApi E) i).shared.challenges E v).Pending c) :
    (s.shared.challenges E v).Pending c ∨
      drawnNonce? (req i) = some c ∧ (s.prog i).outcome? = none ∧
        ((s.turn (execApi E) i).prog i).outcome? ≠ none := by
  cases h with
  | idle hturn => rw [hturn] at hpending; exact .inl hpending
  | course _ _ hstores | accept _ _ _ _ _ _ hstores => rw [hstores] at hpending; exact .inl hpending
  | issue v' c' now a hdrawn hopen hafter _ hstores =>
    rw [hstores] at hpending
    by_cases hv : v = v'
    · subst hv
      rw [challenges_set_self] at hpending
      rcases ChallengeStore.pending_issue hpending with rfl | hpending
      · exact .inr ⟨hdrawn, hopen, by rw [hafter]; exact nofun⟩
      · exact .inl hpending
    · rw [challenges_set_of_ne hv] at hpending
      exact .inl hpending
  | consume v' c' now a _ _ _ _ hstores =>
    rw [hstores] at hpending
    by_cases hv : v = v'
    · subst hv
      rw [challenges_set_self] at hpending
      exact .inl (ChallengeStore.pending_consume.mp hpending).2
    · rw [challenges_set_of_ne hv] at hpending
      exact .inl hpending

/-- A request that is answered positively has accepted its challenge, which
is not pending any more. -/
theorem Move.granted (h : Move E req s i) (hpresented : presentedAt? (req j).1 = some (v, c))
    (hj : Granted (s.turn (execApi E) i) j) :
    Granted s j ∨ j = i ∧ ¬ ((s.turn (execApi E) i).shared.challenges E v).Pending c := by
  by_cases hij : j = i
  · subst hij
    cases h with
    | idle hturn => rw [hturn] at hj; exact .inl hj
    | course _ hafter => exact absurd hj hafter.not_granted
    | accept _ _ _ _ _ hafter =>
      obtain ⟨_, _, hp, -⟩ := hafter
      obtain ⟨o, ho, -⟩ := hj
      rw [hp] at ho
      cases ho
    | issue _ _ _ a _ _ hafter hnot => rw [granted_ret_iff hafter, hnot] at hj; cases hj
    | consume v' c' now a hreq _ _ _ hstores =>
      obtain ⟨rfl, rfl⟩ := Prod.mk.inj (Option.some.inj (hreq.symm.trans hpresented))
      refine .inr ⟨rfl, fun hpending => ?_⟩
      rw [hstores, challenges_set_self] at hpending
      exact (ChallengeStore.pending_consume.mp hpending).1 rfl
  · exact .inl ((granted_turn_of_ne hij).mp hj)

/-! ## Runs -/

/-- The challenge was drawn by a request that has ended. -/
def Drawn (req : ι → Request × Draw) (s : Serving ι) (c : Bytes) : Prop :=
  ∃ i, drawnNonce? (req i) = some c ∧ (s.prog i).outcome? ≠ none

theorem Drawn.turn (h : Drawn req s c) (i : ι) : Drawn req (s.turn (execApi E) i) c := by
  obtain ⟨j, hdrawn, hended⟩ := h
  obtain ⟨o, ho⟩ := Option.ne_none_iff_exists'.mp hended
  exact ⟨j, hdrawn, by rw [Threads.ended_turn (execApi E) ho]; exact hended⟩

variable (E req s) in
structure ChallengesKept : Prop where
  staged : ∀ i, Staged E req s i
  pending : ∀ v c, (s.shared.challenges E v).Pending c → Drawn req s c
  taken : ∀ i v c, Takes req s i v c → Drawn req s c
  /-- The challenge of a positive answer is not pending. -/
  spent : ∀ i v c, presentedAt? (req i).1 = some (v, c) → Granted s i →
    ¬ (s.shared.challenges E v).Pending c
  unique : ∀ i j v c, Takes req s i v c → Takes req s j v c → i = j

omit [DecidableEq ι] in
theorem ChallengesKept.start : ChallengesKept E req (Serving.start E propertyId sk req) := by
  have hcourse (i : ι) : Course E (req i) ((Serving.start E propertyId sk req).prog i) :=
    requestProgram_course (req i)
  have hnone {i : ι} {v : Verifier Int} {c : Bytes} :
      ¬ Takes req (Serving.start E propertyId sk req) i v c := by
    rintro ⟨-, htakes | htakes⟩
    · exact (hcourse i).not_accepting (.new E propertyId sk) htakes
    · exact (hcourse i).not_granted htakes
  have hempty (v : Verifier Int) (c : Bytes) :
      ¬ ((AppState.new E propertyId sk).challenges E v).Pending c := by
    cases v <;> exact nofun
  exact ⟨fun i => .inl (hcourse i), fun v c h => absurd h (hempty v c), fun _ _ _ h => absurd h hnone,
    fun _ v c _ _ => hempty v c, fun _ _ _ _ h => absurd h hnone⟩

/-- **A turn** that checks no taken challenge. -/
theorem ChallengesKept.turn (hnonces : NoncesDistinct req) (h : ChallengesKept E req s) (i : ι)
    (hok : ¬ ChecksTaken E s i) : ChallengesKept E req (s.turn (execApi E) i) := by
  have hmove := (h.staged i).move
  have hdrawn (v : Verifier Int) (c : Bytes)
      (hpending : ((s.turn (execApi E) i).shared.challenges E v).Pending c) :
      Drawn req (s.turn (execApi E) i) c := by
    rcases hmove.pending hpending with hpending | ⟨hdrawn, -, hended⟩
    · exact (h.pending v c hpending).turn i
    · exact ⟨i, hdrawn, hended⟩
  have halone {k : ι} {v : Verifier Int} {c : Bytes} (hne : k ≠ i)
      (hpending : (s.shared.challenges E v).Pending c)
      (htaken : ∀ k, k ≠ i → AboutToConsume v c (s.prog k) → ChecksTaken E s i) :
      ¬ Takes req s k v c := by
    rintro ⟨hpresented, haccepting | hgranted⟩
    · exact hok (htaken k hne haccepting.aboutToConsume)
    · exact h.spent k v c hpresented hgranted hpending
  refine ⟨hmove.staged h.staged, hdrawn, fun j v c hj => ?_, fun j v c hpresented hj hpending => ?_,
    fun j k v c hj hk => ?_⟩
  · rcases hmove.takes hj with hj | ⟨-, hpending, -⟩
    · exact (h.taken j v c hj).turn i
    · exact (h.pending v c hpending).turn i
  · rcases hmove.granted hpresented hj with hj | ⟨-, hnot⟩
    · rcases hmove.pending hpending with hpending | ⟨hdraws, hopen, -⟩
      · exact h.spent j v c hpresented hj hpending
      -- the challenge was drawn before, so `i` had ended
      · obtain ⟨k, hk, hended⟩ := h.taken j v c ⟨hpresented, .inr hj⟩
        obtain rfl := hnonces k i c hk hdraws
        exact hended hopen
    · exact hnot hpending
  · rcases hmove.takes hj with hj' | ⟨rfl, hpending, htaken⟩
    · rcases hmove.takes hk with hk' | ⟨rfl, hpending, htaken⟩
      · exact h.unique j k v c hj' hk'
      · by_contra hne
        exact halone hne hpending htaken hj'
    · rcases hmove.takes hk with hk' | ⟨rfl, -, -⟩
      · by_contra hne
        exact halone (Ne.symm hne) hpending htaken hk'
      · rfl

theorem staged_run {h : List (ServingTurn ι)}
    (hrun : ServingRun E propertyId sk req h s) (i : ι) : Staged E req s i :=
  hrun.invariant (I := fun s => ∀ i, Staged E req s i) (fun i => .inl (requestProgram_course (req i)))
    (fun _ i hs (_ : True) => (hs i).move.staged hs) (fun _ _ => trivial) i

omit [DecidableEq ι] in
theorem Staged.accepting (h : Staged E req s i) (hnext : AboutToConsume v c (s.prog i)) :
    presentedAt? (req i).1 = some (v, c) ∧ Accepting v c (s.prog i) := by
  obtain ⟨now, k, hp⟩ := hnext
  rcases h with hcourse | ⟨v', c', hreq, now', a, hp', hpositive⟩ | ⟨o, ho, -⟩
  · rw [hp] at hcourse
    rcases hcourse s.shared () _ rfl with ⟨hkeeps, -⟩ | ⟨_, _, -, hpasses, -⟩ | ⟨_, _, _, _, -, hop, -⟩
    · exact hkeeps.elim
    · exact hpasses.elim
    · cases hop
  · rw [hp] at hp'
    cases hp'
    exact ⟨hreq, now, a, hp, hpositive⟩
  · rw [hp] at ho
    cases ho

/-- Who accepts a challenge is answered positively at the next turn. -/
theorem Accepting.granted (h : Accepting v c (s.prog i)) : Granted (s.turn (execApi E) i) i := by
  obtain ⟨now, a, hp, hpositive⟩ := h
  refine (granted_ret_iff (a := a) ?_).mpr hpositive
  rw [Threads.prog_turn_self, hp, Prog.next, execApi]

/-- Where a request checks a challenge that another one is about to consume,
both can go on to a positive answer. -/
theorem granted_twice {h : List (ServingTurn ι)}
    (hrun : ServingRun E propertyId sk req h s) (hi : ChecksTaken E s i) :
    ∃ j, ¬ AnsweredOnce req
      (((s.turn (execApi E) i).turn (execApi E) i).turn (execApi E) j) := by
  obtain ⟨v, c, now, k, hp, hacceptable, hnext, j, hne, hj⟩ := hi
  have hexec : execApi E (.check v c now) s.shared = (.ok .ok, s.shared) := by
    rw [execApi, ChallengeStore.check_eq_ok_iff.mpr hacceptable]
  have hprog : (s.turn (execApi E) i).prog i = k .ok := by
    rw [Threads.prog_turn_self, hp, Prog.next_call_ok (execApi E) hexec]
  have hrun₁ := hrun.cons i
  obtain ⟨hi, haccepting⟩ := (staged_run hrun₁ i).accepting (v := v) (c := c) (by rw [hprog]; exact hnext)
  obtain ⟨hj, haccepting'⟩ := (staged_run hrun j).accepting hj
  refine ⟨j, fun honce => hne.symm (honce i j v c hi hj ?_ ?_)⟩
  · exact (granted_turn_of_ne hne.symm).mpr haccepting.granted
  · refine Accepting.granted (v := v) (c := c) ?_
    rwa [Threads.prog_turn_of_ne hne, Threads.prog_turn_of_ne hne]

/-- **A challenge is good for one positive answer** in a run in which no
challenge is accepted that another request is about to consume. -/
theorem challenge_answered_once {h : List (ServingTurn ι)}
    (hnonces : NoncesDistinct req) (hrun : ServingRun E propertyId sk req h s)
    (hok : ∀ e ∈ h, ¬ ChecksTaken E e.before e.request) : AnsweredOnce req s := by
  have hkept : ChallengesKept E req s :=
    hrun.invariant (I := fun s => ChallengesKept E req s)
      .start (fun _ i hkept hok => hkept.turn hnonces i hok) hok
  intro i j v c hi hj hgi hgj
  exact hkept.unique i j v c ⟨hi, .inr hgi⟩ ⟨hj, .inr hgj⟩

/-! ## One challenge and two requests -/

/-- The guest is given a challenge, and the first unlock request goes as far
as to its check. -/
abbrev turnsUntilCheck : List (Fin 7) :=
  [0, 1, 1, 1, 1, 2, 2, 2, 2, 3, 3, 4, 4, 4, 4, 4, 4]

theorem presentedAt?_sampleUnlock :
    presentedAt? (.lockUnlock 101 sampleUnlock) = some (.lock 101, [7]) := by
  simp only [presentedAt?, presented, sampleUnlock, b64uDecode_b64uEncode, bind, Except.bind, pure,
    Except.pure]

theorem guestRequests_noncesDistinct : NoncesDistinct guestRequests := by
  have honly : ∀ i, (drawnNonce? (guestRequests i)).isSome = true → i = 3 := by decide
  intro i j c hi hj
  rw [honly i (by rw [hi]; rfl), honly j (by rw [hj]; rfl)]

/-- The second request checks the challenge before the first one consumes it,
and the lock opens to both. -/
theorem challenge_answered_twice : ¬ ∀ req : Fin 7 → Request × Draw, NoncesDistinct req → ∀ h s,
    ServingRun Env.sample "HILTON-DEMO-001" sampleKey req h s → AnsweredOnce req s := by
  intro hclaim
  have honce := hclaim guestRequests guestRequests_noncesDistinct _ _
    (History.of_runAll _ _ (turnsUntilCheck ++ [6, 6, 6, 6, 6, 6, 4, 6]))
  have hgranted (i : Fin 7)
      (h : ((serve (turnsUntilCheck ++ [6, 6, 6, 6, 6, 6, 4, 6])).2.prog i).outcome?.any positive = true) :
      Granted (serve (turnsUntilCheck ++ [6, 6, 6, 6, 6, 6, 4, 6])).2 i :=
    (Option.any_eq_true _ _).mp h
  have hsame : (4 : Fin 7) = 6 := honce 4 6 (.lock 101) [7] presentedAt?_sampleUnlock presentedAt?_sampleUnlock
    (hgranted 4 (by decide +kernel)) (hgranted 6 (by decide +kernel))
  cases hsame

/-- Here the first request consumes the challenge before the second one
checks it. -/
abbrev turnsApart : List (Fin 7) := turnsUntilCheck ++ [4, 6, 6, 6, 6, 6, 6, 6]

theorem challenge_answered_once_apart : Granted (serve turnsApart).2 4 ∧ ¬ Granted (serve turnsApart).2 6 := by
  have hrun := History.of_runAll (fun i s => ((), s.turn (execApi Env.sample) i))
    (Serving.start Env.sample "HILTON-DEMO-001" sampleKey guestRequests) turnsApart
  have hok : ∀ e ∈ (serve turnsApart).1, ¬ ChecksTaken Env.sample e.before e.request := by
    have htest : (serve turnsApart).1.all (fun e => (List.finRange 7).all fun j =>
        j = e.request || !consuming? (e.before.prog j)) = true := by decide +kernel
    rintro e he ⟨v, c, now, k, -, -, -, j, hne, hj⟩
    have hno := List.all_eq_true.mp (List.all_eq_true.mp htest e he) j (List.mem_finRange j)
    rw [consuming?_eq_true hj] at hno
    simp [hne] at hno
  have hgranted : Granted (serve turnsApart).2 4 := by
    have h : ((serve turnsApart).2.prog 4).outcome?.any positive = true := by decide +kernel
    exact (Option.any_eq_true _ _).mp h
  refine ⟨hgranted, fun htwice => ?_⟩
  have hsame : (4 : Fin 7) = 6 := challenge_answered_once guestRequests_noncesDistinct hrun hok 4 6
    (.lock 101) [7] presentedAt?_sampleUnlock presentedAt?_sampleUnlock hgranted htwice
  cases hsame

end StayKey.Service
