/-
StayKey.Service.AfterCrash — what a new process accepts.

The locks of a new process hold no snapshots and no challenges: a lock
learns the revocation list of the database when it is first asked for, and
every list that reaches it later was read by the same process. So whatever
came to the locks of earlier processes in the wrong order
(`Service.Snapshots`), a key that was revoked before a start is never
accepted after it; and an answer to a challenge is accepted only by the
process that drew the challenge (`crash_closes_doors`).
-/
import StayKey.Program.Keeps
import StayKey.Service.ChallengeRace
import StayKey.Service.Restarts

namespace StayKey.Service

open StayKey.Codec StayKey.Door StayKey.Store StayKey.Program

variable {ι : Type} {E : Env} {pem : Pem} {b : Start ι} {base : List String} {s t : AppState}

/-- A process that is started so has a request that draws the challenge for
the verifier. -/
def Draws (b : Start ι) (v : Verifier Int) (challenge : Bytes) : Prop :=
  ∃ j, (b.req j).2.nonce = challenge ∧
    ((∃ roomId, (b.req j).1 = .lockChallenge roomId ∧ v = .lock roomId) ∨
      ∃ roomId, (b.req j).1 = .roomChallenge roomId ∧ v = .connected)

/-- The snapshots in the registry have these key ids. -/
def LocksKnow (base : List String) (s : AppState) : Prop :=
  ∀ roomId lock, s.locks.get? roomId = some lock → ∀ keyId ∈ base, py keyId ∈ lock.revoked

/-- A process whose table and locks know the key ids in `base`, and whose
pending challenges are its own. -/
structure Settled (E : Env) (b : Start ι) (base : List String) (s : AppState) : Prop where
  table : base <+: s.db.revocationList
  locks : LocksKnow base s
  challenges : ∀ v challenge, (s.challenges E v).Pending challenge → Draws b v challenge

/-- What keeps a process settled. -/
def Settles (b : Start ι) (base : List String) : ApiStmt → Prop
  | .syncRevocations _ revoked => base <+: revoked
  | .issue v _ nonce => Draws b v nonce
  | _ => True

/-! ## Statements -/

theorem mem_texts {revoked : List String} (hbase : base <+: revoked) {keyId : String} (hk : keyId ∈ base) :
    py keyId ∈ (revoked.map py).toFinset :=
  List.mem_toFinset.mpr (List.mem_map.mpr ⟨keyId, hbase.subset hk, rfl⟩)

theorem LocksKnow.setLock (h : LocksKnow base s) {roomId : Int} {lock : LockVerifier}
    (hlock : ∀ keyId ∈ base, py keyId ∈ lock.revoked) : LocksKnow base (s.setLock roomId lock) := by
  intro roomId' lock' hget
  rw [AppState.setLock, Dict.get?_set] at hget
  split at hget
  · cases hget
    exact hlock
  · exact h roomId' lock' hget

theorem LocksKnow.lockFor (h : LocksKnow base s) (htable : base <+: s.db.revocationList) (roomId : Int) :
    LocksKnow base (s.lockFor E roomId).2 := by
  unfold AppState.lockFor
  split
  · exact h
  · exact h.setLock fun keyId hk => mem_texts htable hk

theorem LocksKnow.lock (h : LocksKnow base s) (htable : base <+: s.db.revocationList) (roomId : Int)
    {keyId : String} (hk : keyId ∈ base) : py keyId ∈ (s.lockFor E roomId).1.revoked :=
  h.lockFor htable roomId roomId _ (locks_lockFor s roomId) keyId hk

theorem LocksKnow.setChallenges (h : LocksKnow base s) (htable : base <+: s.db.revocationList)
    (v : Verifier Int) (store : ChallengeStore) : LocksKnow base (s.setChallenges E v store) := by
  cases v with
  | lock roomId => exact (h.lockFor htable roomId).setLock fun keyId hk => h.lock htable roomId hk
  | connected => exact h

/-- A verifier's challenges are replaced. -/
theorem Settled.setChallenges (h : Settled E b base s) {v : Verifier Int} {store : ChallengeStore}
    (hstore : ∀ challenge, store.Pending challenge → Draws b v challenge) :
    Settled E b base (s.setChallenges E v store) where
  table := by
    rw [setChallenges_db]
    exact h.table
  locks := h.locks.setChallenges h.table v store
  challenges v' challenge hpending := by
    by_cases hv : v' = v
    · subst hv
      rw [challenges_set_self] at hpending
      exact hstore challenge hpending
    · rw [challenges_set_of_ne hv] at hpending
      exact h.challenges v' challenge hpending

/-- **What keeps a process settled.** -/
theorem settled_execApi {op : ApiStmt} (hop : Settles b base op) (h : Settled E b base s) :
    Settled E b base (execApi E op s).2 := by
  cases op with
  | store op =>
    have hkeeps : (ApiStmt.store op).KeepsChallenges := trivial
    refine ⟨h.table.trans (grows_exec op s.db), h.locks, fun v challenge hpending => ?_⟩
    rw [challenges_execApi hkeeps] at hpending
    exact h.challenges v challenge hpending
  | lockFor roomId =>
    have hoff : (ApiStmt.lockFor roomId).OffStore := trivial
    have hkeeps : (ApiStmt.lockFor roomId).KeepsChallenges := trivial
    refine ⟨?_, h.locks.lockFor h.table roomId, fun v challenge hpending => ?_⟩
    · rw [execApi_db hoff]
      exact h.table
    · rw [challenges_execApi hkeeps] at hpending
      exact h.challenges v challenge hpending
  | syncRevocations roomId revoked =>
    have hoff : (ApiStmt.syncRevocations roomId revoked).OffStore := trivial
    have hkeeps : (ApiStmt.syncRevocations roomId revoked).KeepsChallenges := trivial
    refine ⟨?_, (h.locks.lockFor h.table roomId).setLock fun keyId hk => mem_texts hop hk,
      fun v challenge hpending => ?_⟩
    · rw [execApi_db hoff]
      exact h.table
    · rw [challenges_execApi hkeeps] at hpending
      exact h.challenges v challenge hpending
  | issue v now nonce =>
    refine h.setChallenges fun challenge hpending => ?_
    obtain rfl | hpending := ChallengeStore.pending_issue hpending
    · exact hop
    · exact h.challenges v challenge hpending
  | consume v challenge now =>
    refine h.setChallenges fun challenge' hpending => ?_
    exact h.challenges v challenge' (ChallengeStore.pending_consume.mp hpending).2
  | lockStatic | connectedStatic | activeAssignment | stayByText | check => exact h

/-! ## Programs -/

/-- The program runs in a settled process, and ends with `Q`, whatever the
other requests of this process do. -/
def RunsSettled (E : Env) (b : Start ι) (base : List String) {α : Type} (Q : α → Prop)
    (p : ApiCall α) : Prop :=
  p.Keeps (execApi E) (fun _ _ => True) (Settled E b base) (fun op _ => Settles b base op) fun a _ => Q a

theorem RunsSettled.bind {α β : Type} {Q : α → Prop} {Q' : β → Prop} {p : ApiCall α} {f : α → ApiCall β}
    (hp : RunsSettled E b base Q p) (hf : ∀ a, Q a → RunsSettled E b base Q' (f a)) :
    RunsSettled E b base Q' (p >>= f) :=
  Prog.Keeps.bind (fun _ => trivial) hp fun a t ha ht => hf a ha t ht

theorem RunsSettled.ret {α : Type} {Q : α → Prop} {a : α} (ha : Q a) :
    RunsSettled E b base Q (.ret a) :=
  fun _ hs => Prog.keepsFrom_ret hs fun _ _ _ => ha

theorem RunsSettled.throw {α : Type} {Q : α → Prop} (e : Exc) :
    RunsSettled E b base Q (.throw e) :=
  fun s _ => Prog.keepsFrom_throw e s

/-- A statement, with what it returns in a settled process. -/
theorem RunsSettled.call {α : Type} {Q : α → Prop} {op : ApiStmt} {k : op.Res → ApiCall α}
    (hop : Settles b base op)
    (hk : ∀ t r u, Settled E b base t → execApi E op t = (.ok r, u) → RunsSettled E b base Q (k r)) :
    RunsSettled E b base Q (.call op k) :=
  fun _ hs => Prog.keepsFrom_call (fun _ _ => settled_execApi) hs (fun _ _ _ => hop)
    fun t r u _ ht he hu => hk t r u ht he u hu

theorem onStore_settled {α : Type} (p : Call α) : RunsSettled E b base (fun _ => True) (onStore p) :=
  Prog.keeps_of_only (P := Settles b base) (fun _ _ => settled_execApi) (fun _ _ hop _ => hop)
    (onStore_only (fun _ => trivial) p)

/-- The list that is delivered has been read in this process. -/
theorem syncLockCall_settled (roomId : Int) :
    RunsSettled E b base (fun _ => True) (syncLockCall roomId) := by
  refine .call trivial fun _ _ _ _ _ => ?_
  refine .call trivial fun t revoked u ht he => ?_
  cases he
  exact .call ht.table fun _ _ _ _ _ => .ret trivial

theorem syncRoomCall_settled (roomId : Option Int) :
    RunsSettled E b base (fun _ => True) (syncRoomCall roomId) := by
  cases roomId with
  | none => exact .ret trivial
  | some roomId => exact syncLockCall_settled roomId

/-- A challenge that is accepted was drawn by this process. -/
theorem presentCall_settled (v : Verifier Int) (keyId : PyStr) (devicePub : Json)
    (challenge response : Bytes) (now : Int) :
    RunsSettled E b base (fun d => d.unlocked = true → Draws b v challenge)
      (presentCall E v keyId devicePub challenge response now) := by
  refine .call trivial fun t status u ht he => ?_
  cases he
  cases hstatus : (t.challenges E v).check challenge now with
  | replayed | unknown => exact .ret nofun
  | ok =>
    have hdrawn := ht.challenges v challenge
      (ChallengeStore.pending_of_acceptable (ChallengeStore.check_eq_ok_iff.mp hstatus))
    rcases verifyDeviceResponse E devicePub challenge response with e | _ | _
    · exact .throw _
    · exact .ret nofun
    · exact .call trivial fun _ _ _ _ _ => .ret fun _ => hdrawn

/-- A token that passes the static checks carries no key of `base`. -/
theorem not_carriesKey_of_pass {token : PyStr} {pub : PublicKey} {property : String} {room now : Int}
    {revoked : Finset PyStr} {payload : JsonDict}
    (h : evaluateStatic E token pub property room now revoked = .ok (.pass payload))
    (hbase : ∀ keyId ∈ base, py keyId ∈ revoked) {keyId : String} (hk : keyId ∈ base) :
    ¬ CarriesKey E token keyId := by
  rintro ⟨p, hparse, hid⟩
  obtain ⟨_, _, hdeny⟩ | ⟨p', hparse', -, hpass, -⟩ := evaluateStatic_ok h
  · cases hdeny
  · obtain rfl : p = p' := Option.some.inj (Except.ok.inj (hparse.symm.trans hparse'))
    obtain ⟨-, hnot⟩ | ⟨_, _, hdeny⟩ := evaluatePayload_ok hpass
    · rw [payloadKeyId] at hid
      rw [hid] at hnot
      exact hnot (hbase keyId hk)
    · cases hdeny

/-- An accepted presentation: the challenge is this process's own, and the
token carries no key of `base`. -/
def AcceptedHere (E : Env) (b : Start ι) (base : List String) (v : Verifier Int) (token : PyStr)
    (challenge : Bytes) (unlocked : Bool) : Prop :=
  unlocked = true → Draws b v challenge ∧ ∀ keyId ∈ base, ¬ CarriesKey E token keyId

theorem finishUnlockCall_settled (roomId : Int) (token : PyStr) (challenge response : Bytes)
    (now : Int) :
    RunsSettled E b base (fun d => AcceptedHere E b base (.lock roomId) token challenge d.unlocked)
      (finishUnlockCall E roomId token challenge response now) := by
  refine .call trivial fun t result u ht he => ?_
  obtain ⟨hstatic, -⟩ := Prod.mk.inj he
  have hstatic := escape_ok hstatic
  cases result with
  | deny d =>
    obtain ⟨_, _, hdeny⟩ | ⟨_, -, -, -, hpass⟩ := evaluateStatic_ok hstatic
    · cases hdeny
      exact .ret nofun
    · cases hpass
  | pass payload =>
    have hnot (keyId : String) (hk : keyId ∈ base) : ¬ CarriesKey E token keyId :=
      not_carriesKey_of_pass hstatic (fun _ hk => ht.locks.lock ht.table roomId hk) hk
    have hpresent : RunsSettled E b base (fun d => d.unlocked = true → Draws b (.lock roomId) challenge)
        (presentCall E (.lock roomId) (payloadKeyId E payload) (payloadDevicePub payload) challenge
          response now) :=
      presentCall_settled (.lock roomId) (payloadKeyId E payload) (payloadDevicePub payload) challenge
        response now
    exact fun s hs => (hpresent s hs).imp fun _ _ hd _ hu => ⟨hd hu, hnot⟩

/-- The list that is checked against has been read in this process. -/
theorem authorizeCall_settled (roomId : Int) (command : String) (token : PyStr)
    (challenge response : Bytes) (now : Int) :
    RunsSettled E b base (fun d => AcceptedHere E b base .connected token challenge d.unlocked)
      (authorizeCall E roomId command token challenge response now) := by
  unfold authorizeCall
  split
  · exact .ret nofun
  refine .call trivial fun t revoked u ht he => ?_
  cases he
  have htexts (keyId : String) (hk : keyId ∈ base) := mem_texts ht.table hk
  refine .call trivial fun t result u _ he => ?_
  obtain ⟨hstatic, -⟩ := Prod.mk.inj he
  have hstatic := escape_ok hstatic
  cases result with
  | deny d =>
    obtain ⟨_, _, hdeny⟩ | ⟨_, -, -, -, hpass⟩ := evaluateStatic_ok hstatic
    · cases hdeny
      exact .ret nofun
    · cases hpass
  | pass payload =>
    have hnot (keyId : String) (hk : keyId ∈ base) : ¬ CarriesKey E token keyId :=
      not_carriesKey_of_pass hstatic htexts hk
    have hactive : RunsSettled E b base (fun _ => True) (isActiveStayCall E payload roomId) :=
      Prog.keeps_of_only (P := Settles b base) (fun _ _ => settled_execApi) (fun _ _ hop _ => hop)
        (isActiveStayCall_only (fun _ => trivial) (fun _ => trivial) payload roomId)
    change RunsSettled E b base _ (isActiveStayCall E payload roomId >>= fun active => _)
    refine hactive.bind fun active _ => ?_
    split
    · have hpresent : RunsSettled E b base (fun d => d.unlocked = true → Draws b .connected challenge)
          (presentCall E .connected (payloadKeyId E payload) (payloadDevicePub payload) challenge
            response now) :=
        presentCall_settled .connected (payloadKeyId E payload) (payloadDevicePub payload) challenge
          response now
      exact fun s hs => (hpresent s hs).imp fun _ _ hd _ hu => ⟨hd hu, hnot⟩
    · exact .ret nofun

/-! ## Requests -/

/-- The token a request presents. -/
def presentedToken? : Request → Option PyStr
  | .lockUnlock _ body => some body.token
  | .roomControl _ body => some body.token
  | _ => none

/-- A positive answer is to a challenge of this process, and to a token that
carries no key of `base`. -/
def AnsweredHere (E : Env) (b : Start ι) (base : List String) (r : Request) (a : Answer) : Prop :=
  positive (.ok a) = true →
    (∃ v challenge, presentedAt? r = some (v, challenge) ∧ Draws b v challenge) ∧
    ∃ token, presentedToken? r = some token ∧ ∀ keyId ∈ base, ¬ CarriesKey E token keyId

/-- **A process that was settled when it started accepts only what is its
own**, whatever its requests do to each other. -/
theorem requestProgram_settled (propertyId : String) (sk : PrivateKey) (i : ι) :
    RunsSettled E b base (AnsweredHere E b base (b.req i).1) (requestProgram E propertyId sk (b.req i)) := by
  rcases hreq : b.req i with ⟨req, draw⟩
  cases req with
  | createGuest | createRoom | reserve | checkin | refresh =>
    exact (onStore_settled _).bind fun _ _ => .ret nofun
  | revocations => exact (onStore_settled (Stmt.call .revocationList)).bind fun _ _ => .ret nofun
  | checkout stayId =>
    refine (onStore_settled _).bind fun r _ => ?_
    exact (syncRoomCall_settled r.2).bind fun _ _ => .ret nofun
  | roomChange stayId body =>
    refine (onStore_settled _).bind fun r _ => ?_
    refine (syncRoomCall_settled r.1).bind fun _ _ => ?_
    exact (syncLockCall_settled r.2.1).bind fun _ _ => .ret nofun
  | lockChallenge roomId =>
    have hdraws : Draws b (.lock roomId) draw.nonce :=
      ⟨i, by rw [hreq], .inl ⟨roomId, by rw [hreq], rfl⟩⟩
    refine .call trivial fun _ _ _ _ _ => ?_
    exact .call hdraws fun _ _ _ _ _ => .ret nofun
  | roomChallenge roomId =>
    have hdraws : Draws b .connected draw.nonce :=
      ⟨i, by rw [hreq], .inr ⟨roomId, by rw [hreq], rfl⟩⟩
    exact .call hdraws fun _ _ _ _ _ => .ret nofun
  | lockUnlock roomId body =>
    refine (syncLockCall_settled roomId).bind fun _ _ => ?_
    refine .call trivial fun _ _ _ _ _ => ?_
    simp only
    rcases hpres : presented body.challengeB64 body.responseB64 with e | ⟨challenge, response⟩
    · exact .throw _
    · refine (finishUnlockCall_settled roomId body.token challenge response _).bind fun d hd =>
        .ret fun hpositive => ?_
      obtain ⟨hdraws, hnot⟩ := hd hpositive
      exact ⟨⟨.lock roomId, challenge, by rw [presentedAt?, hpres], hdraws⟩, body.token, rfl, hnot⟩
  | roomControl roomId body =>
    simp only [requestProgram, roomControlCall]
    rcases hpres : presented body.challengeB64 body.responseB64 with e | ⟨challenge, response⟩
    · exact .throw _
    · refine (authorizeCall_settled roomId body.command body.token challenge response _).bind fun d hd =>
        .ret fun hpositive => ?_
      obtain ⟨hdraws, hnot⟩ := hd hpositive
      exact ⟨⟨.connected, challenge, by rw [presentedAt?, hpres], hdraws⟩, body.token, rfl, hnot⟩

/-! ## Challenges that were issued -/

section Issued

variable [DecidableEq ι] {req : ι → Request × Draw} {s₀ s : Serving ι} {h : List (ServingTurn ι)}
  {v : Verifier Int} {c : Bytes}

/-- At one of these turns the challenge was issued at the verifier. -/
def IssuedIn (h : List (ServingTurn ι)) (v : Verifier Int) (c : Bytes) : Prop :=
  ∃ e ∈ h, ∃ now k, e.before.prog e.request = .call (.issue v now c) k

omit [DecidableEq ι] in
theorem IssuedIn.cons {e : ServingTurn ι} (hissued : IssuedIn h v c) : IssuedIn (e :: h) v c := by
  obtain ⟨e', he', hissue⟩ := hissued
  exact ⟨e', List.mem_cons_of_mem e he', hissue⟩

/-- A challenge that is pending after a statement was pending before it, or
is the one that was issued. -/
theorem pending_execApi {op : ApiStmt} {s : AppState} (h : ((execApi E op s).2.challenges E v).Pending c) :
    (s.challenges E v).Pending c ∨ ∃ now, op = .issue v now c := by
  have hkept (op : ApiStmt) (hop : op.KeepsChallenges) := challenges_execApi (E := E) hop s v
  cases op with
  | issue v' now nonce =>
    rw [execApi] at h
    by_cases hv : v = v'
    · subst hv
      rw [challenges_set_self] at h
      obtain rfl | h := ChallengeStore.pending_issue h
      · exact .inr ⟨now, rfl⟩
      · exact .inl h
    · rw [challenges_set_of_ne hv] at h
      exact .inl h
  | consume v' challenge now =>
    rw [execApi] at h
    by_cases hv : v = v'
    · subst hv
      rw [challenges_set_self] at h
      exact .inl (ChallengeStore.pending_consume.mp h).2
    · rw [challenges_set_of_ne hv] at h
      exact .inl h
  | store op => exact .inl (hkept (.store op) trivial ▸ h)
  | lockFor roomId => exact .inl (hkept (.lockFor roomId) trivial ▸ h)
  | syncRevocations roomId revoked => exact .inl (hkept (.syncRevocations roomId revoked) trivial ▸ h)
  | lockStatic | connectedStatic | activeAssignment | stayByText | check => exact .inl h

theorem pending_turn {i : ι} (h : ((s.turn (execApi E) i).shared.challenges E v).Pending c) :
    (s.shared.challenges E v).Pending c ∨ ∃ now k, s.prog i = .call (.issue v now c) k := by
  cases hp : s.prog i with
  | ret a =>
    rw [Threads.turn_of_ended (o := .ok a) (by rw [hp]; rfl)] at h
    exact .inl h
  | throw e =>
    rw [Threads.turn_of_ended (o := .error e) (by rw [hp]; rfl)] at h
    exact .inl h
  | call op k =>
    rw [Threads.shared_turn hp] at h
    obtain h | ⟨now, rfl⟩ := pending_execApi h
    · exact .inl h
    · exact .inr ⟨now, k, rfl⟩

/-- **What is pending or was taken has been issued**, in a run that begins
without challenges and before any request has had a turn. -/
theorem issued_of_taken {propertyId : String} {sk : PrivateKey}
    (hprogs : ∀ i, s₀.prog i = requestProgram E propertyId sk (req i))
    (hnone : ∀ v c, ¬ (s₀.shared.challenges E v).Pending c) (hs : Schedule (execApi E) s₀ h s) :
    (∀ i, Staged E req s i) ∧ (∀ v c, (s.shared.challenges E v).Pending c → IssuedIn h v c) ∧
      ∀ i v c, Takes req s i v c → IssuedIn h v c := by
  induction hs with
  | nil =>
    have hcourse (i : ι) : Course E (req i) (s₀.prog i) := by
      rw [hprogs]
      exact requestProgram_course (req i)
    refine ⟨fun i => .inl (hcourse i), fun v c hpending => absurd hpending (hnone v c), ?_⟩
    intro i v c ⟨_, htakes⟩
    obtain htakes | htakes := htakes
    · exact absurd htakes ((hcourse i).not_accepting s₀.shared)
    · exact absurd htakes (hcourse i).not_granted
  | @cons h s i _ ih =>
    obtain ⟨hstaged, hpending, htakes⟩ := ih
    have hmove := (hstaged i).move
    refine ⟨hmove.staged hstaged, fun v c hafter => ?_, fun j v c hafter => ?_⟩
    · obtain hbefore | ⟨now, k, hissue⟩ := pending_turn hafter
      · exact (hpending v c hbefore).cons
      · exact ⟨_, List.mem_cons_self, now, k, hissue⟩
    · obtain hbefore | ⟨-, hbefore, -⟩ := hmove.takes hafter
      · exact (htakes j v c hbefore).cons
      · exact (hpending v c hbefore).cons

end Issued

/-! ## Processes -/

/-- The running process issued the challenge at the verifier, at one of the
turns of its requests since it was started. -/
def IssuedHere [DecidableEq ι] (E : Env) (pem : Pem) (h : List (HostEntry ι))
    (p : Process ι ApiStmt ApiStmt.Res Exc Answer AppState (Start ι)) (v : Verifier Int) (challenge : Bytes) :
    Prop :=
  ∃ e ∈ h, e.request = .start p.boot ∧ ∃ s l, (hostBoot E pem p.boot e.before.disk).2 = some s ∧
    Schedule (execApi E) s l p.threads ∧ IssuedIn l v challenge

theorem settled_restart {sk : PrivateKey} {db : Db} (hbase : base <+: db.revocationList) :
    Settled E b base (.restart E b.propertyId sk db) where
  table := hbase
  locks := nofun
  challenges v challenge hpending := by
    cases v with
    | lock roomId =>
      rw [challenges_lock] at hpending
      cases hpending
    | connected => cases hpending

/-- From a start on, processes are settled for what was revoked before it. -/
theorem sound_settled [DecidableEq ι] (base : List String) :
    Sound (host (ι := ι) E pem) (fun _ => True) (fun d => base <+: d.db.revocationList)
      (fun b d s => d.db = s.db ∧ Settled E b base s)
      (fun b => Others (fun _ _ => True) (Settled E b base)) (fun b op _ => Settles b base op)
      (fun b i a _ => AnsweredHere E b base (b.req i).1 a) where
  refl _ := Others.refl fun _ => trivial
  trans _ := Others.trans fun _ _ _ _ _ => trivial
  effect _ _ _ _ hop _ := ⟨trivial, settled_execApi hop⟩
  disk b d _ hd := by
    have hdb : (hostBoot E pem b d).1.db = d.db := hostBoot_db b d
    change base <+: (hostBoot E pem b d).1.db.revocationList
    rwa [hdb]
  start b d s _ hd hs := by
    obtain ⟨sk, rfl, -⟩ := hostBoot_started hs
    refine ⟨⟨hostBoot_db b d, settled_restart hd⟩, fun i => ?_⟩
    exact Prog.Under.imp (fun _ _ h => h.1)
      (requestProgram_settled b.propertyId sk i _ (settled_restart hd))
  step _ _ _ _ hop hI := ⟨rfl, settled_execApi hop hI.2⟩
  idle _ _ _ hI := ⟨rfl, hI.2⟩
  rest _ _ _ hI := by
    rw [hI.1]
    exact hI.2.table

/-- What a running process has accepted, it has issued. -/
theorem issuedHere_of_granted [DecidableEq ι] {h : List (HostEntry ι)} {m : HostMachine ι}
    (hm : HostRun E pem h m) {p : Process ι ApiStmt ApiStmt.Res Exc Answer AppState (Start ι)}
    (hp : m.process = some p) {i : ι} (hgranted : Granted p.threads i) {v : Verifier Int} {challenge : Bytes}
    (hpresented : presentedAt? (p.boot.req i).1 = some (v, challenge)) :
    IssuedHere E pem h p v challenge := by
  obtain ⟨e, he, hreq, s, l, hs, hrun⟩ := Lives.process hm hp
  have hboot : (hostBoot E pem p.boot e.before.disk).2 = some s := hs
  obtain ⟨sk, rfl, -⟩ := hostBoot_started hboot
  have hnone (v : Verifier Int) (c : Bytes) :
      ¬ ((Serving.restart E p.boot sk e.before.disk.db).shared.challenges E v).Pending c := by
    cases v with
    | lock roomId =>
      intro hpending
      rw [challenges_lock] at hpending
      cases hpending
    | connected => exact fun hpending => by cases hpending
  have hprogs (i : ι) : (Serving.restart E p.boot sk e.before.disk.db).prog i
      = requestProgram E p.boot.propertyId sk (p.boot.req i) := rfl
  obtain ⟨-, -, htakes⟩ := issued_of_taken hprogs hnone hrun
  exact ⟨e, he, hreq, _, l, hboot, hrun, htakes i v challenge ⟨hpresented, .inr hgranted⟩⟩

/-- **A start closes the doors on what was before it.** Say that a process
was started in a run, and is running or has been replaced by later ones.
Then a request that a process has answered positively since presented a
challenge which that very process drew and issued for this verifier, and a
token of a key that was not revoked when the process was started: whatever
lists were on their way to the locks, and whatever was recorded, before. -/
theorem crash_closes_doors [DecidableEq ι] {h : List (HostEntry ι)} {m : HostMachine ι}
    {e : HostEntry ι} (hm : HostRun E pem h m) (he : e ∈ h) (hstart : e.request = .start b)
    {p : Process ι ApiStmt ApiStmt.Res Exc Answer AppState (Start ι)} (hp : m.process = some p)
    {i : ι} {a : Answer} (ha : (p.threads.prog i).outcome? = some (.ok a))
    (hpositive : positive (.ok a) = true) :
    (∃ v challenge, presentedAt? (p.boot.req i).1 = some (v, challenge) ∧ Draws p.boot v challenge ∧
      IssuedHere E pem h p v challenge) ∧
    ∃ token, presentedToken? (p.boot.req i).1 = some token ∧
      ∀ keyId ∈ e.before.disk.db.revocationList, ¬ CarriesKey E token keyId := by
  have hgranted : Granted p.threads i := ⟨_, ha, hpositive⟩
  obtain ⟨l, h', rfl⟩ := List.append_of_mem he
  have hgood := Lives.sound_since (sound_settled e.before.disk.db.revocationList) hm hstart
    List.prefix_rfl fun _ _ _ _ => trivial
  have hprog := hgood.progs p hp i
  rw [Prog.outcome?_ok ha] at hprog
  obtain ⟨⟨v, challenge, hpresented, hdraws⟩, htoken⟩ :=
    hprog p.threads.shared (.refl (fun _ => trivial) _) hpositive
  exact ⟨⟨v, challenge, hpresented, hdraws, issuedHere_of_granted hm hp hgranted hpresented⟩, htoken⟩

/-- The guest has checked in, the process dies, and the next one opens the
door, to a challenge of its own. -/
theorem crash_closes_doors_sample :
    ∃ p a, (runHost (checkedInEvents ++ restartEvents)).2.process = some p ∧
      (p.threads.prog 4).outcome? = some (.ok a) ∧ positive (.ok a) = true ∧
      ∃ v challenge, presentedAt? (p.boot.req 4).1 = some (v, challenge) ∧ Draws p.boot v challenge ∧
        IssuedHere Env.sample Pem.sample (runHost (checkedInEvents ++ restartEvents)).1 p v challenge := by
  have hm : HostRun Env.sample Pem.sample _ (runHost (checkedInEvents ++ restartEvents)).2 :=
    History.of_runAll _ _ _
  have he : Entry.of (Machine.perform (host Env.sample Pem.sample))
      (.start (sampleStart sampleFresh.deviceSk guestRequests)) (runHost (checkedInEvents ++ [.crash])).2
        ∈ (runHost (checkedInEvents ++ restartEvents)).1 := by
    have hfirst : restartEvents = [.crash] ++ ([.start (sampleStart sampleFresh.deviceSk guestRequests)]
        ++ [3, 3, 4, 4, 4, 4, 4, 4, 4].map .turn) := rfl
    rw [hfirst, ← List.append_assoc, ← List.append_assoc]
    refine History.mem_runAll_append _ ?_
    rw [runAll_append_singleton]
    exact List.mem_cons_self
  have hopens : ((runHost (checkedInEvents ++ restartEvents)).2.process.any fun p =>
      (p.threads.prog 4).outcome?.any positive) = true := by decide +kernel
  obtain ⟨p, hp, hpositive⟩ := (Option.any_eq_true _ _).mp hopens
  obtain ⟨o, ha, hpositive⟩ := (Option.any_eq_true _ _).mp hpositive
  cases o with
  | error e => cases hpositive
  | ok a => exact ⟨p, a, hp, ha, hpositive, (crash_closes_doors hm he rfl hp ha hpositive).1⟩

end StayKey.Service
