/-
StayKey.Service.LetIn — a guest is let in, whatever others do meanwhile.

A guest has a key and a challenge of the door, answers the challenge with
the phone, and asks the door to open, while the service is busy with other
requests: the statements of all of them take turns. The unlock request
passes as long as the door is as the guest needs it (`DoorReady`) wherever
one of its statements is run: the lock is of the room and the property, its
snapshot has not the key, and the challenge waits to be answered.

The first is due to the invariants of the lock objects and of the tables
(`Service.ServedLocks`, `Service.StorePart`), the second to the snapshots
being lists that were read, the third is the life of a challenge
(`Service.ChallengeLife`). And the lock has to be the one that issued the
challenge: the registry must not have got another lock of the room since
(`Service.Registry`). What is left to be asked is what the guest can expect
to be asked: `guest_is_let_in`.
-/
import StayKey.Service.ChallengeLife

namespace StayKey.Service

open StayKey.Codec StayKey.Door StayKey.Store StayKey.Program

variable {ι : Type} {E : Env} {sk : PrivateKey} {propertyId : String}

/-! ## The unlock request -/

/-- The door is ready for a key with these fields, and for the challenge. -/
structure DoorReady (E : Env) (sk : PrivateKey) (f : Fields) (roomId : Int) (c : Bytes) (now : Int)
    (s : AppState) : Prop where
  propertyPub : (s.lockFor E roomId).1.propertyPub = E.ed.publicKey sk
  static : firstFailing (staticChecks f (s.lockFor E roomId).1.propertyId (s.lockFor E roomId).1.roomId
    now (s.lockFor E roomId).1.revoked) = none
  acceptable : (s.challenges E (.lock roomId)).Acceptable c now

section Unlock

variable {a : CredentialIn} {fresh : Fresh} {key : IssuedKey} {roomId now : Int} {c : Bytes}

theorem syncLockCall_ends (F : AppState → Prop) (roomId : Int) :
    (syncLockCall roomId).Ends (execApi E) F () 3 :=
  fun _ _ => ⟨_, _, rfl, fun _ _ => ⟨_, _, rfl, fun _ _ => ⟨_, _, rfl, rfl⟩⟩⟩

/-- The static checks pass. -/
theorem DoorReady.exec_lockStatic (hE : E.ed.Correct) (hkey : issueCredential E sk a fresh = .ok key)
    {s : AppState} (h : DoorReady E sk (a.fields E fresh) roomId c now s) :
    execApi E (.lockStatic roomId key.token now) s = (.ok (.pass (sortByKey (a.payload E fresh))), s) := by
  obtain ⟨bytes, -, heval⟩ := evaluateStatic_issue hkey (s.lockFor E roomId).1.propertyPub
    (s.lockFor E roomId).1.propertyId (s.lockFor E roomId).1.roomId now (s.lockFor E roomId).1.revoked
  have hverify : E.ed.verify (s.lockFor E roomId).1.propertyPub (E.ed.sign sk bytes) bytes = true := by
    rw [h.propertyPub]
    exact hE sk bytes
  rw [execApi, heval, if_pos hverify, h.static]
  rfl

/-- From the static checks on. -/
theorem finishUnlockCall_ends (hE : E.ed.Correct) (hkey : issueCredential E sk a fresh = .ok key) :
    (finishUnlockCall E roomId key.token c (E.ed.sign (a.device fresh) c) now).Ends (execApi E)
      (DoorReady E sk (a.fields E fresh) roomId c now) (.unlock (py key.keyId)) 3 := by
  have hcarries := carries_payload (E := E) a fresh
  have hid : payloadKeyId E (sortByKey (a.payload E fresh)) = py key.keyId := by
    obtain ⟨-, bytes, -, rfl⟩ := issueCredential_ok hkey
    rw [payloadKeyId, hcarries.keyId]
    rfl
  have hpossession : verifyDeviceResponse E (payloadDevicePub (sortByKey (a.payload E fresh))) c
      (E.ed.sign (a.device fresh) c) = .ok true := by
    rw [payloadDevicePub, hcarries.devicePub, Option.getD_some, verifyDeviceResponse_str]
    exact congrArg Except.ok (possession_sign hE (a.device fresh) c)
  intro s hs
  refine ⟨_, _, hs.exec_lockStatic hE hkey, fun t ht => ?_⟩
  refine ⟨.ok, t, by rw [execApi, ChallengeStore.check_eq_ok_iff.mpr ht.acceptable], ?_⟩
  simp only [hpossession]
  rw [hid]
  exact fun u _ => ⟨(), _, rfl, rfl⟩

/-- **The unlock request opens the door** in seven statements, if the door is
ready at each of them. -/
theorem lockUnlockCall_ends (hE : E.ed.Correct) (hkey : issueCredential E sk a fresh = .ok key)
    {body : UnlockIn} {clock : Int} (htoken : body.token = key.token)
    (hchallenge : body.challengeB64 = b64uEncode c)
    (hresponse : body.responseB64 = b64uEncode (E.ed.sign (a.device fresh) c)) :
    (lockUnlockCall E roomId body clock).Ends (execApi E)
      (DoorReady E sk (a.fields E fresh) roomId c (nowOr body.now clock))
      (.decision (.unlock (py key.keyId))) 7 := by
  have hpresented : presented body.challengeB64 body.responseB64
      = .ok (c, E.ed.sign (a.device fresh) c) := by
    rw [presented, hchallenge, hresponse, b64uDecode_b64uEncode, b64uDecode_b64uEncode]
    rfl
  have hfinish : (finishUnlockCall E roomId body.token c (E.ed.sign (a.device fresh) c)
      (nowOr body.now clock) >>= fun d => .ret (.decision d)).Ends (execApi E)
        (DoorReady E sk (a.fields E fresh) roomId c (nowOr body.now clock))
        (Answer.decision (.unlock (py key.keyId))) 3 := by
    rw [htoken]
    exact (finishUnlockCall_ends hE hkey).bind (m := 0) rfl
  refine (syncLockCall_ends _ roomId).bind (m := 4) fun s _ => ⟨(), _, rfl, ?_⟩
  rw [hpresented]
  exact hfinish

/-- The lock of the registry is ready, as the request sees it. -/
def LockReady (E : Env) (sk : PrivateKey) (f : Fields) (roomId ref : Int) (c : Bytes) (now : Int)
    (m : Memory) : Prop :=
  m.registry.get? roomId = some ref ∧ DoorReady E sk f roomId c now (m.app.viewAt E roomId ref)

/-- The same at the lock of the registry. -/
theorem lockUnlock_ends (hE : E.ed.Correct) (hkey : issueCredential E sk a fresh = .ok key)
    {body : UnlockIn} {clock ref : Int} (htoken : body.token = key.token)
    (hchallenge : body.challengeB64 = b64uEncode c)
    (hresponse : body.responseB64 = b64uEncode (E.ed.sign (a.device fresh) c)) (held : Int → Int) :
    (withLocks held (lockUnlockCall E roomId body clock)).Ends (execMem E)
      (LockReady E sk (a.fields E fresh) roomId ref c (nowOr body.now clock))
      (.decision (.unlock (py key.keyId))) 7 :=
  ends_withLocks (fun _ hm => hm) (lockUnlockCall_ofRoom body clock) (.inr ⟨_, rfl⟩)
    (lockUnlockCall_ends hE hkey htoken hchallenge hresponse)

end Unlock

/-! ## A guest at the door -/

variable [DecidableEq ι] {req : ι → Request × Draw} {h h₀ h₁ : List (MemTurn ι)} {s t t₀ : MemServing ι}
  {i q u : ι} {roomId ref : Int} {key : IssuedKey} {now : Int}

/-- The key is for the room, at this time. -/
def ForRoomAt (key : IssuedKey) (roomId now : Int) : Prop :=
  ∃ f, Carries key.payload f ∧ roomId ∈ f.roomIds ∧ f.validFrom ≤ now ∧ now ≤ f.validUntil

variable (E sk propertyId req t₀ q roomId ref) in
/-- In `t₀` the registry has a lock of the room, which it keeps, and the
guest's request for a challenge has this lock, or has not been served yet. -/
structure AsksForChallenge : Prop where
  asks : (req q).1 = .lockChallenge roomId
  stays : LockStays t₀ roomId ref
  waits : t₀.prog q = withLocks (fun _ => 0) (requestProgram E propertyId sk (req q)) ∨
    t₀.prog q = challengeAt ref (req q).2

variable (E sk propertyId req t q u roomId key now) in
/-- In `t` the guest has the challenge, by the answer to `q`, and the request
`u`, which has not been served yet, presents the key and the phone's
response, in the lifetime of the challenge. -/
structure Presents : Prop where
  answered : (t.prog q).outcome? ≠ none
  unserved : t.prog u = withLocks (fun _ => 0) (requestProgram E propertyId sk (req u))
  unlock : ∃ body response, (req u).1 = .lockUnlock roomId body ∧ body.token = key.token ∧
    body.challengeB64 = b64uEncode (req q).2.nonce ∧
    deviceSign E key.deviceSkB64 (req q).2.nonce = .ok response ∧
    body.responseB64 = b64uEncode response ∧ nowOr body.now (req u).2.clock = now
  inTime : now ≤ (req q).2.clock + challengeTtlSeconds

variable (req s q u roomId key) in
/-- Up to `s` the key was not revoked, nobody else was let in with the
challenge, and no other challenge of the door is asked for after its
lifetime. -/
structure Undisturbed : Prop where
  unrevoked : key.keyId ∉ s.shared.app.db.revocationList
  alone : ∀ j, j ≠ u → presentedAt? (req j).1 = some (.lock roomId, (req q).2.nonce) → ¬ Admitted s j
  lifetime : ∀ j, (req j).1 = .lockChallenge roomId →
    (req j).2.clock ≤ (req q).2.clock + challengeTtlSeconds

/-- The same held before. -/
theorem Undisturbed.before {s₀ : MemServing ι} (hs : Schedule (execMem E) s₀ h s) (hv : History.Visits h s t)
    (h : Undisturbed req s q u roomId key) : Undisturbed req t q u roomId key where
  unrevoked hlisted := h.unrevoked ((since_run hs hv).reads.subset hlisted)
  alone j hj hpresented hadmitted := h.alone j hj hpresented
    (hs.since_visits (P := fun s => Admitted s j) hv hadmitted fun _ i hadmitted => hadmitted.turn i)
  lifetime := h.lifetime

omit [DecidableEq ι] in
/-- The snapshot of a lock has only what was revoked. -/
theorem Served.unrevoked (hs : Served E sk propertyId req s) {keyId : String} (ref : Int)
    (hnot : keyId ∉ s.shared.app.db.revocationList) : py keyId ∉ (s.shared.app.lockFor E ref).1.revoked := by
  obtain ⟨revoked, hread, hlock⟩ :=
    hs.snapshots.lockFor (E := E) ref ref _ (locks_lockFor s.shared.app ref)
  rw [lockFor_db] at hread
  rw [hlock, List.mem_toFinset]
  intro hmem
  obtain ⟨id, hid, heq⟩ := List.mem_map.mp hmem
  exact hnot (py_injective heq ▸ hread.subset hid)

omit [DecidableEq ι] in
/-- **The door is ready** for the guest, while the challenge waits. -/
theorem Served.lockReady (hs : Served E sk propertyId req s) {a : CredentialIn} {fresh : Fresh}
    (hkey : issueCredential E sk a fresh = .ok key) (hproperty : a.propertyId = propertyId)
    (hroom : ForRoomAt key roomId now) (hin : InProperty propertyId s.shared.app.db roomId)
    (hregistered : s.shared.registry.get? roomId = some ref)
    (hwaits : Waits (s.shared.app.challenges E (.lock ref)) (req q).2.nonce (req q).2.clock)
    (htime : now ≤ (req q).2.clock + challengeTtlSeconds)
    (hrevoked : key.keyId ∉ s.shared.app.db.revocationList) :
    LockReady E sk (a.fields E fresh) roomId ref (req q).2.nonce now s.shared := by
  have hlock := lockOf_lockFor hs.objects ref
  have hlockRoom := (hs.filed roomId ref hregistered).lockFor_eq (E := E) |>.2
  obtain ⟨f, hcarries, hroomIds, hfrom, huntil⟩ := hroom
  obtain rfl := hcarries.unique (carries_issued hkey)
  have hkeyId : (a.fields E fresh).keyId = py key.keyId := by
    obtain ⟨-, bytes, -, rfl⟩ := issueCredential_ok hkey
    rfl
  have hlockProperty : (s.shared.app.lockFor E ref).1.propertyId = propertyId := by
    rw [← hs.property] at hin ⊢
    exact hlock.inProperty (hlockRoom.symm ▸ hin)
  refine ⟨hregistered, ?_, ?_, ?_⟩
  · rw [lockFor_viewAt, hlock.propertyPub, AppState.propertyPub, hs.key]
  · rw [lockFor_viewAt]
    refine staticChecks_hold_iff.mpr ⟨?_, ?_, hfrom, huntil, ?_⟩
    · rw [hlockProperty, ← hproperty]
      rfl
    · rw [hlockRoom]
      exact hroomIds
    · rw [hkeyId]
      exact hs.unrevoked ref hrevoked
  · rw [challenges_viewAt]
    refine hwaits.acceptable ?_
    have httl : (s.shared.app.challenges E (.lock ref)).ttl = challengeTtlSeconds := hlock.ttl
    rw [httl]
    omega

omit [DecidableEq ι] in
/-- The challenge of the guest waits at the lock of the registry. -/
theorem AsksForChallenge.life (hasks : AsksForChallenge E sk propertyId req t₀ q roomId ref)
    (hstart : NotIssued E req t₀ q ref) (hserved : Served E sk propertyId req t₀) :
    ChallengeLife E req t₀ q roomId ref := by
  have hask : (t₀.prog q = lockForCall roomId >>= fun ref => challengeAt ref (req q).2) ∨
      t₀.prog q = challengeAt ref (req q).2 := by
    refine hasks.waits.imp_left fun hprog => ?_
    rw [hprog, ← withLocks_lockChallenge E propertyId sk roomId (req q).2 (fun _ => 0), ← hasks.asks]
  cases hstart with
  | ended h => exact absurd (by rcases hask with hask | hask <;> rw [hask] <;> rfl) h
  | unseen h => exact .unseen hask h
  | answered j room hlock hpresented hadmitted =>
    obtain rfl := (hserved.filed roomId ref hasks.stays.registered).unique hlock
    exact .answered j hpresented hadmitted

/-- The door stays ready until the request has ended. -/
theorem Presents.let_in (hE : E.ed.Correct) (hnonces : NoncesDistinct req)
    (ht₀ : Served E sk propertyId req t₀) (hstart : NotIssued E req t₀ q ref)
    (hasks : AsksForChallenge E sk propertyId req t₀ q roomId ref) (ht : Schedule (execMem E) t₀ h₁ t)
    {a : CredentialIn} {fresh : Fresh} (hkey : issueCredential E sk a fresh = .ok key)
    (hproperty : a.propertyId = propertyId) (hin : InProperty propertyId t.shared.app.db roomId)
    (hroom : ForRoomAt key roomId now) (hpresents : Presents E sk propertyId req t q u roomId key now)
    (hs : Schedule (execMem E) t h s) (hquiet : Undisturbed req s q u roomId key) :
    (∀ o, (s.prog u).outcome? = some o → o = .ok (.decision (.unlock (py key.keyId)))) ∧
      (7 ≤ (h.map Entry.request).count u →
        (s.prog u).outcome? = some (.ok (.decision (.unlock (py key.keyId))))) := by
  obtain ⟨body, response, hreq, htoken, hchallenge, hsign, hresponse, rfl⟩ := hpresents.unlock
  rw [deviceSign_issue hkey, Except.ok.injEq] at hsign
  subst hsign
  have hends : (t.prog u).Ends (execMem E) (LockReady E sk (a.fields E fresh) roomId ref (req q).2.nonce
      (nowOr body.now (req u).2.clock)) (.decision (.unlock (py key.keyId))) 7 := by
    rw [hpresents.unserved, requestProgram, hreq]
    exact lockUnlock_ends hE hkey htoken hchallenge hresponse _
  have hserved := ht₀.run ht
  have hstays := hasks.stays.run ht
  have hlife := challengeLife_run hnonces hasks.asks hquiet.lifetime ht₀ hasks.stays
    (hasks.life hstart ht₀) ht
  refine Schedule.ended hs hends fun e he _ hopen => ?_
  have hv : History.Visits h s e.before := .inr ⟨e, he, rfl⟩
  obtain ⟨h', hbefore, -⟩ := hs.of_mem he
  have hquiet' := hquiet.before hs hv
  refine (hserved.run hbefore).lockReady hkey hproperty hroom
    (hin.extends (since_run hbefore hbefore.visits_start).tables) (hstays.run hbefore).registered ?_
    hpresents.inTime hquiet'.unrevoked
  cases challengeLife_run hnonces hasks.asks hquiet.lifetime hserved hstays hlife hbefore with
  | waiting hstore => exact hstore
  | unseen hprog _ =>
    obtain ⟨o, ho⟩ := Option.ne_none_iff_exists'.mp hpresents.answered
    have hanswered : (e.before.prog q).outcome? = some o :=
      hbefore.since_visits (P := fun s => (s.prog q).outcome? = some o) hbefore.visits_start ho
        fun s i ho => by rw [Threads.ended_turn (execMem E) ho]; exact ho
    rcases hprog with hprog | hprog <;> rw [hprog] at hanswered <;> cases hanswered
  | answered j hpresented hadmitted =>
    by_cases hju : j = u
    · obtain ⟨o, ho, -⟩ := hadmitted
      rw [hju, hopen] at ho
      cases ho
    · exact absurd hadmitted (hquiet'.alone j hju hpresented)

/-! ## The key -/

/-- A key that has its row was issued for the property and for a room of it. -/
theorem issued_of_hasRow {db : Db} (hrow : HasRow E sk key db) (hdb : Integrity propertyId db)
    (hroom : ForRoomAt key roomId now) : ∃ a fresh, issueCredential E sk a fresh = .ok key ∧
      a.propertyId = propertyId ∧ InProperty propertyId db roomId := by
  obtain ⟨k, hk, read, stay, fresh, hholds⟩ := hrow
  refine ⟨_, fresh, hholds.credential, hholds.booking.propertyId.symm.trans (hdb.stay _ stay hholds.getStay).1,
    ?_⟩
  obtain ⟨f, hcarries, hroomIds, -⟩ := hroom
  obtain rfl := hcarries.unique (carries_issued hholds.credential)
  have hone : roomId ∈ [k.roomId] := hroomIds
  obtain rfl := List.mem_singleton.mp hone
  exact hdb.keyRoom k hk

theorem integrity_execMem (op : MemStmt) (m : Memory) (hop : OnApi (AllowedOnStore (StmtSound propertyId)) op m)
    (hm : Integrity propertyId m.app.db) : Integrity propertyId (execMem E op m).2.app.db := by
  cases op with
  | api op => exact integrity_execApi op m.app hop hm
  | registered | register => exact hm

/-- The tables of a new service. -/
theorem integrity_memRun (hrun : MemServingRun E propertyId sk req h s) :
    Integrity propertyId s.shared.app.db := by
  refine (Schedule.keeps (K := fun m n => Extends m.app.db n.app.db)
    (I := fun m => Integrity propertyId m.app.db) (Q := fun _ _ _ => True) (fun m => Extends.refl m.app.db)
    (fun _ _ _ => Extends.trans) (fun op m => (since_execMem op m).tables) integrity_execMem integrity_empty ?_ hrun).1
  intro i m hm
  exact (storeRules_integrity.request_withLocks (Others.trans (fun _ _ _ => Extends.trans))
    (fun _ _ => trivial) (req i) hm _).imp fun _ _ h => ⟨trivial, h.1⟩

/-- The keys that a new service hands out have their rows. -/
theorem hasRow_memRun (hrun : MemServingRun E propertyId sk req h s) {a : Answer}
    (ha : (s.prog i).outcome? = some (.ok a)) (hkey : a.handedOut? = some key) :
    HasRow E sk key s.shared.app.db := by
  have hfree (roomId : Int) (db : Db) : KeyOk E sk (.getRoom roomId) db := fun _ hk => by cases hk
  have hrules : StoreRules E sk propertyId Extends (KeyOk E sk) (fun _ => True) (HasRow E sk) :=
    storeRules_genuine
  have hstart := hrules.request_withLocks (fun _ _ _ => Extends.trans) hfree (req i)
    (m := (Serving.start E propertyId sk req).objects.shared) trivial fun _ => 0
  have hprog : (s.prog i).Under (execMem E) (fun m n => Extends m.app.db n.app.db)
      (OnApi (AllowedOnStore (KeyOk E sk))) (fun a n => True ∧ HandedOut (HasRow E sk) a n.app.db) s.shared := by
    refine Schedule.under (Q := fun _ a n => True ∧ HandedOut (HasRow E sk) a n.app.db) ?_ ?_ hrun
      hrun.visits_start hstart fun e _ => (since_turn e.before e.request).tables
    · exact fun m => Extends.refl m.app.db
    · exact fun _ _ _ => Extends.trans
  rw [Prog.outcome?_ok ha] at hprog
  exact (hprog s.shared (Extends.refl _)).2 key hkey

/-- **A guest is let in.** Say that a guest was handed a key, asks for a
challenge of the door when the registry has a lock of the room and no
request that has found none is left, and presents both, in the window of the
key and in the lifetime of the challenge. If the key is not revoked, nobody
else is let in with the challenge, and no other challenge of the door is
asked for after its lifetime, then whatever else is served meanwhile, and in
whatever order the statements of all requests are run, the only answer the
guest can get is that the door opens, and seven turns are enough for it. -/
theorem guest_is_let_in (hE : E.ed.Correct) (hnonces : NoncesDistinct req)
    (ht₀ : MemServingRun E propertyId sk req h₀ t₀)
    (hasks : AsksForChallenge E sk propertyId req t₀ q roomId ref) (ht : Schedule (execMem E) t₀ h₁ t)
    {a : Answer} (ha : (t.prog i).outcome? = some (.ok a)) (hkey : a.handedOut? = some key)
    (hroom : ForRoomAt key roomId now) (hpresents : Presents E sk propertyId req t q u roomId key now)
    (hs : Schedule (execMem E) t h s) (hquiet : Undisturbed req s q u roomId key) :
    (∀ o, (s.prog u).outcome? = some o → o = .ok (.decision (.unlock (py key.keyId)))) ∧
      (7 ≤ (h.map Entry.request).count u →
        (s.prog u).outcome? = some (.ok (.decision (.unlock (py key.keyId))))) := by
  have hrun := ht₀.append ht
  obtain ⟨c, fresh, hissue, hproperty, hin⟩ :=
    issued_of_hasRow (hasRow_memRun hrun ha hkey) (integrity_memRun hrun) hroom
  have hserved : Served E sk propertyId req (Serving.start E propertyId sk req).objects :=
    served_start rfl rfl rfl
  have hunseen : NotIssued E req (Serving.start E propertyId sk req).objects q ref := .unseen ⟨rfl, rfl⟩
  have hdrawn : drawnNonce? (req q) = some (req q).2.nonce := by rw [drawnNonce?, hasks.asks]
  exact hpresents.let_in hE hnonces (hserved.run ht₀) (notIssued_run hnonces hdrawn hserved hunseen ht₀) hasks ht
    hissue hproperty hin hroom hs hquiet

/-- The turns of a run of the sample requests. -/
abbrev serveMem (turns : List (Fin 7)) : List (MemTurn (Fin 7)) × MemServing (Fin 7) :=
  runAll (fun i s => ((), s.turn (execMem Env.sample) i))
    (Serving.start Env.sample "HILTON-DEMO-001" sampleKey guestRequests).objects turns

/-- The guest has checked in and asks for a challenge, for which a lock has
been made. -/
abbrev turnsUntilLock : List (Fin 7) := [0, 1, 1, 1, 1, 2, 2, 2, 2, 3, 3, 3, 3]

/-- Another request presents the same at the same time, and is left behind. -/
abbrev turnsAtDoor : List (Fin 7) := [4, 6, 4, 6, 6, 4, 4, 4, 6, 6, 4, 4]

/-- The key of the check-in opens the room in the middle of the stay. -/
theorem sampleKey_forRoom : ∃ key, sampleCheckin.answer = .ok (.key key) ∧ sampleUnlock.token = key.token ∧
    ForRoomAt key 101 1500 ∧ key.keyId = "k1" ∧
    deviceSign Env.sample key.deviceSkB64 [7] = .ok (Env.sample.ed.sign sampleFresh.deviceSk [7]) := by
  obtain ⟨key, f, _, hout, hcarries, hrooms, hfrom, huntil, hid, -⟩ := sampleCheckin_key
  have hanswer : sampleCheckin.answer = .ok (.key key) := by
    obtain ⟨-, hans⟩ | ⟨_, _, _, hreq, -⟩ := hout
    · exact hans
    · cases hreq
  have hkey : answeredKey? sampleCheckin = some key := by rw [answeredKey?, hanswer]
  have hdevice : (answeredKey? sampleCheckin).any
      (fun key => key.deviceSkB64 = b64uEncode sampleFresh.deviceSk.val) = true := by decide
  rw [hkey, Option.any_some, decide_eq_true_eq] at hdevice
  refine ⟨key, hanswer, by rw [sampleUnlock, hkey]; rfl, ⟨f, hcarries, ?_, ?_, ?_⟩, hid, ?_⟩
  · rw [hrooms]; decide
  · rw [hfrom]; decide
  · rw [huntil]; decide
  · rw [deviceSign, hdevice, b64uDecode_b64uEncode]
    rfl

theorem guestRequests_clocks (j : Fin 7) :
    (guestRequests j).2.clock ≤ (guestRequests 3).2.clock + challengeTtlSeconds := by
  revert j
  decide

theorem asksForChallenge_sample :
    AsksForChallenge Env.sample sampleKey "HILTON-DEMO-001" guestRequests (serveMem turnsUntilLock).2 3 101 0 where
  asks := rfl
  stays := by
    have hended : ∀ i : Fin 7, i < 3 → ((serveMem turnsUntilLock).2.prog i).outcome?.isSome = true := by
      decide +kernel
    have hunserved : ∀ i : Fin 7, 3 < i → (serveMem turnsUntilLock).2.prog i =
        withLocks (fun _ => 0) (requestProgram Env.sample "HILTON-DEMO-001" sampleKey (guestRequests i)) := by
      intro i hi
      match i with
      | 4 | 5 | 6 => rfl
    refine ⟨by decide +kernel, fun i => ?_⟩
    rcases lt_trichotomy i 3 with hi | rfl | hi
    · obtain ⟨o, ho⟩ := Option.isSome_iff_exists.mp (hended i hi)
      exact Prog.onlyIf_of_ended ho
    · show (challengeAt 0 _).OnlyIf _ _
      exact ⟨trivial, fun _ _ => trivial⟩
    · rw [hunserved i hi]
      exact withLocks_leavesRoom ..
  waits := .inr rfl

/-- The guest is let in at the last of the turns at the door. -/
theorem guest_is_let_in_sample :
    ((runAll (fun i s => ((), s.turn (execMem Env.sample) i)) (serveMem (turnsUntilLock ++ [3])).2
      turnsAtDoor).2.prog 4).outcome? = some (.ok (.decision (.unlock (py "k1")))) := by
  have ht₀ : MemServingRun Env.sample "HILTON-DEMO-001" sampleKey guestRequests _ (serveMem turnsUntilLock).2 :=
    History.of_runAll _ _ _
  have ht : Schedule (execMem Env.sample) (serveMem turnsUntilLock).2 _ (serveMem (turnsUntilLock ++ [3])).2 :=
    History.nil.cons 3
  have hs : Schedule (execMem Env.sample) (serveMem (turnsUntilLock ++ [3])).2 _
      (runAll (fun i s => ((), s.turn (execMem Env.sample) i)) (serveMem (turnsUntilLock ++ [3])).2 turnsAtDoor).2 :=
    History.of_runAll _ _ _
  obtain ⟨key, hanswer, htoken, hroom, hid, hsign⟩ := sampleKey_forRoom
  have hout : ((serveMem (turnsUntilLock ++ [3])).2.prog 2).outcome? = some (.ok (.key key)) := by
    rw [← hanswer]
    rfl
  have hpresents : Presents Env.sample sampleKey "HILTON-DEMO-001" guestRequests
      (serveMem (turnsUntilLock ++ [3])).2 3 4 101 key 1500 :=
    ⟨by decide +kernel, rfl, ⟨sampleUnlock, _, rfl, htoken, rfl, hsign, rfl, rfl⟩, by decide⟩
  have hothers : ∀ j : Fin 7, j ≠ 4 → ((runAll (fun i s => ((), s.turn (execMem Env.sample) i))
      (serveMem (turnsUntilLock ++ [3])).2 turnsAtDoor).2.prog j).outcome?.any positive = false := by
    decide +kernel
  have hnot : (runAll (fun i s => ((), s.turn (execMem Env.sample) i)) (serveMem (turnsUntilLock ++ [3])).2
      turnsAtDoor).2.shared.app.db.revocationList = [] := by decide +kernel
  have hturns : 7 ≤ ((runAll (fun i s => ((), s.turn (execMem Env.sample) i))
      (serveMem (turnsUntilLock ++ [3])).2 turnsAtDoor).1.map Entry.request).count 4 := by
    rw [map_request_runAll]
    decide
  have hletin := guest_is_let_in Env.sample_correct guestRequests_noncesDistinct ht₀ asksForChallenge_sample ht
    hout rfl hroom hpresents hs
    ⟨by rw [hnot]; exact List.not_mem_nil, fun j hj _ hadmitted => ?_, fun j _ => guestRequests_clocks j⟩
  · rw [← hid]
    exact hletin.2 hturns
  · have hany := (Option.any_eq_true _ _).mpr hadmitted
    rw [hothers j hj] at hany
    cases hany

/-- Without a settled registry the guest can be kept out: the request `6` has
found no lock before the guest's challenge is issued, and stores one after
it. -/
example : ((serveMem [0, 1, 1, 1, 1, 2, 2, 2, 2, 6, 3, 3, 3, 3, 3, 6, 6, 6, 4, 4, 4, 4, 4, 4]).2.prog 4).outcome?.map
    positive = some false := by
  decide +kernel

end StayKey.Service
