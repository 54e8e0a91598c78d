/-
StayKey.Service.Snapshots — revocation lists on their way to the locks.

To sync a lock, a request reads the revocation list and hands it to the
lock, which takes it for its snapshot, whatever it knew before. Between the
two steps another request may revoke keys and sync the lock: then the list
that is delivered is older than the snapshot it replaces, and the lock
forgets the new entries (`forgets_of_older`), although the comment in
`lock_unlock` has the lock ensured to know the latest list.

`DeliversOlder` says that a turn does this. In the runs without such a turn
no lock forgets a key id, and no unlock request that starts when a checkout
has been answered opens with a key of that checkout
(`revocations_never_regress`).
-/
import StayKey.Service.ConcurrentTheorems
import StayKey.Service.Permanence
import StayKey.Store.RevocationList

namespace StayKey.Service

open StayKey.Codec StayKey.Door StayKey.Store StayKey.Program

variable {ι : Type} {E : Env} {sk : PrivateKey} {propertyId : String} {s t : AppState}

/-- The lock of the room has the key id in its snapshot. -/
def Knows (s : AppState) (roomId : Int) (keyId : PyStr) : Prop :=
  ∃ lock, s.locks.get? roomId = some lock ∧ keyId ∈ lock.revoked

/-- The next statement of `i` gives a lock a list that is shorter than the
snapshot of the lock. -/
def DeliversOlder (s : Serving ι) (i : ι) : Prop :=
  ∃ roomId revoked k lock, s.prog i = .call (.syncRevocations roomId revoked) k ∧
    s.shared.locks.get? roomId = some lock ∧ revoked.length < lock.revoked.card

/-- The same as a test. -/
def deliversOlder? (s : Serving ι) (i : ι) : Bool :=
  match s.prog i with
  | .call (.syncRevocations roomId revoked) _ =>
    (s.shared.locks.get? roomId).any fun lock => revoked.length < lock.revoked.card
  | _ => false

theorem deliversOlder?_eq_true {s : Serving ι} {i : ι} (h : DeliversOlder s i) :
    deliversOlder? s i = true := by
  obtain ⟨roomId, revoked, k, lock, hp, hget, hlt⟩ := h
  rw [deliversOlder?, hp]
  simp [hget, hlt]

/-! ## Lists in flight -/

/-- The list of the database only grows. -/
def DbGrows (s t : AppState) : Prop := Grows s.db t.db

theorem DbGrows.refl (s : AppState) : DbGrows s s := Grows.refl s.db

theorem DbGrows.trans (s₁ s₂ s₃ : AppState) (h : DbGrows s₁ s₂) (h' : DbGrows s₂ s₃) : DbGrows s₁ s₃ :=
  Grows.trans _ _ _ h h'

/-- The statement is none on the database. -/
def ApiStmt.OffStore : ApiStmt → Prop
  | .store _ => False
  | _ => True

@[simp] theorem setChallenges_db (v : Verifier Int) (store : ChallengeStore) :
    (s.setChallenges E v store).db = s.db := by
  cases v with
  | lock roomId => exact lockFor_db roomId
  | connected => rfl

theorem execApi_db {op : ApiStmt} (hop : op.OffStore) (s : AppState) : (execApi E op s).2.db = s.db := by
  cases op with
  | store => exact hop.elim
  | lockFor roomId | syncRevocations roomId => exact lockFor_db roomId
  | issue | consume => exact setChallenges_db ..
  | lockStatic | connectedStatic | activeAssignment | stayByText | check => rfl

theorem dbGrows_execApi (op : ApiStmt) (s : AppState) : DbGrows s (execApi E op s).2 := by
  by_cases hop : op.OffStore
  · rw [DbGrows, execApi_db hop]
    exact Grows.refl s.db
  · cases op with
    | store op => exact grows_exec op s.db
    | _ => exact absurd trivial hop

theorem revoked_execApi {keyIds : List String} (op : ApiStmt) (s : AppState)
    (h : Revoked keyIds s.db) : Revoked keyIds (execApi E op s).2.db :=
  h.grows s.db _ (dbGrows_execApi op s)

/-- A list that is delivered was read before: it is a beginning of the list
of the database. -/
def WasRead (op : ApiStmt) (s : AppState) : Prop :=
  match op with
  | .syncRevocations _ revoked => revoked <+: s.db.revocationList
  | _ => True

/-- The statement delivers no list. -/
def ApiStmt.DeliversNone : ApiStmt → Prop
  | .syncRevocations .. => False
  | _ => True

theorem wasRead_of_none {op : ApiStmt} (h : op.DeliversNone) (s : AppState) : WasRead op s := by
  cases op with
  | syncRevocations => exact h.elim
  | _ => trivial

/-- A checkout that has answered has revoked the keys it answered with. -/
def Answered (a : Answer) (s : AppState) : Prop :=
  ∀ revoked roomId, a = .checkedOut revoked roomId → Revoked revoked s.db

/-- A program on the database, within a request. -/
theorem under_onStore {α : Type} {Q : α → Db → Prop} {p : Call α}
    (h : p.Under exec Grows (fun _ _ => True) Q s.db) :
    (onStore p).Under (execApi E) DbGrows WasRead (fun a t => Q a t.db) s := by
  induction p generalizing s with
  | ret a => exact fun t ht => h t.db ht
  | throw e => trivial
  | call op k ih =>
    intro t ht
    obtain ⟨-, hk⟩ := h t.db ht
    refine ⟨trivial, fun r u he => ih r ?_⟩
    simp only [execApi, Prod.mk.injEq] at he
    obtain ⟨he, rfl⟩ := he
    exact hk r _ (Prod.ext he rfl)

theorem under_onStore_free {α : Type} (p : Call α) (s : AppState) :
    (onStore p).Under (execApi E) DbGrows WasRead (fun _ _ => True) s :=
  under_onStore (Q := fun _ _ => True) (Prog.under_of_only (fun _ _ _ => trivial) (Prog.only_true p) s.db)

theorem under_of_none {α : Type} {p : ApiCall α} (h : p.Only ApiStmt.DeliversNone) (s : AppState) :
    p.Under (execApi E) DbGrows WasRead (fun _ _ => True) s :=
  Prog.under_of_only (fun _ s hop => wasRead_of_none hop s) h s

/-- A sync delivers what it has read. -/
theorem syncLockCall_under (roomId : Int) (s : AppState) :
    (syncLockCall roomId).Under (execApi E) DbGrows WasRead (fun _ _ => True) s := by
  refine Prog.under_call (fun _ _ => trivial) fun _ _ t _ _ => ?_
  refine Prog.under_call (fun _ _ => trivial) fun t revoked u _ he => ?_
  cases he
  refine Prog.under_call (fun u hu => hu) fun _ _ _ _ _ => ?_
  exact fun _ _ => trivial

theorem syncRoomCall_under (roomId : Option Int) (s : AppState) :
    (syncRoomCall roomId).Under (execApi E) DbGrows WasRead (fun _ _ => True) s := by
  cases roomId with
  | none => exact fun _ _ => trivial
  | some roomId => exact syncLockCall_under roomId s

theorem presentCall_none (v : Verifier Int) (keyId : PyStr) (devicePub : Json)
    (challenge response : Bytes) (now : Int) :
    (presentCall E v keyId devicePub challenge response now).Only ApiStmt.DeliversNone := by
  refine ⟨trivial, fun status => ?_⟩
  cases status with
  | replayed | unknown => trivial
  | ok =>
    simp only
    rcases verifyDeviceResponse E devicePub challenge response with e | _ | _
    · trivial
    · trivial
    · exact ⟨trivial, fun _ => trivial⟩

theorem finishUnlockCall_none (roomId : Int) (token : PyStr) (challenge response : Bytes) (now : Int) :
    (finishUnlockCall E roomId token challenge response now).Only ApiStmt.DeliversNone := by
  refine ⟨trivial, fun result => ?_⟩
  cases result with
  | deny => trivial
  | pass payload => exact presentCall_none ..

theorem authorizeCall_none (roomId : Int) (command : String) (token : PyStr)
    (challenge response : Bytes) (now : Int) :
    (authorizeCall E roomId command token challenge response now).Only ApiStmt.DeliversNone := by
  unfold authorizeCall
  split
  · trivial
  · refine ⟨trivial, fun revoked => ⟨trivial, fun result => ?_⟩⟩
    cases result with
    | deny => trivial
    | pass payload =>
      refine (isActiveStayCall_only (fun _ => trivial) (fun _ => trivial) payload roomId).bind fun active => ?_
      split
      · exact presentCall_none ..
      · trivial

theorem checkoutRequest_under (stayId : String) (now : Int) (db : Db) :
    (checkoutRequest stayId now).Under exec Grows (fun _ _ => True) (fun r => Revoked r.1) db := by
  refine Prog.under_call (fun _ _ => trivial) fun _ row u _ _ => ?_
  cases row with
  | none => trivial
  | some stay =>
    exact (checkout_under stayId now u).bind Grows.refl fun _ _ hk _ hu => hk.grows _ _ hu

/-- **What a request delivers it has read, and a checkout ends with its keys
revoked.** -/
theorem requestProgram_under (r : Request × Draw) (s : AppState) :
    (requestProgram E propertyId sk r).Under (execApi E) DbGrows WasRead Answered s := by
  obtain ⟨req, draw⟩ := r
  cases req with
  | createGuest | createRoom | reserve | checkin | refresh =>
    exact (under_onStore_free _ s).bind DbGrows.refl fun _ _ _ _ _ _ _ h => by cases h
  | checkout stayId =>
    refine (under_onStore (E := E) (checkoutRequest_under stayId _ s.db)).bind DbGrows.refl
      fun r t hrevoked => ?_
    refine ((syncRoomCall_under r.2 t).keep (I := fun (t : AppState) => Revoked r.1 t.db)
      (fun _ _ h hk => hk.grows _ _ h) revoked_execApi hrevoked).bind DbGrows.refl
        fun _ t hkeep u hu revoked roomId hans => ?_
    cases hans
    exact hkeep.2.grows _ _ hu
  | roomChange stayId body =>
    refine (under_onStore_free _ s).bind DbGrows.refl fun r t _ => ?_
    refine (syncRoomCall_under r.1 t).bind DbGrows.refl fun _ t _ => ?_
    exact (syncLockCall_under r.2.1 t).bind DbGrows.refl fun _ _ _ _ _ _ _ h => by cases h
  | revocations =>
    exact (under_onStore_free (Stmt.call .revocationList) s).bind DbGrows.refl fun _ _ _ _ _ _ _ h => by cases h
  | lockChallenge roomId =>
    have hnone (nonce : Bytes) (now : Int) :
        (do
          ApiStmt.call (.lockFor roomId)
          ApiStmt.call (.issue (.lock roomId) now nonce) : ApiCall Bytes).Only ApiStmt.DeliversNone :=
      ⟨trivial, fun _ => ⟨trivial, fun _ => trivial⟩⟩
    exact (under_of_none (hnone _ _) s).bind DbGrows.refl fun _ _ _ _ _ _ _ h => by cases h
  | roomChallenge =>
    have hnone (nonce : Bytes) (now : Int) :
        (ApiStmt.issue .connected now nonce).call.Only ApiStmt.DeliversNone :=
      ⟨trivial, fun _ => trivial⟩
    exact (under_of_none (hnone _ _) s).bind DbGrows.refl fun _ _ _ _ _ _ _ h => by cases h
  | lockUnlock roomId body =>
    refine (syncLockCall_under roomId s).bind DbGrows.refl fun _ t _ => ?_
    have hlock : (ApiStmt.lockFor roomId).call.Only ApiStmt.DeliversNone := ⟨trivial, fun _ => trivial⟩
    refine (under_of_none hlock t).bind DbGrows.refl fun _ t _ => ?_
    rcases presented body.challengeB64 body.responseB64 with e | ⟨challenge, response⟩
    · trivial
    · exact (under_of_none (finishUnlockCall_none ..) t).bind DbGrows.refl fun _ _ _ _ _ _ _ h => by cases h
  | roomControl roomId body =>
    simp only [requestProgram, roomControlCall]
    rcases presented body.challengeB64 body.responseB64 with e | ⟨challenge, response⟩
    · trivial
    · exact (under_of_none (authorizeCall_none ..) s).bind DbGrows.refl fun _ _ _ _ _ _ _ h => by cases h

/-! ## Snapshots -/

/-- Every snapshot is a list that was read. -/
def SnapshotsRead (s : AppState) : Prop :=
  ∀ roomId lock, s.locks.get? roomId = some lock →
    ∃ revoked, revoked <+: s.db.revocationList ∧ lock.revoked = (revoked.map py).toFinset

theorem SnapshotsRead.setLock (h : SnapshotsRead s) {roomId : Int} {lock : LockVerifier}
    (hlock : ∃ revoked, revoked <+: s.db.revocationList ∧ lock.revoked = (revoked.map py).toFinset) :
    SnapshotsRead (s.setLock roomId lock) := by
  intro roomId' lock' hget
  rw [AppState.setLock, Dict.get?_set] at hget
  split at hget
  · cases hget
    exact hlock
  · exact h roomId' lock' hget

theorem SnapshotsRead.lockFor (h : SnapshotsRead s) (roomId : Int) :
    SnapshotsRead (s.lockFor E roomId).2 := by
  unfold AppState.lockFor
  split
  · exact h
  · exact h.setLock ⟨_, List.prefix_rfl, rfl⟩

theorem SnapshotsRead.setChallenges (h : SnapshotsRead s) (v : Verifier Int) (store : ChallengeStore) :
    SnapshotsRead (s.setChallenges E v store) := by
  cases v with
  | lock roomId =>
    obtain ⟨revoked, hread, hlock⟩ := h.lockFor (E := E) roomId roomId _ (locks_lockFor s roomId)
    exact (h.lockFor roomId).setLock ⟨revoked, hread, hlock⟩
  | connected => exact h

theorem snapshotsRead_execApi (op : ApiStmt) (s : AppState) (hop : WasRead op s) (h : SnapshotsRead s) :
    SnapshotsRead (execApi E op s).2 := by
  cases op with
  | store op =>
    intro roomId lock hget
    obtain ⟨revoked, hread, hlock⟩ := h roomId lock hget
    exact ⟨revoked, hread.trans (grows_exec op s.db), hlock⟩
  | lockFor roomId => exact h.lockFor roomId
  | syncRevocations roomId revoked =>
    refine (h.lockFor roomId).setLock ⟨revoked, ?_, rfl⟩
    rw [lockFor_db]
    exact hop
  | issue | consume => exact h.setChallenges _ _
  | lockStatic | connectedStatic | activeAssignment | stayByText | check => exact h

theorem snapshotsRead_new : SnapshotsRead (.new E propertyId sk) := nofun

/-! ## What a lock knows -/

theorem Knows.lockFor {roomId : Int} {keyId : PyStr} (h : Knows s roomId keyId) (roomId' : Int) :
    Knows (s.lockFor E roomId').2 roomId keyId := by
  obtain ⟨lock, hget, hmem⟩ := h
  unfold AppState.lockFor
  cases hget' : s.locks.get? roomId' with
  | some lock' => exact ⟨lock, hget, hmem⟩
  | none =>
    have hne : roomId ≠ roomId' := fun he => by rw [he, hget'] at hget; cases hget
    exact ⟨lock, ((Dict.get?_set ..).trans (if_neg hne)).trans hget, hmem⟩

/-- A lock that is replaced by one with a larger snapshot. -/
theorem Knows.setLock {roomId roomId' : Int} {lock : LockVerifier} {keyId : PyStr}
    (h : Knows s roomId keyId)
    (hlock : ∀ old, s.locks.get? roomId' = some old → old.revoked ⊆ lock.revoked) :
    Knows ((s.lockFor E roomId').2.setLock roomId' lock) roomId keyId := by
  by_cases hroom : roomId = roomId'
  · subst hroom
    obtain ⟨old, hget, hmem⟩ := h
    exact ⟨lock, Dict.get?_set_self .., hlock old hget hmem⟩
  · obtain ⟨old, hget, hmem⟩ := h.lockFor (E := E) roomId'
    exact ⟨old, ((Dict.get?_set ..).trans (if_neg hroom)).trans hget, hmem⟩

theorem Knows.setChallenges {roomId : Int} {keyId : PyStr} (h : Knows s roomId keyId)
    (v : Verifier Int) (store : ChallengeStore) : Knows (s.setChallenges E v store) roomId keyId := by
  cases v with
  | lock roomId' =>
    refine h.setLock fun old hold => ?_
    rw [lockFor_of_locks hold]
  | connected => exact h

/-- A list that is delivered takes nothing away, if it is no shorter than
the snapshot. -/
theorem snapshot_subset {revoked : List String} {lock : LockVerifier} {roomId : Int}
    (h : SnapshotsRead s) (hget : s.locks.get? roomId = some lock)
    (hread : revoked <+: s.db.revocationList) :
    lock.revoked ⊆ (revoked.map py).toFinset ↔ lock.revoked.card ≤ revoked.length := by
  obtain ⟨known, hknown, hlock⟩ := h roomId lock hget
  have hcard {l : List String} (hl : l <+: s.db.revocationList) :
      ((l.map py).toFinset).card = l.length := by
    have hnodup : (l.map py).Nodup :=
      ((revocationList_nodup s.db).sublist hl.sublist).map py_injective
    rw [List.toFinset_card_of_nodup hnodup, List.length_map]
  rw [hlock, hcard hknown]
  constructor
  · intro hsub
    have := Finset.card_le_card hsub
    rwa [hcard hknown, hcard hread] at this
  · intro hle
    have hpre : known <+: revoked := List.prefix_of_prefix_length_le hknown hread hle
    exact fun k hk => List.mem_toFinset.mpr ((hpre.map py).subset (List.mem_toFinset.mp hk))

/-- **A statement takes no key id from a lock**, unless it delivers a list
that is shorter than the snapshot. -/
theorem knows_execApi {op : ApiStmt} {roomId : Int} {keyId : PyStr} (h : SnapshotsRead s)
    (hop : WasRead op s)
    (hnewer : ∀ roomId revoked lock, op = .syncRevocations roomId revoked →
      s.locks.get? roomId = some lock → lock.revoked.card ≤ revoked.length)
    (hk : Knows s roomId keyId) : Knows (execApi E op s).2 roomId keyId := by
  cases op with
  | store op => exact hk
  | lockFor roomId' => exact hk.lockFor roomId'
  | syncRevocations roomId' revoked =>
    exact hk.setLock fun old hold => (snapshot_subset h hold hop).mpr (hnewer _ _ _ rfl hold)
  | issue | consume => exact hk.setChallenges _ _
  | lockStatic | connectedStatic | activeAssignment | stayByText | check => exact hk

/-! ## Runs -/

variable [DecidableEq ι] {req : ι → Request × Draw} {s t : Serving ι}
  {h : List (ServingTurn ι)}

/-- In every run the snapshots and the lists in flight were read, and the
checkouts that have answered have revoked their keys. -/
theorem read_run (hrun : ServingRun E propertyId sk req h s) :
    SnapshotsRead s.shared ∧
      ∀ i, (s.prog i).Under (execApi E) DbGrows WasRead Answered s.shared :=
  hrun.invariant_under (Q := fun _ => Answered) DbGrows.refl DbGrows.trans dbGrows_execApi
    snapshotsRead_new (fun i => requestProgram_under (req i) _) snapshotsRead_execApi

/-- A list that is in flight before a turn was read. -/
theorem wasRead_next (hrun : ServingRun E propertyId sk req h s) {i : ι} {op : ApiStmt}
    {k : op.Res → ApiCall Answer} (hp : s.prog i = .call op k) : WasRead op s.shared := by
  have hi := (read_run hrun).2 i
  rw [hp] at hi
  exact (hi s.shared (DbGrows.refl _)).1

/-- A turn that delivers no older list takes no key id from a lock. -/
theorem knows_turn (hrun : ServingRun E propertyId sk req h s) {i : ι} (hok : ¬ DeliversOlder s i)
    {roomId : Int} {keyId : PyStr} (hk : Knows s.shared roomId keyId) :
    Knows (s.turn (execApi E) i).shared roomId keyId := by
  cases hp : s.prog i with
  | ret a => rwa [Threads.turn_of_ended (o := .ok a) (by rw [hp]; rfl)]
  | throw e => rwa [Threads.turn_of_ended (o := .error e) (by rw [hp]; rfl)]
  | call op k =>
    rw [Threads.shared_turn hp]
    refine knows_execApi (read_run hrun).1 (wasRead_next hrun hp) (fun roomId' revoked lock hdeliver hget => ?_) hk
    subst hdeliver
    by_contra hlt
    exact hok ⟨roomId', revoked, k, lock, hp, hget, not_le.mp hlt⟩

/-- Where a lock is given an older list, it forgets a key id. -/
theorem forgets_of_older (hrun : ServingRun E propertyId sk req h s) {i : ι} (hi : DeliversOlder s i) :
    ∃ roomId keyId, Knows s.shared roomId keyId ∧
      ¬ Knows (s.turn (execApi E) i).shared roomId keyId := by
  obtain ⟨roomId, revoked, k, lock, hp, hget, hlt⟩ := hi
  have hnot : ¬ lock.revoked ⊆ (revoked.map py).toFinset := fun hsub =>
    absurd ((snapshot_subset (read_run hrun).1 hget (wasRead_next hrun hp)).mp hsub) (not_le.mpr hlt)
  obtain ⟨keyId, hmem, hnotMem⟩ := Finset.not_subset.mp hnot
  refine ⟨roomId, keyId, ⟨lock, hget, hmem⟩, ?_⟩
  rintro ⟨lock', hget', hmem'⟩
  have hafter : (s.turn (execApi E) i).shared.locks.get? roomId
      = some (lock.syncRevocations (revoked.map py)) := by
    rw [Threads.shared_turn hp, execApi, lockFor_of_locks hget]
    exact Dict.get?_set_self ..
  rw [hafter] at hget'
  cases hget'
  exact hnotMem hmem'

/-! ## Unlock requests -/

/-- What an unlock request can rely on while no lock forgets. -/
structure Remembers (s t : AppState) : Prop where
  db : DbGrows s t
  locks : ∀ roomId keyId, Knows s roomId keyId → Knows t roomId keyId

theorem Remembers.refl (s : AppState) : Remembers s s := ⟨DbGrows.refl s, fun _ _ h => h⟩

theorem Remembers.trans (s₁ s₂ s₃ : AppState) (h : Remembers s₁ s₂) (h' : Remembers s₂ s₃) :
    Remembers s₁ s₃ :=
  ⟨h.db.trans _ _ _ h'.db, fun _ _ hk => h'.locks _ _ (h.locks _ _ hk)⟩

theorem remembers_turn (hrun : ServingRun E propertyId sk req h s) {i : ι} (hok : ¬ DeliversOlder s i) :
    Remembers s.shared (s.turn (execApi E) i).shared where
  db := Prog.next_preserves (execApi E) (P := fun _ => True) (I := fun t => DbGrows s.shared t)
    (fun op t _ ht => DbGrows.trans _ _ _ ht (dbGrows_execApi op t)) (Prog.only_true _) (DbGrows.refl _)
  locks _ _ := knows_turn hrun hok

/-- After a sync the lock knows the keys that were revoked before it. -/
theorem syncLockCall_knows {s : AppState} {keyId : String} (hrevoked : keyId ∈ s.db.revocationList)
    (roomId : Int) :
    (syncLockCall roomId).Under (execApi E) Remembers (fun _ _ => True)
      (fun _ t => Knows t roomId (py keyId)) s := by
  refine Prog.under_call (fun _ _ => trivial) fun t _ u ht he => ?_
  cases he
  refine Prog.under_call (fun _ _ => trivial) fun t' revoked u ht' he => ?_
  cases he
  have hread : keyId ∈ t'.db.revocationList := by
    refine ht'.db.mem ?_
    rw [lockFor_db]
    exact ht.db.mem hrevoked
  refine Prog.under_call (fun _ _ => trivial) fun t'' _ u _ he => ?_
  cases he
  intro v hv
  exact hv.locks _ _ ⟨_, Dict.get?_set_self .., List.mem_toFinset.mpr (List.mem_map.mpr ⟨keyId, hread, rfl⟩)⟩

/-- A lock that knows the key of a token does not open to it. -/
theorem finishUnlockCall_refuses {s : AppState} {roomId : Int} {token : PyStr} {keyId : String}
    (hkey : CarriesKey E token keyId) (hk : Knows s roomId (py keyId)) (challenge response : Bytes)
    (now : Int) :
    (finishUnlockCall E roomId token challenge response now).Under (execApi E) Remembers
      (fun _ _ => True) (fun d _ => d.unlocked = false) s := by
  refine Prog.under_call (fun _ _ => trivial) fun t result u ht he => ?_
  obtain ⟨lock, hget, hmem⟩ := ht.locks _ _ hk
  have hstatic : evaluateStatic E token lock.propertyPub lock.propertyId lock.roomId now lock.revoked
      = .ok result := by
    simp only [execApi, lockFor_of_locks hget, Prod.mk.injEq] at he
    obtain ⟨he, -⟩ := he
    cases hs : evaluateStatic E token lock.propertyPub lock.propertyId lock.roomId now lock.revoked with
    | error e => rw [hs] at he; cases he
    | ok r => rw [hs] at he; cases he; rfl
  obtain ⟨reason, k, rfl⟩ | ⟨p, hparse, -, hpass, rfl⟩ := evaluateStatic_ok hstatic
  · exact fun _ _ => rfl
  · obtain ⟨p', hparse', hid⟩ := hkey
    obtain rfl : p' = p := Option.some.inj (Except.ok.inj (hparse'.symm.trans hparse))
    obtain ⟨-, hnot⟩ | ⟨_, _, hdeny⟩ := evaluatePayload_ok hpass
    · rw [payloadKeyId] at hid
      rw [hid] at hnot
      exact absurd hmem hnot
    · cases hdeny

/-- An unlock request does not open with a key that was revoked before it. -/
theorem lockUnlockCall_refuses {s : AppState} {roomId : Int} {body : UnlockIn} {keyId : String}
    (hkey : CarriesKey E body.token keyId) (hrevoked : keyId ∈ s.db.revocationList) (clock : Int) :
    (lockUnlockCall E roomId body clock).Under (execApi E) Remembers (fun _ _ => True)
      (fun a _ => positive (.ok a) = false) s := by
  refine (syncLockCall_knows hrevoked roomId).bind Remembers.refl fun _ t ht => ?_
  refine Prog.under_call (fun _ _ => trivial) fun t' _ u ht' he => ?_
  cases he
  have hk : Knows (t'.lockFor E roomId).2 roomId (py keyId) := (ht'.locks _ _ ht).lockFor roomId
  rcases presented body.challengeB64 body.responseB64 with e | ⟨challenge, response⟩
  · trivial
  · exact (finishUnlockCall_refuses hkey hk challenge response _).bind Remembers.refl
      fun _ _ hd _ _ => hd

/-- No lock forgets a key id, and no unlock request that starts when a
checkout has been answered opens with a key of that checkout. -/
structure KeepsRevocations (E : Env) (propertyId : String) (sk : PrivateKey) (req : ι → Request × Draw)
    (h : List (ServingTurn ι)) (s : Serving ι) : Prop where
  snapshots : ∀ t roomId keyId, History.Visits h s t → Knows t.shared roomId keyId →
    Knows s.shared roomId keyId
  unlocks : ∀ t i j revoked syncedRoom roomId body keyId o, History.Visits h s t →
    (t.prog i).outcome? = some (.ok (.checkedOut revoked syncedRoom)) → keyId ∈ revoked →
    (req j).1 = .lockUnlock roomId body → t.prog j = requestProgram E propertyId sk (req j) →
    CarriesKey E body.token keyId → (s.prog j).outcome? = some o → positive o = false

/-- **Revocation knowledge never regresses** in a run in which no lock is
given a list that is shorter than its snapshot. -/
theorem revocations_never_regress (hrun : ServingRun E propertyId sk req h s)
    (hok : ∀ e ∈ h, ¬ DeliversOlder e.before e.request) :
    KeepsRevocations E propertyId sk req h s := by
  have hremember : ∀ e ∈ h, Remembers e.before.shared (e.afterTurn (execApi E)).shared := fun e he => by
    obtain ⟨h', hbefore, -⟩ := hrun.of_mem he
    exact remembers_turn hbefore (hok e he)
  constructor
  · intro t roomId keyId hv hk
    exact hrun.since_visits_entries (P := fun s => Knows s.shared roomId keyId) hv hk
      fun e he hk => (hremember e he).locks _ _ hk
  · intro t i j revoked syncedRoom roomId body keyId o hv hans hmem hreq hstart hkey hout
    obtain ⟨h', hvisited⟩ := hrun.of_visits hv
    have hrevoked : keyId ∈ t.shared.db.revocationList := by
      have hi := (read_run hvisited).2 i
      rw [Prog.outcome?_ok hans] at hi
      exact hi t.shared (DbGrows.refl _) revoked syncedRoom rfl keyId hmem
    have hunlock : (t.prog j).Under (execApi E) Remembers (fun _ _ => True)
        (fun a _ => positive (.ok a) = false) t.shared := by
      rw [hstart, requestProgram, hreq]
      exact lockUnlockCall_refuses hkey hrevoked _
    have hj := Schedule.under (Q := fun _ a _ => positive (.ok a) = false) Remembers.refl
      Remembers.trans hrun hv hunlock hremember
    cases o with
    | error e => rfl
    | ok a =>
      rw [Prog.outcome?_ok hout] at hj
      exact hj s.shared (Remembers.refl _)

/-! ## A list that is delivered late -/

theorem sampleUnlock_carriesKey : CarriesKey Env.sample sampleUnlock.token "k1" := by
  obtain ⟨key, _, _, hout, -, -, -, -, hid, -⟩ := sampleCheckin_key
  have hkey : answeredKey? sampleCheckin = some key := by
    obtain ⟨-, hans⟩ | ⟨_, _, _, -, hans⟩ := hout <;> rw [answeredKey?, hans]
  rw [sampleUnlock, hkey]
  exact hid ▸ hout.carriesKey rfl

/-- The first unlock request reads the list before the checkout; then the
checkout is served to its end. -/
abbrev turnsUntilCheckout : List (Fin 7) :=
  [0, 1, 1, 1, 1, 2, 2, 2, 2, 3, 3, 4, 4, 5, 5, 5, 5, 5, 5, 5, 5, 5, 5]

/-- The second unlock request syncs the lock, and then the list of the first
one is delivered. -/
abbrev turnsSince : List (Fin 7) := [6, 6, 6, 4, 6, 6, 6, 6]

/-- The lock opens to a key of a checkout that was answered before the
request. -/
theorem older_list_opens : ¬ ∀ h s,
    ServingRun Env.sample "HILTON-DEMO-001" sampleKey guestRequests h s →
      KeepsRevocations Env.sample "HILTON-DEMO-001" sampleKey guestRequests h s := by
  intro hclaim
  have hkeeps := hclaim _ _ (History.of_runAll _ _ (turnsUntilCheckout ++ turnsSince))
  have hanswered : ((serve turnsUntilCheckout).2.prog 5).outcome?
      = some (.ok (.checkedOut ["k1"] (some 101))) := rfl
  have hstart : (serve turnsUntilCheckout).2.prog 6
      = requestProgram Env.sample "HILTON-DEMO-001" sampleKey (guestRequests 6) := rfl
  have hopens : ((serve (turnsUntilCheckout ++ turnsSince)).2.prog 6).outcome?.any positive = true := by
    decide +kernel
  obtain ⟨o, hout, hpositive⟩ := (Option.any_eq_true _ _).mp hopens
  have hrefused := hkeeps.unlocks _ 5 6 ["k1"] (some 101) 101 sampleUnlock "k1" o
    (History.visits_runAll turnsUntilCheckout turnsSince) hanswered (List.mem_singleton_self _) rfl hstart
    sampleUnlock_carriesKey hout
  rw [hpositive] at hrefused
  cases hrefused

/-- Here the list is delivered before the checkout. -/
abbrev turnsInTime : List (Fin 7) :=
  [0, 1, 1, 1, 1, 2, 2, 2, 2, 3, 3, 4, 4, 4, 5, 5, 5, 5, 5, 5, 5, 5, 5, 5]

/-- The lock goes on knowing the key, and the second request is refused. -/
theorem revocations_never_regress_in_time :
    Knows (serve (turnsInTime ++ [6, 6, 6, 6, 6])).2.shared 101 (py "k1") ∧
      ∃ o, ((serve (turnsInTime ++ [6, 6, 6, 6, 6])).2.prog 6).outcome? = some o ∧ positive o = false := by
  have hrun := History.of_runAll (fun i s => ((), s.turn (execApi Env.sample) i))
    (Serving.start Env.sample "HILTON-DEMO-001" sampleKey guestRequests) (turnsInTime ++ [6, 6, 6, 6, 6])
  have hok : ∀ e ∈ (serve (turnsInTime ++ [6, 6, 6, 6, 6])).1, ¬ DeliversOlder e.before e.request := by
    have htest : (serve (turnsInTime ++ [6, 6, 6, 6, 6])).1.all
        (fun e => !deliversOlder? e.before e.request) = true := by decide +kernel
    intro e he hold
    have hno := List.all_eq_true.mp htest e he
    rw [deliversOlder?_eq_true hold] at hno
    cases hno
  have hkeeps : KeepsRevocations Env.sample "HILTON-DEMO-001" sampleKey guestRequests _ _ :=
    revocations_never_regress hrun hok
  have hv : History.Visits (serve (turnsInTime ++ [6, 6, 6, 6, 6])).1
      (serve (turnsInTime ++ [6, 6, 6, 6, 6])).2 (serve turnsInTime).2 :=
    History.visits_runAll turnsInTime [6, 6, 6, 6, 6]
  have hanswered : ((serve turnsInTime).2.prog 5).outcome?
      = some (.ok (.checkedOut ["k1"] (some 101))) := rfl
  have hstart : (serve turnsInTime).2.prog 6
      = requestProgram Env.sample "HILTON-DEMO-001" sampleKey (guestRequests 6) := rfl
  have hknown : ((serve turnsInTime).2.shared.locks.get? 101).any (fun lock => py "k1" ∈ lock.revoked)
      = true := by decide +kernel
  have hended : ((serve (turnsInTime ++ [6, 6, 6, 6, 6])).2.prog 6).outcome?.isSome = true := by
    decide +kernel
  obtain ⟨lock, hget, hmem⟩ := (Option.any_eq_true _ _).mp hknown
  obtain ⟨o, hout⟩ := Option.isSome_iff_exists.mp hended
  exact ⟨hkeeps.snapshots _ 101 (py "k1") hv ⟨lock, hget, of_decide_eq_true hmem⟩, o, hout,
    hkeeps.unlocks _ 5 6 ["k1"] (some 101) 101 sampleUnlock "k1" o hv hanswered
      (List.mem_singleton_self _) rfl hstart sampleUnlock_carriesKey hout⟩

end StayKey.Service
