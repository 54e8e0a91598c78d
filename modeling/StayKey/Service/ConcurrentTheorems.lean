/-
StayKey.Service.ConcurrentTheorems — a request that is served alone.

`requestProgram_run`: when no other request takes a turn, the program of a
request answers what `handle` answers and leaves the state `handle` leaves.
-/
import StayKey.Service.Concurrent
import StayKey.Service.ConnectedTheorems

namespace StayKey.Service

open StayKey.Codec StayKey.Door StayKey.Store StayKey.Program

variable {E : Env} {s t : AppState}

/-! ## Statements and parts of programs -/

theorem run_op_bind {α : Type} {op : ApiStmt} {r : op.Res} (h : execApi E op s = (.ok r, t))
    (f : op.Res → ApiCall α) : (op.call >>= f).run (execApi E) s = (f r).run (execApi E) t :=
  Prog.run_call_ok _ h

/-- A program on the database is run there. -/
theorem run_onStore_bind {α β : Type} (p : Call α) (f : α → ApiCall β) (s : AppState) :
    (onStore p >>= f).run (execApi E) s = match s.run p with
      | (.ok a, t) => (f a).run (execApi E) t
      | (.error e, t) => (.error e, t) := by
  induction p generalizing s with
  | ret a => rfl
  | throw e => rfl
  | call op k ih =>
    simp only [onStore, Prog.call_bind, Prog.run_call, execApi, AppState.run, Call.run]
    rcases exec op s.db with ⟨e | r, db⟩
    · rfl
    · exact ih r { s with db }

/-- The envelope of a request that only runs a program. -/
theorem run_onStore_answer {α : Type} (p : Call α) (f : α → Answer) (s : AppState) :
    (onStore p >>= fun a => .ret (f a)).run (execApi E) s = answer f (s.run p) := by
  rw [run_onStore_bind]
  rcases s.run p with ⟨e | a, t⟩ <;> rfl

theorem locks_lockFor (s : AppState) (roomId : Int) :
    (s.lockFor E roomId).2.locks.get? roomId = some (s.lockFor E roomId).1 := by
  unfold AppState.lockFor
  cases h : s.locks.get? roomId with
  | some lock => exact h
  | none => exact Dict.get?_set_self ..

theorem lockFor_of_locks {roomId : Int} {lock : LockVerifier} (h : s.locks.get? roomId = some lock) :
    s.lockFor E roomId = (lock, s) := by
  rw [AppState.lockFor, h]

/-- Asking for the lock again changes nothing. -/
theorem lockFor_lockFor (s : AppState) (roomId : Int) :
    (s.lockFor E roomId).2.lockFor E roomId = s.lockFor E roomId :=
  lockFor_of_locks (locks_lockFor s roomId)

theorem run_syncLockCall_bind {α : Type} (roomId : Int) (f : Unit → ApiCall α) (s : AppState) :
    (syncLockCall roomId >>= f).run (execApi E) s = (f ()).run (execApi E) (s.syncLock E roomId) := by
  have hread : execApi E (.store .revocationList) (s.lockFor E roomId).2
      = (.ok (s.lockFor E roomId).2.db.revocationList, (s.lockFor E roomId).2) := rfl
  have hdeliver : execApi E (.syncRevocations roomId (s.lockFor E roomId).2.db.revocationList)
      (s.lockFor E roomId).2 = (.ok (), s.syncLock E roomId) := by
    rw [execApi, lockFor_lockFor, lockFor_db]
    rfl
  exact ((run_op_bind rfl _).trans (run_op_bind hread _)).trans (run_op_bind hdeliver _)

theorem run_syncRoomCall_bind {α : Type} (roomId : Option Int) (f : Unit → ApiCall α) (s : AppState) :
    (syncRoomCall roomId >>= f).run (execApi E) s = (f ()).run (execApi E) (syncRoom E s roomId) := by
  cases roomId with
  | none => rfl
  | some roomId => exact run_syncLockCall_bind roomId f s

/-! ## Presentations -/

/-- The challenge and possession steps, at the store of the verifier. -/
theorem run_presentCall (v : Verifier Int) (keyId : PyStr) (devicePub : Json)
    (challenge response : Bytes) (now : Int) (hsame : s.setChallenges E v (s.challenges E v) = s) :
    (presentCall E v keyId devicePub challenge response now).run (execApi E) s =
      (escape (presentChallenge E (s.challenges E v) keyId devicePub challenge response now).1,
        s.setChallenges E v
          (presentChallenge E (s.challenges E v) keyId devicePub challenge response now).2) := by
  have hcheck : execApi E (.check v challenge now) s
      = (.ok ((s.challenges E v).check challenge now), s) := rfl
  rw [presentCall, run_op_bind hcheck, presentChallenge]
  cases (s.challenges E v).check challenge now with
  | replayed => simp only [hsame]; rfl
  | unknown => simp only [hsame]; rfl
  | ok =>
    simp only
    rcases verifyDeviceResponse E devicePub challenge response with e | _ | _
    · simp only [hsame]; rfl
    · simp only [hsame]; rfl
    · rfl

theorem setLock_same {roomId : Int} {lock : LockVerifier} (h : s.locks.get? roomId = some lock) :
    s.setLock roomId lock = s := by
  rw [AppState.setLock, Dict.set_same h]

theorem run_finishUnlockCall {roomId : Int} {lock : LockVerifier}
    (h : s.locks.get? roomId = some lock) (token : PyStr) (challenge response : Bytes) (now : Int) :
    (finishUnlockCall E roomId token challenge response now).run (execApi E) s =
      (escape (lock.finishUnlock E token challenge response now).1,
        s.setLock roomId (lock.finishUnlock E token challenge response now).2) := by
  have hlock := lockFor_of_locks (E := E) h
  have hstore : s.challenges E (.lock roomId) = lock.challenges := by rw [AppState.challenges, hlock]
  have hset (store : ChallengeStore) : s.setChallenges E (.lock roomId) store
      = s.setLock roomId { lock with challenges := store } := by rw [AppState.setChallenges, hlock]
  rw [finishUnlockCall, ApiStmt.call, Prog.call_bind, Prog.run_call, execApi, hlock,
    LockVerifier.finishUnlock]
  rcases evaluateStatic E token lock.propertyPub lock.propertyId lock.roomId now lock.revoked
    with e | d | payload
  · simp only [setLock_same h]; rfl
  · simp only [setLock_same h]; rfl
  · have hpresent := run_presentCall (E := E) (s := s) (.lock roomId) (payloadKeyId E payload)
      (payloadDevicePub payload) challenge response now (by rw [hstore, hset]; exact setLock_same h)
    rw [hstore, hset] at hpresent
    exact hpresent

theorem run_isActiveStayCall (payload : JsonDict) (roomId : Int) (s : AppState) :
    (isActiveStayCall E payload roomId).run (execApi E) s
      = (escape (isActiveStay E s.db payload roomId), s) := by
  have hread : execApi E (.activeAssignment roomId) s
      = (.ok (s.db.activeAssignmentForRoom roomId), s) := rfl
  rw [isActiveStayCall, run_op_bind hread, isActiveStay]
  cases dictGet? payload (py "stay_id") with
  | none => rfl
  | some stayId =>
    have hstay : execApi E (.stayByText (pyStr E.py stayId)) s
        = (escape (getStayByText s.db (pyStr E.py stayId)), s) := rfl
    simp only [ApiStmt.call, Prog.call_bind, Prog.ret_bind, Prog.run_call, hstay]
    simp only [bind, Except.bind]
    rcases getStayByText s.db (pyStr E.py stayId) with e | stay
    · rfl
    · rcases s.db.activeAssignmentForRoom roomId with _ | assignment
      · rfl
      · rcases stay with _ | stay
        · rfl
        · simp only [escape, Except.mapError, pure, Except.pure]
          split
          · rfl
          · split
            · rfl
            · rcases stay.roomId with _ | room <;> rfl

theorem run_authorizeCall (roomId : Int) (command : String) (token : PyStr)
    (challenge response : Bytes) (now : Int) (s : AppState) :
    (authorizeCall E roomId command token challenge response now).run (execApi E) s =
      (escape (s.connected.authorize E s.db roomId command token challenge response now).1,
        { s with connected :=
          (s.connected.authorize E s.db roomId command token challenge response now).2 }) := by
  rw [authorizeCall, ConnectedRoomAuthorizer.authorize]
  by_cases hcommand : command ∉ allowedDevices
  · rw [if_pos hcommand, if_pos hcommand]; rfl
  rw [if_neg hcommand, if_neg hcommand]
  have hread : execApi E (.store .revocationList) s = (.ok s.db.revocationList, s) := rfl
  rw [run_op_bind hread, ApiStmt.call, Prog.call_bind, Prog.run_call, execApi]
  rcases evaluateStatic E token s.connected.propertyPub s.connected.propertyId roomId now
    (s.db.revocationList.map py).toFinset with e | d | payload
  · rfl
  · rfl
  · simp only [escape, Except.mapError, Prog.ret_bind]
    rw [Prog.run_bind, run_isActiveStayCall]
    rcases isActiveStay E s.db payload roomId with e | _ | _
    · rfl
    · rfl
    · exact run_presentCall (E := E) (s := s) .connected (payloadKeyId E payload)
        (payloadDevicePub payload) challenge response now rfl

/-! ## Statements of a part -/

section

variable {P : ApiStmt → Prop}

theorem onStore_only {α : Type} (hstore : ∀ op, P (.store op)) (p : Call α) : (onStore p).Only P := by
  induction p with
  | ret | throw => trivial
  | call op k ih => exact ⟨hstore op, ih⟩

theorem isActiveStayCall_only (hassignment : ∀ roomId, P (.activeAssignment roomId))
    (hstay : ∀ stayId, P (.stayByText stayId)) (payload : JsonDict) (roomId : Int) :
    (isActiveStayCall E payload roomId).Only P := by
  refine ⟨hassignment roomId, fun assignment => ?_⟩
  simp only
  cases dictGet? payload (py "stay_id") with
  | none => trivial
  | some stayId =>
    refine ⟨hstay _, fun stay => ?_⟩
    rcases assignment with _ | assignment
    · trivial
    · rcases stay with _ | stay
      · trivial
      · simp only [Prog.bind]
        split
        · trivial
        · split
          · trivial
          · rcases stay.roomId with _ | room <;> trivial

end

/-! ## Requests -/

/-- **A request that is served alone** does what its handler does. -/
theorem requestProgram_run (r : Request × Draw) (s : AppState) :
    (requestProgram E s.propertyId s.propertySk r).run (execApi E) s = handle E r s := by
  obtain ⟨req, draw⟩ := r
  cases req with
  | createGuest | createRoom | reserve | checkin | refresh => exact run_onStore_answer _ _ s
  | checkout stayId =>
    simp only [requestProgram, handle]
    rw [run_onStore_bind]
    rcases s.run (checkoutRequest stayId (nowOr none draw.clock)) with ⟨e | ⟨revoked, roomId⟩, t⟩
    · rfl
    · exact run_syncRoomCall_bind roomId _ t
  | roomChange stayId body =>
    simp only [requestProgram, handle]
    rw [run_onStore_bind]
    rcases s.run (roomChangeRequest E s.propertySk stayId (nowOr body.now draw.clock) body.newRoomId
      draw.fresh) with ⟨e | ⟨oldRoom, newRoom, revoked, key⟩, t⟩
    · rfl
    · exact (run_syncRoomCall_bind oldRoom _ t).trans (run_syncLockCall_bind newRoom _ _)
  | revocations => rfl
  | lockChallenge roomId =>
    simp only [requestProgram, handle]
    rw [run_op_bind (t := (s.lockFor E roomId).2) rfl, run_op_bind rfl]
    simp only [AppState.challenges, AppState.setChallenges, lockFor_lockFor]
    rfl
  | lockUnlock roomId body =>
    have hlock : ((s.syncLock E roomId).lockFor E roomId).2.locks.get? roomId
        = some ((s.syncLock E roomId).lockFor E roomId).1 := locks_lockFor _ roomId
    simp only [requestProgram, lockUnlockCall, handle, lockUnlock]
    rw [run_syncLockCall_bind, run_op_bind (t := ((s.syncLock E roomId).lockFor E roomId).2) rfl]
    rcases presented body.challengeB64 body.responseB64 with e | ⟨challenge, response⟩
    · rfl
    · simp only
      rw [Prog.run_bind, run_finishUnlockCall hlock]
      rcases (((s.syncLock E roomId).lockFor E roomId).1.finishUnlock E body.token challenge response
        (nowOr body.now draw.clock)).1 with e | d <;> rfl
  | roomChallenge roomId => rfl
  | roomControl roomId body =>
    simp only [requestProgram, roomControlCall, handle, roomControl]
    rcases presented body.challengeB64 body.responseB64 with e | ⟨challenge, response⟩
    · rfl
    · simp only
      rw [Prog.run_bind, run_authorizeCall]
      rcases (s.connected.authorize E s.db roomId body.command body.token challenge response
        (nowOr body.now draw.clock)).1 with e | d <;> rfl

/-! ## Sample requests -/

/-- The key that is handed out at check-in, presented at the lock. -/
def sampleUnlock : UnlockIn where
  now := none
  token := ((answeredKey? sampleCheckin).map IssuedKey.token).getD []
  challengeB64 := b64uEncode [7]
  responseB64 := b64uEncode (Env.sample.ed.sign sampleFresh.deviceSk [7])

instance sevenRequests : NeZero 7 := ⟨by decide⟩

/-- A guest checks in, and the key is presented twice around the checkout. -/
def guestRequests : Fin 7 → Request × Draw
  | 0 => (.createRoom sampleRoom, sampleDraw 900 "" "")
  | 1 => (.reserve sampleReservation, sampleDraw 900 "1" "")
  | 2 => (.checkin "s_1", sampleDraw 1000 "" "k1")
  | 3 => (.lockChallenge 101, sampleDraw 1500 "" "")
  | 4 => (.lockUnlock 101 sampleUnlock, sampleDraw 1500 "" "")
  | 5 => (.checkout "s_1", sampleDraw 1500 "" "")
  | 6 => (.lockUnlock 101 sampleUnlock, sampleDraw 1500 "" "")

/-- The turns of a run of these requests. -/
abbrev serve (turns : List (Fin 7)) :
    List (ServingTurn (Fin 7)) × Serving (Fin 7) :=
  runAll (fun i s => ((), s.turn (execApi Env.sample) i))
    (Serving.start Env.sample "HILTON-DEMO-001" sampleKey guestRequests) turns

end StayKey.Service
