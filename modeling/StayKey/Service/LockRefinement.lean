/-
StayKey.Service.LockRefinement — a request that is served alone, with lock
objects.

A program asks for the lock of a room before it deals with it (`Fetched`).
So when no other request takes a turn, the object it is given is the one in
the registry, and the finer program of a request answers what `handle`
answers, and leaves what `handle` leaves, seen through the registry
(`Shows`). A service that serves one request after the other is not to be
told from that of `Service.Api` (`memory_refines_handle`).
-/
import StayKey.Program.Refinement
import StayKey.Service.LockObjectsTheorems
import StayKey.Service.Registry

namespace StayKey.Service

open StayKey.Codec StayKey.Door StayKey.Store StayKey.Program

variable {E : Env} {α β : Type} {s : AppState} {m n : Memory} {roomId ref : Int} {lock : LockVerifier}

/-! ## Asking for locks -/

/-- The statement deals with no lock. -/
def ApiStmt.OffLocks : ApiStmt → Prop
  | .store _ | .connectedStatic .. | .activeAssignment _ | .stayByText _ => True
  | .issue v _ _ | .check v _ _ | .consume v _ _ => v = .connected
  | .lockFor _ | .syncRevocations .. | .lockStatic .. => False

/-- The program deals with the lock of a room when it has asked for it, or if
the room is one of these. -/
def Fetched : List Int → ApiCall α → Prop
  | _, .ret _ => True
  | _, .throw _ => True
  | known, .call (.lockFor roomId) k => Fetched (roomId :: known) (k ())
  | known, .call op k => (op.OffLocks ∨ ∃ roomId ∈ known, op.OfRoom roomId) ∧ ∀ r, Fetched known (k r)

theorem fetched_call {op : ApiStmt} (hop : op.AsksNoLock) {known : List Int} {k : op.Res → ApiCall α} :
    Fetched known (.call op k) ↔
      (op.OffLocks ∨ ∃ roomId ∈ known, op.OfRoom roomId) ∧ ∀ r, Fetched known (k r) := by
  cases op with
  | lockFor => exact hop.elim
  | _ => exact Iff.rfl

theorem Fetched.mono {known known' : List Int} (hsub : known ⊆ known') {p : ApiCall α} (h : Fetched known p) :
    Fetched known' p := by
  induction p generalizing known known' with
  | ret | throw => trivial
  | call op k ih =>
    by_cases hop : op.AsksNoLock
    · obtain ⟨hop', hk⟩ := (fetched_call hop).mp h
      refine (fetched_call hop).mpr ⟨hop'.imp_right ?_, fun r => ih r hsub (hk r)⟩
      rintro ⟨roomId, hin, hroom⟩
      exact ⟨roomId, hsub hin, hroom⟩
    · cases op with
      | lockFor roomId => exact ih () (List.cons_subset_cons roomId hsub) h
      | _ => exact absurd trivial hop

/-- **Sequencing.** -/
theorem Fetched.bind {known : List Int} {p : ApiCall α} {f : α → ApiCall β} (h : Fetched known p)
    (hf : ∀ a, Fetched known (f a)) : Fetched known (p >>= f) := by
  induction p generalizing known with
  | ret a => exact hf a
  | throw e => trivial
  | call op k ih =>
    by_cases hop : op.AsksNoLock
    · obtain ⟨hop', hk⟩ := (fetched_call hop).mp h
      exact (fetched_call hop).mpr ⟨hop', fun r => ih r (hk r) hf⟩
    · cases op with
      | lockFor roomId => exact ih () h fun a => (hf a).mono (List.subset_cons_self roomId known)
      | _ => exact absurd trivial hop

theorem fetched_of_only {known : List Int} {p : ApiCall α} (hp : p.Only ApiStmt.OffLocks) : Fetched known p := by
  induction p with
  | ret | throw => trivial
  | call op k ih =>
    have hop : op.AsksNoLock := by
      cases op with
      | lockFor => exact hp.1.elim
      | _ => trivial
    exact (fetched_call hop).mpr ⟨.inl hp.1, fun r => ih r (hp.2 r)⟩

/-- A part that deals with one room. -/
theorem fetched_ofRoom {known : List Int} (hin : roomId ∈ known) {p : ApiCall α}
    (hp : p.Only (ApiStmt.OfRoom roomId)) : Fetched known p := by
  induction p generalizing known with
  | ret | throw => trivial
  | call op k ih =>
    by_cases hop : op.AsksNoLock
    · exact (fetched_call hop).mpr ⟨.inr ⟨roomId, hin, hp.1⟩, fun r => ih r hin (hp.2 r)⟩
    · cases op with
      | lockFor r => exact ih () (List.mem_cons_of_mem r hin) (hp.2 ())
      | _ => exact absurd trivial hop

theorem syncLockCall_fetched (known : List Int) (roomId : Int) : Fetched known (syncLockCall roomId) :=
  ⟨.inl trivial, fun _ => ⟨.inr ⟨roomId, List.mem_cons_self, rfl⟩, fun _ => trivial⟩⟩

theorem syncRoomCall_fetched (known : List Int) (roomId : Option Int) : Fetched known (syncRoomCall roomId) := by
  cases roomId with
  | none => trivial
  | some roomId => exact syncLockCall_fetched known roomId

theorem presentCall_offLocks (keyId : PyStr) (devicePub : Json) (challenge response : Bytes) (now : Int) :
    (presentCall E .connected keyId devicePub challenge response now).Only ApiStmt.OffLocks := by
  refine ⟨rfl, fun status => ?_⟩
  cases status with
  | replayed | unknown => trivial
  | ok =>
    simp only
    rcases verifyDeviceResponse E devicePub challenge response with e | _ | _
    · trivial
    · trivial
    · exact ⟨rfl, fun _ => trivial⟩

theorem authorizeCall_offLocks (roomId : Int) (command : String) (token : PyStr)
    (challenge response : Bytes) (now : Int) :
    (authorizeCall E roomId command token challenge response now).Only ApiStmt.OffLocks := by
  unfold authorizeCall
  split
  · trivial
  · refine ⟨trivial, fun revoked => ⟨trivial, fun result => ?_⟩⟩
    cases result with
    | deny => trivial
    | pass payload =>
      refine (isActiveStayCall_only (fun _ => trivial) (fun _ => trivial) payload roomId).bind fun active => ?_
      split
      · exact presentCall_offLocks ..
      · trivial

theorem requestProgram_fetched (propertyId : String) (sk : PrivateKey) (r : Request × Draw) :
    Fetched [] (requestProgram E propertyId sk r) := by
  have hstore {γ : Type} (p : Call γ) : Fetched [] (onStore p) := fetched_of_only (onStore_only (fun _ => trivial) p)
  obtain ⟨req, draw⟩ := r
  cases req with
  | createGuest | createRoom | reserve | checkin | refresh => exact (hstore _).bind fun _ => trivial
  | checkout stayId => exact (hstore _).bind fun r => (syncRoomCall_fetched [] r.2).bind fun _ => trivial
  | roomChange stayId body =>
    exact (hstore _).bind fun r => (syncRoomCall_fetched [] r.1).bind fun _ =>
      (syncLockCall_fetched [] r.2.1).bind fun _ => trivial
  | revocations => exact ⟨.inl trivial, fun _ => trivial⟩
  | lockChallenge roomId => exact ⟨.inr ⟨roomId, List.mem_cons_self, .inl rfl⟩, fun _ => trivial⟩
  | lockUnlock roomId body =>
    exact fetched_ofRoom List.mem_cons_self ((lockUnlockCall_ofRoom body draw.clock).2 ())
  | roomChallenge => exact ⟨.inl rfl, fun _ => trivial⟩
  | roomControl roomId body =>
    simp only [requestProgram, roomControlCall]
    rcases presented body.challengeB64 body.responseB64 with e | ⟨challenge, response⟩
    · trivial
    · exact (fetched_of_only (authorizeCall_offLocks ..)).bind fun _ => trivial

/-! ## What the registry shows -/

/-- What the registry refers to, as `Service.Concurrent` has it. -/
structure Shows (m : Memory) (a : AppState) : Prop where
  propertyId : a.propertyId = m.app.propertyId
  propertySk : a.propertySk = m.app.propertySk
  connected : a.connected = m.app.connected
  db : a.db = m.app.db
  locks : ∀ roomId, a.locks.get? roomId = (m.registry.get? roomId).bind m.app.locks.get?

theorem Shows.lockFor {a : AppState} (h : Shows m a) (hm : Filed m) (hget : m.registry.get? roomId = some ref) :
    ∃ lock, a.lockFor E roomId = (lock, a) ∧ m.app.lockFor E ref = (lock, m.app) := by
  obtain ⟨lock, hlock, -⟩ := hm roomId ref hget
  have hshown : a.locks.get? roomId = some lock := by
    rw [h.locks, hget]
    exact hlock
  exact ⟨lock, lockFor_of_locks hshown, lockFor_of_locks hlock⟩

/-- The lock of a room and the object in the registry are put back alike. -/
theorem Shows.setLock {a : AppState} (h : Shows m a) (hm : Filed m) (hget : m.registry.get? roomId = some ref)
    (lock : LockVerifier) : Shows ⟨m.app.setLock ref lock, m.registry⟩ (a.setLock roomId lock) where
  propertyId := h.propertyId
  propertySk := h.propertySk
  connected := h.connected
  db := h.db
  locks r := by
    rw [AppState.setLock, Dict.get?_set]
    by_cases hr : r = roomId
    · subst hr
      rw [if_pos rfl]
      show _ = (m.registry.get? r).bind (m.app.locks.set ref lock).get?
      rw [hget, Option.bind_some, Dict.get?_set_self]
    · rw [if_neg hr, h.locks]
      show _ = (m.registry.get? r).bind (m.app.locks.set ref lock).get?
      cases hother : m.registry.get? r with
      | none => rfl
      | some ref' =>
        have hne : ref' ≠ ref := by
          rintro rfl
          obtain ⟨lock₁, hget₁, hroom₁⟩ := hm r ref' hother
          obtain ⟨lock₂, hget₂, hroom₂⟩ := hm roomId ref' hget
          obtain rfl := Option.some.inj (hget₁.symm.trans hget₂)
          exact hr (hroom₁.symm.trans hroom₂)
        rw [Option.bind_some, Option.bind_some, Dict.get?_set, if_neg hne]

/-- A lock is made for the room, and put into the registry. -/
theorem Shows.register {a : AppState} (h : Shows m a) (hm : Filed m) (hget : m.registry.get? roomId = none) :
    Shows (execMem E (.register roomId (m.app.db.getRoom roomId) m.app.db.revocationList) m).2
      (a.lockFor E roomId).2 := by
  have hnone : a.locks.get? roomId = none := by rw [h.locks, hget]; rfl
  have hpub : a.propertyPub E = m.app.propertyPub E := by
    rw [AppState.propertyPub, AppState.propertyPub, h.propertySk]
  rw [AppState.lockFor, hnone]
  refine ⟨h.propertyId, h.propertySk, h.connected, h.db, fun r => ?_⟩
  show (a.locks.set roomId _).get? r
    = ((m.registry.set roomId (freshRef m.app.locks)).get? r).bind (m.app.locks.set (freshRef m.app.locks) _).get?
  rw [Dict.get?_set, Dict.get?_set]
  by_cases hr : r = roomId
  · rw [if_pos hr, if_pos hr, Option.bind_some, Dict.get?_set_self, hpub, AppState.revocationTexts, h.db]
    cases m.app.db.getRoom roomId with
    | none => exact congrArg (fun p => some (LockVerifier.new p roomId _ _)) h.propertyId
    | some room => rfl
  · rw [if_neg hr, if_neg hr, h.locks]
    cases hother : m.registry.get? r with
    | none => rfl
    | some ref =>
      obtain ⟨lock, hlock, -⟩ := hm r ref hother
      rw [Option.bind_some, Option.bind_some, hlock]
      exact (get?_register hlock).symm

/-- The challenges of a verifier are those of the object. -/
theorem Shows.challenges {a : AppState} (h : Shows m a) (hm : Filed m) {v : Verifier Int} (held : Int → Int)
    (hheld : v = .connected ∨ ∃ roomId, m.registry.get? roomId = some (held roomId) ∧
      (v = .lock roomId ∨ v = .connected)) : a.challenges E v = m.app.challenges E (v.object held) ∧
    ∀ store, Shows ⟨m.app.setChallenges E (v.object held) store, m.registry⟩ (a.setChallenges E v store) := by
  have hconnected (hv : v = .connected) : a.challenges E v = m.app.challenges E (v.object held) ∧
      ∀ store, Shows ⟨m.app.setChallenges E (v.object held) store, m.registry⟩ (a.setChallenges E v store) := by
    subst hv
    refine ⟨congrArg ConnectedRoomAuthorizer.challenges h.connected, fun store => ?_⟩
    refine ⟨h.propertyId, h.propertySk, ?_, h.db, h.locks⟩
    show { a.connected with challenges := store } = { m.app.connected with challenges := store }
    rw [h.connected]
  obtain hv | ⟨roomId, hget, rfl | hv⟩ := hheld
  · exact hconnected hv
  · obtain ⟨lock, hcoarse, hfine⟩ := h.lockFor (E := E) hm hget
    refine ⟨?_, fun store => ?_⟩
    · show (a.lockFor E roomId).1.challenges = (m.app.lockFor E (held roomId)).1.challenges
      rw [hcoarse, hfine]
    · show Shows ⟨(m.app.lockFor E (held roomId)).2.setLock (held roomId)
          { (m.app.lockFor E (held roomId)).1 with challenges := store }, m.registry⟩
        ((a.lockFor E roomId).2.setLock roomId { (a.lockFor E roomId).1 with challenges := store })
      rw [hcoarse, hfine]
      exact h.setLock hm hget _
  · exact hconnected hv

/-- **A statement at the object of the registry** does what it does at the
lock of the room. -/
theorem Shows.execApi {a : AppState} (h : Shows m a) (hm : Filed m) {op : ApiStmt} (hop : op.AsksNoLock)
    {held : Int → Int} (hheld : op.OffLocks ∨ ∃ roomId, m.registry.get? roomId = some (held roomId) ∧
      op.OfRoom roomId) :
    (execApi E op a).1 = (execApi E (op.atObjects held) m.app).1.map (cast (op.res_atObjects held)) ∧
      Shows ⟨(execApi E (op.atObjects held) m.app).2, m.registry⟩ (execApi E op a).2 := by
  have hmap {β : Type} (r : Except Exc β) : r = r.map id := by rw [Except.map_id]; rfl
  cases op with
  | lockFor => exact hop.elim
  | store op =>
    refine ⟨?_, ⟨h.propertyId, h.propertySk, h.connected, ?_, h.locks⟩⟩
    · show (exec op a.db).1 = (exec op m.app.db).1.map id
      rw [h.db]
      exact hmap _
    · show (exec op a.db).2 = (exec op m.app.db).2
      rw [h.db]
  | connectedStatic room token now revoked =>
    refine ⟨?_, h⟩
    show escape (evaluateStatic E token a.connected.propertyPub _ _ _ _) = _
    rw [h.connected]
    exact hmap _
  | activeAssignment room =>
    refine ⟨?_, h⟩
    show Except.ok (a.db.activeAssignmentForRoom room) = _
    rw [h.db]
    rfl
  | stayByText stayId =>
    refine ⟨?_, h⟩
    show escape (getStayByText a.db stayId) = _
    rw [h.db]
    exact hmap _
  | syncRevocations room revoked =>
    obtain hoff | ⟨roomId, hget, rfl⟩ := hheld
    · exact hoff.elim
    · obtain ⟨lock, hcoarse, hfine⟩ := h.lockFor (E := E) hm hget
      refine ⟨rfl, ?_⟩
      show Shows ⟨(m.app.lockFor E (held room)).2.setLock (held room) _, m.registry⟩
        ((a.lockFor E room).2.setLock room _)
      rw [hcoarse, hfine]
      exact h.setLock hm hget _
  | lockStatic room token now =>
    obtain hoff | ⟨roomId, hget, rfl⟩ := hheld
    · exact hoff.elim
    · obtain ⟨lock, hcoarse, hfine⟩ := h.lockFor (E := E) hm hget
      refine ⟨?_, h⟩
      show escape (evaluateStatic E token (a.lockFor E room).1.propertyPub _ _ _ _)
        = (escape (evaluateStatic E token (m.app.lockFor E (held room)).1.propertyPub _ _ _ _)).map id
      rw [hcoarse, hfine]
      exact hmap _
  | issue v now nonce =>
    obtain ⟨hstore, hset⟩ := h.challenges (E := E) hm held hheld
    refine ⟨rfl, ?_⟩
    show Shows ⟨m.app.setChallenges E (v.object held) ((m.app.challenges E (v.object held)).issue now nonce).2,
      m.registry⟩ (a.setChallenges E v ((a.challenges E v).issue now nonce).2)
    rw [hstore]
    exact hset _
  | check v c now =>
    obtain ⟨hstore, -⟩ := h.challenges (E := E) hm held hheld
    refine ⟨?_, h⟩
    show Except.ok ((a.challenges E v).check c now) = _
    rw [hstore]
    rfl
  | consume v c now =>
    obtain ⟨hstore, hset⟩ := h.challenges (E := E) hm held hheld
    refine ⟨rfl, ?_⟩
    show Shows ⟨m.app.setChallenges E (v.object held) ((m.app.challenges E (v.object held)).consume c now),
      m.registry⟩ (a.setChallenges E v ((a.challenges E v).consume c now))
    rw [hstore]
    exact hset _

/-! ## Programs that are run alone -/

theorem run_lockForCall_some (hget : m.registry.get? roomId = some ref) (f : Int → MemCall α) :
    (lockForCall roomId >>= f).run (execMem E) m = (f ref).run (execMem E) m := by
  have hfound : execMem E (.registered roomId) m = (.ok (some ref), m) := by rw [execMem, hget]
  exact Prog.run_call_ok _ hfound

theorem run_lockForCall_none (hget : m.registry.get? roomId = none) (f : Int → MemCall α) :
    (lockForCall roomId >>= f).run (execMem E) m = (f (freshRef m.app.locks)).run (execMem E)
      (execMem E (.register roomId (m.app.db.getRoom roomId) m.app.db.revocationList) m).2 := by
  have hfound : execMem E (.registered roomId) m = (.ok none, m) := by rw [execMem, hget]
  exact Prog.run_call_ok _ hfound

/-- **A program that is run alone** does at the objects of the registry what
it does at the locks of the rooms. -/
theorem run_withLocks {known : List Int} {p : ApiCall α} (hp : Fetched known p) {held : Int → Int}
    {a : AppState} (hheld : ∀ r ∈ known, m.registry.get? r = some (held r)) (hm : Filed m) (h : Shows m a) :
    ((withLocks held p).run (execMem E) m).1 = (p.run (execApi E) a).1 ∧
      Shows ((withLocks held p).run (execMem E) m).2 (p.run (execApi E) a).2 := by
  induction p generalizing m a held known with
  | ret | throw => exact ⟨rfl, h⟩
  | call op k ih =>
    by_cases hop : op.AsksNoLock
    · obtain ⟨hofRoom, hk⟩ := (fetched_call hop).mp hp
      obtain ⟨hres, hshows⟩ := h.execApi (E := E) hm hop
        (hofRoom.imp_right fun ⟨r, hin, hr⟩ => ⟨r, hheld r hin, hr⟩)
      have hfiled := (since_execMem (E := E) (.api (op.atObjects held)) m).filed hm
      have hfine : execMem E (.api (op.atObjects held)) m
          = ((execApi E (op.atObjects held) m.app).1, ⟨(execApi E (op.atObjects held) m.app).2, m.registry⟩) := rfl
      rw [withLocks_call hop, Prog.run_call, Prog.run_call]
      rw [hfine] at hfiled ⊢
      rcases hcoarse : execApi E op a with ⟨c, a'⟩
      rw [hcoarse] at hres hshows
      cases hr : (execApi E (op.atObjects held) m.app).1 with
      | error e =>
        rw [hr] at hres
        subst hres
        exact ⟨rfl, hshows⟩
      | ok r =>
        rw [hr] at hres
        subst hres
        exact ih _ (hk _) hheld hfiled hshows
    · cases op with
      | lockFor roomId =>
        rw [withLocks_lockFor, Prog.run_call, execApi]
        cases hget : m.registry.get? roomId with
        | some ref =>
          obtain ⟨lock, hcoarse, -⟩ := h.lockFor (E := E) hm hget
          rw [run_lockForCall_some hget, hcoarse]
          refine ih () hp (fun r hr => ?_) hm h
          by_cases hroom : r = roomId
          · rw [hroom, Function.update_self, hget]
          · rw [Function.update_of_ne hroom]
            exact hheld r ((List.mem_cons.mp hr).resolve_left hroom)
        | none =>
          rw [run_lockForCall_none hget]
          refine ih () hp (fun r hr => ?_) ((since_execMem _ m).filed hm) (h.register hm hget)
          refine (Dict.get?_set ..).trans ?_
          by_cases hroom : r = roomId
          · rw [if_pos hroom, hroom, Function.update_self]
          · rw [if_neg hroom, Function.update_of_ne hroom]
            exact hheld r ((List.mem_cons.mp hr).resolve_left hroom)
      | _ => exact absurd trivial hop

/-- **A request that is served alone** does what its handler does. -/
theorem withLocks_requestProgram_run (r : Request × Draw) {a : AppState} (hm : Filed m) (h : Shows m a)
    (held : Int → Int) :
    ((withLocks held (requestProgram E a.propertyId a.propertySk r)).run (execMem E) m).1 = (handle E r a).1 ∧
      Shows ((withLocks held (requestProgram E a.propertyId a.propertySk r)).run (execMem E) m).2
        (handle E r a).2 := by
  rw [← requestProgram_run]
  exact run_withLocks (requestProgram_fetched a.propertyId a.propertySk r) (fun _ hr => by cases hr) hm h

variable (E) in
/-- Serve one request, and no other meanwhile. -/
def serveAlone (r : Request × Draw) (m : Memory) : Except Exc Answer × Memory :=
  (withLocks (fun _ => 0) (requestProgram E m.app.propertyId m.app.propertySk r)).run (execMem E) m

theorem filed_serveAlone (r : Request × Draw) (hm : Filed m) : Filed (serveAlone E r m).2 :=
  Prog.run_preserves (execMem E) (P := fun _ => True) (fun op n _ hn => (since_execMem op n).filed hn)
    (Prog.only_true _) hm

/-- **Requests that are served one after the other** get the answers that
`handle` gives. -/
theorem memory_refines_handle {a : AppState} (hm : Filed m) (h : Shows m a)
    {l : List (Entry (Request × Draw) (Except Exc Answer) Memory)} (hs : History (serveAlone E) m l n) :
    ∃ l' b, History (handle E) a l' b ∧ l'.map Entry.label = l.map Entry.label ∧ Filed n ∧ Shows n b := by
  induction hs with
  | nil => exact ⟨[], a, .nil, rfl, hm, h⟩
  | @cons l n r _ ih =>
    obtain ⟨l', b, hl', hlabel, hn, hshows⟩ := ih
    obtain ⟨hanswer, hafter⟩ := withLocks_requestProgram_run r hn hshows (E := E) fun _ => 0
    rw [hshows.propertyId, hshows.propertySk] at hanswer hafter
    refine ⟨_, _, hl'.cons r, ?_, filed_serveAlone r hn, hafter⟩
    rw [List.map_cons, List.map_cons, hlabel]
    exact congrArg (· :: _) (Prod.ext rfl hanswer.symm)

end StayKey.Service
