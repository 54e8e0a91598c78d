/-
StayKey.Service.ApiTheorems — what a request does to the database.

`handle_db`: a request changes the database exactly as its program does
(`storeProgram`); the locks and the authorizer are not involved. From this
comes the rule for invariants of the tables over runs of requests,
`StoreInvariant.holds`: one obligation per call of the store, and no run
left to think about.

`HandsOut e S key` says that the request of the entry answered with this
key for the stay; `handsOut_spec` says in which database it was issued.
-/
import StayKey.Service.Api
import StayKey.Service.ConnectedDecision
import StayKey.Store.Runs
import StayKey.Store.Status

namespace StayKey.Service

open StayKey.Codec StayKey.Door StayKey.Store StayKey.Program

variable {E : Env} {s : AppState} {S : String}

/-! ## The registry of locks -/

@[simp] theorem lockFor_db (roomId : Int) : (s.lockFor E roomId).2.db = s.db := by
  unfold AppState.lockFor
  split <;> rfl

@[simp] theorem syncLock_db (roomId : Int) : (s.syncLock E roomId).db = s.db :=
  lockFor_db roomId

@[simp] theorem syncRoom_db (roomId : Option Int) : (syncRoom E s roomId).db = s.db := by
  cases roomId with
  | none => rfl
  | some roomId => exact syncLock_db roomId

/-- What the installation is set up with stays: the property, its key, and
what the authorizer was given of them. -/
structure SameInstall (s s' : AppState) : Prop where
  propertyId : s'.propertyId = s.propertyId
  propertySk : s'.propertySk = s.propertySk
  connectedId : s'.connected.propertyId = s.connected.propertyId
  connectedPub : s'.connected.propertyPub = s.connected.propertyPub

theorem SameInstall.refl (s : AppState) : SameInstall s s := ⟨rfl, rfl, rfl, rfl⟩

theorem SameInstall.trans {s₁ s₂ s₃ : AppState} (h : SameInstall s₁ s₂) (h' : SameInstall s₂ s₃) :
    SameInstall s₁ s₃ where
  propertyId := h'.propertyId.trans h.propertyId
  propertySk := h'.propertySk.trans h.propertySk
  connectedId := h'.connectedId.trans h.connectedId
  connectedPub := h'.connectedPub.trans h.connectedPub

theorem sameInstall_lockFor (roomId : Int) : SameInstall s (s.lockFor E roomId).2 := by
  unfold AppState.lockFor
  split <;> exact ⟨rfl, rfl, rfl, rfl⟩

theorem sameInstall_syncLock (roomId : Int) : SameInstall s (s.syncLock E roomId) :=
  (sameInstall_lockFor roomId).trans ⟨rfl, rfl, rfl, rfl⟩

theorem sameInstall_syncRoom (roomId : Option Int) : SameInstall s (syncRoom E s roomId) := by
  cases roomId with
  | none => exact .refl s
  | some roomId => exact sameInstall_syncLock roomId

theorem sameInstall_handle (r : Request × Draw) (s : AppState) : SameInstall s (handle E r s).2 := by
  obtain ⟨req, draw⟩ := r
  cases req with
  | checkout stayId =>
    simp only [handle, AppState.run]
    rcases (checkoutRequest stayId (nowOr none draw.clock)).run s.db with ⟨e | ⟨revoked, roomId⟩, db'⟩
    · exact ⟨rfl, rfl, rfl, rfl⟩
    · have hdb : SameInstall s { s with db := db' } := ⟨rfl, rfl, rfl, rfl⟩
      exact hdb.trans (sameInstall_syncRoom roomId)
  | roomChange stayId body =>
    simp only [handle, AppState.run]
    rcases (roomChangeRequest E s.propertySk stayId (nowOr body.now draw.clock) body.newRoomId
      draw.fresh).run s.db with ⟨e | ⟨oldRoom, newRoom, revoked, key⟩, db'⟩
    · exact ⟨rfl, rfl, rfl, rfl⟩
    · have hdb : SameInstall s { s with db := db' } := ⟨rfl, rfl, rfl, rfl⟩
      exact hdb.trans ((sameInstall_syncRoom oldRoom).trans (sameInstall_syncLock newRoom))
  | lockChallenge roomId => exact (sameInstall_lockFor roomId).trans ⟨rfl, rfl, rfl, rfl⟩
  | lockUnlock roomId body =>
    have h : SameInstall s ((s.syncLock E roomId).lockFor E roomId).2 :=
      (sameInstall_syncLock roomId).trans (sameInstall_lockFor roomId)
    simp only [handle, lockUnlock]
    split
    · exact h
    · exact h.trans ⟨rfl, rfl, rfl, rfl⟩
  | roomControl roomId body =>
    simp only [handle, roomControl]
    split
    · exact .refl s
    · obtain ⟨hid, hpub⟩ := authorize_install s.connected s.db roomId body.command body.token _ _ _
      exact ⟨rfl, rfl, hid, hpub⟩
  | createGuest | createRoom | reserve | checkin | refresh | revocations | roomChallenge =>
    exact ⟨rfl, rfl, rfl, rfl⟩

/-! ## The programs of requests -/

/-- The program, its result dropped. -/
def dropResult {α : Type} (p : Call α) : Call Unit := do
  let _ ← p
  return ()

theorem dropResult_run {α : Type} (p : Call α) (db : Db) :
    ((dropResult p).run db).2 = (p.run db).2 := by
  rw [dropResult, run_bind]
  rcases p.run db with ⟨e | a, db'⟩ <;> rfl

/-- What a request runs on the database. -/
def storeProgram (E : Env) (r : Request × Draw) (s : AppState) : Call Unit :=
  match r.1 with
  | .createGuest body => Stmt.call (.addGuest ("g_" ++ r.2.guestHex) body.name body.email)
  | .createRoom body =>
    Stmt.call (.addRoom body.roomId (strOr body.propertyId s.propertyId) body.number body.roomType)
  | .reserve body => dropResult (reserve s.propertyId body r.2)
  | .checkin stayId => dropResult (Store.checkin E s.propertySk stayId r.2.clock r.2.fresh)
  | .refresh stayId => dropResult (Store.refreshKey E s.propertySk stayId r.2.clock r.2.fresh)
  | .checkout stayId => dropResult (Store.checkout stayId r.2.clock)
  | .roomChange stayId body =>
    dropResult (Store.changeRoom E s.propertySk stayId (nowOr body.now r.2.clock) body.newRoomId
      r.2.fresh)
  | .revocations | .lockChallenge _ | .lockUnlock .. | .roomChallenge _ | .roomControl .. => return ()

/-- The room is read, then the stay is checked out. -/
theorem checkoutRequest_run (stayId : String) (now : Int) (db : Db) :
    (∃ e db', (Store.checkout stayId now).run db = (.error e, db') ∧
      (checkoutRequest stayId now).run db = (.error e, db')) ∨
    ∃ revoked stay db', db.getStay stayId = some stay ∧
      (Store.checkout stayId now).run db = (.ok revoked, db') ∧
      (checkoutRequest stayId now).run db = (.ok (revoked, stay.roomId), db') := by
  rw [checkoutRequest, run_getStay_bind]
  cases hs : db.getStay stayId with
  | none =>
    refine .inl ⟨.notFound s!"stay {stayId} not found", db, ?_, rfl⟩
    rw [Store.checkout, run_getStay_bind, hs]
    rfl
  | some stay =>
    refine .inr ⟨_, stay, _, rfl, checkout_run hs, ?_⟩
    simp only
    rw [run_bind, checkout_run hs]
    rfl

/-- The room is read, then the stay is moved. -/
theorem roomChangeRequest_run (E : Env) (sk : PrivateKey) (stayId : String) (now : Int)
    (newRoomId : Option Int) (fresh : Fresh) (db : Db) :
    (∃ e db', (Store.changeRoom E sk stayId now newRoomId fresh).run db = (.error e, db') ∧
      (roomChangeRequest E sk stayId now newRoomId fresh).run db = (.error e, db')) ∨
    ∃ r stay db', db.getStay stayId = some stay ∧
      (Store.changeRoom E sk stayId now newRoomId fresh).run db = (.ok r, db') ∧
      (roomChangeRequest E sk stayId now newRoomId fresh).run db = (.ok (stay.roomId, r), db') := by
  rw [roomChangeRequest, run_getStay_bind]
  cases hs : db.getStay stayId with
  | none =>
    refine .inl ⟨.notFound s!"stay {stayId} not found", db, ?_, rfl⟩
    rw [Store.changeRoom, run_getStay_bind, hs]
    rfl
  | some stay =>
    simp only
    rw [run_bind]
    rcases (Store.changeRoom E sk stayId now newRoomId fresh).run db with ⟨e | r, db'⟩
    · exact .inl ⟨e, db', rfl, rfl⟩
    · exact .inr ⟨r, stay, db', rfl, rfl, rfl⟩

/-- **A request changes the database as its program does.** -/
theorem handle_db (r : Request × Draw) (s : AppState) :
    (handle E r s).2.db = ((storeProgram E r s).run s.db).2 := by
  obtain ⟨req, draw⟩ := r
  cases req with
  | reserve | checkin | refresh => exact (dropResult_run _ s.db).symm
  | checkout stayId =>
    simp only [handle, AppState.run, storeProgram, dropResult_run, nowOr, Option.getD_none]
    obtain ⟨e, db', hrun, hreq⟩ | ⟨revoked, stay, db', -, hrun, hreq⟩ :=
      checkoutRequest_run stayId draw.clock s.db
    · rw [hreq, hrun]
    · rw [hreq, hrun]
      exact syncRoom_db stay.roomId
  | roomChange stayId body =>
    simp only [handle, AppState.run, storeProgram, dropResult_run]
    obtain ⟨e, db', hrun, hreq⟩ | ⟨r, stay, db', -, hrun, hreq⟩ :=
      roomChangeRequest_run E s.propertySk stayId (nowOr body.now draw.clock) body.newRoomId draw.fresh
        s.db
    · rw [hreq, hrun]
    · rw [hreq, hrun]
      simp
  | lockChallenge roomId => exact lockFor_db roomId
  | lockUnlock roomId body =>
    simp only [handle, lockUnlock]
    split
    · simp; rfl
    · simp [AppState.setLock]; rfl
  | roomControl roomId body =>
    simp only [handle, roomControl]
    split <;> rfl
  | createGuest | createRoom | revocations | roomChallenge => rfl

theorem extends_handle (r : Request × Draw) (s : AppState) : Extends s.db (handle E r s).2.db := by
  rw [handle_db]
  exact extends_run _ s.db

/-! ## Invariants of the tables -/

/-- What has to be shown of a property of the tables so that it holds in
every run of the service for the property `propertyId`: one case per call
of the store. A check-in may be given leave only when `CheckinOk`. -/
structure StoreInvariant (E : Env) (sk : PrivateKey) (propertyId : String)
    (CheckinOk : Db → String → Prop) (Inv : Db → Prop) : Prop where
  empty : Inv .empty
  addGuest : ∀ {db db' guestId name email}, Inv db → db.addGuest guestId name email = .ok db' →
    Inv db'
  addRoom : ∀ {db db' roomId property number roomType}, Inv db →
    db.addRoom roomId property number roomType = .ok db' → Inv db'
  addStay : ∀ {db db' stayId guestId roomType checkIn checkOut}, Inv db → checkIn < checkOut →
    db.addStay stayId guestId propertyId roomType checkIn checkOut = .ok db' → Inv db'
  assignRoom : ∀ {db stayId preferred}, Inv db → StatusIs db stayId .reserved →
    Inv ((assignRoom stayId preferred).run db).2
  checkin : ∀ {db stayId now fresh}, Inv db → CheckinOk db stayId →
    Inv ((Store.checkin E sk stayId now fresh).run db).2
  refreshKey : ∀ {db stayId now fresh}, Inv db →
    Inv ((Store.refreshKey E sk stayId now fresh).run db).2
  changeRoom : ∀ {db stayId now newRoomId fresh}, Inv db →
    Inv ((Store.changeRoom E sk stayId now newRoomId fresh).run db).2
  checkout : ∀ {db stayId now}, Inv db → Inv ((Store.checkout stayId now).run db).2

/-- The request is no check-in that `CheckinOk` forbids. -/
def RequestOk (CheckinOk : Db → String → Prop) (s : AppState) (r : Request × Draw) : Prop :=
  ∀ stayId, r.1 = .checkin stayId → CheckinOk s.db stayId

theorem reservationGuest_only {P : Stmt → Prop} (hexists : ∀ guestId, P (.guestExists guestId))
    (hadd : ∀ guestId name email, P (.addGuest guestId name email)) (body : ReservationIn)
    (draw : Draw) : (reservationGuest body draw).Only P := by
  unfold reservationGuest
  cases body.guestId with
  | some guestId =>
    refine ⟨hexists guestId, fun found => ?_⟩
    simp only [Prog.bind]
    split <;> trivial
  | none =>
    cases body.guest with
    | none => trivial
    | some guest => exact ⟨hadd _ _ _, fun _ => trivial⟩

/-- What a reservation runs. -/
theorem reserve_only {P : Stmt → Prop} (propertyId : String) (body : ReservationIn) (draw : Draw)
    (hexists : ∀ guestId, P (.guestExists guestId))
    (hadd : ∀ guestId name email, P (.addGuest guestId name email))
    (hstay : ∀ guestId, P (.addStay ("s_" ++ draw.stayHex) guestId propertyId body.roomType body.checkIn
      body.checkOut))
    (hget : P (.getStay ("s_" ++ draw.stayHex)))
    (hassign : ∀ stay preferred, P (.assignTransaction ("s_" ++ draw.stayHex) stay preferred)) :
    (reserve propertyId body draw).Only P :=
  (reservationGuest_only hexists hadd body draw).bind fun guestId => ⟨hstay guestId, fun _ =>
    (assignRoom_only hget hassign body.preferredRoomId).bind fun _ => trivial⟩

/-- The guest of a reservation is added at most. -/
theorem reservationGuest_run (body : ReservationIn) (draw : Draw) (db : Db) :
    ((reservationGuest body draw).run db).2 = db ∨ ∃ guestId name email,
      db.addGuest guestId name email = .ok ((reservationGuest body draw).run db).2 := by
  unfold reservationGuest
  cases body.guestId with
  | some guestId =>
    simp only
    rw [run_stmt_bind, exec]
    simp only
    split <;> exact .inl rfl
  | none =>
    cases body.guest with
    | none => exact .inl rfl
    | some guest =>
      simp only
      rw [run_stmt_bind, exec]
      cases ha : db.addGuest ("g_" ++ draw.guestHex) guest.name guest.email with
      | error e => exact .inl rfl
      | ok db' => exact .inr ⟨_, _, _, ha⟩

/-- A reservation keeps what its statements keep; the stay it books a room
for is new, and reserved. -/
theorem reserve_keeps {propertyId : String} {I : Db → Prop} {db : Db}
    (hguest : ∀ {db db' guestId name email}, I db → db.addGuest guestId name email = .ok db' → I db')
    (hstay : ∀ {db db' stayId guestId roomType checkIn checkOut}, I db → checkIn < checkOut →
      db.addStay stayId guestId propertyId roomType checkIn checkOut = .ok db' → I db')
    (hassign : ∀ {db stayId preferred}, I db → StatusIs db stayId .reserved →
      I ((assignRoom stayId preferred).run db).2)
    (h : I db) (body : ReservationIn) (draw : Draw) :
    I ((reserve propertyId body draw).run db).2 := by
  have hg : I ((reservationGuest body draw).run db).2 := by
    obtain hdb | ⟨guestId, name, email, hadd⟩ := reservationGuest_run body draw db
    · rw [hdb]; exact h
    · exact hguest h hadd
  rw [reserve, run_bind]
  rcases hrun : (reservationGuest body draw).run db with ⟨e | guestId, db₁⟩ <;> rw [hrun] at hg
  · exact hg
  simp only
  rw [run_stmt_bind, exec]
  cases hs : db₁.addStay ("s_" ++ draw.stayHex) guestId propertyId body.roomType body.checkIn
      body.checkOut with
  | error e => exact hg
  | ok db₂ =>
    have hnew := hstay hg body.window hs
    obtain ⟨-, stays, rfl, hmem⟩ := Db.addStay_ok hs
    have hroom : I ((assignRoom _ body.preferredRoomId).run _).2 := hassign hnew
      ⟨_, Db.getStay_eq_some_iff.mpr ⟨(hmem _).mpr (.inr rfl), rfl⟩, rfl⟩
    simp only [write]
    rw [run_bind]
    rcases hr : (assignRoom ("s_" ++ draw.stayHex) body.preferredRoomId).run { db₁ with stays }
      with ⟨e | roomId, db₃⟩
    · rw [Db.newStay, hr] at hroom; exact hroom
    · rw [Db.newStay, hr] at hroom; exact hroom

namespace StoreInvariant

variable {sk : PrivateKey} {propertyId : String} {CheckinOk : Db → String → Prop} {Inv : Db → Prop}
  {db : Db}

/-- One request keeps the invariant. -/
theorem step (hinv : StoreInvariant E sk propertyId CheckinOk Inv) {s : AppState}
    (hsk : s.propertySk = sk) (hid : s.propertyId = propertyId) (h : Inv s.db) {r : Request × Draw}
    (hok : RequestOk CheckinOk s r) : Inv (handle E r s).2.db := by
  subst hsk hid
  rw [handle_db]
  obtain ⟨req, draw⟩ := r
  cases req with
  | createGuest body =>
    simp only [storeProgram]
    rw [run_stmt (.addGuest _ _ _), exec]
    cases ha : s.db.addGuest ("g_" ++ draw.guestHex) body.name body.email with
    | error e => exact h
    | ok db' => exact hinv.addGuest h ha
  | createRoom body =>
    simp only [storeProgram]
    rw [run_stmt (.addRoom _ _ _ _), exec]
    cases ha : s.db.addRoom body.roomId (strOr body.propertyId s.propertyId) body.number
        body.roomType with
    | error e => exact h
    | ok db' => exact hinv.addRoom h ha
  | reserve body =>
    simp only [storeProgram, dropResult_run]
    exact reserve_keeps hinv.addGuest hinv.addStay hinv.assignRoom h body draw
  | checkin stayId =>
    simp only [storeProgram, dropResult_run]
    exact hinv.checkin h (hok stayId rfl)
  | refresh stayId =>
    simp only [storeProgram, dropResult_run]
    exact hinv.refreshKey h
  | checkout stayId =>
    simp only [storeProgram, dropResult_run]
    exact hinv.checkout h
  | roomChange stayId body =>
    simp only [storeProgram, dropResult_run]
    exact hinv.changeRoom h
  | revocations | lockChallenge | lockUnlock | roomChallenge | roomControl => exact h

/-- **The rule for invariants of the tables.** -/
theorem holds (hinv : StoreInvariant E sk propertyId CheckinOk Inv) {h : List ApiEntry} {s : AppState}
    (hs : ApiHistory E propertyId sk h s)
    (hok : ∀ e ∈ h, RequestOk CheckinOk e.before e.request) :
    Inv s.db ∧ SameInstall (.new E propertyId sk) s := by
  refine hs.invariant (I := fun s => Inv s.db ∧ SameInstall (.new E propertyId sk) s)
    ⟨hinv.empty, .refl _⟩ ?_ hok
  rintro s r ⟨hdb, hsame⟩ hr
  exact ⟨hinv.step hsame.propertySk hsame.propertyId hdb hr, hsame.trans (sameInstall_handle r s)⟩

end StoreInvariant

/-- What the service was installed with never changes. -/
theorem sameInstall_history {propertyId : String} {sk : PrivateKey} {h : List ApiEntry} {s : AppState}
    (hs : ApiHistory E propertyId sk h s) : SameInstall (.new E propertyId sk) s :=
  hs.invariant (I := SameInstall (.new E propertyId sk)) (.refl _)
    (fun s r hsame (_ : True) => hsame.trans (sameInstall_handle r s)) fun _ _ => trivial

/-! ## Keys that are handed out -/

/-- The request was answered with this key for the stay. -/
def HandsOut (e : ApiEntry) (S : String) (key : IssuedKey) : Prop :=
  ((e.request.1 = .checkin S ∨ e.request.1 = .refresh S) ∧ e.answer = .ok (.key key)) ∨
    ∃ body newRoom revoked, e.request.1 = .roomChange S body ∧
      e.answer = .ok (.roomChanged newRoom revoked key)

/-- A check-in of a stay that is not checked out: what the check-in handler
does not ask for. -/
def NotCheckedOut (db : Db) (stayId : String) : Prop := ¬ StatusIs db stayId .checkedOut

/-- The database a key is issued in: after the status was set, after the
earlier keys were retired, or after the room was changed. -/
inductive IssuingState (db : Db) (S : String) : Request × Draw → Db → Prop
  | checkin (draw : Draw) : IssuingState db S (.checkin S, draw) (db.setStayStatus S .checkedIn)
  | refresh (draw : Draw) (hopen : Open db S) :
      IssuingState db S (.refresh S, draw) (db.retireKeys S)
  | roomChange (body : RoomChangeIn) (draw : Draw) {stay : StayRow} {now newRoom : Int} {db₁ : Db}
      (hs : db.getStay S = some stay) (hst : stay.status ≠ .checkedOut)
      (hmove : exec (.changeTransaction S stay body.newRoomId) (dropKeys db S now "room_change")
        = (.ok newRoom, db₁)) :
      IssuingState db S (.roomChange S body, draw) db₁

/-- The time a request that issues a key goes by: the body of a room change
may set it. -/
def issueTime (r : Request × Draw) : Int :=
  match r.1 with
  | .roomChange _ body => nowOr body.now r.2.clock
  | _ => nowOr none r.2.clock

theorem answer_ok {α : Type} {f : α → Answer} {r : Except Exc α × AppState} {a : Answer}
    (h : (answer f r).1 = .ok a) : ∃ x, r.1 = .ok x ∧ f x = a := by
  obtain ⟨r | x, s⟩ := r
  · cases h
  · exact ⟨x, rfl, Except.ok.inj h⟩

/-- **Where a key comes from:** it was issued in an issuing state of its
request, and its row is what the request stored last. -/
theorem handsOut_spec {e : ApiEntry} {key : IssuedKey}
    (he : e.answer = (handle E e.request e.before).1) (hout : HandsOut e S key) :
    ∃ db₁, IssuingState e.before.db S e.request db₁ ∧
      IssuedIn E e.before.propertySk db₁ (e.after (handle E)).db S (issueTime e.request)
        e.request.2.fresh key := by
  obtain ⟨s, ⟨req, draw⟩, ans⟩ := e
  rw [Entry.after, handle_db]
  simp only at he ⊢
  rcases hout with ⟨hreq | hreq, hans⟩ | ⟨body, newRoom, revoked, hreq, hans⟩
  · obtain rfl : req = .checkin S := hreq
    obtain rfl : ans = .ok (.key key) := hans
    obtain ⟨k, hk, hkey⟩ := answer_ok he.symm
    cases hkey
    rw [storeProgram, dropResult_run]
    exact ⟨_, .checkin draw, checkin_issued (Prod.ext hk rfl)⟩
  · obtain rfl : req = .refresh S := hreq
    obtain rfl : ans = .ok (.key key) := hans
    obtain ⟨k, hk, hkey⟩ := answer_ok he.symm
    cases hkey
    rw [storeProgram, dropResult_run]
    obtain ⟨hopen, hissued⟩ := refreshKey_issued (Prod.ext hk rfl)
    exact ⟨_, .refresh draw hopen, hissued⟩
  · obtain rfl : req = .roomChange S body := hreq
    obtain rfl : ans = .ok (.roomChanged newRoom revoked key) := hans
    rw [storeProgram, dropResult_run]
    simp only [handle, AppState.run] at he
    obtain ⟨e, db', -, hrun⟩ | ⟨r, stay, db', -, hrun, hrun'⟩ := roomChangeRequest_run E s.propertySk S
      (nowOr body.now draw.clock) body.newRoomId draw.fresh s.db
    · rw [hrun] at he
      cases he
    · rw [hrun'] at he
      cases he
      rw [hrun]
      obtain ⟨stay', db₁, hs, hst, hmove, hissued⟩ := changeRoom_issued hrun
      exact ⟨db₁, .roomChange body draw hs hst hmove, hissued⟩

theorem IssuingState.extends {db db₁ : Db} {r : Request × Draw}
    (h : IssuingState db S r db₁) : Extends db db₁ := by
  cases h with
  | checkin draw => exact extends_setStayStatus db S .checkedIn
  | refresh draw hopen => exact extends_retireKeys db S
  | @roomChange body draw stay now newRoom _ hs hst hmove =>
    have hext := (extends_dropKeys db S now "room_change").trans
      (extends_exec (.changeTransaction S stay body.newRoomId) _)
    rwa [hmove] at hext

/-- No key is issued for a stay that is checked out at that moment. -/
theorem IssuingState.notCheckedOut {db db₁ : Db} {r : Request × Draw}
    (h : IssuingState db S r db₁) : NotCheckedOut db₁ S := by
  cases h with
  | checkin draw =>
    rintro ⟨stay, hs, hst⟩
    rw [Db.getStay_setStayStatus] at hs
    obtain ⟨s, -, rfl⟩ := Option.map_eq_some_iff.mp hs
    rw [if_pos rfl] at hst
    cases hst
  | refresh draw hopen =>
    obtain ⟨stay, hs, hst⟩ := hopen
    exact fun hout => hst (StatusIs.unique ⟨stay, hs, rfl⟩ hout)
  | @roomChange body draw stay now newRoom _ hs hst hmove =>
    have hdrop : StatusIs (dropKeys db S now "room_change") S stay.status :=
      ⟨stay, (getStay_dropKeys ..).trans hs, rfl⟩
    have hkeeps : (Stmt.changeTransaction S stay body.newRoomId).KeepsStatus S := trivial
    have hstatus := status_exec hkeeps hdrop
    rw [hmove] at hstatus
    exact fun hout => hst (hstatus.unique hout)

theorem IssuingState.housed {db db₁ : Db} {r : Request × Draw}
    (h : IssuingState db S r db₁) (hhoused : HousedAt db S)
    (hcheckin : ∀ draw, r = (.checkin S, draw) → NotCheckedOut db S) : HousedAt db₁ S := by
  cases h with
  | checkin draw => exact housedAt_setCheckedIn hhoused (hcheckin draw rfl)
  | refresh draw hopen => exact hhoused.congr rfl rfl
  | @roomChange body draw stay now newRoom _ hs hst hmove =>
    have hhoused := housedAt_changeTransaction (housedAt_dropKeys hhoused S now "room_change") stay
      body.newRoomId
    rwa [hmove] at hhoused

/-! ## A sample run -/

/-- The key of an entry that handed one out. -/
def answeredKey? (e : ApiEntry) : Option IssuedKey :=
  match e.answer with
  | .ok (.key key) | .ok (.roomChanged _ _ key) => some key
  | _ => none

def sampleDraw (clock : Int) (stayHex keyId : String) : Draw :=
  ⟨clock, "1", stayHex, { sampleFresh with keyId }, [7]⟩

def sampleRoom : RoomIn where
  roomId := 101
  number := "101"
  roomType := "king"
  propertyId := none
  roomIdPos := by decide
  numberLength := by decide
  roomTypeLength := by decide

def sampleReservation : ReservationIn where
  guestId := none
  guest := some ⟨"Ada", "ada@example.org", by decide, by decide⟩
  roomType := "king"
  checkIn := 1000
  checkOut := 2000
  preferredRoomId := none
  roomTypeLength := by decide
  checkInPos := by decide
  checkOutPos := by decide
  window := by decide

/-- A room, and a reservation that gets it. -/
def sampleRequests : List (Request × Draw) :=
  [ (.createRoom sampleRoom, sampleDraw 900 "" ""),
    (.reserve sampleReservation, sampleDraw 900 "1" "") ]

/-- Run a list of requests against a new sample service. -/
abbrev runRequests (rs : List (Request × Draw)) : List ApiEntry × AppState :=
  runAll (handle Env.sample) (AppState.new Env.sample "HILTON-DEMO-001" sampleKey) rs

/-- A check-in or a refresh that answered with a key. -/
theorem handsOut_of_answeredKey? {e : ApiEntry} (h : (answeredKey? e).isSome = true)
    (hreq : e.request.1 = .checkin S ∨ e.request.1 = .refresh S)
    (hans : e.answer = (handle E e.request e.before).1) : ∃ key, HandsOut e S key := by
  obtain ⟨s, ⟨req, draw⟩, ans⟩ := e
  obtain ⟨key, hkey⟩ := Option.isSome_iff_exists.mp h
  unfold answeredKey? at hkey
  split at hkey
  · rename_i k hk
    exact ⟨k, .inl ⟨hreq, hk⟩⟩
  · rename_i room ids k hk
    simp only at hans hk
    rw [hk] at hans
    rcases hreq with rfl | rfl
    · obtain ⟨_, -, hf⟩ := answer_ok hans.symm
      cases hf
    · obtain ⟨_, -, hf⟩ := answer_ok hans.symm
      cases hf
  · cases hkey

end StayKey.Service
