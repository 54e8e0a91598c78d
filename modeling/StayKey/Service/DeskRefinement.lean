/-
StayKey.Service.DeskRefinement — the service is a front desk.

Every answer of the service, with what it does to the tables, is a step of
the desk of `Service.Desk` (`handle_refines`), so every run of the service is
seen as a run of the desk (`api_refines_desk`). The desk is proved about on
its own; what is invariant there holds of the tables.

The tables are those of `Store.Db`, whose integers have no bound. The
driver refuses an integer beyond 64 bits (`Store.Driver`), and a request
that carries one may end where the desk has no step.
-/
import StayKey.Service.Answered
import StayKey.Service.DeskTheorems
import StayKey.Service.DeskView
import StayKey.Service.Permanence

namespace StayKey.Service

open StayKey.Codec StayKey.Door StayKey.Store StayKey.Program

variable {E : Env} {sk : PrivateKey} {db : Db} {S propertyId : String} {stay : StayRow}

/-! ## Bookings -/

/-- What a transaction that books a room does to the desk. -/
def HousesOrFull (db : Db) (S : String) (stay : StayRow) (requested avoid : Option Int)
    (result : Except Exc Int × Db) : Prop :=
  (∃ msg, result = (.error (.roomUnavailable msg), db) ∧
    (deskOf db).Vacant S (folioOf stay) requested avoid = ∅) ∨
  ∃ room db', result = (.ok room, db') ∧
    IsLeast ((deskOf db).Vacant S (folioOf stay) requested avoid) room ∧
    deskOf db' = (deskOf db).house S (folioOf stay) room

theorem housesOrFull_of_booking (h : DeskSound db) (hs : db.getStay S = some stay)
    {requested avoid : Option Int} {result : Except Exc Int × Db}
    (hbooking : Db.Booking (db.retireAssignments S) db S stay requested avoid result)
    (hle : ∀ chosen, result.1 = .ok chosen → ∀ r, db.IsCandidate stay requested avoid r →
      (db.retireAssignments S).Free r stay.checkIn stay.checkOut → chosen ≤ r) :
    HousesOrFull db S stay requested avoid result := by
  have hlt := h.proper S stay hs
  obtain ⟨e, rfl, ⟨⟨msg, rfl⟩, hno⟩ | ⟨-, hnone⟩⟩ | ⟨chosen, rfl, hcand, hfree, -⟩ := hbooking
  · refine .inl ⟨msg, rfl, Set.eq_empty_of_forall_notMem fun r hr => ?_⟩
    obtain ⟨hcand, hfree⟩ := (mem_vacant_iff h hlt).mp hr
    exact hno r hcand hfree
  · rw [hs] at hnone
    cases hnone
  · refine .inr ⟨chosen, _, rfl, ⟨(mem_vacant_iff h hlt).mpr ⟨hcand, hfree⟩, fun r hr => ?_⟩,
      house_view h hlt hfree⟩
    obtain ⟨hcand, hfree⟩ := (mem_vacant_iff h hlt).mp hr
    exact hle chosen rfl r hcand hfree

theorem assign_view (h : DeskSound db) (hs : db.getStay S = some stay) (hroom : stay.roomId = none)
    (preferred : Option Int) :
    HousesOrFull db S stay preferred none (exec (.assignTransaction S stay preferred) db) := by
  -- without a room the stay has no assignment to retire
  have hretire : db.retireAssignments S = db := retireAssignments_eq_self (h.agree.unused hs hroom).1
  refine housesOrFull_of_booking h hs ?_ fun chosen hok r hcand hfree => ?_
  · rw [hretire]
    exact Db.assignTransaction_booking S stay preferred db
  · rw [hretire] at hfree
    exact Db.assignTransaction_le (Prod.ext hok rfl) hcand hfree

theorem move_view (h : DeskSound db) (hs : db.getStay S = some stay) (newRoomId : Option Int) :
    HousesOrFull db S stay newRoomId stay.roomId (exec (.changeTransaction S stay newRoomId) db) :=
  housesOrFull_of_booking h hs (Db.changeTransaction_booking S stay newRoomId db)
    fun _ hok _ hcand hfree => Db.changeTransaction_le (Prod.ext hok rfl) hcand hfree

/-! ## Reservations -/

/-- The guest of a reservation is greeted, or refused. -/
theorem greet_view (h : DeskSound db) (body : ReservationIn) (draw : Draw) :
    (∃ e, (reservationGuest body draw).run db = (.error e, db) ∧
      (deskOf db).GreetFails body draw e) ∨
    ∃ guestId db₁, (reservationGuest body draw).run db = (.ok guestId, db₁) ∧ DeskSound db₁ ∧
      (deskOf db).Greets body draw guestId (deskOf db₁) ∧ guestId ∈ (deskOf db₁).guests ∧
      (deskOf db₁).folios = (deskOf db).folios := by
  unfold reservationGuest
  cases hid : body.guestId with
  | some guestId =>
    simp only
    rw [run_stmt_bind, exec]
    simp only
    by_cases hfound : (db.guests.find? guestId).isSome = true
    · rw [if_pos hfound]
      exact .inr ⟨guestId, db, rfl, h, .known guestId hid hfound, hfound, rfl⟩
    · rw [if_neg hfound]
      exact .inl ⟨_, rfl, .unknown guestId _ hid hfound⟩
  | none =>
    cases hguest : body.guest with
    | none => exact .inl ⟨_, rfl, .nobody _ hid hguest⟩
    | some guest =>
      simp only
      rw [run_stmt_bind, exec]
      obtain ⟨hin, hadd⟩ | ⟨hnew, guests, hadd, hview⟩ :=
        addGuest_view db ("g_" ++ draw.guestHex) guest.name guest.email
      · rw [hadd]
        exact .inl ⟨_, rfl, .taken guest hid hguest hin⟩
      · have hsound : DeskSound { db with guests } := h.of_write
          (.addGuest _ guest.name guest.email) trivial rfl hadd (agree_addGuest h.agree hadd)
        rw [hadd]
        refine .inr ⟨_, _, rfl, hsound, ?_, ?_, rfl⟩
        · rw [hview]
          exact .new guest hid hguest hnew
        · rw [hview]
          exact Set.mem_insert _ _

/-- **A reservation is a step of the desk.** -/
theorem reserve_refines (h : DeskSound db) (body : ReservationIn) (draw : Draw) :
    Desk.Step E sk propertyId ((.reserve body, draw),
        ((reserve propertyId body draw).run db).1.map fun r => .reserved r.1 r.2.1 r.2.2)
      (deskOf db) (deskOf ((reserve propertyId body draw).run db).2) := by
  rw [reserve, run_bind]
  obtain ⟨e, hrun, hfail⟩ | ⟨guestId, db₁, hrun, h₁, hgreet, hguest, hfolios⟩ := greet_view h body draw
  · rw [hrun]
    exact .notGreeted body draw hfail
  rw [hrun]
  simp only
  rw [run_stmt_bind, exec]
  obtain ⟨htaken, hadd⟩ | ⟨hnew, stays, hadd, hget, hopen⟩ := addStay_view (S := "s_" ++ draw.stayHex)
    db₁ propertyId body.roomType body.checkIn body.checkOut hguest
  · rw [hadd]
    exact .stayTaken body draw hgreet (hfolios ▸ htaken)
  have h₂ : DeskSound { db₁ with stays } := h₁.of_write
    (.addStay _ guestId propertyId body.roomType body.checkIn body.checkOut) body.window rfl hadd
    (agree_addStay h₁.agree hadd)
  rw [hfolios] at hnew
  rw [hadd]
  simp only [write]
  rw [run_bind, assignRoom_run hget]
  simp only [Db.newStay]
  obtain ⟨msg, hroom, hfull⟩ | ⟨room, db₃, hroom, hleast, hhouse⟩ :=
    assign_view h₂ hget rfl body.preferredRoomId
  · rw [Db.newStay] at hroom
    rw [hopen] at hfull
    rw [hroom]
    simp only [hopen]
    exact .reservedNoRoom body draw hgreet hnew hfull
  · rw [Db.newStay] at hroom
    rw [hopen] at hleast hhouse
    rw [hroom]
    show Desk.Step E sk propertyId ((.reserve body, draw), .ok (.reserved _ guestId room)) (deskOf db)
      (deskOf db₃)
    rw [hhouse]
    exact .reserved body draw hgreet hnew hleast

/-! ## Calls on a stay -/

variable {draw : Draw}

theorem checkin_refines (db : Db) (S : String) (draw : Draw) :
    Desk.Step E sk propertyId
      ((.checkin S, draw), ((Store.checkin E sk S draw.clock draw.fresh).run db).1.map .key)
      (deskOf db) (deskOf ((Store.checkin E sk S draw.clock draw.fresh).run db).2) := by
  cases hs : db.getStay S with
  | none =>
    obtain ⟨msg, hrun⟩ := checkin_run_none E sk draw.clock draw.fresh hs
    rw [hrun]
    exact .unknownStay _ draw (.inl rfl) (folios_eq_none_iff.mpr hs)
  | some stay =>
    have hin : (deskOf db).folios S ≠ none := by simp [folios_eq_some hs]
    rw [checkin_run hs]
    have hs' : (db.setStayStatus S .checkedIn).getStay S = some { stay with status := .checkedIn } := by
      rw [Db.getStay_setStayStatus, hs, Option.map_some, if_pos rfl]
    obtain ⟨e, hrun, hfail⟩ | ⟨key, db', hrun, hcut⟩ := issue_view hs' E sk draw.clock draw.fresh
    · rw [setStatus_view] at hfail
      rw [hrun]
      simp only [setStatus_view]
      exact .arrivedNoKey S draw hin hfail
    · rw [setStatus_view] at hcut
      rw [hrun]
      exact .arrived S draw hin hcut

theorem refresh_refines (h : DeskSound db) (S : String) (draw : Draw) :
    Desk.Step E sk propertyId
      ((.refresh S, draw), ((Store.refreshKey E sk S draw.clock draw.fresh).run db).1.map .key)
      (deskOf db) (deskOf ((Store.refreshKey E sk S draw.clock draw.fresh).run db).2) := by
  rw [Store.refreshKey, run_getStay_bind]
  cases hs : db.getStay S with
  | none => exact .unknownStay _ draw (.inr (.inl rfl)) (folios_eq_none_iff.mpr hs)
  | some stay =>
    simp only
    by_cases hst : stay.status = .checkedOut
    · rw [if_pos hst]
      exact .alreadyLeft _ draw (.inl rfl) (folios_eq_some hs) hst
    have hopen : (deskOf db).InHouse S (folioOf stay) := ⟨folios_eq_some hs, hst⟩
    rw [if_neg hst, run_stmt_bind, exec]
    simp only
    have hs' : (db.retireKeys S).getStay S = some stay := hs
    obtain ⟨e, hrun, hfail⟩ | ⟨key, db', hrun, hcut⟩ := issue_view hs' E sk draw.clock draw.fresh
    · rw [retireKeys_view h.agree] at hfail
      rw [hrun]
      simp only [retireKeys_view h.agree]
      exact .renewedNoKey S draw hopen hfail
    · rw [retireKeys_view h.agree] at hcut
      rw [hrun]
      exact .renewed S draw hopen hcut

theorem checkout_refines (h : DeskSound db) (S : String) (draw : Draw) :
    Desk.Step E sk propertyId
      ((.checkout S, draw),
        ((checkoutRequest S draw.clock).run db).1.map fun r => .checkedOut r.1 r.2)
      (deskOf db) (deskOf ((checkoutRequest S draw.clock).run db).2) := by
  rw [checkoutRequest, run_getStay_bind]
  cases hs : db.getStay S with
  | none => exact .unknownStay _ draw (.inr (.inr (.inl rfl))) (folios_eq_none_iff.mpr hs)
  | some stay =>
    simp only
    rw [run_bind, checkout_run hs]
    have hcalendar : NoDoubleBooking (dropKeys db S draw.clock "checkout") := by
      obtain ⟨r, hr⟩ := dropKeys_eq db S draw.clock "checkout"
      rw [hr]
      exact h.calendar
    have hview : deskOf (((dropKeys db S draw.clock "checkout").retireAssignments S).setStayStatus S
        .checkedOut) = (((deskOf db).settle S .revoked).vacate S).setStatus S .checkedOut := by
      rw [setStatus_view, retireAssignments_view hcalendar, dropKeys_view]
    show Desk.Step E sk propertyId ((.checkout S, draw), .ok (.checkedOut (db.activeKeys S) stay.roomId))
      (deskOf db) (deskOf (((dropKeys db S draw.clock "checkout").retireAssignments S).setStayStatus S
        .checkedOut))
    rw [hview]
    exact .left S draw (folios_eq_some hs) fun k => live_iff.symm

theorem DeskSound.dropKeys (h : DeskSound db) (S : String) (now : Int) (reason : String) :
    DeskSound (dropKeys db S now reason) := by
  have hagree := agree_dropKeys h.agree S now reason
  obtain ⟨r, hr⟩ := dropKeys_eq db S now reason
  rw [hr] at hagree ⊢
  exact ⟨hagree, h.calendar, h.proper⟩

theorem roomChange_refines (E : Env) (sk : PrivateKey) (h : DeskSound db) (S : String) (body : RoomChangeIn)
    (draw : Draw) :
    Desk.Step E sk propertyId
      ((.roomChange S body, draw), ((roomChangeRequest E sk S (nowOr body.now draw.clock) body.newRoomId
        draw.fresh).run db).1.map fun r => .roomChanged r.2.1 r.2.2.1 r.2.2.2)
      (deskOf db) (deskOf ((roomChangeRequest E sk S (nowOr body.now draw.clock) body.newRoomId
        draw.fresh).run db).2) := by
  rw [roomChangeRequest, run_getStay_bind]
  cases hs : db.getStay S with
  | none =>
    exact .unknownStay _ draw (.inr (.inr (.inr ⟨body, rfl⟩))) (folios_eq_none_iff.mpr hs)
  | some stay =>
    simp only
    rw [run_bind]
    by_cases hst : stay.status = .checkedOut
    · have hrun : ∃ msg, (Store.changeRoom E sk S (nowOr body.now draw.clock) body.newRoomId
          draw.fresh).run db = (.error (.stayKey msg), db) :=
        ⟨_, by rw [Store.changeRoom, run_getStay_bind, hs]; simp only; rw [if_pos hst]; rfl⟩
      obtain ⟨msg, hrun⟩ := hrun
      rw [hrun]
      exact .alreadyLeft _ draw (.inr ⟨body, rfl⟩) (folios_eq_some hs) hst
    have hopen : (deskOf db).InHouse S (folioOf stay) := ⟨folios_eq_some hs, hst⟩
    have hdrop := h.dropKeys S (nowOr body.now draw.clock) "room_change"
    have hget : (dropKeys db S (nowOr body.now draw.clock) "room_change").getStay S = some stay :=
      (getStay_dropKeys ..).trans hs
    rw [Store.changeRoom, run_getStay_bind, hs]
    simp only
    rw [if_neg hst, dropKeys_run, run_bind, moveRoom_run hget]
    -- what is vacant does not depend on the keys
    have hvacant (requested avoid : Option Int) :
        ((deskOf db).settle S .revoked).Vacant S (folioOf stay) requested avoid
          = (deskOf db).Vacant S (folioOf stay) requested avoid := rfl
    obtain ⟨msg, hmove, hfull⟩ | ⟨room, db₂, hmove, hleast, hhouse⟩ :=
      move_view hdrop hget body.newRoomId
    · rw [dropKeys_view, hvacant] at hfull
      rw [hmove]
      simp only [dropKeys_view]
      exact .moveNoRoom S body draw hopen hfull
    rw [dropKeys_view] at hleast hhouse
    rw [hvacant] at hleast
    rw [hmove]
    simp only
    rw [run_bind]
    have hin : (deskOf db₂).folios S ≠ none := by
      rw [hhouse]
      simp [Desk.house, Desk.amend, Desk.vacate, Desk.settle, folios_eq_some hs]
    obtain ⟨stay₂, hs₂⟩ := Option.ne_none_iff_exists'.mp (mt folios_eq_none_iff.mpr hin)
    obtain ⟨e, hrun, hfail⟩ | ⟨key, db₃, hrun, hcut⟩ :=
      issue_view hs₂ E sk (nowOr body.now draw.clock) draw.fresh
    · rw [hhouse] at hfail
      rw [hrun]
      simp only [hhouse]
      exact .movedNoKey S body draw hopen hleast hfail
    · rw [hhouse] at hcut
      rw [hrun]
      exact .moved S body draw hopen (fun k => live_iff.symm) hleast hcut

/-! ## Requests and runs -/

/-- What agrees with the revocation list stands at the desk. -/
theorem stands_of_consults {db : Db} (h : Agree db) {d : Decision}
    (hd : Consults (db.revocationList.map py).toFinset d) : (deskOf db).Stands d where
  unlocked hu := by
    obtain ⟨keyId, hkey, hno⟩ := hd.unlocked hu
    refine ⟨keyId, hkey, fun k hk he => hno ?_⟩
    rw [he, List.mem_toFinset]
    exact List.mem_map_of_mem ((revoked_iff h).mp hk)
  revoked hr := by
    obtain ⟨keyId, hin, hkey⟩ := hd.revoked hr
    obtain ⟨k, hk, rfl⟩ := List.mem_map.mp (List.mem_toFinset.mp hin)
    exact ⟨k, (revoked_iff h).mpr hk, hkey⟩

/-- The active stay of a room has it at the desk. -/
theorem occupied_of_active {db : Db} (h : DeskSound db) {S : String} {room : Int}
    (hactive : ActiveStay db S room) : (deskOf db).Occupied room := by
  obtain ⟨a, stay, ha, rfl, hs, hstatus, hroom⟩ := hactive
  obtain ⟨⟨hin, hr, hact⟩, -⟩ := Db.activeAssignmentForRoom_eq_some ha
  refine ⟨a.stayId, folioOf stay, a.checkIn, folios_eq_some hs, hstatus, hroom, ?_⟩
  obtain ⟨stay', hs', -, hcheckIn, hcheckOut⟩ := h.agree.assigned a hin
  have hlt := h.proper _ stay' hs'
  rw [hcheckIn, hcheckOut] at hlt
  exact (calendar_eq_some_iff h.calendar).mpr ⟨a, hin, hact, hr, rfl, le_refl _, hlt⟩

/-- **An unlock request is answered by the door**, which was given the
revocation list first. -/
theorem lockUnlock_refines {s : AppState} (h : DeskSound s.db) (room : Int) (body : UnlockIn) (draw : Draw) :
    Desk.Step E sk propertyId
      ((.lockUnlock room body, draw), (lockUnlock E room body draw.clock s).1) (deskOf s.db) (deskOf s.db) := by
  simp only [lockUnlock]
  cases presented body.challengeB64 body.responseB64 with
  | error e => exact .unanswered _ draw (.inl ⟨body, rfl⟩)
  | ok c =>
    simp only
    cases hu : (((s.syncLock E room).lockFor E room).1.finishUnlock E body.token c.1 c.2
      (nowOr body.now draw.clock)).1 with
    | error e => exact .unanswered _ draw (.inl ⟨body, rfl⟩)
    | ok d =>
      have hconsults := finishUnlock_consults hu
      rw [lockFor_syncLock] at hconsults
      exact .unlockAnswered room body draw (stands_of_consults h.agree hconsults)

/-- **A command is answered by the authorizer**, which reads the tables. -/
theorem roomControl_refines {s : AppState} (h : DeskSound s.db) (room : Int) (body : ControlIn) (draw : Draw) :
    Desk.Step E sk propertyId
      ((.roomControl room body, draw), (roomControl E room body draw.clock s).1)
      (deskOf s.db) (deskOf s.db) := by
  simp only [roomControl]
  cases presented body.challengeB64 body.responseB64 with
  | error e => exact .unanswered _ draw (.inr ⟨body, rfl⟩)
  | ok c =>
    simp only
    cases hu : (s.connected.authorize E s.db room body.command body.token c.1 c.2
      (nowOr body.now draw.clock)).1 with
    | error e => exact .unanswered _ draw (.inr ⟨body, rfl⟩)
    | ok d =>
      refine .controlAnswered room body draw (stands_of_consults h.agree (authorize_consults hu))
        fun hopen => ?_
      have hunlocks : unlocks (s.connected.authorize E s.db room body.command body.token c.1 c.2
          (nowOr body.now draw.clock)).1 = true := by
        rw [hu]
        exact hopen
      obtain ⟨p, -, hactive⟩ := authorize_restsOn hunlocks
      obtain ⟨S, -, hactive⟩ := (isActiveStay_true_iff room).mp hactive
      exact ⟨authorize_command hunlocks, occupied_of_active h hactive⟩

/-- **One request is one step of the desk.** -/
theorem handle_refines {s : AppState} (h : DeskSound s.db) (r : Request × Draw) :
    Desk.Step E s.propertySk s.propertyId (r, (handle E r s).1) (deskOf s.db) (deskOf (handle E r s).2.db) := by
  obtain ⟨req, draw⟩ := r
  cases req with
  | createGuest body =>
    have hrun : (Stmt.call (.addGuest ("g_" ++ draw.guestHex) body.name body.email)).run s.db
        = write s.db (s.db.addGuest ("g_" ++ draw.guestHex) body.name body.email) :=
      run_stmt (.addGuest _ _ _) s.db
    simp only [handle, AppState.run]
    obtain ⟨hin, hadd⟩ | ⟨hnew, guests, hadd, hview⟩ :=
      addGuest_view s.db ("g_" ++ draw.guestHex) body.name body.email
    · rw [hrun, hadd]
      exact .guestTaken body draw hin
    · rw [hrun, hadd]
      show Desk.Step E s.propertySk s.propertyId ((.createGuest body, draw), .ok (.guestCreated _)) (deskOf s.db)
        (deskOf { s.db with guests })
      rw [hview]
      exact .guestCreated body draw hnew
  | createRoom body =>
    have hrun : (Stmt.call (.addRoom body.roomId (strOr body.propertyId s.propertyId) body.number
        body.roomType)).run s.db = write s.db (s.db.addRoom body.roomId
          (strOr body.propertyId s.propertyId) body.number body.roomType) :=
      run_stmt (.addRoom _ _ _ _) s.db
    simp only [handle, AppState.run]
    obtain ⟨hin, hadd⟩ | ⟨hnew, rooms, hadd, hview⟩ := addRoom_view s.db body.roomId
      (strOr body.propertyId s.propertyId) body.number body.roomType
    · rw [hrun, hadd]
      exact .roomTaken body draw hin
    · rw [hrun, hadd]
      show Desk.Step E s.propertySk s.propertyId ((.createRoom body, draw), .ok (.roomCreated body.roomId))
        (deskOf s.db) (deskOf { s.db with rooms })
      rw [hview]
      exact .roomCreated body draw hnew
  | reserve body => exact reserve_refines h body draw
  | checkin stayId => exact checkin_refines s.db stayId draw
  | refresh stayId => exact refresh_refines h stayId draw
  | checkout stayId =>
    have hstep : Desk.Step E s.propertySk s.propertyId _ _ _ := checkout_refines h stayId draw
    simp only [handle, AppState.run, nowOr, Option.getD_none]
    rcases hrun : (checkoutRequest stayId draw.clock).run s.db with ⟨e | ⟨revoked, roomId⟩, db'⟩ <;>
      rw [hrun] at hstep
    · exact hstep
    · simp only [syncRoom_db]
      exact hstep
  | roomChange stayId body =>
    have hstep : Desk.Step E s.propertySk s.propertyId _ _ _ :=
      roomChange_refines E s.propertySk h stayId body draw
    simp only [handle, AppState.run]
    rcases hrun : (roomChangeRequest E s.propertySk stayId (nowOr body.now draw.clock) body.newRoomId
      draw.fresh).run s.db with ⟨e | ⟨oldRoom, newRoom, revoked, key⟩, db'⟩ <;> rw [hrun] at hstep
    · exact hstep
    · simp only [syncLock_db, syncRoom_db]
      exact hstep
  | revocations => exact .listed draw fun k => (revoked_iff h.agree).symm
  | lockChallenge room =>
    rw [handle_db]
    exact .challenged _ draw (.inl rfl)
  | roomChallenge room =>
    rw [handle_db]
    exact .challenged _ draw (.inr rfl)
  | lockUnlock room body =>
    rw [handle_db]
    exact lockUnlock_refines h room body draw
  | roomControl room body =>
    rw [handle_db]
    exact roomControl_refines h room body draw

/-- What one request asks of the state before it. -/
def AtDesk (E : Env) (propertyId : String) (sk : PrivateKey) (s : AppState) : Prop :=
  DeskSound s.db ∧ SameInstall (.new E propertyId sk) s

theorem desk_refines (E : Env) (propertyId : String) (sk : PrivateKey) :
    Refines (handle E) (AppState.new E propertyId sk) (Desk.spec E sk propertyId) (AtDesk E propertyId sk)
      fun s => deskOf s.db where
  invInit :=
    ⟨(deskSound_invariant : StoreInvariant E sk propertyId AnyCheckin DeskSound).empty, .refl _⟩
  invStep s r h := ⟨deskSound_invariant.step h.2.propertySk h.2.propertyId h.1 (requestOk_any r),
    h.2.trans (sameInstall_handle r s)⟩
  init := Desk.ext (Set.ext fun _ => by simp [deskOf, AppState.new, Db.empty, Desk.spec, Desk.opening])
    rfl rfl rfl rfl
  step s r h := by
    have hstep := handle_refines (E := E) h.1 r
    rwa [h.2.propertyId, h.2.propertySk] at hstep

variable {sk : PrivateKey} {h : List ApiEntry} {s : AppState}

theorem orderly_api (hs : ApiHistory E propertyId sk h s) : (deskOf s.db).Orderly :=
  (desk_refines E propertyId sk).transfer hs Desk.orderly_opening fun _ _ _ => Desk.orderly_step

/-! ## The house -/

/-- The rooms of a property. -/
def roomsOf (db : Db) (property : String) : List Int :=
  (db.rooms.rows.filter fun r => r.propertyId = property).map RoomRow.roomId

/-- The stay has a room of this property at this time. -/
def SleepsAt (db : Db) (property : String) (t : Int) (S : String) : Prop :=
  ∃ a ∈ db.assignments, a.active = true ∧ a.stayId = S ∧ a.checkIn ≤ t ∧ t < a.checkOut ∧
    StayIs db S fun stay => stay.propertyId = property

/-- **The house is never over its capacity, and no guest without a bed**: in
every reachable state and at every instant there are at most as many stays
with a room of a property as the property has rooms; and the rooms a stay
has are one room for the whole of its window, or none at all. -/
theorem house_within_capacity (hs : ApiHistory E propertyId sk h s) :
    (∀ property t (stays : List String), stays.Nodup → (∀ S ∈ stays, SleepsAt s.db property t S) →
      stays.length ≤ (roomsOf s.db property).length) ∧
    ∀ S, (∀ a ∈ s.db.assignments, a.active = true → a.stayId ≠ S) ∨
      ∃ stay roomId, s.db.getStay S = some stay ∧ stay.status ≠ .checkedOut ∧
        stay.roomId = some roomId ∧ ∀ r t, (∃ a ∈ s.db.assignments, a.active = true ∧ a.stayId = S ∧
          a.roomId = r ∧ a.checkIn ≤ t ∧ t < a.checkOut) ↔
            r = roomId ∧ stay.checkIn ≤ t ∧ t < stay.checkOut := by
  have hsound := deskSound_api hs
  have horder := orderly_api hs
  constructor
  · intro property t stays hnodup hsleep
    refine Calendar.length_le_of_housed (c := (deskOf s.db).calendar) (t := t) hnodup fun S hS => ?_
    obtain ⟨a, ha, hact, hid, hin, hout, stay, hstay, hproperty⟩ := hsleep S hS
    have hhas : (deskOf s.db).calendar a.roomId t = some S :=
      (calendar_eq_some_iff hsound.calendar).mpr ⟨a, ha, hact, rfl, hid, hin, hout⟩
    refine ⟨a.roomId, ?_, hhas⟩
    obtain habsent | ⟨f, room, hf, hroom, hholds⟩ := horder.housed S
    · exact absurd hhas (habsent a.roomId t)
    · obtain ⟨kind, hkind, hkp⟩ := horder.property S f room hf.1 hroom
      obtain rfl := ((hholds a.roomId t).mp hhas).1
      have hfolio := (folios_eq_some hstay).symm.trans hf.1
      cases hfolio
      obtain ⟨row, hrow, rfl⟩ := Option.map_eq_some_iff.mp hkind
      obtain ⟨hmem, hrid⟩ := Table.find?_eq_some_iff.mp hrow
      refine List.mem_map.mpr ⟨row, List.mem_filter.mpr ⟨hmem, ?_⟩, hrid⟩
      exact decide_eq_true (hkp.trans hproperty)
  · intro S
    obtain habsent | ⟨f, room, hf, hroom, hholds⟩ := horder.housed S
    · refine .inl fun a ha hact hid => habsent a.roomId a.checkIn ?_
      obtain ⟨stay, hstay, -, hin, hout⟩ := hsound.agree.assigned a ha
      have hlt := hsound.proper _ stay hstay
      rw [hin, hout] at hlt
      exact (calendar_eq_some_iff hsound.calendar).mpr ⟨a, ha, hact, rfl, hid, le_refl _, hlt⟩
    · obtain ⟨stay, hstay, rfl⟩ := Option.map_eq_some_iff.mp hf.1
      refine .inr ⟨stay, room, hstay, hf.2, hroom, fun r t => ?_⟩
      rw [← show r = room ∧ t ∈ (folioOf stay).window ↔ r = room ∧ stay.checkIn ≤ t ∧ t < stay.checkOut
        from Iff.rfl, ← hholds r t, calendar_eq_some_iff hsound.calendar]
      constructor
      · intro ⟨a, ha, hact, hid, hr, hwindow⟩
        exact ⟨a, ha, hact, hr, hid, hwindow⟩
      · intro ⟨a, ha, hact, hr, hid, hwindow⟩
        exact ⟨a, ha, hact, hid, hr, hwindow⟩

def sampleRoom' : RoomIn where
  roomId := 201
  number := "201"
  roomType := "king"
  propertyId := none
  roomIdPos := by decide
  numberLength := by decide
  roomTypeLength := sampleRoom.roomTypeLength

def overlappingReservation : ReservationIn where
  guestId := some "g_1"
  guest := none
  roomType := "king"
  checkIn := 1500
  checkOut := 2500
  preferredRoomId := none
  roomTypeLength := sampleReservation.roomTypeLength
  checkInPos := by decide
  checkOutPos := by decide
  window := by decide

/-- Two rooms, and three reservations that overlap: the third has no room. -/
def houseRequests : List (Request × Draw) :=
  sampleRequests ++
    [ (.createRoom sampleRoom', sampleDraw 900 "" ""),
      (.reserve overlappingReservation, sampleDraw 910 "2" ""),
      (.reserve overlappingReservation, sampleDraw 920 "3" "") ]

/-- The house is full at 1600: both rooms are taken, and the third stay has
none. -/
theorem house_within_capacity_sample :
    ["s_1", "s_2"].length ≤ (roomsOf (runRequests houseRequests).2.db "HILTON-DEMO-001").length ∧
      roomsOf (runRequests houseRequests).2.db "HILTON-DEMO-001" = [101, 201] ∧
      ∀ a ∈ (runRequests houseRequests).2.db.assignments, a.active = true → a.stayId ≠ "s_3" := by
  have hs : ApiHistory Env.sample "HILTON-DEMO-001" sampleKey _ (runRequests houseRequests).2 :=
    History.of_runAll _ _ houseRequests
  have hrows : (runRequests houseRequests).2.db.assignments.rows
      = [⟨1, 101, "s_1", 1000, 2000, true⟩, ⟨2, 201, "s_2", 1500, 2500, true⟩] := by decide
  have hfirst : ⟨1, 101, "s_1", 1000, 2000, true⟩ ∈ (runRequests houseRequests).2.db.assignments := by
    rw [← Table.mem_rows, hrows]
    exact List.mem_cons_self
  have hsecond : ⟨2, 201, "s_2", 1500, 2500, true⟩ ∈ (runRequests houseRequests).2.db.assignments := by
    rw [← Table.mem_rows, hrows]
    exact List.mem_cons_of_mem _ List.mem_cons_self
  refine ⟨(house_within_capacity hs).1 "HILTON-DEMO-001" 1600 ["s_1", "s_2"] (by decide) ?_, by decide, ?_⟩
  · intro S hS
    rcases List.mem_cons.mp hS with rfl | hS
    · exact ⟨_, hfirst, rfl, rfl, by decide, by decide, _, rfl, rfl⟩
    · obtain rfl := List.mem_singleton.mp hS
      exact ⟨_, hsecond, rfl, rfl, by decide, by decide, _, rfl, rfl⟩
  · obtain habsent | ⟨stay, room, hstay, -, hroom, -⟩ := (house_within_capacity hs).2 "s_3"
    · exact habsent
    · have hnone : ((runRequests houseRequests).2.db.getStay "s_3").bind StayRow.roomId = none := by decide
      rw [hstay, Option.bind_some, hroom] at hnone
      cases hnone

/-! ## Keys -/

/-- No request brings a card back. -/
theorem fades_handle {t : AppState} (r : Request × Draw)
    (h : AtDesk E propertyId sk s ∧ (deskOf t.db).Fades (deskOf s.db)) :
    AtDesk E propertyId sk (handle E r s).2 ∧ (deskOf t.db).Fades (deskOf (handle E r s).2.db) :=
  ⟨(desk_refines E propertyId sk).invStep s r h.1,
    h.2.trans (Desk.fades_step ((desk_refines E propertyId sk).step s r h.1))⟩

theorem fades_api {t : AppState} (hs : ApiHistory E propertyId sk h s) (hv : History.Visits h s t) :
    (deskOf t.db).Fades (deskOf s.db) := by
  obtain ⟨h', hs'⟩ := hs.of_visits hv
  exact (hs.since_visits (P := fun s => AtDesk E propertyId sk s ∧ (deskOf t.db).Fades (deskOf s.db)) hv
    ⟨((desk_refines E propertyId sk).run hs').1, .refl _⟩ fun _ r => fades_handle r).2

/-- **A key that is lapsed is not revoked any more**, in any run from a state
that is a desk. -/
theorem lapsed_for_good {t : AppState} (ht : AtDesk E propertyId sk t) (hs : History (handle E) t h s)
    {k : KeyRow} (hk : k ∈ t.db.keys) (hoff : k.active = false) (hrev : k.keyId ∉ t.db.revocationList) :
    k.keyId ∉ s.db.revocationList := by
  obtain ⟨hdesk, hfades⟩ := hs.since_visits (P := fun s => AtDesk E propertyId sk s ∧
    (deskOf t.db).Fades (deskOf s.db)) hs.visits_start ⟨ht, .refl _⟩ fun _ r => fades_handle r
  have hcard : (deskOf t.db).cards k.keyId = some (cardOf t.db k) := by
    rw [deskOf_cards, Table.find?_of_mem hk, Option.map_some]
  have hlapsed : (cardOf t.db k).state = .lapsed := by simp [cardOf, hoff, hrev]
  have hne : (cardOf t.db k).state ≠ .live := by simp [hlapsed]
  obtain ⟨state, hc, hsame⟩ := hfades _ _ hcard
  rw [hsame hne] at hc
  intro hlisted
  obtain ⟨c, hc', hstate⟩ := (revoked_iff hdesk.1.agree).mpr hlisted
  cases hc.symm.trans hc'
  cases hlapsed.symm.trans hstate

/-- **What becomes of a key is decided when it is deactivated.** From then on
its row stays as it is, and it is revoked at the end of the run exactly if it
was revoked at that moment: a key that was replaced by a refresh is never
revoked later, and never used up again. -/
theorem deactivated_for_good {t : AppState} (hs : ApiHistory E propertyId sk h s)
    (hv : History.Visits h s t) {k : KeyRow} (hk : k ∈ t.db.keys) (hoff : k.active = false) :
    k ∈ s.db.keys ∧ (k.keyId ∈ s.db.revocationList ↔ k.keyId ∈ t.db.revocationList) := by
  have hkept : k ∈ s.db.keys := by
    have hext : Extends t.db s.db := hs.since_visits (P := fun s => Extends t.db s.db) hv (.refl _)
      fun s r hext => hext.trans (extends_handle r s)
    rcases hext.keys k hk with hin | hin
    · exact hin
    · rwa [← hoff] at hin
  refine ⟨hkept, ?_⟩
  -- the card at both moments is the one that faded
  have hcard {db : Db} (hin : k ∈ db.keys) : (deskOf db).cards k.keyId = some (cardOf db k) := by
    rw [deskOf_cards, Table.find?_of_mem hin, Option.map_some]
  have hstate (db : Db) : (cardOf db k).state = .revoked ↔ k.keyId ∈ db.revocationList := by
    by_cases hrev : k.keyId ∈ db.revocationList <;> simp [cardOf, hoff, hrev]
  have hfaded : (cardOf t.db k).state ≠ .live := by
    by_cases hrev : k.keyId ∈ t.db.revocationList <;> simp [cardOf, hoff, hrev]
  obtain ⟨state, hc, hsame⟩ := fades_api hs hv k.keyId _ (hcard hk)
  rw [hcard hkept, hsame hfaded] at hc
  rw [← hstate s.db, ← hstate t.db, Option.some.inj hc]

def rolledRequests : List (Request × Draw) :=
  sampleRequests ++ [ (.checkin "s_1", sampleDraw 1000 "" "k1"), (.refresh "s_1", sampleDraw 1100 "" "k2") ]

def leavingRequests : List (Request × Draw) := [(.checkout "s_1", sampleDraw 1200 "" "")]

/-- A key is refreshed before the guest leaves: the first one is not revoked
when the guest does. -/
theorem deactivated_for_good_refreshed :
    (runRequests (rolledRequests ++ leavingRequests)).2.db.revocationList = ["k2"] ∧
      ∃ k ∈ (runRequests (rolledRequests ++ leavingRequests)).2.db.keys, k.keyId = "k1" ∧
        (k.keyId ∈ (runRequests (rolledRequests ++ leavingRequests)).2.db.revocationList ↔
          k.keyId ∈ (runRequests rolledRequests).2.db.revocationList) := by
  have hs : ApiHistory Env.sample "HILTON-DEMO-001" sampleKey _
      (runRequests (rolledRequests ++ leavingRequests)).2 := History.of_runAll _ _ _
  have hv : History.Visits (runRequests (rolledRequests ++ leavingRequests)).1
      (runRequests (rolledRequests ++ leavingRequests)).2 (runRequests rolledRequests).2 :=
    History.visits_runAll rolledRequests leavingRequests
  have hrows : ((runRequests rolledRequests).2.db.keys.rows.map fun k => (k.keyId, k.active))
      = [("k1", false), ("k2", true)] := by decide
  have hin : ("k1", false) ∈ (runRequests rolledRequests).2.db.keys.rows.map
      fun k => (k.keyId, k.active) := by
    rw [hrows]
    exact List.mem_cons_self
  obtain ⟨k, hk, hcols⟩ := List.mem_map.mp hin
  obtain ⟨hid, hoff⟩ := Prod.mk.inj hcols
  obtain ⟨hkept, hsame⟩ := deactivated_for_good hs hv hk hoff
  exact ⟨by decide, k, hkept, hid, hsame⟩

end StayKey.Service
