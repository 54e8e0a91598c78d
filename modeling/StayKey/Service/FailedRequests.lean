/-
StayKey.Service.FailedRequests — which failed requests leave a trace in the
store.

A reservation adds its guest and its stay by statements that are committed
on their own, before a room is looked for; a check-in sets the status
before a key is issued. A request that fails after these writes is
answered with an error envelope and is not undone.

For both requests the condition under which an error envelope means that
nothing was written is read off the tables before the request, and is exact
(`reserve_trace_iff`, `checkin_trace_iff`).
-/
import StayKey.Service.TablesAgree

namespace StayKey.Service

open StayKey.Codec StayKey.Door StayKey.Store StayKey.Program

variable {E : Env} {s : AppState} {db : Db}

/-- The request is answered with an error envelope: the exception is one the
handlers are registered for. -/
def ErrorEnvelope (r : Except Exc Answer) : Prop := ∃ e, r = .error e ∧ e.isStayKeyError = true

/-- The tables a failed request has to leave alone. -/
structure SameTables (db db' : Db) : Prop where
  guests : db'.guests = db.guests
  stays : db'.stays = db.stays
  assignments : db'.assignments = db.assignments
  keys : db'.keys = db.keys
  revocations : db'.revocations = db.revocations

theorem SameTables.refl (db : Db) : SameTables db db := ⟨rfl, rfl, rfl, rfl, rfl⟩

/-- If the request is answered with an error envelope, the tables are as
before. -/
def LeavesNoTrace (E : Env) (r : Request × Draw) (s : AppState) : Prop :=
  ErrorEnvelope (handle E r s).1 → SameTables s.db (handle E r s).2.db

/-! ## The conditions -/

/-- The reservation gets past its guest: the one it names is there, or the
new one can be added. -/
def GuestAccepted (db : Db) (body : ReservationIn) (draw : Draw) : Prop :=
  match body.guestId with
  | some guestId => (db.guests.find? guestId).isSome
  | none => body.guest.isSome ∧ db.guests.find? ("g_" ++ draw.guestHex) = none

/-- Some room of the property, the preferred one or any of the type, is free
for the window. -/
def Bookable (db : Db) (propertyId : String) (body : ReservationIn) : Prop :=
  ∃ room ∈ db.rooms, room.propertyId = propertyId ∧
    (match body.preferredRoomId with
    | some roomId => room.roomId = roomId
    | none => room.roomType = body.roomType) ∧
    db.Free room.roomId body.checkIn body.checkOut

/-- The reservation is refused before it writes, or there is a room for it. -/
def ReserveSafe (db : Db) (propertyId : String) (body : ReservationIn) (draw : Draw) : Prop :=
  GuestAccepted db body draw → db.getStay ("s_" ++ draw.stayHex) = none → Bookable db propertyId body

/-- The stay is missing, or can be issued a key, or is checked in already. -/
def CheckinSafe (db : Db) (stayId : String) (now : Int) : Prop :=
  ∀ stay, db.getStay stayId = some stay → Issuable stay now ∨ stay.status = .checkedIn

/-! ## Reservations -/

/-- The guest is refused and nothing is written, or accepted and there. -/
theorem reservationGuest_cases (body : ReservationIn) (draw : Draw) (db : Db) :
    (¬ GuestAccepted db body draw ∧ ∃ e, (reservationGuest body draw).run db = (.error e, db)) ∨
    GuestAccepted db body draw ∧ ∃ guestId guests,
      (reservationGuest body draw).run db = (.ok guestId, { db with guests }) ∧
        (guests.find? guestId).isSome = true := by
  unfold reservationGuest GuestAccepted
  cases body.guestId with
  | some guestId =>
    simp only
    rw [run_stmt_bind, exec]
    simp only
    by_cases hfound : (db.guests.find? guestId).isSome = true
    · rw [if_pos hfound]
      exact .inr ⟨hfound, guestId, db.guests, rfl, hfound⟩
    · rw [if_neg hfound]
      exact .inl ⟨hfound, _, rfl⟩
  | none =>
    cases body.guest with
    | none => exact .inl ⟨fun h => by simp at h, _, rfl⟩
    | some guest =>
      simp only
      rw [run_stmt_bind, exec]
      simp only [Db.addGuest, Option.isSome_some, true_and]
      cases hi : db.guests.insert? ⟨"g_" ++ draw.guestHex, guest.name, guest.email⟩ with
      | none =>
        obtain ⟨row, hrow, hid⟩ := Table.insert?_eq_none_iff.mp hi
        refine .inl ⟨fun hnone => Table.find?_eq_none_iff.mp hnone row hrow hid, _, rfl⟩
      | some guests =>
        have hnew := Table.key_notMem_of_insert? hi
        have hrow := (Table.mem_of_insert? hi).mpr (.inr rfl)
        refine .inr ⟨Table.find?_eq_none_iff.mpr hnew, _, guests, rfl, ?_⟩
        have hfound : guests.find? ("g_" ++ draw.guestHex) = some _ := Table.find?_of_mem hrow
        rw [hfound]
        rfl

/-- Where the guest is there, only a stay id that is taken is refused. -/
theorem addStay_cases (db : Db) (stayId propertyId roomType : String) (checkIn checkOut : Int)
    {guestId : String} (hguest : (db.guests.find? guestId).isSome = true) :
    ((∃ stay, db.getStay stayId = some stay) ∧
      db.addStay stayId guestId propertyId roomType checkIn checkOut = .error .integrityError) ∨
    db.getStay stayId = none ∧ ∃ stays,
      db.addStay stayId guestId propertyId roomType checkIn checkOut = .ok { db with stays } ∧
      ({ db with stays } : Db).getStay stayId
        = some (Db.newStay stayId guestId propertyId roomType checkIn checkOut) ∧
      stays ≠ db.stays := by
  obtain ⟨guest, hg⟩ := Option.isSome_iff_exists.mp hguest
  rw [Db.addStay, hg]
  simp only [Option.isNone_some, Bool.false_eq_true, if_false]
  cases hi : db.stays.insert? ⟨stayId, guestId, propertyId, roomType, none, checkIn, checkOut, .reserved⟩ with
  | none =>
    obtain ⟨row, hrow, hid⟩ := Table.insert?_eq_none_iff.mp hi
    exact .inl ⟨⟨row, Db.getStay_eq_some_iff.mpr ⟨hrow, hid⟩⟩, rfl⟩
  | some stays =>
    have hnew := Table.key_notMem_of_insert? hi
    have hrow := (Table.mem_of_insert? hi).mpr (.inr rfl)
    refine .inr ⟨Table.find?_eq_none_iff.mpr hnew, stays, rfl, Table.find?_eq_some_iff.mpr ⟨hrow, rfl⟩, ?_⟩
    rintro rfl
    exact hnew _ hrow rfl

/-- The candidates of the new stay are the rooms the reservation may get. -/
theorem bookable_iff (db : Db) (propertyId : String) (body : ReservationIn) (stayId guestId : String) :
    Bookable db propertyId body ↔
      ∃ r, db.IsCandidate (Db.newStay stayId guestId propertyId body.roomType body.checkIn body.checkOut)
        body.preferredRoomId none r ∧ db.Free r body.checkIn body.checkOut := by
  unfold Bookable Db.IsCandidate
  constructor
  · rintro ⟨room, hmem, hproperty, hpreferred, hfree⟩
    refine ⟨room.roomId, ⟨room, hmem, rfl, hproperty, ?_⟩, hfree⟩
    cases hp : body.preferredRoomId with
    | some roomId => rw [hp] at hpreferred; exact hpreferred.symm
    | none => rw [hp] at hpreferred; exact ⟨hpreferred, nofun⟩
  · rintro ⟨r, ⟨room, hmem, rfl, hproperty, hrequested⟩, hfree⟩
    refine ⟨room, hmem, hproperty, ?_, hfree⟩
    cases hp : body.preferredRoomId with
    | some roomId => rw [hp] at hrequested; exact hrequested.symm
    | none => rw [hp] at hrequested; exact hrequested.1

/-- **How a reservation can end**: refused before it writes, or with a room,
or with its guest and its stay left behind. -/
theorem reserve_cases (propertyId : String) (body : ReservationIn) (draw : Draw) (db : Db) :
    (∃ e, (reserve propertyId body draw).run db = (.error e, db) ∧ ¬ GuestAccepted db body draw) ∨
    (∃ db', (reserve propertyId body draw).run db = (.error .integrityError, db') ∧
      db.getStay ("s_" ++ draw.stayHex) ≠ none) ∨
    (∃ r db', (reserve propertyId body draw).run db = (.ok r, db') ∧ Bookable db propertyId body) ∨
    ∃ msg db', (reserve propertyId body draw).run db = (.error (.roomUnavailable msg), db') ∧
      db'.stays ≠ db.stays ∧ GuestAccepted db body draw ∧
      db.getStay ("s_" ++ draw.stayHex) = none ∧ ¬ Bookable db propertyId body := by
  rw [reserve, run_bind]
  obtain ⟨hno, e, hrun⟩ | ⟨haccepted, guestId, guests, hrun, hguest⟩ := reservationGuest_cases body draw db
  · rw [hrun]
    exact .inl ⟨e, rfl, hno⟩
  rw [hrun]
  simp only
  rw [run_stmt_bind, exec]
  obtain ⟨⟨stay, hs⟩, hadd⟩ | ⟨hunused, stays, hadd, hget, hne⟩ := addStay_cases { db with guests }
    ("s_" ++ draw.stayHex) propertyId body.roomType body.checkIn body.checkOut hguest
  · rw [hadd]
    refine .inr (.inl ⟨_, rfl, fun hnone => ?_⟩)
    cases hnone.symm.trans hs
  rw [hadd]
  simp only [write]
  rw [run_bind, assignRoom_run hget]
  simp only [Db.newStay]
  have hbook := bookable_iff db propertyId body ("s_" ++ draw.stayHex) guestId
  obtain ⟨e, he, ⟨⟨msg, rfl⟩, hnone⟩ | ⟨-, hgone⟩⟩ | ⟨chosen, he, hcand, hfree, -⟩ :=
    Db.assignTransaction_booking ("s_" ++ draw.stayHex)
      (Db.newStay ("s_" ++ draw.stayHex) guestId propertyId body.roomType body.checkIn body.checkOut)
      body.preferredRoomId { db with guests, stays }
  · rw [Db.newStay] at he
    rw [he]
    refine .inr (.inr (.inr ⟨msg, _, rfl, hne, haccepted, hunused, fun h => ?_⟩))
    obtain ⟨r, hr, hfree⟩ := hbook.mp h
    exact hnone r hr hfree
  · rw [hget] at hgone
    cases hgone
  · rw [Db.newStay] at he
    rw [he]
    exact .inr (.inr (.inl ⟨_, _, rfl, hbook.mpr ⟨chosen, hcand, hfree⟩⟩))

/-- **When a failed reservation leaves no trace.** -/
theorem reserve_trace_iff (body : ReservationIn) (draw : Draw) (s : AppState) :
    LeavesNoTrace E (.reserve body, draw) s ↔ ReserveSafe s.db s.propertyId body draw := by
  unfold LeavesNoTrace
  simp only [handle, answer, AppState.run]
  obtain ⟨e, hrun, hno⟩ | ⟨db', hrun, htaken⟩ | ⟨r, db', hrun, hbook⟩ |
    ⟨msg, db', hrun, hne, haccepted, hunused, hno⟩ := reserve_cases s.propertyId body draw s.db
  · rw [hrun]
    exact iff_of_true (fun _ => .refl s.db) fun haccepted => absurd haccepted hno
  · rw [hrun]
    refine iff_of_true ?_ fun _ hunused => absurd hunused htaken
    rintro ⟨e, he, hdomain⟩
    cases he
    cases hdomain
  · rw [hrun]
    refine iff_of_true ?_ fun _ _ => hbook
    rintro ⟨e, he, -⟩
    cases he
  · rw [hrun]
    exact iff_of_false (fun h => hne (h ⟨_, rfl, rfl⟩).stays) fun h => hno (h haccepted hunused)

/-! ## Check-ins -/

/-- Setting the status that is there changes nothing; setting another one
does. -/
theorem setStayStatus_stays_iff {stay : StayRow} {stayId : String} {status : StayStatus}
    (hs : db.getStay stayId = some stay) :
    (db.setStayStatus stayId status).stays = db.stays ↔ stay.status = status := by
  constructor
  · intro hsame
    have hget : (db.setStayStatus stayId status).getStay stayId = _ :=
      Db.getStay_setStayStatus status stayId
    rw [Db.getStay, hsame, ← Db.getStay, hs, Option.map_some, if_pos rfl, Option.some.injEq] at hget
    exact (congrArg StayRow.status hget :)
  · rintro rfl
    refine Table.ext ?_
    simp only [Db.setStayStatus, Table.updateWhere]
    conv_rhs => rw [← List.map_id db.stays.rows]
    refine List.map_congr_left fun r hr => ?_
    by_cases hid : r.stayId = stayId
    · obtain rfl : r = stay := Option.some.inj ((Db.getStay_eq_some_iff.mpr ⟨hr, hid⟩).symm.trans hs)
      simp
    · simp [hid]

/-- **When a failed check-in leaves no trace.** -/
theorem checkin_trace_iff (stayId : String) (draw : Draw) (s : AppState) :
    LeavesNoTrace E (.checkin stayId, draw) s ↔ CheckinSafe s.db stayId draw.clock := by
  unfold LeavesNoTrace
  simp only [handle, answer, AppState.run, nowOr, Option.getD_none]
  cases hs : s.db.getStay stayId with
  | none =>
    obtain ⟨msg, hrun⟩ := checkin_run_none E s.propertySk draw.clock draw.fresh hs
    rw [hrun]
    exact iff_of_true (fun _ => .refl s.db) fun stay h => by rw [hs] at h; cases h
  | some stay =>
    have hsafe : CheckinSafe s.db stayId draw.clock ↔
        Issuable stay draw.clock ∨ stay.status = .checkedIn := by
      simp only [CheckinSafe, hs, Option.some.injEq, forall_eq']
    have hs' : (s.db.setStayStatus stayId .checkedIn).getStay stayId
        = some { stay with status := .checkedIn } := by
      rw [Db.getStay_setStayStatus, hs, Option.map_some, if_pos rfl]
    rw [checkin_run hs, hsafe]
    obtain ⟨e, hrun, he⟩ | ⟨stay', _, _, _, hissued, -, hrun⟩ := issueForStay_run E s.propertySk
      (s.db.setStayStatus stayId .checkedIn) stayId draw.clock draw.fresh
    · rw [hrun]
      simp only [hs', Option.some.injEq, forall_eq'] at he
      have hissuable : Issuable { stay with status := .checkedIn } draw.clock ↔
          Issuable stay draw.clock := Iff.rfl
      rw [hissuable] at he
      constructor
      · intro htrace
        refine or_iff_not_imp_left.mpr fun hno => ?_
        exact (setStayStatus_stays_iff hs).mp (htrace ⟨e, rfl, he.mpr hno⟩).stays
      · rintro (hissue | hin) ⟨e', he', hdomain⟩
        · cases he'
          exact absurd hissue (he.mp hdomain)
        · exact ⟨rfl, (setStayStatus_stays_iff hs).mpr hin, rfl, rfl, rfl⟩
    · rw [hrun]
      refine iff_of_true ?_ (.inl ?_)
      · rintro ⟨e, he, -⟩
        cases he
      · have hstay := hissued.getStay
        rw [hs'] at hstay
        cases hstay
        exact ⟨⟨_, hissued.room⟩, hissued.window⟩

/-! ## Both requests -/

/-- **When a failed request leaves no trace in the store**, from any state
of the service, for any body and server time. -/
theorem failed_request_leaves_no_trace_iff (E : Env) (s : AppState) (draw : Draw) :
    (∀ body, LeavesNoTrace E (.reserve body, draw) s ↔ ReserveSafe s.db s.propertyId body draw) ∧
    ∀ stayId, LeavesNoTrace E (.checkin stayId, draw) s ↔ CheckinSafe s.db stayId draw.clock :=
  ⟨fun body => reserve_trace_iff body draw s, fun stayId => checkin_trace_iff stayId draw s⟩

/-- The only room is booked: the next reservation is answered with an error
envelope and leaves its guest and its stay behind. -/
theorem rejected_reservation_stays :
    ∃ (h : List ApiEntry) (s : AppState) (draw : Draw),
      ApiHistory Env.sample "HILTON-DEMO-001" sampleKey h s ∧
      ¬ LeavesNoTrace Env.sample (.reserve sampleReservation, draw) s ∧
      ((handle Env.sample (.reserve sampleReservation, draw) s).2.db.stays.rows.map StayRow.stayId,
        (handle Env.sample (.reserve sampleReservation, draw) s).2.db.guests.rows.map GuestRow.guestId)
        = (["s_1", "s_2"], ["g_1", "g_2"]) := by
  refine ⟨_, (runRequests sampleRequests).2, ⟨950, "2", "2", sampleFresh, []⟩,
    History.of_runAll (handle Env.sample) _ sampleRequests, ?_, by decide⟩
  rw [LeavesNoTrace]
  intro htrace
  have hstays := (htrace ⟨_, rfl, rfl⟩).stays
  exact absurd (congrArg (fun t => t.rows.length) hstays) (by decide)

end StayKey.Service
