/-
StayKey.Store.Status — the status of a stay and what comes with it.

Two properties of one stay: `ClosedAt` (once it is checked out it has no
active assignment and no active key) and `HousedAt` (until then, if it has
a room, it holds an active assignment of that room). A call on another
stay keeps both, because it keeps the rows (`Store.Frame`); here are the
calls on the stay itself. Check-in keeps `HousedAt` only of a stay that is
not checked out: it sets the status whatever it was.
-/
import StayKey.Store.Agreement
import StayKey.Store.Frame

namespace StayKey.Store

open StayKey.Codec StayKey.Door StayKey.Program

/-- The stay is there, with this status. -/
def StatusIs (db : Db) (S : String) (status : StayStatus) : Prop :=
  StayIs db S fun s => s.status = status

/-- The statement does not set the status of the stay. -/
def Stmt.KeepsStatus (S : String) : Stmt → Prop
  | .setStayStatus stayId _ => stayId ≠ S
  | .addGuest .. | .addRoom .. | .addStay .. | .guestExists _ | .getRoom _ | .getStay _ | .addKey _
  | .activeKeys _ | .retireKeys _ | .revokeKey .. | .revocationList | .retireAssignments _
  | .assignTransaction .. | .changeTransaction .. => True

variable {E : Env} {sk : PrivateKey} {db db' : Db} {S stayId : String} {now : Int} {fresh : Fresh}
  {status : StayStatus}

/-! ## The status -/

/-- A stay has one status. -/
theorem StatusIs.unique {status' : StayStatus} (h : StatusIs db S status)
    (h' : StatusIs db S status') : status = status' := by
  obtain ⟨s, hs, rfl⟩ := h
  obtain ⟨s', hs', rfl⟩ := h'
  rw [hs] at hs'
  cases hs'
  rfl

/-- The status is read off the row of the stay. -/
theorem statusIs_congr (h : db'.getStay S = db.getStay S) :
    StatusIs db' S status ↔ StatusIs db S status := by
  rw [StatusIs, StayIs, h]
  rfl

/-- A stay that is there stays as it is when another is added: its id is taken.
-/
theorem getStay_addStay {guestId propertyId roomType : String} {checkIn checkOut : Int} {s : StayRow}
    (h : db.addStay stayId guestId propertyId roomType checkIn checkOut = .ok db')
    (hs : db.getStay S = some s) : db'.getStay S = some s := by
  by_cases hid : stayId = S
  · subst hid
    obtain ⟨hmem, hkey⟩ := Db.getStay_eq_some_iff.mp hs
    exact absurd hkey ((Db.addStay_ok h).1 s hmem)
  · rw [(sameRows_addStay hid h).stay]
    exact hs

theorem statusIs_occupied (h : StatusIs db S status) (stayId : String) (stay : StayRow)
    (chosen : Int) : StatusIs (db.occupied stayId stay chosen) S status := by
  obtain ⟨s, hs, hst⟩ := h
  refine ⟨_, by rw [Db.getStay_occupied, hs, Option.map_some], ?_⟩
  split <;> exact hst

/-- **A statement that does not set the status keeps it.** -/
theorem status_exec {op : Stmt} (hop : op.KeepsStatus S) (h : StatusIs db S status) :
    StatusIs (exec op db).2 S status := by
  by_cases hspares : op.Spares S
  · exact (statusIs_congr (frame_exec hspares db).stay).mpr h
  cases op with
  | addStay stayId guestId propertyId roomType checkIn checkOut =>
    simp only [exec]
    cases ha : db.addStay stayId guestId propertyId roomType checkIn checkOut with
    | error e => exact h
    | ok db' =>
      obtain ⟨s, hs, hst⟩ := h
      exact ⟨s, getStay_addStay ha hs, hst⟩
  | addKey row =>
    simp only [exec]
    cases ha : db.addKey row with
    | error e => exact h
    | ok db' =>
      obtain ⟨-, -, keys, rfl⟩ := Db.addKey_ok ha
      exact h
  | assignTransaction stayId stay preferred =>
    obtain ⟨e, he, -⟩ | ⟨chosen, he, -⟩ := Db.assignTransaction_booking stayId stay preferred db
    · rw [he]; exact h
    · rw [he]; exact statusIs_occupied h stayId stay chosen
  | changeTransaction stayId stay newRoomId =>
    obtain ⟨e, he, -⟩ | ⟨chosen, he, -⟩ := Db.changeTransaction_booking stayId stay newRoomId db
    · rw [he]; exact h
    · have hretired : StatusIs (db.retireAssignments stayId) S status := h
      rw [he]; exact statusIs_occupied hretired stayId stay chosen
  | setStayStatus => exact absurd hop hspares
  | retireKeys | retireAssignments => exact h
  | addGuest | addRoom | guestExists | getRoom | getStay | activeKeys | revokeKey | revocationList =>
    exact absurd trivial hspares

/-- **A program that sets no status keeps them all.** -/
theorem status_run {α : Type} {p : Call α} (hp : p.Only (Stmt.KeepsStatus S))
    (h : StatusIs db S status) : StatusIs (p.run db).2 S status :=
  Prog.run_preserves exec (fun _ db' hop (h : StatusIs db' S status) => status_exec hop h) hp h

/-- A stay that is there is checked out at once. -/
theorem status_checkout {stay : StayRow} (hs : db.getStay S = some stay) (now : Int) :
    StatusIs ((checkout S now).run db).2 S .checkedOut := by
  rw [checkout_run hs]
  have hget : ((dropKeys db S now "checkout").retireAssignments S).getStay S = some stay :=
    (getStay_dropKeys ..).trans hs
  refine ⟨{ stay with status := .checkedOut }, ?_, rfl⟩
  rw [Db.getStay_setStayStatus, hget, Option.map_some, if_pos rfl]

theorem status_assignRoom (h : StatusIs db S status) (preferred : Option Int) :
    StatusIs ((assignRoom stayId preferred).run db).2 S status :=
  status_run (assignRoom_only trivial (fun _ _ => trivial) preferred) h

theorem status_issueForStay (h : StatusIs db S status) :
    StatusIs ((issueForStay E sk stayId now fresh).run db).2 S status :=
  status_run (issueForStay_only trivial fun _ _ => trivial) h

theorem status_refreshKey (h : StatusIs db S status) :
    StatusIs ((refreshKey E sk stayId now fresh).run db).2 S status :=
  status_run (refreshKey_only trivial trivial fun _ _ => trivial) h

/-- A room change keeps the status, wherever it ends. -/
theorem status_changeRoom (h : StatusIs db S status) (newRoomId : Option Int) :
    StatusIs ((changeRoom E sk stayId now newRoomId fresh).run db).2 S status :=
  status_run (changeRoom_only trivial trivial trivial (fun _ _ _ => trivial) (fun _ _ => trivial)
    (fun _ _ => trivial) newRoomId) h

/-- Check-in leaves a stay checked in, whether a key is issued or not. -/
theorem status_checkin {stay : StayRow} (hs : db.getStay S = some stay) :
    StatusIs ((checkin E sk S now fresh).run db).2 S .checkedIn := by
  rw [checkin_run hs]
  refine status_issueForStay ⟨_, by rw [Db.getStay_setStayStatus, hs, Option.map_some], ?_⟩
  rw [if_pos rfl]

/-! ## Rooms held -/

/-- The stay holds an active assignment of the room. -/
def HoldsRoom (db : Db) (S : String) (roomId : Int) : Prop :=
  ∃ a ∈ db.assignments, a.active = true ∧ a.stayId = S ∧ a.roomId = roomId

/-- The statement books no room for the stay. -/
def Stmt.BooksNothingFor (S : String) : Stmt → Prop
  | .assignTransaction stayId .. | .changeTransaction stayId .. => stayId ≠ S
  | .addGuest .. | .addRoom .. | .addStay .. | .guestExists _ | .getRoom _ | .getStay _
  | .setStayStatus .. | .addKey _ | .activeKeys _ | .retireKeys _ | .revokeKey .. | .revocationList
  | .retireAssignments _ => True

/-- Rooms are held by assignment rows of the stay. -/
theorem HoldsRoom.frame {roomId : Int} (h : HoldsRoom db' S roomId) (hrows : SameRows S db db') :
    HoldsRoom db S roomId := by
  obtain ⟨a, ha, hact, hs, hr⟩ := h
  exact ⟨a, (hrows.assignments a hs).mp ha, hact, hs, hr⟩

/-- **A room is held after a statement that books none only if it was before.** -/
theorem holdsRoom_of_exec {op : Stmt} (hop : op.BooksNothingFor S) {roomId : Int}
    (h : HoldsRoom (exec op db).2 S roomId) : HoldsRoom db S roomId := by
  by_cases hspares : op.Spares S
  · exact h.frame (frame_exec hspares db)
  cases op with
  | addStay stayId guestId propertyId roomType checkIn checkOut =>
    simp only [exec] at h
    cases ha : db.addStay stayId guestId propertyId roomType checkIn checkOut with
    | error e => rw [ha] at h; exact h
    | ok db' =>
      obtain ⟨-, stays, rfl, -⟩ := Db.addStay_ok ha
      rw [ha] at h
      exact h
  | addKey row =>
    simp only [exec] at h
    cases ha : db.addKey row with
    | error e => rw [ha] at h; exact h
    | ok db' =>
      obtain ⟨-, -, keys, rfl⟩ := Db.addKey_ok ha
      rw [ha] at h
      exact h
  | retireAssignments stayId =>
    obtain ⟨a, ha, hact, hs, hr⟩ := h
    obtain ⟨ha, hact, -⟩ := Db.active_retireAssignments.mp ⟨ha, hact⟩
    exact ⟨a, ha, hact, hs, hr⟩
  | setStayStatus | retireKeys => exact h
  | assignTransaction | changeTransaction => exact absurd hop hspares
  | addGuest | addRoom | guestExists | getRoom | getStay | activeKeys | revokeKey | revocationList =>
    exact absurd trivial hspares

theorem holdsRoom_of_run {α : Type} {p : Call α} (hp : p.Only (Stmt.BooksNothingFor S)) {roomId : Int}
    (h : HoldsRoom (p.run db).2 S roomId) : HoldsRoom db S roomId :=
  Prog.run_preserves exec (I := fun db' => HoldsRoom db' S roomId → HoldsRoom db S roomId)
    (fun _ _ hop hdb h => hdb (holdsRoom_of_exec hop h)) hp id h

/-! ## Closed stays -/

/-- If the stay is checked out, it has no active assignment and no active key. -/
def ClosedAt (db : Db) (S : String) : Prop :=
  StatusIs db S .checkedOut →
    (∀ a ∈ db.assignments, a.active = true → a.stayId ≠ S) ∧
      ∀ k ∈ db.keys, k.active = true → k.stayId ≠ S

/-- A stay with another status is not checked out. -/
theorem closedAt_of_status (h : StatusIs db S status) (hne : status ≠ .checkedOut) : ClosedAt db S :=
  fun hout => absurd (h.unique hout) hne

theorem closedAt_of_missing (h : db.getStay S = none) : ClosedAt db S := by
  rintro ⟨s, hs, -⟩
  rw [h] at hs
  cases hs

/-- Calls on other stays keep a stay closed. -/
theorem ClosedAt.frame (h : ClosedAt db S) (hrows : SameRows S db db') : ClosedAt db' S := by
  intro hout
  obtain ⟨ha, hk⟩ := h ((statusIs_congr hrows.stay).mp hout)
  exact ⟨fun a hm hact hs => ha a ((hrows.assignments a hs).mp hm) hact hs,
    fun k hm hact hs => hk k ((hrows.keys k hs).mp hm) hact hs⟩

/-- A stay that is added is reserved. -/
theorem closedAt_addStay {guestId propertyId roomType : String} {checkIn checkOut : Int}
    (h : ClosedAt db S)
    (hadd : db.addStay stayId guestId propertyId roomType checkIn checkOut = .ok db') :
    ClosedAt db' S ∧ StatusIs db' stayId .reserved := by
  have hnew : StatusIs db' stayId .reserved := by
    obtain ⟨-, stays, rfl, hmem⟩ := Db.addStay_ok hadd
    exact ⟨_, Db.getStay_eq_some_iff.mpr ⟨(hmem _).mpr (.inr rfl), rfl⟩, rfl⟩
  refine ⟨?_, hnew⟩
  by_cases hid : stayId = S
  · subst hid
    exact closedAt_of_status hnew nofun
  · exact h.frame (sameRows_addStay hid hadd)

/-- An assignment of a stay that is not checked out. -/
theorem closedAt_assignRoom (h : ClosedAt db S) (hst : StatusIs db stayId status)
    (hne : status ≠ .checkedOut) (preferred : Option Int) :
    ClosedAt ((assignRoom stayId preferred).run db).2 S := by
  by_cases hid : stayId = S
  · subst hid
    exact closedAt_of_status (status_assignRoom hst preferred) hne
  · exact h.frame (frame_run (assignRoom_spares hid preferred) db)

/-- After a check-in the stay is checked in, whatever it was, so nothing is
asked of it. -/
theorem closedAt_checkin (h : ClosedAt db S) :
    ClosedAt ((checkin E sk stayId now fresh).run db).2 S := by
  by_cases hid : stayId = S
  · subst hid
    cases hs : db.getStay stayId with
    | none =>
      obtain ⟨msg, hrun⟩ := checkin_run_none E sk now fresh hs
      rw [hrun]
      exact h
    | some stay => exact closedAt_of_status (status_checkin hs) nofun
  · exact h.frame (frame_run (checkin_spares hid) db)

/-- A checked-out stay is refused a refresh; the refusal changes nothing. -/
theorem closedAt_refreshKey (h : ClosedAt db S) :
    ClosedAt ((refreshKey E sk stayId now fresh).run db).2 S := by
  by_cases hid : stayId = S
  · subst hid
    obtain ⟨-, e, -, hrun⟩ | ⟨⟨stay, hs, hst⟩, -⟩ := refreshKey_run E sk db stayId now fresh
    · rw [hrun]; exact h
    · exact closedAt_of_status (status_refreshKey ⟨stay, hs, rfl⟩) hst
  · exact h.frame (frame_run (refreshKey_spares hid) db)

/-- A checked-out stay is refused a room change; the refusal changes nothing.
-/
theorem closedAt_changeRoom (h : ClosedAt db S) (newRoomId : Option Int) :
    ClosedAt ((changeRoom E sk stayId now newRoomId fresh).run db).2 S := by
  by_cases hid : stayId = S
  · subst hid
    obtain ⟨-, e, -, hrun⟩ | ⟨stay, hs, hst, -⟩ := changeRoom_run E sk db stayId now newRoomId fresh
    · rw [hrun]; exact h
    · exact closedAt_of_status (status_changeRoom ⟨stay, hs, rfl⟩ newRoomId) hst
  · exact h.frame (frame_run (changeRoom_spares hid newRoomId) db)

/-- Checkout is what closes a stay. -/
theorem closedAt_checkout (h : ClosedAt db S) : ClosedAt ((checkout stayId now).run db).2 S := by
  by_cases hid : stayId = S
  · subst hid
    cases hs : db.getStay stayId with
    | none =>
      obtain ⟨msg, hrun⟩ := checkout_run_none now hs
      rw [hrun]
      exact h
    | some stay =>
      rw [checkout_run hs]
      intro _
      constructor
      · exact fun a ha hact => (Db.active_retireAssignments.mp ⟨ha, hact⟩).2.2
      · exact fun k hk hact => (active_dropKeys hk hact).2
  · exact h.frame (frame_run (checkout_spares hid) db)

/-! ## Housed stays -/

/-- If the stay has a room and is not checked out, it holds an active
assignment of that room. -/
def HousedAt (db : Db) (S : String) : Prop :=
  ∀ stay roomId, db.getStay S = some stay → stay.status ≠ .checkedOut → stay.roomId = some roomId →
    ∃ a ∈ db.assignments, a.active = true ∧ a.stayId = S ∧ a.roomId = roomId

/-- Calls on other stays keep a stay housed. -/
theorem HousedAt.frame (h : HousedAt db S) (hrows : SameRows S db db') : HousedAt db' S := by
  intro stay roomId hs hst hr
  rw [hrows.stay] at hs
  obtain ⟨a, ha, hact, hid, hroom⟩ := h stay roomId hs hst hr
  exact ⟨a, (hrows.assignments a hid).mpr ha, hact, hid, hroom⟩

/-- Keys and revocations do not matter to where a stay is housed. -/
theorem HousedAt.congr (h : HousedAt db S) (hs : db'.getStay S = db.getStay S)
    (ha : db'.assignments = db.assignments) : HousedAt db' S := by
  rw [HousedAt, hs, ha]
  exact h

/-- A booking writes the assignment and the room of the stay together. -/
theorem housedAt_occupied (db : Db) (S : String) (stay : StayRow) (chosen : Int) :
    HousedAt (db.occupied S stay chosen) S := by
  intro stay' roomId hs _ hr
  rw [Db.getStay_occupied] at hs
  obtain ⟨s, -, rfl⟩ := Option.map_eq_some_iff.mp hs
  rw [if_pos rfl] at hr
  cases hr
  exact ⟨_, Db.mem_occupied.mpr (.inr rfl), rfl, rfl, rfl⟩

/-- A move retires the old assignments and books in one transaction. -/
theorem housedAt_changeTransaction (h : HousedAt db S) (stay : StayRow) (newRoomId : Option Int) :
    HousedAt (exec (.changeTransaction S stay newRoomId) db).2 S := by
  obtain ⟨e, he, -⟩ | ⟨chosen, he, -⟩ := Db.changeTransaction_booking S stay newRoomId db
  · rw [he]; exact h
  · rw [he]; exact housedAt_occupied _ S stay chosen

theorem housedAt_addKey {row : KeyRow} (h : HousedAt db S) (hadd : db.addKey row = .ok db') :
    HousedAt db' S := by
  obtain ⟨-, -, keys, rfl⟩ := Db.addKey_ok hadd
  exact h

theorem housedAt_issueForStay (h : HousedAt db S) :
    HousedAt ((issueForStay E sk stayId now fresh).run db).2 S := by
  obtain ⟨e, hrun, -⟩ | ⟨stay, roomId, issued, db', -, hadd, hrun⟩ :=
    issueForStay_run E sk db stayId now fresh
  · rw [hrun]; exact h
  · rw [hrun]; exact housedAt_addKey h hadd

/-- A stay that is added has no room yet. -/
theorem housedAt_addStay {guestId propertyId roomType : String} {checkIn checkOut : Int}
    (h : HousedAt db S)
    (hadd : db.addStay stayId guestId propertyId roomType checkIn checkOut = .ok db') :
    HousedAt db' S := by
  by_cases hid : stayId = S
  · subst hid
    obtain ⟨hfresh, stays, rfl, hmem⟩ := Db.addStay_ok hadd
    intro stay roomId hs _ hr
    obtain ⟨hs, hkey⟩ := Db.getStay_eq_some_iff.mp hs
    rcases (hmem stay).mp hs with hs | rfl
    · exact absurd hkey (hfresh stay hs)
    · cases hr
  · exact h.frame (sameRows_addStay hid hadd)

theorem housedAt_assignRoom (h : HousedAt db S) (preferred : Option Int) :
    HousedAt ((assignRoom stayId preferred).run db).2 S := by
  by_cases hid : stayId = S
  · subst hid
    cases hs : db.getStay stayId with
    | none =>
      obtain ⟨msg, hrun⟩ := assignRoom_run_none hs preferred
      rw [hrun]
      exact h
    | some stay =>
      rw [assignRoom_run hs]
      cases stay.roomId with
      | some roomId => exact h
      | none =>
        obtain ⟨e, he, -⟩ | ⟨chosen, he, -⟩ := Db.assignTransaction_booking stayId stay preferred db
        · rw [he]; exact h
        · rw [he]; exact housedAt_occupied db stayId stay chosen
  · exact h.frame (frame_run (assignRoom_spares hid preferred) db)

/-- Setting the status of a stay that is not checked out. -/
theorem housedAt_setCheckedIn (h : HousedAt db S) (hopen : ¬ StatusIs db S .checkedOut) :
    HousedAt (db.setStayStatus S .checkedIn) S := by
  intro stay' roomId hs' _ hr
  rw [Db.getStay_setStayStatus] at hs'
  obtain ⟨s, hs, rfl⟩ := Option.map_eq_some_iff.mp hs'
  rw [if_pos rfl] at hr
  exact h s roomId hs (fun hst => hopen ⟨s, hs, hst⟩) hr

/-- A check-in keeps a stay housed unless it was checked out. -/
theorem housedAt_checkin (h : HousedAt db S) (hopen : ¬ StatusIs db stayId .checkedOut) :
    HousedAt ((checkin E sk stayId now fresh).run db).2 S := by
  by_cases hid : stayId = S
  · subst hid
    cases hs : db.getStay stayId with
    | none =>
      obtain ⟨msg, hrun⟩ := checkin_run_none E sk now fresh hs
      rw [hrun]
      exact h
    | some stay =>
      rw [checkin_run hs]
      exact housedAt_issueForStay (housedAt_setCheckedIn h hopen)
  · exact h.frame (frame_run (checkin_spares hid) db)

theorem housedAt_refreshKey (h : HousedAt db S) :
    HousedAt ((refreshKey E sk stayId now fresh).run db).2 S := by
  obtain ⟨-, e, -, hrun⟩ | ⟨-, hrun⟩ := refreshKey_run E sk db stayId now fresh
  · rw [hrun]; exact h
  · rw [hrun]
    exact housedAt_issueForStay (h.congr rfl rfl)

theorem housedAt_dropKeys (h : HousedAt db S) (stayId : String) (now : Int) (reason : String) :
    HousedAt (dropKeys db stayId now reason) S := by
  obtain ⟨r, hr⟩ := dropKeys_eq db stayId now reason
  rw [hr]
  exact h

/-- A room change that fails keeps the old room; one that succeeds has booked
the new one. -/
theorem housedAt_changeRoom (h : HousedAt db S) (newRoomId : Option Int) :
    HousedAt ((changeRoom E sk stayId now newRoomId fresh).run db).2 S := by
  by_cases hid : stayId = S
  · subst hid
    obtain ⟨-, e, -, hrun⟩ | ⟨stay, -, -, hrun⟩ := changeRoom_run E sk db stayId now newRoomId fresh
    · rw [hrun]; exact h
    rw [hrun]
    have hmove := housedAt_changeTransaction (housedAt_dropKeys h stayId now "room_change") stay newRoomId
    rcases hx : exec (.changeTransaction stayId stay newRoomId) (dropKeys db stayId now "room_change")
      with ⟨e | newRoom, db₁⟩ <;> rw [hx] at hmove
    · exact hmove
    · have hissue : HousedAt ((issueForStay E sk stayId now fresh).run db₁).2 stayId :=
        housedAt_issueForStay hmove
      simp only
      rcases hi : (issueForStay E sk stayId now fresh).run db₁ with ⟨e | issued, db₂⟩ <;>
        rw [hi] at hissue <;> exact hissue
  · exact h.frame (frame_run (changeRoom_spares hid newRoomId) db)

/-- A checkout retires the assignments, but the stay is then checked out. -/
theorem housedAt_checkout (h : HousedAt db S) : HousedAt ((checkout stayId now).run db).2 S := by
  by_cases hid : stayId = S
  · subst hid
    cases hs : db.getStay stayId with
    | none =>
      obtain ⟨msg, hrun⟩ := checkout_run_none now hs
      rw [hrun]
      exact h
    | some stay =>
      rw [checkout_run hs]
      intro stay' roomId hs' hst _
      rw [Db.getStay_setStayStatus] at hs'
      obtain ⟨s, -, rfl⟩ := Option.map_eq_some_iff.mp hs'
      rw [if_pos rfl] at hst
      exact absurd rfl hst
  · exact h.frame (frame_run (checkout_spares hid) db)

end StayKey.Store
