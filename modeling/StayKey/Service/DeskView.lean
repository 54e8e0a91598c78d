/-
StayKey.Service.DeskView — the tables seen as a front desk.

`deskOf` reads the desk of `Service.Desk` off the tables. Each statement
that writes is then one thing the desk does: this is shown statement by
statement, for tables that satisfy `DeskSound`, which every reachable one
does (`deskSound_invariant`).

The calendar is that of the active assignments. That they are a calendar is
`NoDoubleBooking`; that the overlap query of the source is exact for it
needs that no stay is empty.
-/
import StayKey.Service.Desk
import StayKey.Service.TablesAgree
import StayKey.Store.Booking

namespace StayKey.Service

open StayKey.Codec StayKey.Door StayKey.Store StayKey.Program

variable {db db' : Db} {S : String}

/-! ## The view -/

def folioOf (stay : StayRow) : Folio :=
  ⟨stay.guestId, stay.propertyId, stay.roomType, stay.roomId, stay.checkIn, stay.checkOut, stay.status⟩

/-- The bookings in force. -/
def bookings (db : Db) : List (Calendar.Booking Int Int String) :=
  (db.assignments.rows.filter AssignmentRow.active).map fun a =>
    ⟨a.roomId, a.checkIn, a.checkOut, a.stayId⟩

def cardOf (db : Db) (k : KeyRow) : Card :=
  ⟨k.stayId, k.roomId, k.validFrom, k.validUntil,
    if k.active then .live else if k.keyId ∈ db.revocationList then .revoked else .lapsed⟩

/-- **The desk the tables describe.** -/
def deskOf (db : Db) : Desk where
  guests := {guestId | (db.guests.find? guestId).isSome}
  rooms roomId := (db.getRoom roomId).map fun room => ⟨room.propertyId, room.roomType⟩
  folios stayId := (db.getStay stayId).map folioOf
  calendar := .ofBookings (bookings db)
  cards keyId := (db.keys.find? keyId).map (cardOf db)

theorem deskOf_folios (S : String) : (deskOf db).folios S = (db.getStay S).map folioOf := rfl

theorem deskOf_cards (id : String) : (deskOf db).cards id = (db.keys.find? id).map (cardOf db) := rfl

/-! ## Tables that describe a desk -/

/-- No stay ends before it begins. -/
def ProperStays (db : Db) : Prop := ∀ S, ∀ stay, db.getStay S = some stay → stay.checkIn < stay.checkOut

/-- What the view rests on. -/
structure DeskSound (db : Db) : Prop where
  agree : Agree db
  calendar : NoDoubleBooking db
  proper : ProperStays db

/-- The statement writes no stay that ends before it begins. -/
def ProperStmt : Stmt → Prop
  | .addStay _ _ _ _ checkIn checkOut => checkIn < checkOut
  | _ => True

/-- Windows are never updated. -/
theorem properStays_exec {op : Stmt} (hop : ProperStmt op) (h : ProperStays db) :
    ProperStays (exec op db).2 := by
  have hoccupied (db : Db) (S : String) (stay : StayRow) (chosen : Int) (h : ProperStays db) :
      ProperStays (db.occupied S stay chosen) := by
    intro S' stay' hs
    rw [Db.getStay_occupied] at hs
    obtain ⟨s, hs', rfl⟩ := Option.map_eq_some_iff.mp hs
    split <;> exact h S' s hs'
  cases op with
  | addGuest guestId name email =>
    exact write_preserves h fun db' hdb => by obtain ⟨guests, rfl⟩ := Db.addGuest_ok hdb; exact h
  | addRoom roomId propertyId number roomType =>
    exact write_preserves h fun db' hdb => by obtain ⟨rooms, rfl, -⟩ := Db.addRoom_ok hdb; exact h
  | addKey row =>
    exact write_preserves h fun db' hdb => by obtain ⟨-, -, keys, rfl⟩ := Db.addKey_ok hdb; exact h
  | addStay stayId guestId propertyId roomType checkIn checkOut =>
    refine write_preserves h fun db' hdb => ?_
    obtain ⟨-, stays, rfl, hmem⟩ := Db.addStay_ok hdb
    intro S stay hs
    obtain ⟨hin, hid⟩ := Db.getStay_eq_some_iff.mp hs
    rcases (hmem stay).mp hin with hin | rfl
    · exact h S stay (Db.getStay_eq_some_iff.mpr ⟨hin, hid⟩)
    · exact hop
  | setStayStatus stayId status =>
    intro S stay hs
    obtain ⟨s, hs', rfl⟩ := Option.map_eq_some_iff.mp ((Db.getStay_setStayStatus status S).symm.trans hs)
    split <;> exact h S s hs'
  | revokeKey keyId revokedAt reason =>
    obtain ⟨r, hr⟩ := Db.revokeKey_eq db keyId revokedAt reason
    simp only [exec, hr]
    exact h
  | assignTransaction stayId stay preferred =>
    obtain ⟨e, he, -⟩ | ⟨chosen, he, -⟩ := Db.assignTransaction_booking stayId stay preferred db
    · rw [he]; exact h
    · rw [he]; exact hoccupied db stayId stay chosen h
  | changeTransaction stayId stay newRoomId =>
    obtain ⟨e, he, -⟩ | ⟨chosen, he, -⟩ := Db.changeTransaction_booking stayId stay newRoomId db
    · rw [he]; exact h
    · rw [he]; exact hoccupied _ stayId stay chosen h
  | guestExists | getRoom | getStay | activeKeys | revocationList | retireKeys | retireAssignments =>
    exact h

/-- What a program without improper stays keeps besides `Agree`. -/
theorem bookingsSound_run {α : Type} {p : Call α} (hp : p.Only ProperStmt)
    (h : NoDoubleBooking db ∧ ProperStays db) :
    NoDoubleBooking (p.run db).2 ∧ ProperStays (p.run db).2 :=
  Prog.run_preserves exec (I := fun db => NoDoubleBooking db ∧ ProperStays db)
    (fun op _ hop h => ⟨noDoubleBooking_exec op h.1, properStays_exec hop h.2⟩) hp h

/-- What is left to prove of a program is `Agree`. -/
theorem DeskSound.of_run {α : Type} {p : Call α} (h : DeskSound db) (hp : p.Only ProperStmt)
    (hagree : Agree (p.run db).2) : DeskSound (p.run db).2 := by
  obtain ⟨hcalendar, hproper⟩ := bookingsSound_run hp ⟨h.calendar, h.proper⟩
  exact ⟨hagree, hcalendar, hproper⟩

/-- A statement that succeeded. -/
theorem DeskSound.of_write {r : Except Exc Db} (h : DeskSound db) (op : Stmt) (hop : ProperStmt op)
    (hexec : (exec op db).2 = (write db r).2) (hr : r = .ok db') (hagree : Agree db') :
    DeskSound db' := by
  subst hr
  have hcalendar := noDoubleBooking_exec op h.calendar
  have hproper := properStays_exec hop h.proper
  rw [hexec] at hcalendar hproper
  exact ⟨hagree, hcalendar, hproper⟩

variable {E : Env} {sk : PrivateKey} {propertyId : String}

/-- One case for each way in which the service writes the tables. -/
theorem deskSound_invariant : StoreInvariant E sk propertyId AnyCheckin DeskSound where
  empty := ⟨agree_empty, noDoubleBooking_empty, fun _ _ h => by cases h⟩
  addGuest {_ _ guestId name email} h hadd :=
    h.of_write (.addGuest guestId name email) trivial rfl hadd (agree_addGuest h.agree hadd)
  addRoom {_ _ roomId property number roomType} h hadd :=
    h.of_write (.addRoom roomId property number roomType) trivial rfl hadd
      (agree_addRoom h.agree hadd)
  addStay {_ _ stayId guestId roomType checkIn checkOut} h hlt hadd :=
    h.of_write (.addStay stayId guestId propertyId roomType checkIn checkOut) hlt rfl hadd
      (agree_addStay h.agree hadd)
  assignRoom h _ := h.of_run (assignRoom_only trivial (fun _ _ => trivial) _)
    (agree_assignRoom h.agree _ _)
  checkin h _ := h.of_run (checkin_only trivial trivial fun _ _ => trivial) (agree_checkin h.agree)
  refreshKey h := h.of_run (refreshKey_only trivial trivial fun _ _ => trivial)
    (agree_refreshKey h.agree)
  changeRoom h := h.of_run (changeRoom_only trivial trivial trivial (fun _ _ _ => trivial)
    (fun _ _ => trivial) (fun _ _ => trivial) _) (agree_changeRoom h.agree _)
  checkout h := h.of_run (checkout_only trivial trivial trivial (fun _ _ _ => trivial) trivial trivial)
    (agree_checkout h.agree)

/-- **The tables describe a desk** in every run. -/
theorem deskSound_api {h : List ApiEntry} {s : AppState} (hs : ApiHistory E propertyId sk h s) :
    DeskSound s.db :=
  (deskSound_invariant.holds hs fun e _ => requestOk_any e.request).1

/-! ## Guests, rooms and folios -/

theorem mem_guests {guestId : String} :
    guestId ∈ (deskOf db).guests ↔ (db.guests.find? guestId).isSome = true := Iff.rfl

theorem folios_eq_none_iff : (deskOf db).folios S = none ↔ db.getStay S = none := Option.map_eq_none_iff

theorem folios_eq_some {stay : StayRow} (hs : db.getStay S = some stay) :
    (deskOf db).folios S = some (folioOf stay) := by
  rw [deskOf_folios, hs, Option.map_some]

/-- A guest is inserted if the id is new. -/
theorem addGuest_view (db : Db) (guestId name email : String) :
    (guestId ∈ (deskOf db).guests ∧ db.addGuest guestId name email = .error .integrityError) ∨
    guestId ∉ (deskOf db).guests ∧ ∃ guests, db.addGuest guestId name email = .ok { db with guests } ∧
      deskOf { db with guests } = (deskOf db).welcome guestId := by
  rw [mem_guests, Db.addGuest]
  cases hi : db.guests.insert? ⟨guestId, name, email⟩ with
  | none =>
    obtain ⟨row, hrow, hid⟩ := Table.insert?_eq_none_iff.mp hi
    have hfound : db.guests.find? guestId = some row := Table.find?_eq_some_iff.mpr ⟨hrow, hid⟩
    rw [hfound]
    exact .inl ⟨rfl, rfl⟩
  | some guests =>
    have hnew : db.guests.find? guestId = none :=
      Table.find?_eq_none_iff.mpr (Table.key_notMem_of_insert? hi)
    rw [hnew]
    refine .inr ⟨nofun, guests, rfl, Desk.ext (Set.ext fun g => ?_) rfl rfl rfl rfl⟩
    simp only [deskOf, Desk.welcome, Set.mem_ofPred_eq, Set.mem_insert_iff, Table.find?_insert? hi]
    by_cases hg : g = guestId
    · simp [hg]
    · simp [hg]

/-- A room is inserted if the id is new. -/
theorem addRoom_view (db : Db) (roomId : Int) (propertyId number roomType : String) :
    ((deskOf db).rooms roomId ≠ none ∧
      db.addRoom roomId propertyId number roomType = .error .integrityError) ∨
    (deskOf db).rooms roomId = none ∧ ∃ rooms,
      db.addRoom roomId propertyId number roomType = .ok { db with rooms } ∧
      deskOf { db with rooms } = (deskOf db).enrol roomId ⟨propertyId, roomType⟩ := by
  rw [Db.addRoom]
  cases hi : db.rooms.insert? ⟨roomId, propertyId, number, roomType⟩ with
  | none =>
    obtain ⟨row, hrow, hid⟩ := Table.insert?_eq_none_iff.mp hi
    have hfound : db.getRoom roomId = some row := Table.find?_eq_some_iff.mpr ⟨hrow, hid⟩
    simp [deskOf, hfound]
  | some rooms =>
    have hnew : db.getRoom roomId = none :=
      Table.find?_eq_none_iff.mpr (Table.key_notMem_of_insert? hi)
    refine .inr ⟨by simp [deskOf, hnew], rooms, rfl, Desk.ext rfl (funext fun r => ?_) rfl rfl rfl⟩
    simp only [deskOf, Desk.enrol, Db.getRoom, Table.find?_insert? hi, Function.update_apply]
    by_cases hr : r = roomId
    · simp [hr]
    · simp [hr]

/-- A stay is inserted if the id is new; its guest is there. -/
theorem addStay_view (db : Db) (propertyId roomType : String) (checkIn checkOut : Int) {guestId : String}
    (hguest : guestId ∈ (deskOf db).guests) :
    ((deskOf db).folios S ≠ none ∧
      db.addStay S guestId propertyId roomType checkIn checkOut = .error .integrityError) ∨
    (deskOf db).folios S = none ∧ ∃ stays,
      db.addStay S guestId propertyId roomType checkIn checkOut = .ok { db with stays } ∧
      ({ db with stays } : Db).getStay S
        = some (Db.newStay S guestId propertyId roomType checkIn checkOut) ∧
      deskOf { db with stays } = (deskOf db).openFolio S
        ⟨guestId, propertyId, roomType, none, checkIn, checkOut, .reserved⟩ := by
  obtain ⟨guest, hg⟩ := Option.isSome_iff_exists.mp (mem_guests.mp hguest)
  rw [Ne, folios_eq_none_iff, Db.addStay, hg]
  simp only [Option.isNone_some, Bool.false_eq_true, if_false]
  cases hi : db.stays.insert? ⟨S, guestId, propertyId, roomType, none, checkIn, checkOut, .reserved⟩ with
  | none =>
    obtain ⟨row, hrow, hid⟩ := Table.insert?_eq_none_iff.mp hi
    have hfound : db.getStay S = some row := Table.find?_eq_some_iff.mpr ⟨hrow, hid⟩
    simp [hfound]
  | some stays =>
    have hnew : db.getStay S = none :=
      Table.find?_eq_none_iff.mpr (Table.key_notMem_of_insert? hi)
    have hget (S' : String) : stays.find? S' = if S' = S then _ else db.getStay S' :=
      Table.find?_insert? hi S'
    refine .inr ⟨hnew, stays, rfl, ?_, Desk.ext rfl rfl (funext fun S' => ?_) rfl rfl⟩
    · rw [Db.getStay, hget, if_pos rfl]
      rfl
    · simp only [deskOf, Desk.openFolio, Db.getStay, hget, Function.update_apply]
      by_cases hS : S' = S
      · simp [hS, folioOf]
      · simp [hS]

/-- `UPDATE stays SET status` amends one folio. -/
theorem setStatus_view (db : Db) (S : String) (status : StayStatus) :
    deskOf (db.setStayStatus S status) = (deskOf db).setStatus S status := by
  refine Desk.ext rfl rfl (funext fun S' => ?_) rfl rfl
  simp only [deskOf, Desk.setStatus, Desk.amend, Db.getStay_setStayStatus, Option.map_map]
  refine Option.map_congr fun stay _ => ?_
  by_cases hS : S' = S
  · simp [hS, folioOf]
  · simp [hS]

/-! ## Cards -/

theorem find?_retireKeys (db : Db) (S id : String) :
    (db.retireKeys S).keys.find? id = (db.keys.find? id).map fun k =>
      if k.stayId = S then { k with active := false } else k := by
  rw [Db.retireKeys, Table.find?_updateWhere]
  refine Option.map_congr fun k _ => ?_
  obtain ⟨keyId, stayId, roomId, issuedAt, validFrom, validUntil, token, active⟩ := k
  by_cases hS : stayId = S <;> cases active <;> simp [hS]

/-- Keys that are only deactivated lapse: an active key is not revoked. -/
theorem retireKeys_view (h : Agree db) (S : String) :
    deskOf (db.retireKeys S) = (deskOf db).settle S .lapsed := by
  refine Desk.ext rfl rfl rfl rfl (funext fun id => ?_)
  simp only [Desk.settle, deskOf_cards, find?_retireKeys, Option.map_map]
  refine Option.map_congr fun k hk => ?_
  have hin := (Table.find?_eq_some_iff.mp hk).1
  have hlist : (db.retireKeys S).revocationList = db.revocationList := rfl
  simp only [Function.comp_apply, cardOf, hlist]
  by_cases hS : k.stayId = S
  · by_cases hact : k.active = true
    · simp [hS, hact, h.keyUnrevoked k hin hact]
    · by_cases hrev : k.keyId ∈ db.revocationList <;> simp [hS, hact, hrev]
  · simp [hS]

/-- Keys that are deactivated and revoked are taken back. -/
theorem dropKeys_view (db : Db) (S : String) (now : Int) (reason : String) :
    deskOf (dropKeys db S now reason) = (deskOf db).settle S .revoked := by
  have hmem (id : String) : id ∈ (dropKeys db S now reason).revocationList ↔
      id ∈ db.revocationList ∨ id ∈ db.activeKeys S := Db.mem_revocationList_revokeAll
  obtain ⟨revocations, heq⟩ := dropKeys_eq db S now reason
  rw [heq] at hmem ⊢
  refine Desk.ext rfl rfl rfl rfl (funext fun id => ?_)
  simp only [Desk.settle, deskOf_cards, find?_retireKeys, Option.map_map]
  refine Option.map_congr fun k hk => ?_
  have hin := (Table.find?_eq_some_iff.mp hk).1
  -- the keys that are revoked now are those of the stay that were active
  have hdropped : k.keyId ∈ db.activeKeys S ↔ k.stayId = S ∧ k.active = true := by
    rw [Db.mem_activeKeys]
    constructor
    · intro hrow
      obtain ⟨k', hk', hid, hstay, hact⟩ := hrow
      obtain rfl := Table.eq_of_key hk' hin hid
      exact ⟨hstay, hact⟩
    · intro hlive
      exact ⟨k, hin, rfl, hlive⟩
  simp only [Function.comp_apply, cardOf]
  by_cases hS : k.stayId = S
  · by_cases hact : k.active = true
    · simp [hS, hact, hmem, hdropped]
    · by_cases hrev : k.keyId ∈ db.revocationList <;> simp [hS, hact, hrev, hmem, hdropped]
  · simp [hS, hmem, hdropped]

/-- The live cards of a stay are its active keys. -/
theorem live_iff {id : String} : (deskOf db).Live S id ↔ id ∈ db.activeKeys S := by
  rw [Db.mem_activeKeys]
  constructor
  · intro ⟨c, hc, hstay, hlive⟩
    obtain ⟨k, hk, rfl⟩ := Option.map_eq_some_iff.mp hc
    obtain ⟨hin, hid⟩ := Table.find?_eq_some_iff.mp hk
    refine ⟨k, hin, hid, hstay, ?_⟩
    cases hact : k.active with
    | true => rfl
    | false =>
      simp only [cardOf, hact, Bool.false_eq_true, if_false] at hlive
      split at hlive <;> cases hlive
  · intro ⟨k, hk, hid, hstay, hact⟩
    refine ⟨cardOf db k, ?_, hstay, by simp [cardOf, hact]⟩
    have hfind : db.keys.find? id = some k := Table.find?_eq_some_iff.mpr ⟨hk, hid⟩
    simp [deskOf, hfind]

/-- The cards taken back are those of the revocation list, for a revoked key
has a row. -/
theorem revoked_iff (h : Agree db) {id : String} : (deskOf db).Revoked id ↔ id ∈ db.revocationList := by
  constructor
  · intro ⟨c, hc, hstate⟩
    obtain ⟨k, hk, rfl⟩ := Option.map_eq_some_iff.mp hc
    obtain ⟨-, rfl⟩ := Table.find?_eq_some_iff.mp hk
    by_contra hout
    simp only [cardOf, if_neg hout] at hstate
    split at hstate <;> cases hstate
  · intro hrev
    obtain ⟨k, hk, rfl⟩ := h.revokedKey id hrev
    have hfind : db.keys.find? k.keyId = some k := Table.find?_of_mem hk
    refine ⟨cardOf db k, by simp [deskOf, hfind], ?_⟩
    have hoff : ¬ k.active = true := fun hact => h.keyUnrevoked k hk hact hrev
    simp [cardOf, hoff, hrev]

/-- A key that is stored is a live card under an id that was unused. -/
theorem addKey_view {row : KeyRow} (hact : row.active = true)
    (hadd : db.addKey row = .ok db') :
    (deskOf db).cards row.keyId = none ∧ deskOf db' = (deskOf db).cut row.keyId
      ⟨row.stayId, row.roomId, row.validFrom, row.validUntil, .live⟩ := by
  unfold Db.addKey at hadd
  split at hadd
  · cases hadd
  cases hi : db.keys.insert? row with
  | none => rw [hi] at hadd; cases hadd
  | some keys =>
    rw [hi] at hadd
    cases hadd
    have hnew : db.keys.find? row.keyId = none :=
      Table.find?_eq_none_iff.mpr (Table.key_notMem_of_insert? hi)
    refine ⟨by simp [deskOf, hnew], Desk.ext rfl rfl rfl rfl (funext fun id => ?_)⟩
    simp only [deskOf, Desk.cut, Table.find?_insert? hi, Function.update_apply]
    by_cases hid : id = row.keyId
    · simp [hid, cardOf, hact]
    · simp only [if_neg hid]
      rfl

theorem issuable_iff {stay : StayRow} (hs : db.getStay S = some stay) {now : Int} :
    (deskOf db).Issuable S now ↔ Issuable stay now := by
  constructor
  · intro ⟨f, room, hf, hroom, hlt⟩
    rw [folios_eq_some hs] at hf
    cases hf
    exact ⟨⟨room, hroom⟩, hlt⟩
  · intro ⟨⟨room, hroom⟩, hlt⟩
    exact ⟨folioOf stay, room, folios_eq_some hs, hroom, hlt⟩

/-- A stay that cannot be issued a key is refused by the checks of
`issue_for_stay`. -/
theorem issueForStay_refused (E : Env) (sk : PrivateKey) {stay : StayRow} (hs : db.getStay S = some stay)
    {now : Int} (hno : ¬ Issuable stay now) (fresh : Fresh) :
    ∃ msg, (issueForStay E sk S now fresh).run db = (.error (.validation msg), db) := by
  rw [issueForStay, run_getStay_bind, hs]
  cases hroom : stay.roomId with
  | none => exact ⟨_, by simp only [hroom]; rfl⟩
  | some roomId =>
    have hle : (effectiveWindow stay.checkIn stay.checkOut now).2
        ≤ (effectiveWindow stay.checkIn stay.checkOut now).1 :=
      not_lt.mp fun hlt => hno ⟨⟨roomId, hroom⟩, hlt⟩
    exact ⟨_, by simp only [hroom]; rw [if_pos hle]; rfl⟩

/-- A key that cannot be stored has the id of one that is there. -/
theorem addKey_taken {row : KeyRow} {stay : StayRow} (hs : db.getStay row.stayId = some stay) {e : Exc}
    (hadd : db.addKey row = .error e) : (deskOf db).cards row.keyId ≠ none ∧ e = .integrityError := by
  have hfound : db.stays.find? row.stayId = some stay := hs
  rw [Db.addKey, hfound] at hadd
  simp only [Option.isNone_some, Bool.false_eq_true, if_false] at hadd
  cases hi : db.keys.insert? row with
  | some keys => rw [hi] at hadd; cases hadd
  | none =>
    rw [hi] at hadd
    cases hadd
    obtain ⟨k, hk, hid⟩ := Table.insert?_eq_none_iff.mp hi
    have hrow : db.keys.find? row.keyId = some k := Table.find?_eq_some_iff.mpr ⟨hk, hid⟩
    exact ⟨by simp [deskOf_cards, hrow], rfl⟩

/-- Issuing a key is cutting a card, or it fails as the desk may fail. -/
theorem issue_view {stay : StayRow} (hs : db.getStay S = some stay) (E : Env) (sk : PrivateKey) (now : Int)
    (fresh : Fresh) :
    (∃ e, (issueForStay E sk S now fresh).run db = (.error e, db) ∧
      (deskOf db).CutFails E sk S now fresh e) ∨
    ∃ key db', (issueForStay E sk S now fresh).run db = (.ok key, db') ∧
      (deskOf db).Cuts E sk S now fresh key (deskOf db') := by
  by_cases hissuable : Issuable stay now
  swap
  · -- the checks refuse before anything is written
    obtain ⟨msg, hrun⟩ := issueForStay_refused E sk hs hissuable fresh
    refine .inl ⟨_, hrun, fun _ => ⟨msg, rfl⟩, fun f room hf hroom hlt => ?_⟩
    exact absurd ((issuable_iff hs).mp ⟨f, room, hf, hroom, hlt⟩) hissuable
  obtain ⟨⟨roomId, hroom⟩, hlt⟩ := hissuable
  have hwindow : (folioOf stay).checkIn < Desk.cardUntil (folioOf stay) now := hlt
  have hfolio := folios_eq_some hs
  have hdesk : (deskOf db).Issuable S now := ⟨_, roomId, hfolio, hroom, hwindow⟩
  have hrun : (issueForStay E sk S now fresh).run db = _ := issueForStay_run_room hs hroom
  rw [if_neg (not_le.mpr hlt)] at hrun
  cases hkey : issueCredential E sk (stayCredential stay S roomId now fresh) fresh with
  | error e =>
    rw [hkey] at hrun
    refine .inl ⟨e, hrun, fun hno => absurd hdesk hno, fun f room hf hr _ => .inl ?_⟩
    cases hfolio.symm.trans hf
    cases hroom.symm.trans hr
    exact hkey
  | ok key =>
    have hkeyId : key.keyId = fresh.keyId := by
      obtain ⟨-, _, -, rfl⟩ := issueCredential_ok hkey
      simp only [CredentialIn.issuedKeyId, stayCredential, strOr]
      split <;> simp_all
    rw [hkey] at hrun
    simp only at hrun
    cases hadd : db.addKey (stayKeyRow stay S roomId now key) with
    | error e =>
      rw [hadd] at hrun
      obtain ⟨htaken, rfl⟩ := addKey_taken hs hadd
      simp only [stayKeyRow, hkeyId] at htaken
      exact .inl ⟨_, hrun, fun hno => absurd hdesk hno, fun _ _ _ _ _ => .inr ⟨htaken, rfl⟩⟩
    | ok db' =>
      rw [hadd] at hrun
      obtain ⟨hunused, hcut⟩ := addKey_view rfl hadd
      simp only [stayKeyRow, hkeyId] at hunused hcut
      exact .inr ⟨key, db', hrun, hkeyId, hunused, folioOf stay, roomId, hfolio, hroom, hwindow, hkey, hcut⟩

/-! ## The calendar -/

theorem mem_bookings {b : Calendar.Booking Int Int String} : b ∈ bookings db ↔
    ∃ a ∈ db.assignments, a.active = true ∧ ⟨a.roomId, a.checkIn, a.checkOut, a.stayId⟩ = b := by
  simp [bookings, Table.mem_rows, and_assoc]

/-- Rooms that are not booked twice have a calendar. -/
theorem compatible_bookings (h : NoDoubleBooking db) : Calendar.Compatible (bookings db) := by
  intro b hb b' hb' hroom hover
  obtain ⟨a, ha, hact, rfl⟩ := mem_bookings.mp hb
  obtain ⟨a', ha', hact', rfl⟩ := mem_bookings.mp hb'
  by_cases hne : a = a'
  · rw [hne]
  · exact absurd hover (h a ha a' ha' hne hact hact' hroom)

/-- The calendar is read off the active assignments. -/
theorem calendar_eq_some_iff (h : NoDoubleBooking db) {r t : Int} :
    (deskOf db).calendar r t = some S ↔ ∃ a ∈ db.assignments, a.active = true ∧ a.roomId = r ∧
      a.stayId = S ∧ a.checkIn ≤ t ∧ t < a.checkOut := by
  rw [deskOf, Calendar.ofBookings_eq_some_iff (compatible_bookings h)]
  constructor
  · intro ⟨b, hb, hr, ⟨hle, hlt⟩, hg⟩
    obtain ⟨a, ha, hact, rfl⟩ := mem_bookings.mp hb
    exact ⟨a, ha, hact, hr, hg, hle, hlt⟩
  · intro ⟨a, ha, hact, hr, hg, hle, hlt⟩
    exact ⟨_, mem_bookings.mpr ⟨a, ha, hact, rfl⟩, hr, ⟨hle, hlt⟩, hg⟩

/-- Deactivating the assignments of a stay takes its room. -/
theorem retireAssignments_view (h : NoDoubleBooking db) (S : String) :
    deskOf (db.retireAssignments S) = (deskOf db).vacate S := by
  refine Desk.ext rfl rfl rfl (Calendar.ext fun r t S' => ?_) rfl
  rw [calendar_eq_some_iff (noDoubleBooking_retire h S), Desk.vacate, Calendar.release_eq_some_iff,
    calendar_eq_some_iff h]
  constructor
  · intro ⟨a, ha, hact, hr, hS, hwindow⟩
    obtain ⟨ha, hact, hne⟩ := Db.active_retireAssignments.mp ⟨ha, hact⟩
    exact ⟨⟨a, ha, hact, hr, hS, hwindow⟩, hS ▸ hne⟩
  · intro ⟨⟨a, ha, hact, hr, hS, hwindow⟩, hne⟩
    obtain ⟨ha, hact⟩ := Db.active_retireAssignments.mpr ⟨ha, hact, fun he => hne (hS ▸ he)⟩
    exact ⟨a, ha, hact, hr, hS, hwindow⟩

/-- The overlap query is exact: it finds a room free when nobody has it at
any time of the window. -/
theorem free_view (h : DeskSound db) {r checkIn checkOut : Int} (hlt : checkIn < checkOut) :
    (deskOf db).calendar.FreeOn r (Set.Ico checkIn checkOut) ↔ db.Free r checkIn checkOut := by
  have hproper : ∀ b ∈ bookings db, b.start < b.stop := by
    intro b hb
    obtain ⟨a, ha, -, rfl⟩ := mem_bookings.mp hb
    obtain ⟨stay, hs, -, hin, hout⟩ := h.agree.assigned a ha
    have hwindow := h.proper _ stay hs
    rwa [hin, hout] at hwindow
  rw [deskOf, Calendar.freeOn_ofBookings_iff hproper hlt]
  constructor
  · intro hall a ha hact hr
    exact hall _ (mem_bookings.mpr ⟨a, ha, hact, rfl⟩) hr
  · intro hfree b hb hr
    obtain ⟨a, ha, hact, rfl⟩ := mem_bookings.mp hb
    exact hfree a ha hact hr

theorem DeskSound.retireAssignments (h : DeskSound db) (S : String) :
    DeskSound (db.retireAssignments S) :=
  ⟨agree_retireAssignments h.agree S, noDoubleBooking_retire h.calendar S, h.proper⟩

/-- `_candidate_rooms` gives the candidates of the desk. -/
theorem candidate_view {stay : StayRow} {requested avoid : Option Int} {r : Int} :
    (deskOf db).Candidate (folioOf stay) requested avoid r ↔ db.IsCandidate stay requested avoid r := by
  constructor
  · intro ⟨kind, hkind, hproperty, hmatch⟩
    obtain ⟨room, hroom, rfl⟩ := Option.map_eq_some_iff.mp hkind
    obtain ⟨hin, hid⟩ := Table.find?_eq_some_iff.mp hroom
    exact ⟨room, hin, hid, hproperty, hmatch⟩
  · intro ⟨room, hin, hid, hproperty, hmatch⟩
    have hfind : db.getRoom r = some room := Table.find?_eq_some_iff.mpr ⟨hin, hid⟩
    exact ⟨⟨room.propertyId, room.roomType⟩, by simp [deskOf, hfind], hproperty, hmatch⟩

/-- The rooms a stay may get are the candidates the transaction finds free,
once its own assignment is out of the way. -/
theorem mem_vacant_iff (h : DeskSound db) {stay : StayRow} (hlt : stay.checkIn < stay.checkOut)
    {requested avoid : Option Int} {r : Int} :
    r ∈ (deskOf db).Vacant S (folioOf stay) requested avoid ↔
      db.IsCandidate stay requested avoid r ∧
        (db.retireAssignments S).Free r stay.checkIn stay.checkOut := by
  rw [← free_view (h.retireAssignments S) hlt, retireAssignments_view h.calendar, ← candidate_view]
  exact Iff.rfl

/-- A booking gives the room to the stay. -/
theorem house_view (h : DeskSound db) {stay : StayRow} (hlt : stay.checkIn < stay.checkOut) {chosen : Int}
    (hfree : (db.retireAssignments S).Free chosen stay.checkIn stay.checkOut) :
    deskOf ((db.retireAssignments S).occupied S stay chosen) = (deskOf db).house S (folioOf stay) chosen := by
  have hretired := h.retireAssignments S
  have hcal := retireAssignments_view h.calendar S
  refine Desk.ext rfl rfl (funext fun S' => ?_) (Calendar.ext fun r t S' => ?_) rfl
  · simp only [deskOf, Desk.house, Desk.amend, Desk.vacate, Db.getStay_occupied, Option.map_map]
    refine Option.map_congr fun s _ => ?_
    by_cases hS : S' = S
    · simp [hS, folioOf]
    · simp [hS]
  · have hfreeOn := (free_view hretired hlt).mpr hfree
    have hbook : ((deskOf db).house S (folioOf stay) chosen).calendar
        = (deskOf (db.retireAssignments S)).calendar.book S chosen (folioOf stay).window := by
      rw [retireAssignments_view h.calendar]
      rfl
    rw [calendar_eq_some_iff (noDoubleBooking_occupied hretired.calendar hfree), hbook, folioOf, Folio.window,
      Calendar.book_eq_some_iff hfreeOn, calendar_eq_some_iff hretired.calendar]
    constructor
    · intro hrow
      obtain ⟨a, ha, hact, hr, hS, hin, hout⟩ := hrow
      rcases Db.mem_occupied.mp ha with ha | rfl
      · exact .inl ⟨a, ha, hact, hr, hS, hin, hout⟩
      · exact .inr ⟨hS.symm, hr.symm, hin, hout⟩
    · rintro (⟨a, ha, hact⟩ | ⟨hS, hr, hin, hout⟩)
      · exact ⟨a, Db.mem_occupied.mpr (.inl ha), hact⟩
      · exact ⟨_, Db.mem_occupied.mpr (.inr rfl), rfl, hr.symm, hS.symm, hin, hout⟩

end StayKey.Service
