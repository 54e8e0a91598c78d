/-
StayKey.Store.Booking — booking a room is all or nothing, and complete.

`assign_room` and `reservation.change_room` either raise
`RoomUnavailableError` and leave every table as it was, or book the free
candidate with the least room id and change nothing else. Which of the two
it is can be read off the rows before the call (`BooksExactly`).

That is so if the driver takes the id of the room that is asked for
(`booking_exact_iff`). For a room id beyond 64 bits both calls raise
`OverflowError`, although there is no such room and none is free.

`Reached` are the databases that statements can lead to, in any order and
from any number of clients, so it holds of everything the service can
reach; `Driven` are those they can lead to through the driver. All that is
needed of them is that a stay with an assignment has a room
(`assigned_reached`), and that the integers of the rows are such that the
driver takes (`fits_driven`).
-/
import StayKey.Store.Agreement
import StayKey.Store.Driver
import StayKey.Store.NoDoubleBooking
import Mathlib.Order.Bounds.Basic

namespace StayKey.Store

open StayKey.Codec StayKey.Door StayKey.Program

variable {db db' : Db} {S : String} {stay : StayRow}

/-! ## Reachable databases -/

/-- What statements can lead to, whoever runs them. -/
inductive Reached : Db → Prop
  | empty : Reached .empty
  | step (op : Stmt) {db : Db} (h : Reached db) : Reached (exec op db).2

theorem Reached.run {α : Type} (p : Call α) (h : Reached db) : Reached (p.run db).2 :=
  Prog.run_preserves exec (fun op _ _ h => h.step op) (Prog.only_true p) h

theorem Reached.runAll (ps : List (Call Unit)) (h : Reached db) :
    Reached (ps.foldl (fun db p => (p.run db).2) db) := by
  induction ps generalizing db with
  | nil => exact h
  | cons p ps ih => exact ih (h.run p)

theorem Reached.pool {ι : Type} [DecidableEq ι] {Allowed : Call Unit → Prop}
    {s : Pool ι Stmt Stmt.Res Exc Db} (h : Pool.Reachable exec Allowed Db.empty s) :
    Reached s.shared :=
  Pool.invariant .empty (fun p _ => Prog.only_true p) (fun op _ _ h => h.step op) h

theorem Reached.history {E : Env} {sk : PrivateKey} {h : List StoreEntry}
    (hs : StoreHistory E sk h db) : Reached db :=
  hs.invariant .empty (fun _ c h (_ : True) => h.run (c.program E sk)) fun _ _ => trivial

/-- What statements can lead to through the driver. -/
inductive Driven : Db → Prop
  | empty : Driven .empty
  | step (op : Stmt) {db : Db} (h : Driven db) : Driven (execBound op db).2

theorem Driven.reached (h : Driven db) : Reached db := by
  induction h with
  | empty => exact .empty
  | step op _ ih => exact Prog.guarded_preserves ih (ih.step op)

theorem Driven.run {α : Type} (p : Call α) (h : Driven db) : Driven (p.runBound db).2 :=
  Prog.run_preserves execBound (fun op _ _ h => h.step op) (Prog.only_true p) h

theorem Driven.runAll (ps : List (Call Unit)) (h : Driven db) :
    Driven (ps.foldl (fun db p => (p.runBound db).2) db) := by
  induction ps generalizing db with
  | nil => exact h
  | cons p ps ih => exact ih (h.run p)

/-! ## The integers of the rows -/

/-- The driver takes the room ids and the windows of the stays. -/
structure Fits (db : Db) : Prop where
  rooms : ∀ r ∈ db.rooms, Bindable r.roomId
  stays : ∀ s ∈ db.stays, Bindable s.checkIn ∧ Bindable s.checkOut

theorem fits_setStayStatus (h : Fits db) (S : String) (status : StayStatus) :
    Fits (db.setStayStatus S status) where
  rooms := h.rooms
  stays s hs := by
    obtain ⟨s₀, hs₀, rfl⟩ := List.mem_map.mp hs
    split
    · exact h.stays s₀ hs₀
    · exact h.stays s₀ hs₀

theorem fits_occupied (h : Fits db) (S : String) (stay : StayRow) (chosen : Int) :
    Fits (db.occupied S stay chosen) where
  rooms := h.rooms
  stays s hs := by
    obtain ⟨s₀, hs₀, rfl⟩ := List.mem_map.mp hs
    split
    · exact h.stays s₀ hs₀
    · exact h.stays s₀ hs₀

/-- A statement whose integers the driver takes writes no others. -/
theorem fits_exec {op : Stmt} (hop : ∀ n ∈ op.binds, Bindable n) (h : Fits db) : Fits (exec op db).2 := by
  cases op with
  | addGuest guestId name email =>
    refine write_preserves h fun db' hdb => ?_
    obtain ⟨guests, rfl⟩ := Db.addGuest_ok hdb
    exact ⟨h.rooms, h.stays⟩
  | addRoom roomId propertyId number roomType =>
    refine write_preserves h fun db' hdb => ?_
    obtain ⟨rooms, rfl, hrooms⟩ := Db.addRoom_ok hdb
    refine ⟨fun r hr => ?_, h.stays⟩
    obtain hr | rfl := (hrooms r).mp hr
    · exact h.rooms r hr
    · exact hop roomId List.mem_cons_self
  | addStay stayId guestId propertyId roomType checkIn checkOut =>
    refine write_preserves h fun db' hdb => ?_
    obtain ⟨-, stays, rfl, hstays⟩ := Db.addStay_ok hdb
    refine ⟨h.rooms, fun s hs => ?_⟩
    obtain hs | rfl := (hstays s).mp hs
    · exact h.stays s hs
    · exact ⟨hop checkIn List.mem_cons_self, hop checkOut (List.mem_cons_of_mem _ List.mem_cons_self)⟩
  | addKey row =>
    refine write_preserves h fun db' hdb => ?_
    obtain ⟨-, -, keys, rfl⟩ := Db.addKey_ok hdb
    exact ⟨h.rooms, h.stays⟩
  | revokeKey keyId revokedAt reason =>
    obtain ⟨r, hr⟩ := Db.revokeKey_eq db keyId revokedAt reason
    simp only [exec, hr]
    exact ⟨h.rooms, h.stays⟩
  | setStayStatus stayId status => exact fits_setStayStatus h stayId status
  | assignTransaction stayId stay preferred =>
    obtain ⟨e, he, -⟩ | ⟨chosen, he, -⟩ := Db.assignTransaction_booking stayId stay preferred db
    · rw [he]; exact h
    · rw [he]; exact fits_occupied h stayId stay chosen
  | changeTransaction stayId stay newRoomId =>
    obtain ⟨e, he, -⟩ | ⟨chosen, he, -⟩ := Db.changeTransaction_booking stayId stay newRoomId db
    · rw [he]; exact h
    · have hretired : Fits (db.retireAssignments stayId) := ⟨h.rooms, h.stays⟩
      rw [he]
      exact fits_occupied hretired stayId stay chosen
  | guestExists | getRoom | getStay | activeKeys | revocationList => exact h
  | retireKeys | retireAssignments => exact ⟨h.rooms, h.stays⟩

theorem fits_driven (h : Driven db) : Fits db := by
  induction h with
  | empty => exact ⟨fun _ h => absurd h (Table.notMem_empty _), fun _ h => absurd h (Table.notMem_empty _)⟩
  | @step op db _ ih =>
    cases hop : op.refused with
    | some e => rwa [execBound_refused hop]
    | none =>
      rw [execBound_accepted hop]
      refine fits_exec (fun n hn => ?_) ih
      by_contra hnot
      rw [refused_iff.mpr ⟨rfl, n, hn, hnot⟩] at hop
      cases hop

/-! ## A stay with an assignment has a room -/

/-- Whoever has an assignment, active or not, has a room. -/
def Assigned (db : Db) : Prop := ∀ a ∈ db.assignments, StayIs db a.stayId fun s => s.roomId ≠ none

/-- The rows of a later database are for stays that had one, or have a room. -/
theorem Assigned.extends (h : Assigned db) (hext : Extends db db')
    (hrows : ∀ a ∈ db'.assignments, (∃ a₀ ∈ db.assignments, a₀.stayId = a.stayId) ∨
      StayIs db' a.stayId fun s => s.roomId ≠ none) : Assigned db' := by
  intro a ha
  rcases hrows a ha with ⟨a₀, ha₀, hid⟩ | hroom
  · obtain ⟨s, hs, hne⟩ := h a₀ ha₀
    obtain ⟨s', hs', hbook⟩ := hext.stays _ s hs
    rw [hid] at hs'
    exact ⟨s', hs', hbook.room hne⟩
  · exact hroom

theorem assigned_retire (h : Assigned db) (S : String) : Assigned (db.retireAssignments S) := by
  refine h.extends (extends_retireAssignments db S) fun a ha => .inl ?_
  obtain ⟨a₀, ha₀, rfl⟩ := Db.mem_retireAssignments.mp ha
  exact ⟨a₀, ha₀, by split <;> rfl⟩

theorem assigned_occupied (h : Assigned db) {s : StayRow} (hs : db.getStay S = some s)
    (stay : StayRow) (chosen : Int) : Assigned (db.occupied S stay chosen) := by
  refine h.extends (extends_occupied db S stay chosen) fun a ha => ?_
  rcases Db.mem_occupied.mp ha with ha | rfl
  · exact .inl ⟨a, ha, rfl⟩
  · refine .inr ⟨{ s with roomId := some chosen }, ?_, nofun⟩
    rw [Db.getStay_occupied, Db.newAssignment, hs, Option.map_some, if_pos rfl]

theorem assigned_exec (op : Stmt) (h : Assigned db) : Assigned (exec op db).2 := by
  have hsame (he : (exec op db).2.assignments = db.assignments) : Assigned (exec op db).2 :=
    h.extends (extends_exec op db) fun a ha => .inl ⟨a, he ▸ ha, rfl⟩
  cases op with
  | addGuest guestId name email =>
    refine hsame (write_keeps Db.assignments fun db' hdb => ?_)
    obtain ⟨guests, rfl⟩ := Db.addGuest_ok hdb
    rfl
  | addRoom roomId propertyId number roomType =>
    refine hsame (write_keeps Db.assignments fun db' hdb => ?_)
    obtain ⟨rooms, rfl, -⟩ := Db.addRoom_ok hdb
    rfl
  | addStay stayId guestId propertyId roomType checkIn checkOut =>
    refine hsame (write_keeps Db.assignments fun db' hdb => ?_)
    obtain ⟨-, stays, rfl, -⟩ := Db.addStay_ok hdb
    rfl
  | addKey row =>
    refine hsame (write_keeps Db.assignments fun db' hdb => ?_)
    obtain ⟨-, -, keys, rfl⟩ := Db.addKey_ok hdb
    rfl
  | revokeKey keyId revokedAt reason =>
    obtain ⟨r, hr⟩ := Db.revokeKey_eq db keyId revokedAt reason
    exact hsame (congrArg Db.assignments hr :)
  | retireAssignments stayId => exact assigned_retire h stayId
  | assignTransaction stayId stay preferred =>
    obtain ⟨e, he, -⟩ | ⟨chosen, he, -, -, s, hs⟩ :=
      Db.assignTransaction_booking stayId stay preferred db
    · rw [he]; exact h
    · rw [he]; exact assigned_occupied h hs stay chosen
  | changeTransaction stayId stay newRoomId =>
    obtain ⟨e, he, -⟩ | ⟨chosen, he, -, -, s, hs⟩ :=
      Db.changeTransaction_booking stayId stay newRoomId db
    · rw [he]; exact h
    · rw [he]; exact assigned_occupied (assigned_retire h stayId) hs stay chosen
  | guestExists | getRoom | getStay | activeKeys | revocationList | setStayStatus | retireKeys =>
    exact hsame rfl

theorem assigned_reached (h : Reached db) : Assigned db := by
  induction h with
  | empty => exact fun _ h => absurd h (Table.notMem_empty _)
  | step op _ ih => exact assigned_exec op ih

/-! ## What a booking changes -/

/-- No other stay holds the room at an instant of this stay. -/
def FreeFor (db : Db) (stay : StayRow) (roomId : Int) : Prop :=
  ∀ a ∈ db.assignments, a.active = true → a.stayId ≠ stay.stayId → a.roomId = roomId →
    ¬ Overlap a.checkIn a.checkOut stay.checkIn stay.checkOut

/-- In `db'` the stay was given the room, for its window; its assignments
before are inactive, and no other row was touched. -/
structure Booked (db db' : Db) (stay : StayRow) (roomId : Int) : Prop where
  assignments : ∃ id, (∀ a ∈ db.assignments, a.id < id) ∧ db'.assignments.rows =
    (db.assignments.rows.map fun a => if a.stayId = stay.stayId then { a with active := false } else a)
      ++ [⟨id, roomId, stay.stayId, stay.checkIn, stay.checkOut, true⟩]
  stays : db'.stays.rows =
    db.stays.rows.map fun s => if s.stayId = stay.stayId then { s with roomId := some roomId } else s
  guests : db'.guests = db.guests
  rooms : db'.rooms = db.rooms
  keys : db'.keys = db.keys
  revocations : db'.revocations = db.revocations

/-- The call raises `RoomUnavailableError` exactly when no candidate is
free, and then changes nothing; else it books the first free candidate in
room-id order, and nothing else changes. -/
structure BooksExactly (db : Db) (stay : StayRow) (requested avoid : Option Int) (Free : Int → Prop)
    (result : Except Exc Int × Db) : Prop where
  decided : (∃ roomId, result.1 = .ok roomId) ∨ ∃ msg, result.1 = .error (.roomUnavailable msg)
  unavailable_iff : (∃ msg, result.1 = .error (.roomUnavailable msg)) ↔
    ∀ r, db.IsCandidate stay requested avoid r → ¬ Free r
  unchanged : ∀ e, result.1 = .error e → result.2 = db
  booked : ∀ roomId, result.1 = .ok roomId →
    IsLeast {r | db.IsCandidate stay requested avoid r ∧ Free r} roomId ∧
      Booked db result.2 stay roomId

theorem retireAssignments_rows (db : Db) (S : String) :
    (db.retireAssignments S).assignments.rows = db.assignments.rows.map fun a =>
      if a.stayId = S then { a with active := false } else a := by
  refine List.map_congr_left fun a _ => ?_
  obtain ⟨id, roomId, stayId, checkIn, checkOut, active⟩ := a
  by_cases h : stayId = S <;> cases active <;> simp [h]

theorem booked_occupied (hid : stay.stayId = S) (roomId : Int) :
    Booked db ((db.retireAssignments S).occupied S stay roomId) stay roomId := by
  subst hid
  refine ⟨⟨(db.retireAssignments stay.stayId).nextId, fun a ha => ?_, ?_⟩, ?_, rfl, rfl, rfl, rfl⟩
  · have hlt := Db.id_lt_nextId (Db.mem_retireAssignments.mpr ⟨a, ha, rfl⟩ :
      _ ∈ (db.retireAssignments stay.stayId).assignments)
    split at hlt <;> exact hlt
  · exact congrArg (· ++ _) (retireAssignments_rows db stay.stayId)
  · exact List.map_congr_left fun s _ => by simp

/-- There is nothing to retire for a stay without assignments. -/
theorem retireAssignments_eq_self (h : ∀ a ∈ db.assignments, a.stayId ≠ S) :
    db.retireAssignments S = db := by
  rw [Db.retireAssignments, Table.updateWhere_eq_self]
  intro a ha
  simp [h a ha]

/-- A transaction that chooses the least free candidate books exactly. -/
theorem booksExactly_of_booking {db₁ : Db} {requested avoid : Option Int} {Free : Int → Prop}
    {result : Except Exc Int × Db} (hs : db.getStay S = some stay)
    (hbooking : Db.Booking db₁ db S stay requested avoid result)
    (hfree : ∀ r, db₁.Free r stay.checkIn stay.checkOut ↔ Free r)
    (hle : ∀ chosen, result.1 = .ok chosen → ∀ r, db.IsCandidate stay requested avoid r →
      db₁.Free r stay.checkIn stay.checkOut → chosen ≤ r)
    (hbooked : ∀ chosen, Booked db (db₁.occupied S stay chosen) stay chosen) :
    BooksExactly db stay requested avoid Free result := by
  obtain ⟨e, rfl, ⟨⟨msg, rfl⟩, hno⟩ | ⟨-, hnone⟩⟩ | ⟨chosen, rfl, hcand, hchosen, -⟩ := hbooking
  · refine ⟨.inr ⟨msg, rfl⟩, iff_of_true ⟨msg, rfl⟩ ?_, fun _ _ => rfl, fun r h => by cases h⟩
    exact fun r hr hf => hno r hr ((hfree r).mpr hf)
  · rw [hs] at hnone
    cases hnone
  · have hf := (hfree chosen).mp hchosen
    refine ⟨.inl ⟨chosen, rfl⟩, iff_of_false nofun fun h => h chosen hcand hf, nofun, ?_⟩
    intro r hr
    cases hr
    refine ⟨⟨⟨hcand, hf⟩, fun r hr => ?_⟩, hbooked chosen⟩
    exact hle chosen rfl r hr.1 ((hfree r).mpr hr.2)

/-! ## The two calls -/

theorem assignRoom_booksExactly (h : Reached db) (hs : db.getStay S = some stay)
    (hroom : stay.roomId = none) (preferred : Option Int) :
    BooksExactly db stay preferred none (fun r => db.Free r stay.checkIn stay.checkOut)
      ((assignRoom S preferred).run db) := by
  -- without a room the stay has no assignment to retire
  have hnone : ∀ a ∈ db.assignments, a.stayId ≠ S := by
    rintro a ha rfl
    obtain ⟨s, hs', hne⟩ := assigned_reached h a ha
    rw [hs] at hs'
    cases hs'
    exact hne hroom
  have hid := (Db.getStay_eq_some_iff.mp hs).2
  rw [assignRoom_run hs, hroom]
  refine booksExactly_of_booking hs (Db.assignTransaction_booking S stay preferred db)
    (fun _ => Iff.rfl) ?_ fun chosen => ?_
  · intro chosen hok r hcand hfree
    exact Db.assignTransaction_le (Prod.ext hok rfl) hcand hfree
  · have hbooked : Booked db ((db.retireAssignments S).occupied S stay chosen) stay chosen :=
      booked_occupied hid chosen
    rwa [retireAssignments_eq_self hnone] at hbooked

theorem moveRoom_booksExactly (hs : db.getStay S = some stay) (newRoomId : Option Int) :
    BooksExactly db stay newRoomId stay.roomId (FreeFor db stay) ((moveRoom S newRoomId).run db) := by
  have hid := (Db.getStay_eq_some_iff.mp hs).2
  rw [moveRoom_run hs]
  refine booksExactly_of_booking hs (Db.changeTransaction_booking S stay newRoomId db)
    (fun r => ?_) ?_ (booked_occupied hid)
  · rw [FreeFor, hid]
    exact Db.free_retireAssignments_iff
  · intro chosen hok r hcand hfree
    exact Db.changeTransaction_le (Prod.ext hok rfl) hcand hfree

/-! ## Through the driver -/

/-- What is asked of `assign_room`: a stay that has a room keeps it and
nothing changes, another one is booked exactly. -/
def AssignsExactly (db : Db) (stay : StayRow) (requested : Option Int) (result : Except Exc Int × Db) :
    Prop :=
  (∀ roomId, stay.roomId = some roomId → result = (.ok roomId, db)) ∧
    (stay.roomId = none →
      BooksExactly db stay requested none (fun r => db.Free r stay.checkIn stay.checkOut) result)

theorem assignRoom_runBound (hs : db.getStay S = some stay) (requested : Option Int) :
    (assignRoom S requested).runBound db = match stay.roomId with
      | some roomId => (.ok roomId, db)
      | none => execBound (.assignTransaction S stay requested) db := by
  rw [assignRoom, runBound_getStay_bind, hs]
  simp only
  cases stay.roomId with
  | some roomId => rfl
  | none => exact runBound_stmt _ db

theorem moveRoom_runBound (hs : db.getStay S = some stay) (requested : Option Int) :
    (moveRoom S requested).runBound db = execBound (.changeTransaction S stay requested) db := by
  rw [moveRoom, runBound_getStay_bind, hs]
  exact runBound_stmt _ db

/-- The transactions are not refused for a room the driver takes: the window
of the stay was stored. -/
theorem booking_not_refused (h : Fits db) (hs : db.getStay S = some stay) {requested : Option Int}
    (hroom : ∀ r, requested = some r → Bindable r) :
    (Stmt.assignTransaction S stay requested).refused = none ∧
      (Stmt.changeTransaction S stay requested).refused = none := by
  have hfits : ∀ n ∈ requested.toList ++ [stay.checkIn, stay.checkOut], Bindable n := by
    obtain ⟨hin, hout⟩ := h.stays stay (Db.getStay_eq_some_iff.mp hs).1
    intro n hn
    simp only [List.mem_append, Option.mem_toList, List.mem_cons, List.not_mem_nil, or_false] at hn
    obtain hn | rfl | rfl := hn
    · exact hroom n hn
    · exact hin
    · exact hout
  exact ⟨refused_eq_none hfits, refused_eq_none hfits⟩

/-- For another room they are, although no such room is free: there is none. -/
theorem booking_refused (h : Fits db) {r : Int} (hr : ¬ Bindable r) (stay : StayRow) (avoid : Option Int) :
    (∀ S, (Stmt.assignTransaction S stay (some r)).refused = some (.py .overflowError) ∧
      (Stmt.changeTransaction S stay (some r)).refused = some (.py .overflowError)) ∧
    ∀ r', ¬ db.IsCandidate stay (some r) avoid r' := by
  refine ⟨fun S => ⟨?_, ?_⟩, fun r' hcand => ?_⟩
  · exact refused_iff.mpr ⟨rfl, r, List.mem_cons_self, hr⟩
  · exact refused_iff.mpr ⟨rfl, r, List.mem_cons_self, hr⟩
  · obtain ⟨room, hin, hid, -, heq⟩ := hcand
    have heq : r = r' := heq
    exact hr (heq ▸ hid ▸ h.rooms room hin)

/-- A call that raises something else books nothing exactly. -/
theorem not_booksExactly {requested avoid : Option Int} {Free : Int → Prop} {e : PyError}
    (hno : ∀ r, ¬ db.IsCandidate stay requested avoid r) :
    ¬ BooksExactly db stay requested avoid Free (.error (.py e), db') := by
  intro hbooks
  obtain ⟨msg, hmsg⟩ := hbooks.unavailable_iff.mpr fun r hcand => absurd hcand (hno r)
  cases hmsg

/-- **Booking is exact** exactly for the rooms the driver takes, from every
database it can lead to, for every stay and every requested room; of a stay
that has a room `assign_room` asks for no other. -/
theorem booking_exact_iff (h : Driven db) (hs : db.getStay S = some stay) (requested : Option Int) :
    (AssignsExactly db stay requested ((assignRoom S requested).runBound db) ↔
      (∀ r, requested = some r → Bindable r) ∨ stay.roomId ≠ none) ∧
    (BooksExactly db stay requested stay.roomId (FreeFor db stay) ((moveRoom S requested).runBound db) ↔
      ∀ r, requested = some r → Bindable r) := by
  have hfits := fits_driven h
  rw [assignRoom_runBound hs, moveRoom_runBound hs]
  by_cases hroom : ∀ r, requested = some r → Bindable r
  · obtain ⟨hassign, hchange⟩ := booking_not_refused hfits hs hroom
    rw [execBound_accepted hassign, execBound_accepted hchange, ← moveRoom_run hs]
    refine ⟨iff_of_true ⟨fun roomId hr => ?_, fun hr => ?_⟩ (.inl hroom),
      iff_of_true (moveRoom_booksExactly hs requested) hroom⟩
    · rw [hr]
    · have hbooks := assignRoom_booksExactly h.reached hs hr requested
      rwa [assignRoom_run hs] at hbooks
  · obtain ⟨r, rfl, hr⟩ : ∃ r, requested = some r ∧ ¬ Bindable r := by
      push Not at hroom
      exact hroom
    obtain ⟨hrefused, -⟩ := booking_refused hfits hr stay none
    have hno (avoid : Option Int) := (booking_refused hfits hr stay avoid).2
    rw [execBound_refused (hrefused S).1, execBound_refused (hrefused S).2]
    refine ⟨?_, iff_of_false (not_booksExactly (hno stay.roomId)) hroom⟩
    cases hroomId : stay.roomId with
    | none =>
      refine iff_of_false (fun hassigns => ?_) fun h => h.elim hroom fun hne => hne rfl
      exact not_booksExactly (hno none) (hassigns.2 hroomId)
    | some roomId =>
      refine iff_of_true ⟨fun roomId' hr' => ?_, fun hnone => ?_⟩ (.inr nofun)
      · rw [hroomId] at hr'
        cases hr'
        rfl
      · rw [hroomId] at hnone
        cases hnone

/-! ## Moved away and back -/

/-- A guest is moved from room 101 to 102 and back, and the property gets
full. -/
def backAndForth : List (Call Unit) :=
  [ (Stmt.addGuest "g_1" "Ada" "ada@example.org").call,
    (Stmt.addRoom 101 "P" "101" "king").call,
    (Stmt.addRoom 102 "P" "102" "king").call,
    (Stmt.addStay "s_1" "g_1" "P" "king" 1000 2000).call,
    (do let _ ← assignRoom "s_1" none),
    (do let _ ← moveRoom "s_1" none),
    (do let _ ← moveRoom "s_1" (some 101)),
    (Stmt.addStay "s_2" "g_1" "P" "king" 1500 2500).call,
    (do let _ ← assignRoom "s_2" none),
    (Stmt.addStay "s_3" "g_1" "P" "king" 1500 2500).call ]

def backAndForthDb : Db := backAndForth.foldl (fun db p => (p.runBound db).2) .empty

theorem backAndForthDb_driven : Driven backAndForthDb := Driven.empty.runAll backAndForth

/-- The next move of the guest fails, and the inactive rows of room 101 stay
as they are. -/
theorem booking_exact_full :
    (backAndForthDb.assignments.rows.map fun a => (a.roomId, a.stayId, a.active))
        = [(101, "s_1", false), (102, "s_1", false), (101, "s_1", true), (102, "s_2", true)] ∧
      (∃ msg, ((moveRoom "s_1" none).runBound backAndForthDb).1 = .error (.roomUnavailable msg)) ∧
      ((moveRoom "s_1" none).runBound backAndForthDb).2 = backAndForthDb := by
  have hstay : backAndForthDb.getStay "s_1"
      = some ⟨"s_1", "g_1", "P", "king", some 101, 1000, 2000, .reserved⟩ := by decide
  have hmove := (booking_exact_iff backAndForthDb_driven hstay none).2.mpr nofun
  have hraised : ∃ msg, ((moveRoom "s_1" none).runBound backAndForthDb).1
      = .error (.roomUnavailable msg) := ⟨_, rfl⟩
  obtain ⟨msg, hmsg⟩ := hraised
  exact ⟨by decide, ⟨msg, hmsg⟩, hmove.unchanged _ hmsg⟩

/-- A stay without a room asks for room 2^63: there is no such room, and the
call raises `OverflowError`. -/
theorem oversized_room_overflows : ¬ ∀ (db : Db) (S : String) (stay : StayRow) (requested : Option Int),
    Driven db → db.getStay S = some stay →
    AssignsExactly db stay requested ((assignRoom S requested).runBound db) := by
  intro hclaim
  have hstay : backAndForthDb.getStay "s_3"
      = some ⟨"s_3", "g_1", "P", "king", none, 1500, 2500, .reserved⟩ := by decide
  have hbooks := (hclaim backAndForthDb "s_3" _ (some (2 ^ 63)) backAndForthDb_driven hstay).2 rfl
  have hrun : ((assignRoom "s_3" (some (2 ^ 63))).runBound backAndForthDb).1
      = .error (.py .overflowError) := rfl
  obtain ⟨msg, hmsg⟩ := hbooks.unavailable_iff.mpr (by
    rintro r ⟨room, hin, hid, -, hr⟩
    have hids : backAndForthDb.rooms.rows.map RoomRow.roomId = [101, 102] := by decide
    have hr' : (2 ^ 63 : Int) = r := hr
    have hmem : r ∈ [101, 102] := hids ▸ List.mem_map.mpr ⟨room, hin, hid⟩
    subst hr'
    exact absurd hmem (by decide))
  rw [hrun] at hmsg
  cases hmsg

end StayKey.Store
