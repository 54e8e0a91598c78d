/-
StayKey.Store.NoDoubleBooking — no room is booked twice for one instant,
whatever the clients interleave.

The invariant is on the rows alone: two active assignments of one room
never overlap. Every statement preserves it (`noDoubleBooking_exec`), with
any arguments; in particular the two transactions do, although the stay
row they are given may have been read long before. The rule for pools of
clients (`Pool.invariant`) carries it to every interleaving.
-/
import StayKey.Program.Pool
import StayKey.Store.Calls
import StayKey.Store.Extends

namespace StayKey.Store

open StayKey.Codec StayKey.Door StayKey.Program

/-- Two active assignments of one room do not overlap. -/
def NoDoubleBooking (db : Db) : Prop :=
  ∀ a ∈ db.assignments, ∀ b ∈ db.assignments, a ≠ b → a.active = true → b.active = true →
    a.roomId = b.roomId → ¬ Overlap a.checkIn a.checkOut b.checkIn b.checkOut

variable {db : Db}

theorem noDoubleBooking_empty : NoDoubleBooking .empty := fun _ h => absurd h (Table.notMem_empty _)

theorem noDoubleBooking_of_eq {db' : Db} (h : NoDoubleBooking db)
    (he : db'.assignments = db.assignments) : NoDoubleBooking db' := by
  rw [NoDoubleBooking, he]
  exact h

theorem noDoubleBooking_retire (h : NoDoubleBooking db) (stayId : String) :
    NoDoubleBooking (db.retireAssignments stayId) := by
  intro a ha b hb hne haa hba hroom
  obtain ⟨ha, -, -⟩ := Db.active_retireAssignments.mp ⟨ha, haa⟩
  obtain ⟨hb, -, -⟩ := Db.active_retireAssignments.mp ⟨hb, hba⟩
  exact h a ha b hb hne haa hba hroom

/-- Occupying a free room keeps the bookings apart. -/
theorem noDoubleBooking_occupied (h : NoDoubleBooking db) {stayId : String} {stay : StayRow}
    {chosen : Int} (hfree : db.Free chosen stay.checkIn stay.checkOut) :
    NoDoubleBooking (db.occupied stayId stay chosen) := by
  intro a ha b hb hne haa hba hroom
  rcases Db.mem_occupied.mp ha with ha | rfl
  · rcases Db.mem_occupied.mp hb with hb | rfl
    · exact h a ha b hb hne haa hba hroom
    · exact hfree a ha haa hroom
  · rcases Db.mem_occupied.mp hb with hb | rfl
    · exact fun ho => hfree b hb hba hroom.symm (overlap_comm.mp ho)
    · exact absurd rfl hne

/-- **Every statement keeps the bookings apart**, whatever its arguments. -/
theorem noDoubleBooking_exec (op : Stmt) (h : NoDoubleBooking db) :
    NoDoubleBooking (exec op db).2 := by
  cases op with
  | addGuest guestId name email =>
    refine noDoubleBooking_of_eq h (write_keeps Db.assignments fun db' hdb => ?_)
    obtain ⟨guests, rfl⟩ := Db.addGuest_ok hdb
    rfl
  | addRoom roomId propertyId number roomType =>
    refine noDoubleBooking_of_eq h (write_keeps Db.assignments fun db' hdb => ?_)
    obtain ⟨rooms, rfl, -⟩ := Db.addRoom_ok hdb
    rfl
  | addStay stayId guestId propertyId roomType checkIn checkOut =>
    refine noDoubleBooking_of_eq h (write_keeps Db.assignments fun db' hdb => ?_)
    obtain ⟨-, stays, rfl, -⟩ := Db.addStay_ok hdb
    rfl
  | addKey row =>
    refine noDoubleBooking_of_eq h (write_keeps Db.assignments fun db' hdb => ?_)
    obtain ⟨-, -, keys, rfl⟩ := Db.addKey_ok hdb
    rfl
  | revokeKey keyId revokedAt reason =>
    obtain ⟨r, hr⟩ := Db.revokeKey_eq db keyId revokedAt reason
    have he : (db.revokeKey keyId revokedAt reason).assignments = db.assignments := by rw [hr]
    exact noDoubleBooking_of_eq h he
  | retireAssignments stayId => exact noDoubleBooking_retire h stayId
  | assignTransaction stayId stay preferred =>
    obtain ⟨e, he, -⟩ | ⟨chosen, he, -, hfree, -⟩ :=
      Db.assignTransaction_booking stayId stay preferred db
    · rw [he]; exact h
    · rw [he]; exact noDoubleBooking_occupied h hfree
  | changeTransaction stayId stay newRoomId =>
    obtain ⟨e, he, -⟩ | ⟨chosen, he, -, hfree, -⟩ :=
      Db.changeTransaction_booking stayId stay newRoomId db
    · rw [he]; exact h
    · rw [he]; exact noDoubleBooking_occupied (noDoubleBooking_retire h stayId) hfree
  | guestExists | getRoom | getStay | activeKeys | revocationList => exact h
  | setStayStatus | retireKeys => exact noDoubleBooking_of_eq h rfl

/-! ## Any number of clients -/

/-- What the clients of the booking layer call, results dropped. -/
inductive BookingCall : Call Unit → Prop
  | addGuest (guestId name email : String) : BookingCall (Stmt.addGuest guestId name email).call
  | addRoom (roomId : Int) (propertyId number roomType : String) :
      BookingCall (Stmt.addRoom roomId propertyId number roomType).call
  | addStay (stayId guestId propertyId roomType : String) (checkIn checkOut : Int) :
      BookingCall (Stmt.addStay stayId guestId propertyId roomType checkIn checkOut).call
  | assignRoom (stayId : String) (preferredRoomId : Option Int) :
      BookingCall (do let _ ← assignRoom stayId preferredRoomId; return ())
  | moveRoom (stayId : String) (newRoomId : Option Int) :
      BookingCall (do let _ ← moveRoom stayId newRoomId; return ())
  | checkout (stayId : String) (now : Int) :
      BookingCall (do let _ ← checkout stayId now; return ())

theorem noDoubleBooking_pool {ι : Type} [DecidableEq ι] {s : Pool ι Stmt Stmt.Res Exc Db}
    (h : Pool.Reachable exec BookingCall Db.empty s) : NoDoubleBooking s.shared :=
  Pool.invariant noDoubleBooking_empty (fun p _ => Prog.only_true p)
    (fun op _ _ h => noDoubleBooking_exec op h) h

/-- **No double-booking.** In every state any number of clients can reach,
every room has at most one active assignment at every instant, and no two
active assignments of one room overlap. -/
theorem no_double_booking {ι : Type} [DecidableEq ι] {s : Pool ι Stmt Stmt.Res Exc Db}
    (h : Pool.Reachable exec BookingCall Db.empty s) :
    (∀ roomId t, {a | a ∈ s.shared.assignments ∧ a.active = true ∧ a.roomId = roomId ∧
      a.checkIn ≤ t ∧ t < a.checkOut}.Subsingleton) ∧
    ∀ a ∈ s.shared.assignments, ∀ b ∈ s.shared.assignments, a ≠ b → a.active = true →
      b.active = true → a.roomId = b.roomId → ¬ Overlap a.checkIn a.checkOut b.checkIn b.checkOut := by
  have hinv := noDoubleBooking_pool h
  refine ⟨?_, hinv⟩
  rintro roomId t a ⟨ha, haa, har, hat⟩ b ⟨hb, hba, hbr, hbt⟩
  by_contra hne
  exact hinv a ha b hb hne haa hba (har.trans hbr.symm) (overlap_of_mem_Ico hat hbt)

/-- Two stays with one window and one room: both are stored, one is booked. -/
theorem no_double_booking_race :
    ∃ s : Pool (Fin 2) Stmt Stmt.Res Exc Db, Pool.Reachable exec BookingCall Db.empty s ∧
      s.shared.assignments.rows.length = 1 ∧ s.shared.stays.rows.length = 2 ∧
      ∀ roomId t, {a | a ∈ s.shared.assignments ∧ a.active = true ∧ a.roomId = roomId ∧
        a.checkIn ≤ t ∧ t < a.checkOut}.Subsingleton := by
  have h0 : Pool.Reachable exec BookingCall Db.empty
      (⟨fun _ => .ret (), .empty⟩ : Pool (Fin 2) Stmt Stmt.Res Exc Db) := .init
  have i0 : Pool.Ended ((⟨fun _ => .ret (), .empty⟩ : Pool (Fin 2) Stmt Stmt.Res Exc Db).client 0) :=
    nofun
  obtain ⟨s1, h1, e1, i1⟩ := Pool.reachable_run h0 i0 (BookingCall.addGuest "g" "n" "e")
  obtain ⟨s2, h2, e2, i2⟩ := Pool.reachable_run h1 i1 (BookingCall.addRoom 101 "P" "101" "king")
  obtain ⟨s3, h3, e3, i3⟩ := Pool.reachable_run h2 i2 (BookingCall.addStay "s1" "g" "P" "king" 1000 2000)
  obtain ⟨s4, h4, e4, i4⟩ := Pool.reachable_run h3 i3 (BookingCall.addStay "s2" "g" "P" "king" 1000 2000)
  obtain ⟨s5, h5, e5, i5⟩ := Pool.reachable_run h4 i4 (BookingCall.assignRoom "s1" none)
  obtain ⟨s6, h6, e6, -⟩ := Pool.reachable_run h5 i5 (BookingCall.assignRoom "s2" none)
  rw [e5, e4, e3, e2, e1] at e6
  exact ⟨s6, h6, by rw [e6]; decide, by rw [e6]; decide, (no_double_booking h6).1⟩

end StayKey.Store
