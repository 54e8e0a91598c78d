/-
StayKey.Store.Extends — what no statement ever takes back.

Rows are never deleted, and most columns are never updated: a stay keeps
its guest, property, room type and window, and once it has a room it is
never without one; a key keeps everything but its `active` flag, which
can only go down; a revocation stays; a room stays as it is.
`Extends db db'` collects this. Every statement extends the database
(`extends_exec`), hence so does every program (`extends_run`), in whatever
order programs interleave.
-/
import StayKey.Store.DbTheorems

namespace StayKey.Store

open StayKey.Codec StayKey.Door StayKey.Program

/-- The columns of a stay that are never updated. -/
structure SameBooking (s s' : StayRow) : Prop where
  guestId : s'.guestId = s.guestId
  propertyId : s'.propertyId = s.propertyId
  roomType : s'.roomType = s.roomType
  checkIn : s'.checkIn = s.checkIn
  checkOut : s'.checkOut = s.checkOut
  room : s.roomId ≠ none → s'.roomId ≠ none

theorem SameBooking.refl (s : StayRow) : SameBooking s s := ⟨rfl, rfl, rfl, rfl, rfl, id⟩

theorem SameBooking.trans {s s' s'' : StayRow} (h : SameBooking s s') (h' : SameBooking s' s'') :
    SameBooking s s'' where
  guestId := h'.guestId.trans h.guestId
  propertyId := h'.propertyId.trans h.propertyId
  roomType := h'.roomType.trans h.roomType
  checkIn := h'.checkIn.trans h.checkIn
  checkOut := h'.checkOut.trans h.checkOut
  room := h'.room ∘ h.room

/-- The key is still there, active or not. -/
def KeyKept (k : KeyRow) (db : Db) : Prop := k ∈ db.keys ∨ { k with active := false } ∈ db.keys

/-- `db'` may come after `db`. -/
structure Extends (db db' : Db) : Prop where
  stays : ∀ id s, db.getStay id = some s → ∃ s', db'.getStay id = some s' ∧ SameBooking s s'
  keys : ∀ k ∈ db.keys, KeyKept k db'
  revocations : ∀ id ∈ db.revocationList, id ∈ db'.revocationList
  rooms : ∀ r ∈ db.rooms, r ∈ db'.rooms

theorem Extends.refl (db : Db) : Extends db db where
  stays _ s h := ⟨s, h, .refl s⟩
  keys _ h := .inl h
  revocations _ h := h
  rooms _ h := h

theorem Extends.trans {db₁ db₂ db₃ : Db} (h : Extends db₁ db₂) (h' : Extends db₂ db₃) :
    Extends db₁ db₃ where
  stays id s hs := by
    obtain ⟨s', hs', hb⟩ := h.stays id s hs
    obtain ⟨s'', hs'', hb'⟩ := h'.stays id s' hs'
    exact ⟨s'', hs'', hb.trans hb'⟩
  keys k hk := by
    rcases h.keys k hk with hk | hk
    · exact h'.keys k hk
    · rcases h'.keys _ hk with hk | hk <;> exact .inr hk
  revocations id hid := h'.revocations id (h.revocations id hid)
  rooms r hr := h'.rooms r (h.rooms r hr)

/-! ## Statement by statement -/

variable {db db' : Db} {stayId : String}

/-- A statement that writes neither stays, keys, revocations nor rooms. -/
theorem Extends.of_eq (hs : db'.stays = db.stays) (hk : db'.keys = db.keys)
    (hr : db'.revocations = db.revocations) (hrm : db'.rooms = db.rooms) : Extends db db' where
  stays id s h := ⟨s, by rw [Db.getStay, hs]; exact h, .refl s⟩
  keys k h := .inl (hk ▸ h)
  revocations id h := by rw [Db.revocationList, hr]; exact h
  rooms r h := hrm ▸ h

/-- A row is inserted under a new id. -/
theorem extends_addStay {id guestId propertyId roomType : String} {checkIn checkOut : Int}
    (h : db.addStay id guestId propertyId roomType checkIn checkOut = .ok db') : Extends db db' := by
  obtain ⟨-, stays, rfl, hmem⟩ := Db.addStay_ok h
  refine ⟨fun id' s hs => ⟨s, ?_, .refl s⟩, fun _ hk => .inl hk, fun _ h => h, fun _ h => h⟩
  obtain ⟨hs, hid⟩ := Db.getStay_eq_some_iff.mp hs
  exact Db.getStay_eq_some_iff.mpr ⟨(hmem s).mpr (.inl hs), hid⟩

theorem extends_addRoom {roomId : Int} {propertyId number roomType : String}
    (h : db.addRoom roomId propertyId number roomType = .ok db') : Extends db db' := by
  obtain ⟨rooms, rfl, hmem⟩ := Db.addRoom_ok h
  exact ⟨fun _ s hs => ⟨s, hs, .refl s⟩, fun _ hk => .inl hk, fun _ h => h,
    fun r hr => (hmem r).mpr (.inl hr)⟩

theorem extends_addKey {row : KeyRow} (h : db.addKey row = .ok db') : Extends db db' := by
  have hkeys : ∀ k ∈ db.keys, k ∈ db'.keys := fun k hk => (Db.mem_addKey h).mpr (.inl hk)
  obtain ⟨-, -, keys, rfl⟩ := Db.addKey_ok h
  exact ⟨fun _ s hs => ⟨s, hs, .refl s⟩, fun k hk => .inl (hkeys k hk), fun _ h => h, fun _ h => h⟩

/-- A key is deactivated in place. -/
theorem extends_retireKeys (db : Db) (stayId : String) : Extends db (db.retireKeys stayId) where
  stays _ s h := ⟨s, h, .refl s⟩
  keys k hk := by
    by_cases hs : k.stayId = stayId
    · exact .inr (Db.mem_retireKeys.mpr ⟨k, hk, by rw [if_pos hs]⟩)
    · exact .inl (Db.mem_retireKeys.mpr ⟨k, hk, by rw [if_neg hs]⟩)
  revocations _ h := h
  rooms _ h := h

/-- `INSERT OR IGNORE` leaves the ids of the list. -/
theorem extends_revokeKey (db : Db) (keyId : String) (revokedAt : Int) (reason : String) :
    Extends db (db.revokeKey keyId revokedAt reason) := by
  have hrev : ∀ id ∈ db.revocationList, id ∈ (db.revokeKey keyId revokedAt reason).revocationList :=
    fun id h => Db.mem_revocationList_revokeKey.mpr (.inl h)
  obtain ⟨r, hr⟩ := Db.revokeKey_eq db keyId revokedAt reason
  rw [hr] at hrev ⊢
  exact ⟨fun _ s h => ⟨s, h, .refl s⟩, fun _ h => .inl h, hrev, fun _ h => h⟩

theorem extends_revokeAll (db : Db) (now : Int) (reason : String) (keyIds : List String) :
    Extends db (db.revokeAll now reason keyIds) := by
  induction keyIds generalizing db with
  | nil => exact .refl db
  | cons k keyIds ih =>
    rw [Db.revokeAll_cons]
    exact (extends_revokeKey db k now reason).trans (ih _)

/-- The status is no part of a booking. -/
theorem extends_setStayStatus (db : Db) (stayId : String) (status : StayStatus) :
    Extends db (db.setStayStatus stayId status) where
  stays id s h := by
    refine ⟨if id = stayId then { s with status } else s, ?_, ?_⟩
    · rw [Db.getStay_setStayStatus, h, Option.map_some]
    · split
      · exact ⟨rfl, rfl, rfl, rfl, rfl, fun h => h⟩
      · exact .refl s
  keys _ h := .inl h
  revocations _ h := h
  rooms _ h := h

theorem extends_retireAssignments (db : Db) (stayId : String) :
    Extends db (db.retireAssignments stayId) :=
  .of_eq rfl rfl rfl rfl

/-- A stay gets a room, and no stay loses one. -/
theorem extends_occupied (db : Db) (stayId : String) (stay : StayRow) (chosen : Int) :
    Extends db (db.occupied stayId stay chosen) where
  stays id s h := by
    refine ⟨if id = stayId then { s with roomId := some chosen } else s, ?_, ?_⟩
    · rw [Db.getStay_occupied, h, Option.map_some]
    · split
      · exact ⟨rfl, rfl, rfl, rfl, rfl, fun _ => nofun⟩
      · exact .refl s
  keys _ h := .inl h
  revocations _ h := h
  rooms _ h := h

/-- **Every statement extends the database.** -/
theorem extends_exec (op : Stmt) (db : Db) : Extends db (exec op db).2 := by
  cases op with
  | addGuest guestId name email =>
    refine write_preserves (.refl db) fun db' h => ?_
    obtain ⟨guests, rfl⟩ := Db.addGuest_ok h
    exact .of_eq rfl rfl rfl rfl
  | addRoom => exact write_preserves (.refl db) fun _ h => extends_addRoom h
  | addStay => exact write_preserves (.refl db) fun _ h => extends_addStay h
  | addKey => exact write_preserves (.refl db) fun _ h => extends_addKey h
  | setStayStatus stayId status => exact extends_setStayStatus db stayId status
  | retireKeys stayId => exact extends_retireKeys db stayId
  | revokeKey keyId revokedAt reason => exact extends_revokeKey db keyId revokedAt reason
  | retireAssignments stayId => exact extends_retireAssignments db stayId
  | assignTransaction stayId stay preferred =>
    obtain ⟨e, he, -⟩ | ⟨chosen, he, -⟩ := Db.assignTransaction_booking stayId stay preferred db
    · rw [he]; exact .refl db
    · rw [he]; exact extends_occupied db stayId stay chosen
  | changeTransaction stayId stay newRoomId =>
    obtain ⟨e, he, -⟩ | ⟨chosen, he, -⟩ := Db.changeTransaction_booking stayId stay newRoomId db
    · rw [he]; exact .refl db
    · rw [he]
      exact (extends_retireAssignments db stayId).trans (extends_occupied _ stayId stay chosen)
  | guestExists | getRoom | getStay | activeKeys | revocationList => exact .refl db

/-- **Every program extends the database.** -/
theorem extends_run {α : Type} (p : Call α) (db : Db) : Extends db (p.run db).2 :=
  Prog.run_preserves exec (fun op db' _ h => h.trans (extends_exec op db')) (Prog.only_true p) (.refl db)

end StayKey.Store
